import Mathlib.Data.List.Perm.Basic
import SqlWorkflow.Graph

namespace SqlWorkflow.Graph

section Propagation

variable (disabled : List Target) (action : Action)

theorem disable_assertion_eq (a : Assertion) :
    disableAssertion disabled (.assertion a) = .assertion { a with common := { a.common with
      disabled := a.common.disabled || a.common.dependencyTargets.any (· ∈ disabled) } } := by
  by_cases depends : a.common.dependencyTargets.any (· ∈ disabled)
  · rw [disableAssertion, if_pos depends, depends, Bool.or_true]
  · rw [disableAssertion, if_neg depends, eq_false_of_ne_true depends, Bool.or_false]

@[simp]
theorem disable_assertion_kind : (disableAssertion disabled action).kind = action.kind := by
  cases action with
  | assertion a => rw [disable_assertion_eq]; rfl
  | _ => rfl

@[simp]
theorem disable_assertion_canonical :
    (disableAssertion disabled action).canonicalTarget = action.canonicalTarget := by
  cases action with
  | assertion a => rw [disable_assertion_eq]; rfl
  | _ => rfl

@[simp]
theorem disable_assertion_file : (disableAssertion disabled action).fileName = action.fileName := by
  cases action with
  | assertion a => rw [disable_assertion_eq]; rfl
  | _ => rfl

@[simp]
theorem disable_assertion_dependencies :
    (disableAssertion disabled action).dependencyTargets = action.dependencyTargets := by
  cases action with
  | assertion a => rw [disable_assertion_eq]; rfl
  | _ => rfl

theorem disable_assertion_disabled :
    (disableAssertion disabled action).disabled =
      (action.disabled ||
        decide (action.kind = .assertion) && action.dependencyTargets.any (· ∈ disabled)) := by
  cases action with
  | assertion a => rw [disable_assertion_eq]; rfl
  | _ => simp [disableAssertion, Action.kind]

theorem disable_assertion_other (other : action.kind ≠ .assertion) :
    disableAssertion disabled action = action := by
  cases action with
  | assertion a => exact absurd rfl other
  | _ => rfl

end Propagation

section Drafts

variable (settings : Settings) (draft : Draft)

@[simp]
theorem to_action_file : (draft.toAction settings).fileName = draft.fileName := by
  unfold Draft.toAction
  cases draft.kind <;> rfl

@[simp]
theorem to_action_canonical : (draft.toAction settings).canonicalTarget =
    settings.canonicalTarget draft.actionKind draft.identity := by
  unfold Draft.toAction
  cases draft.kind <;> rfl

theorem to_action_kind : (draft.toAction settings).kind = draft.actionKind := by
  unfold Draft.toAction Draft.actionKind
  cases draft.kind <;> rfl

end Drafts

theorem ordered_actions_perm (settings : Settings) (drafts : List Draft) :
    (orderedActions settings drafts).Perm (drafts.map (Draft.toAction settings)) :=
  List.mergeSort_perm _ _

-- Each action goes to the list of its kind, so the four lists together are a rearrangement.
theorem build_actions_perm (settings : Settings) (drafts : List Draft)
    (fileErrors fileWarnings : List FileMessage) :
    (build settings drafts fileErrors fileWarnings).actions.Perm
      (propagateDisabled (orderedActions settings drafts)) := by
  unfold build actions
  dsimp only
  generalize propagateDisabled (orderedActions settings drafts) = final
  induction final with
  | nil => exact List.Perm.refl []
  | cons action rest ih =>
      cases action with
      | table t => exact ih.cons _
      | assertion a =>
          simp only [List.filterMap_cons, List.map_cons, List.append_assoc, List.cons_append] at ih ⊢
          exact List.perm_middle.trans (ih.cons _)
      | operation o =>
          simp only [List.filterMap_cons, List.map_cons, List.append_assoc, List.cons_append] at ih ⊢
          rw [← List.append_assoc] at ih ⊢
          exact List.perm_middle.trans (ih.cons _)
      | declaration d =>
          simp only [List.filterMap_cons, List.map_cons] at ih ⊢
          exact List.perm_middle.trans (ih.cons _)

theorem mem_build_actions (settings : Settings) (drafts : List Draft)
    (fileErrors fileWarnings : List FileMessage) (action : Action) :
    action ∈ (build settings drafts fileErrors fileWarnings).actions ↔
      ∃ own ∈ orderedActions settings drafts,
        disableAssertion (((orderedActions settings drafts).filter Action.disabled).map
          Action.canonicalTarget) own = action := by
  rw [(build_actions_perm settings drafts fileErrors fileWarnings).mem_iff, propagateDisabled,
    List.mem_map]

theorem build_targets_perm (settings : Settings) (drafts : List Draft)
    (fileErrors fileWarnings : List FileMessage) :
    ((build settings drafts fileErrors fileWarnings).actions.map Action.canonicalTarget).Perm
      ((orderedActions settings drafts).map Action.canonicalTarget) := by
  have perm := (build_actions_perm settings drafts fileErrors fileWarnings).map Action.canonicalTarget
  rw [propagateDisabled, List.map_map] at perm
  simpa only [Function.comp_def, disable_assertion_canonical] using perm

end SqlWorkflow.Graph
