import SqlWorkflow.Proofs.Graph.Messages
import SqlWorkflow.Proofs.Graph.Rearranged

namespace SqlWorkflow

-- Propagation decides about this flag, so it depends on the whole graph.
def Action.forgetDisabled : Action → Action
  | .assertion a => .assertion { a with common := { a.common with disabled := false } }
  | action => action

namespace Graph

def elsewhere (file : String) (graph : Graph) : List Action :=
  (graph.actions.filter (·.fileName ≠ file)).map Action.forgetDisabled

def targetsIn (file : String) (graph : Graph) : List Target :=
  (graph.actions.filter (·.fileName = file)).map Action.canonicalTarget

def TellsTarget (target : Target) (text : String) : Prop :=
  (∃ files, text = (Error.duplicateTarget target files).message) ∨
    ∃ action, text = (Error.unresolvedDependency action target).message

structure Isolated (file : String) (before after : Graph) : Prop where
  actions : before.elsewhere file = after.elsewhere file
  warnings : ∀ path, path ≠ file → before.warnings.get? path = after.warnings.get? path
  errors : ∀ path, path ≠ file → ∀ text,
    (before.Reports path text ↔ after.Reports path text) ∨ TellsCycle text ∨
      ∃ target, (target ∈ before.targetsIn file ∨ target ∈ after.targetsIn file) ∧
        TellsTarget target text

theorem forget_disabled_kind (action : Action) : action.forgetDisabled.kind = action.kind := by
  cases action <;> rfl

theorem forget_disable_assertion (disabled : List Target) (action : Action) :
    (disableAssertion disabled action).forgetDisabled = action.forgetDisabled := by
  cases action with
  | assertion a => rw [disable_assertion_eq]; rfl
  | _ => rfl

theorem filter_map_kind {α : Type} (kind : ActionKind) (select : Action → Option α)
    (wrap : α → Action)
    (agree : ∀ action, (select action).map wrap = if action.kind = kind then some action else none)
    (actions : List Action) :
    (actions.filterMap select).map wrap = actions.filter (·.kind = kind) := by
  rw [List.map_filterMap, ← List.filterMap_eq_filter]
  refine congrArg (List.filterMap · actions) (funext fun action => ?_)
  rw [agree, Option.guard]
  simp

section Build

variable (settings : Settings) (drafts : List Draft) (errors warnings : List FileMessage)

theorem build_actions_eq : (build settings drafts errors warnings).actions =
    [ActionKind.table, .assertion, .operation, .declaration].flatMap fun kind =>
      (propagateDisabled (orderedActions settings drafts)).filter (·.kind = kind) := by
  unfold build actions
  dsimp only
  rw [filter_map_kind .table _ _ (fun action => by cases action <;> rfl),
    filter_map_kind .assertion _ _ (fun action => by cases action <;> rfl),
    filter_map_kind .operation _ _ (fun action => by cases action <;> rfl),
    filter_map_kind .declaration _ _ (fun action => by cases action <;> rfl)]
  simp only [List.flatMap_cons, List.flatMap_nil, List.append_nil, List.append_assoc]

theorem build_elsewhere (file : String) :
    (build settings drafts errors warnings).elsewhere file =
      [ActionKind.table, .assertion, .operation, .declaration].flatMap fun kind =>
        (((orderedActions settings drafts).filter (·.fileName ≠ file)).map
          Action.forgetDisabled).filter (·.kind = kind) := by
  rw [elsewhere, build_actions_eq, List.filter_flatMap, List.map_flatMap]
  simp only [propagateDisabled, List.filter_map, List.filter_filter, List.map_map,
    Function.comp_def, disable_assertion_file, disable_assertion_kind, forget_disable_assertion,
    forget_disabled_kind, Bool.and_comm]

def Owned (file : String) (actions : List Action) (target : Target) : Prop :=
  ∃ action ∈ actions, action.fileName = file ∧ action.canonicalTarget = target

theorem mem_targets_in (file : String) (target : Target) :
    target ∈ (build settings drafts errors warnings).targetsIn file ↔
      Owned file (orderedActions settings drafts) target := by
  simp only [targetsIn, List.mem_map, List.mem_filter, mem_build_actions, decide_eq_true_eq]
  constructor
  · rintro ⟨_, ⟨⟨own, known, rfl⟩, here⟩, rfl⟩
    exact ⟨own, known, by simpa using here, by simp⟩
  · rintro ⟨own, known, here, rfl⟩
    exact ⟨_, ⟨⟨own, known, rfl⟩, by simpa using here⟩, by simp⟩

end Build

section Checks

variable {file : String} {actions others : List Action}
  (same : actions.filter (·.fileName ≠ file) = others.filter (·.fileName ≠ file))

include same

theorem mem_elsewhere (action : Action) (known : action ∈ actions)
    (other : action.fileName ≠ file) : action ∈ others := by
  have inside : action ∈ actions.filter (·.fileName ≠ file) :=
    List.mem_filter.mpr ⟨known, decide_eq_true other⟩
  rw [same] at inside
  exact List.mem_of_mem_filter inside

theorem actions_at_elsewhere (target : Target) (here : ¬ Owned file actions target)
    (there : ¬ Owned file others target) :
    actionsAt actions target = actionsAt others target := by
  have apart (all : List Action) (free : ¬ Owned file all target) :
      actionsAt all target = actionsAt (all.filter (·.fileName ≠ file)) target := by
    simp only [actionsAt, List.filter_filter]
    refine List.filter_congr fun action member => ?_
    have other : action.canonicalTarget = target → action.fileName ≠ file :=
      fun owns inFile => free ⟨action, member, inFile, owns⟩
    by_cases owns : action.canonicalTarget = target
    · simp [owns, other owns]
    · simp [owns]
  rw [apart actions here, apart others there, same]

theorem duplicate_errors_elsewhere (path text : String) (other : path ≠ file)
    (told : (⟨path, text⟩ : FileMessage) ∈ duplicateErrors actions) :
    (⟨path, text⟩ : FileMessage) ∈ duplicateErrors others ∨
      ∃ target, (Owned file actions target ∨ Owned file others target) ∧
        TellsTarget target text := by
  obtain ⟨action, known, rfl, several, rfl⟩ := (mem_duplicate_errors _ _ _).mp told
  by_cases owned : Owned file actions action.canonicalTarget ∨
      Owned file others action.canonicalTarget
  · exact Or.inr ⟨_, owned, Or.inl ⟨_, rfl⟩⟩
  · obtain ⟨here, there⟩ := not_or.mp owned
    rw [actions_at_elsewhere same _ here there] at several ⊢
    exact Or.inl ((mem_duplicate_errors _ _ _).mpr
      ⟨action, mem_elsewhere same action known other, rfl, several, rfl⟩)

theorem unresolved_errors_elsewhere (path text : String) (other : path ≠ file)
    (told : (⟨path, text⟩ : FileMessage) ∈ unresolvedErrors actions) :
    (⟨path, text⟩ : FileMessage) ∈ unresolvedErrors others ∨
      ∃ target, (Owned file actions target ∨ Owned file others target) ∧
        TellsTarget target text := by
  obtain ⟨action, known, rfl, dependency, depends, absent, rfl⟩ :=
    (mem_unresolved_errors _ _ _).mp told
  by_cases found : dependency ∈ others.map Action.canonicalTarget
  · obtain ⟨owner, there, rfl⟩ := List.mem_map.mp found
    -- an owner in another file would be among the first actions too
    have inFile : owner.fileName = file := by
      by_contra elsewhere
      exact absent (List.mem_map_of_mem (mem_elsewhere same.symm owner there elsewhere))
    exact Or.inr ⟨_, Or.inr ⟨owner, there, inFile, rfl⟩, Or.inr ⟨_, rfl⟩⟩
  · exact Or.inl ((mem_unresolved_errors _ _ _).mpr
      ⟨action, mem_elsewhere same action known other, rfl, dependency, depends, found, rfl⟩)

theorem check_errors_elsewhere (path text : String) (other : path ≠ file)
    (told : (⟨path, text⟩ : FileMessage) ∈ checkErrors actions) :
    (⟨path, text⟩ : FileMessage) ∈ checkErrors others ∨ TellsCycle text ∨
      ∃ target, (Owned file actions target ∨ Owned file others target) ∧
        TellsTarget target text := by
  rcases List.mem_append.mp told with early | cycle
  · rcases List.mem_append.mp early with duplicate | unresolved
    · rcases duplicate_errors_elsewhere same path text other duplicate with kept | blamed
      · exact Or.inl (List.mem_append_left _ (List.mem_append_left _ kept))
      · exact Or.inr (Or.inr blamed)
    · rcases unresolved_errors_elsewhere same path text other unresolved with kept | blamed
      · exact Or.inl (List.mem_append_left _ (List.mem_append_right _ kept))
      · exact Or.inr (Or.inr blamed)
  · obtain ⟨_, _, rfl, _⟩ := (mem_cycle_errors _ _ _).mp cycle
    exact Or.inr (Or.inl (circular_tells_cycle _))

end Checks

theorem ordered_actions_elsewhere (file : String) (settings : Settings)
    (drafts others : List Draft) (apart : Apart (drafts.map (Draft.toAction settings)))
    (same : drafts.filter (·.fileName ≠ file) = others.filter (·.fileName ≠ file)) :
    (orderedActions settings drafts).filter (·.fileName ≠ file) =
      (orderedActions settings others).filter (·.fileName ≠ file) := by
  have perm (all : List Draft) : ((orderedActions settings all).filter (·.fileName ≠ file)).Perm
      ((all.filter (·.fileName ≠ file)).map (Draft.toAction settings)) := by
    have moved := (ordered_actions_perm settings all).filter (·.fileName ≠ file)
    rw [List.filter_map] at moved
    simpa only [Function.comp_def, to_action_file] using moved
  refine sorted_ext _ _ ((perm drafts).trans (same ▸ (perm others).symm)) ?_
    ((ordered_actions_sorted settings drafts).filter _)
    ((ordered_actions_sorted settings others).filter _)
  have known (action : Action)
      (member : action ∈ (orderedActions settings drafts).filter (·.fileName ≠ file)) :
      action ∈ drafts.map (Draft.toAction settings) :=
    (ordered_actions_perm settings drafts).mem_iff.mp (List.mem_of_mem_filter member)
  exact fun a memberA b memberB => apart a (known a memberA) b (known b memberB)

theorem messages_elsewhere (file path : String) (other : path ≠ file) (a b : List FileMessage)
    (same : a.filter (·.path ≠ file) = b.filter (·.path ≠ file)) :
    a.filter (·.path = path) = b.filter (·.path = path) := by
  have apart (all : List FileMessage) :
      all.filter (·.path = path) = (all.filter (·.path ≠ file)).filter (·.path = path) := by
    rw [List.filter_filter]
    refine List.filter_congr fun message _ => ?_
    by_cases here : message.path = path
    · simp [here, other]
    · simp [here]
  rw [apart a, apart b, same]

theorem build_isolated (file : String) (settings : Settings) (drafts otherDrafts : List Draft)
    (errors otherErrors warnings otherWarnings : List FileMessage)
    (apart : Apart (drafts.map (Draft.toAction settings)))
    (same : drafts.filter (·.fileName ≠ file) = otherDrafts.filter (·.fileName ≠ file))
    (sameErrors : errors.filter (·.path ≠ file) = otherErrors.filter (·.path ≠ file))
    (sameWarnings : warnings.filter (·.path ≠ file) = otherWarnings.filter (·.path ≠ file)) :
    Isolated file (build settings drafts errors warnings)
      (build settings otherDrafts otherErrors otherWarnings) := by
  have ordered := ordered_actions_elsewhere file settings drafts otherDrafts apart same
  refine ⟨?_, fun path other => ?_, fun path other text => ?_⟩
  · rw [build_elsewhere, build_elsewhere, ordered]
  · have warned : (groupWarnings warnings).get? path = (groupWarnings otherWarnings).get? path := by
      rw [group_warnings_get, group_warnings_get,
        messages_elsewhere file path other warnings otherWarnings sameWarnings]
    exact warned
  · have known (message : FileMessage) (here : message.path = path) :
        message ∈ errors ↔ message ∈ otherErrors := by
      have filed := messages_elsewhere file path other errors otherErrors sameErrors
      have member (all : List FileMessage) :
          message ∈ all.filter (·.path = path) ↔ message ∈ all := by
        simp [here]
      rw [← member errors, filed, member otherErrors]
    simp only [build_reports, mem_targets_in, known ⟨path, text⟩ rfl]
    by_cases exempt : TellsCycle text ∨ ∃ target,
        (Owned file (orderedActions settings drafts) target ∨
          Owned file (orderedActions settings otherDrafts) target) ∧ TellsTarget target text
    · exact Or.inr exempt
    · refine Or.inl (or_congr_right ⟨fun told => ?_, fun told => ?_⟩)
      · exact (check_errors_elsewhere ordered path text other told).resolve_right exempt
      · refine (check_errors_elsewhere ordered.symm path text other told).resolve_right ?_
        simpa only [or_comm] using exempt

end Graph

end SqlWorkflow
