import Mathlib.Logic.Equiv.Fin.Basic
import SqlWorkflow.Proofs.Graph.Disabled
import SqlWorkflow.Proofs.Graph.Isolated

namespace SqlWorkflow

def Action.description : Action → Option String
  | .table t => t.common.description
  | .assertion a => a.common.description
  | .operation o => o.common.description
  | .declaration d => d.description

-- An action of this kind with the same statements. Specifications have become assertions by now.
def DraftKind.KeptBy : DraftKind → Action → Prop
  | .table tableType query incrementalQuery uniqueKey preOps postOps _, .table t =>
      t.tableType = tableType ∧ t.enumType = tableType ∧ t.query = query ∧
        t.incrementalQuery = incrementalQuery ∧ t.uniqueKey = uniqueKey ∧ t.preOps = preOps ∧
        t.postOps = postOps
  | .assertion query parent, .assertion a => a.query = query ∧ a.parentAction = parent
  | .operation queries hasOutput, .operation o => o.queries = queries ∧ o.hasOutput = hasOutput
  | .declaration, .declaration _ => True
  | _, _ => False

structure Draft.CarriedBy (settings : Settings) (draft : Draft) (action : Action) : Prop where
  kind : action.kind = draft.actionKind
  file : action.fileName = draft.fileName
  canonical : action.canonicalTarget = settings.canonicalTarget draft.actionKind draft.identity
  target : action.target = settings.runtimeTarget draft.actionKind action.canonicalTarget
  statements : draft.kind.KeptBy action
  description : action.description = draft.description
  tags : action.tags = if draft.actionKind = .declaration then [] else draft.tags
  hermeticity : draft.actionKind ≠ .declaration → action.hermeticity = draft.hermeticity
  ascending : Ascending action.dependencyTargets
  dependencies : ∀ target, target ∈ action.dependencyTargets ↔
    draft.actionKind ≠ .declaration ∧ target ∈ draft.dependencies

namespace Graph

theorem to_action_carries (settings : Settings) (draft : Draft) :
    draft.CarriedBy settings (draft.toAction settings) := by
  have ascending : Ascending draft.dependencyTargets := (SortedSet.ofList _).ascending
  have members (runs : draft.actionKind ≠ .declaration) (target : Target) :
      target ∈ draft.dependencyTargets ↔
        draft.actionKind ≠ .declaration ∧ target ∈ draft.dependencies :=
    (SortedSet.mem_of_list _ target).trans (and_iff_right runs).symm
  rcases draft with ⟨file, identity, dependencies, tags, disabled, description, hermeticity, kind⟩
  cases kind with
  | table =>
      exact ⟨rfl, rfl, rfl, rfl, ⟨rfl, rfl, rfl, rfl, rfl, rfl, rfl⟩, rfl, rfl, fun _ => rfl,
        ascending, members nofun⟩
  | assertion =>
      exact ⟨rfl, rfl, rfl, rfl, ⟨rfl, rfl⟩, rfl, rfl, fun _ => rfl, ascending, members nofun⟩
  | operation =>
      exact ⟨rfl, rfl, rfl, rfl, ⟨rfl, rfl⟩, rfl, rfl, fun _ => rfl, ascending, members nofun⟩
  | declaration =>
      exact ⟨rfl, rfl, rfl, rfl, trivial, rfl, rfl, fun other => absurd rfl other,
        List.Pairwise.nil, fun target => iff_of_false List.not_mem_nil fun own => own.1 rfl⟩

theorem disable_assertion_carries (settings : Settings) (draft : Draft) (disabled : List Target)
    (action : Action) (carried : draft.CarriedBy settings action) :
    draft.CarriedBy settings (disableAssertion disabled action) := by
  cases action with
  | assertion a =>
      rw [disable_assertion_eq]
      have statements := carried.statements
      refine { carried with statements := ?_ }
      revert statements
      cases draft.kind <;> exact id
  | _ => exact carried

theorem settle_carries (settings : Settings) (drafts : List Draft) (draft : Draft) :
    draft.CarriedBy settings (settle settings drafts (draft.toAction settings)) :=
  disable_assertion_carries settings draft _ _ (to_action_carries settings draft)

theorem place_of_perm {α : Type} {a b : List α} (perm : a.Perm b) :
    ∃ place : Fin a.length ≃ Fin b.length, ∀ i, b.get (place i) = a.get i := by
  induction perm with
  | nil => exact ⟨Equiv.refl _, fun i => i.elim0⟩
  | @cons x a b _ ih =>
      obtain ⟨place, found⟩ := ih
      refine ⟨(finSuccEquiv a.length).trans
        (place.optionCongr.trans (finSuccEquiv b.length).symm), fun i => ?_⟩
      cases i using Fin.cases with
      | zero => simp
      | succ i => simpa using found i
  | swap x y rest =>
      refine ⟨Equiv.swap (0 : Fin (rest.length + 2)) 1, fun i => ?_⟩
      cases i using Fin.cases with
      | zero => simp
      | succ i =>
          cases i using Fin.cases with
          | zero => simp
          | succ i =>
              rw [Equiv.swap_apply_of_ne_of_ne (Fin.succ_ne_zero _) (Fin.succ_succ_ne_one i)]
              rfl
  | trans _ _ first second =>
      obtain ⟨early, foundEarly⟩ := first
      obtain ⟨late, foundLate⟩ := second
      exact ⟨early.trans late, fun i => (foundLate _).trans (foundEarly i)⟩

theorem built_perm (settings : Settings) (drafts : List Draft)
    (fileErrors fileWarnings : List FileMessage) :
    (drafts.map fun draft => settle settings drafts (draft.toAction settings)).Perm
      (build settings drafts fileErrors fileWarnings).actions := by
  have ordered := (ordered_actions_perm settings drafts).map (settle settings drafts)
  rw [List.map_map] at ordered
  exact ordered.symm.trans (build_actions_perm settings drafts fileErrors fileWarnings).symm

theorem drafts_placed (settings : Settings) (drafts : List Draft)
    (fileErrors fileWarnings : List FileMessage) :
    ∃ place : Fin drafts.length ≃
        Fin (build settings drafts fileErrors fileWarnings).actions.length,
      ∀ i, (drafts.get i).CarriedBy settings
        ((build settings drafts fileErrors fileWarnings).actions.get (place i)) := by
  obtain ⟨place, found⟩ := place_of_perm (built_perm settings drafts fileErrors fileWarnings)
  refine ⟨(finCongr (List.length_map _).symm).trans place, fun i => ?_⟩
  rw [Equiv.trans_apply, found]
  simpa using settle_carries settings drafts (drafts.get i)

def InOrder (actions : List Action) : Prop :=
  actions.Pairwise fun a b => (actionOrder a b).isLE = true

theorem propagated_in_order (disabled : List Target) (actions : List Action)
    (sorted : InOrder actions) : InOrder (actions.map (disableAssertion disabled)) := by
  refine List.pairwise_map.mpr (sorted.imp fun {a b} before => ?_)
  simpa only [actionOrder, compareLex, compareOn, disable_assertion_canonical,
    disable_assertion_file] using before

theorem kinds_in_order (settings : Settings) (drafts : List Draft)
    (fileErrors fileWarnings : List FileMessage) :
    let graph := build settings drafts fileErrors fileWarnings
    InOrder (graph.tables.map .table) ∧ InOrder (graph.assertions.map .assertion) ∧
      InOrder (graph.operations.map .operation) ∧
      InOrder (graph.declarations.map .declaration) := by
  let final := propagateDisabled (orderedActions settings drafts)
  have sorted : InOrder final := propagated_in_order _ _ (ordered_actions_sorted settings drafts)
  have listed {α : Type} (kind : ActionKind) (select : Action → Option α) (wrap : α → Action)
      (agree : ∀ action, (select action).map wrap =
        if action.kind = kind then some action else none) :
      InOrder ((final.filterMap select).map wrap) := by
    rw [filter_map_kind kind select wrap agree]
    exact sorted.filter _
  exact ⟨listed .table _ _ fun action => by cases action <;> rfl,
    listed .assertion _ _ fun action => by cases action <;> rfl,
    listed .operation _ _ fun action => by cases action <;> rfl,
    listed .declaration _ _ fun action => by cases action <;> rfl⟩

def placeOf (settings : Settings) (draft : Draft) : Target × String :=
  (settings.canonicalTarget draft.actionKind draft.identity, draft.fileName)

theorem apart_of_places (settings : Settings) (drafts : List Draft)
    (distinct : (drafts.map (placeOf settings)).Nodup) :
    Apart (drafts.map (Draft.toAction settings)) := by
  intro a memberA b memberB target file
  obtain ⟨first, knownFirst, rfl⟩ := List.mem_map.mp memberA
  obtain ⟨second, knownSecond, rfl⟩ := List.mem_map.mp memberB
  rw [to_action_canonical, to_action_canonical] at target
  rw [to_action_file, to_action_file] at file
  rw [List.inj_on_of_nodup_map distinct knownFirst knownSecond (Prod.ext target file)]

theorem build_faithful (settings : Settings) (drafts : List Draft)
    (fileErrors fileWarnings : List FileMessage) :
    let graph := build settings drafts fileErrors fileWarnings
    (∃ place : Fin drafts.length ≃ Fin graph.actions.length,
      ∀ i, (drafts.get i).CarriedBy settings (graph.actions.get (place i))) ∧
    (InOrder (graph.tables.map .table) ∧ InOrder (graph.assertions.map .assertion) ∧
      InOrder (graph.operations.map .operation) ∧
      InOrder (graph.declarations.map .declaration)) ∧
    ((drafts.map (placeOf settings)).Nodup →
      ∀ otherDrafts otherErrors otherWarnings,
        drafts.Perm otherDrafts → fileErrors.Perm otherErrors →
        (∀ path, fileWarnings.filter (·.path = path) = otherWarnings.filter (·.path = path)) →
        build settings otherDrafts otherErrors otherWarnings = graph) := by
  refine ⟨drafts_placed settings drafts fileErrors fileWarnings,
    kinds_in_order settings drafts fileErrors fileWarnings, ?_⟩
  intro distinct otherDrafts otherErrors otherWarnings drafted errors warnings
  exact (build_perm settings drafts otherDrafts fileErrors otherErrors fileWarnings otherWarnings
    drafted (apart_of_places settings drafts distinct) (fun _ => errors.mem_iff) warnings).symm

end Graph

end SqlWorkflow
