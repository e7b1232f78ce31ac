import SqlWorkflow.Proofs.Reference
import SqlWorkflow.Selection

namespace SqlWorkflow

open Reference

-- The name as it is quoted in messages, without the blanks around its parts.
def quotedName (name : String) : String :=
  Text.join "." (dottedParts name)

def Means (name : String) (action : Action) : Prop :=
  action.canonicalTarget.matchesParts (dottedParts name) = true

theorem runnable_iff (action : Action) : action.runnable = true ↔ action.kind ≠ .declaration := by
  simp [Action.runnable]

namespace Graph

inductive Refuses (graph : Graph) (name : String) : Error → Prop where
  | malformed (unread : ¬ Reads name) : Refuses graph name (.actionNotFound name)
  | unknown (reads : Reads name) (nothing : ∀ action ∈ graph.actions, ¬ Means name action) :
      Refuses graph name (.actionNotFound (quotedName name))
  | declared (reads : Reads name) (something : ∃ action ∈ graph.actions, Means name action)
      (only : ∀ action ∈ graph.actions, Means name action → action.kind = .declaration) :
      Refuses graph name (.declarationNotRunnable (quotedName name))

def Accepts (graph : Graph) (name : String) : Prop :=
  Reads name ∧ ∃ action ∈ graph.actions, action.kind ≠ .declaration ∧ Means name action

def matching (graph : Graph) (name : String) : List Action :=
  graph.actions.filter (·.canonicalTarget.matchesParts (dottedParts name))

theorem mem_matching (graph : Graph) (name : String) (action : Action) :
    action ∈ graph.matching name ↔ action ∈ graph.actions ∧ Means name action :=
  List.mem_filter

def runnableTargets (graph : Graph) (name : String) : List Target :=
  ((graph.matching name).filter Action.runnable).map Action.canonicalTarget

theorem mem_runnable_targets (graph : Graph) (name : String) (t : Target) :
    t ∈ graph.runnableTargets name ↔ ∃ action ∈ graph.actions,
      action.kind ≠ .declaration ∧ Means name action ∧ action.canonicalTarget = t := by
  simp only [runnableTargets, List.mem_map, List.mem_filter, mem_matching, runnable_iff]
  constructor
  · rintro ⟨action, ⟨⟨member, means⟩, runnable⟩, there⟩
    exact ⟨action, member, runnable, means, there⟩
  · rintro ⟨action, member, runnable, means, there⟩
    exact ⟨action, ⟨⟨member, means⟩, runnable⟩, there⟩

theorem named_cases (graph : Graph) (name : String) :
    (∃ error, graph.named name = .error error ∧ graph.Refuses name error) ∨
      graph.named name = .ok (graph.runnableTargets name) ∧ graph.Accepts name := by
  cases parsed : parse? name with
  | none =>
      refine Or.inl ⟨.actionNotFound name, ?_, .malformed ((parse_none_iff name).mp parsed)⟩
      rw [named, parsed]
  | some reference =>
      have parts : reference.parts = dottedParts name := of_parts_parts _ reference parsed
      have reads : Reads name := of_parts_reads _ reference parsed
      have quoted : reference.display = quotedName name := by rw [display, parts, quotedName]
      rw [named, parsed]
      dsimp only
      rw [parts, quoted, ← matching]
      split
      · rename_i nothing
        refine Or.inl ⟨_, rfl, .unknown reads fun action member means => ?_⟩
        have found := (graph.mem_matching name action).mpr ⟨member, means⟩
        rw [nothing] at found
        cases found
      · rename_i something
        split
        · rename_i declared
          refine Or.inl ⟨_, rfl, .declared reads ?_ fun action member means => ?_⟩
          · obtain ⟨action, found⟩ := List.exists_mem_of_ne_nil _ something
            exact ⟨action, (graph.mem_matching name action).mp found⟩
          · have found := (graph.mem_matching name action).mpr ⟨member, means⟩
            have idle := List.filter_eq_nil_iff.mp declared action found
            exact Decidable.byContradiction fun runs => idle ((runnable_iff action).mpr runs)
        · rename_i runnable
          refine Or.inr ⟨rfl, reads, ?_⟩
          obtain ⟨action, found⟩ := List.exists_mem_of_ne_nil _ runnable
          obtain ⟨found, runs⟩ := List.mem_filter.mp found
          obtain ⟨member, means⟩ := (graph.mem_matching name action).mp found
          exact ⟨action, member, (runnable_iff action).mp runs, means⟩

theorem refused_iff (graph : Graph) (name : String) :
    (∃ error, graph.Refuses name error) ↔ ¬ graph.Accepts name := by
  constructor
  · rintro ⟨error, refused⟩ ⟨reads, action, member, runnable, means⟩
    cases refused with
    | malformed unread => exact unread reads
    | unknown _ nothing => exact nothing action member means
    | declared _ _ only => exact runnable (only action member means)
  · intro useless
    rcases graph.named_cases name with ⟨error, _, refused⟩ | ⟨_, accepted⟩
    · exact ⟨error, refused⟩
    · exact absurd accepted useless

theorem named_all_cases (graph : Graph) (names : List String) :
    (∃ earlier name later error, names = earlier ++ name :: later ∧
        (∀ n ∈ earlier, graph.Accepts n) ∧ graph.Refuses name error ∧
        names.mapM graph.named = .error error) ∨
      (∀ name ∈ names, graph.Accepts name) ∧
        names.mapM graph.named = .ok (names.map graph.runnableTargets) := by
  induction names with
  | nil => exact Or.inr ⟨by simp, rfl⟩
  | cons first rest ih =>
      rw [List.mapM_cons]
      rcases graph.named_cases first with ⟨error, failed, refused⟩ | ⟨done, accepted⟩
      · refine Or.inl ⟨[], first, rest, error, rfl, by simp, refused, ?_⟩
        rw [failed]
        rfl
      · have all {names : List String} (known : ∀ name ∈ names, graph.Accepts name) :
            ∀ name ∈ first :: names, graph.Accepts name :=
          List.forall_mem_cons.mpr ⟨accepted, known⟩
        rw [done]
        rcases ih with ⟨earlier, name, later, error, split, known, refused, failed⟩ | ⟨known, found⟩
        · refine Or.inl ⟨first :: earlier, name, later, error, ?_, all known, refused, ?_⟩
          · rw [split, List.cons_append]
          · rw [failed]
            rfl
        · refine Or.inr ⟨all known, ?_⟩
          rw [found]
          rfl

end Graph

end SqlWorkflow
