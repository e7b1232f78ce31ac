import Mathlib.Data.List.Count
import SqlWorkflow.Proofs.Selection.Chosen

namespace SqlWorkflow.Graph

open Relation

structure WellFormed (graph : Graph) : Prop where
  distinct : (graph.actions.map Action.canonicalTarget).Nodup
  resolved : ∀ action ∈ graph.actions, action.kind ≠ .declaration →
    ∀ dependency ∈ action.dependencyTargets,
      ∃ other ∈ graph.actions, other.canonicalTarget = dependency
  acyclic : ∀ action ∈ graph.actions,
    ¬ TransGen graph.DependsOn action.canonicalTarget action.canonicalTarget

theorem mem_group_errors (messages : List FileMessage) (path : String) (texts : List String) :
    (path, texts) ∈ (groupErrors messages).toList ↔
      path ∈ messages.map FileMessage.path ∧ texts =
        (SortedSet.ofList ((messages.filter (·.path = path)).map FileMessage.message)).toList := by
  rw [groupErrors, SortedMap.mem_of_list_map _ (SortedSet.of_list_nodup _), SortedSet.mem_of_list]

-- A path without messages has no entry, so every entry counts.
theorem group_errors_free_iff (messages : List FileMessage) :
    ((groupErrors messages).toList.any fun entry => !entry.2.isEmpty) = false ↔ messages = [] := by
  constructor
  · intro free
    rw [List.eq_nil_iff_forall_not_mem]
    intro message member
    have entry := (mem_group_errors messages message.path _).mpr ⟨List.mem_map_of_mem member, rfl⟩
    have empty := List.any_eq_false.mp free _ entry
    have text : message.message ∈ (SortedSet.ofList
        ((messages.filter (·.path = message.path)).map FileMessage.message)).toList :=
      (SortedSet.mem_of_list _ _).mpr
        (List.mem_map_of_mem (List.mem_filter.mpr ⟨member, decide_eq_true rfl⟩))
    simp only [Bool.not_eq_true', Bool.not_eq_false, List.isEmpty_iff] at empty
    rw [empty] at text
    cases text
  · rintro rfl
    rfl

theorem actions_at_length (actions : List Action) (t : Target) :
    (actionsAt actions t).length = (actions.map Action.canonicalTarget).count t := by
  rw [List.count, List.countP_map, List.countP_eq_length_filter, actionsAt]
  congr 1

theorem duplicate_errors_nil_iff (actions : List Action) :
    duplicateErrors actions = [] ↔ (actions.map Action.canonicalTarget).Nodup := by
  rw [duplicateErrors, List.flatMap_eq_nil_iff, List.nodup_iff_count_le_one]
  constructor
  · intro clear t
    by_cases known : t ∈ actions.map Action.canonicalTarget
    · have alone := clear t ((SortedSet.mem_of_list _ _).mpr known)
      dsimp only at alone
      rw [List.length_map, actions_at_length] at alone
      split at alone
      · omega
      · rename_i several
        -- two actions at one target would both have a message
        have none := List.map_eq_nil_iff.mp (List.map_eq_nil_iff.mp alone)
        have counted := actions_at_length actions t
        rw [none, List.length_nil] at counted
        omega
    · rw [List.count_eq_zero_of_not_mem known]
      exact Nat.zero_le 1
  · intro once t _
    have alone := once t
    dsimp only
    rw [List.length_map, actions_at_length, if_pos (by omega)]

theorem unresolved_errors_nil_iff (actions : List Action) :
    unresolvedErrors actions = [] ↔ ∀ action ∈ actions, ∀ dependency ∈ action.dependencyTargets,
      dependency ∈ actions.map Action.canonicalTarget := by
  simp only [unresolvedErrors, targetsOf, List.flatMap_eq_nil_iff, List.map_eq_nil_iff,
    List.filter_eq_nil_iff, SortedSet.mem_of_list, decide_eq_true_eq, not_not]

theorem cycle_errors_nil_iff (actions : List Action) :
    cycleErrors actions = [] ↔ ∀ t ∈ actions.map Action.canonicalTarget,
      ¬ TransGen (DependsAmong actions) t t := by
  have closed := Dag.build_closed (mergedDependencies actions)
  have reported : cycleErrors actions = [] ↔ (Dag.build (mergedDependencies actions)).cycles = [] := by
    constructor
    · intro silent
      rw [List.eq_nil_iff_forall_not_mem]
      intro path member
      obtain ⟨start, cyclic, _, rfl⟩ := (Dag.mem_cycles _ closed path).mp member
      -- the first target on the path belongs to an action, whose file gets a message
      obtain ⟨action, known, there⟩ :=
        List.mem_map.mp ((merged_reaches actions start start).mp cyclic).2
      have involved := List.flatMap_eq_nil_iff.mp silent _ member
      rw [List.map_eq_nil_iff, List.map_eq_nil_iff, List.filter_eq_nil_iff] at involved
      refine involved action known (decide_eq_true ?_)
      rw [there]
      exact Dag.start_mem_cycle_path _ start
    · intro none
      rw [cycleErrors, none]
      rfl
  rw [reported, Dag.cycles_eq_nil_iff _ closed]
  constructor
  · intro acyclic t known cyclic
    exact acyclic t ((merged_reaches actions t t).mpr ⟨cyclic, known⟩)
  · intro acyclic t cyclic
    obtain ⟨cyclic, known⟩ := (merged_reaches actions t t).mp cyclic
    exact acyclic t known cyclic

theorem declaration_dependencies (action : Action) (declared : action.kind = .declaration) :
    action.dependencyTargets = [] := by
  cases action with
  | declaration d => rfl
  | _ => cases declared

theorem build_well_formed_iff (settings : Settings) (drafts : List Draft)
    (fileErrors fileWarnings : List FileMessage) :
    (build settings drafts fileErrors fileWarnings).WellFormed ↔
      duplicateErrors (orderedActions settings drafts) = [] ∧
        unresolvedErrors (orderedActions settings drafts) = [] ∧
        cycleErrors (orderedActions settings drafts) = [] := by
  have perm := build_targets_perm settings drafts fileErrors fileWarnings
  have target (action : Action)
      (member : action ∈ (build settings drafts fileErrors fileWarnings).actions) :
      action.canonicalTarget ∈ (orderedActions settings drafts).map Action.canonicalTarget :=
    perm.mem_iff.mp (List.mem_map_of_mem member)
  rw [duplicate_errors_nil_iff, unresolved_errors_nil_iff, cycle_errors_nil_iff]
  constructor
  · rintro ⟨distinct, resolved, acyclic⟩
    refine ⟨perm.nodup_iff.mp distinct, ?_, ?_⟩
    · intro action member dependency depends
      have final := (mem_build_actions settings drafts fileErrors fileWarnings _).mpr
        ⟨action, member, rfl⟩
      have runnable : action.kind ≠ .declaration := by
        intro declared
        rw [declaration_dependencies action declared] at depends
        cases depends
      obtain ⟨other, otherMember, rfl⟩ := resolved _ final (by simpa using runnable) dependency
        (by simpa using depends)
      exact target other otherMember
    · intro t known cyclic
      obtain ⟨action, member, rfl⟩ := List.mem_map.mp (perm.mem_iff.mpr known)
      rw [← build_depends_on settings drafts fileErrors fileWarnings] at cyclic
      exact acyclic action member cyclic
  · rintro ⟨distinct, resolved, acyclic⟩
    refine ⟨perm.nodup_iff.mpr distinct, ?_, ?_⟩
    · intro action member _ dependency depends
      obtain ⟨own, ownMember, rfl⟩ :=
        (mem_build_actions settings drafts fileErrors fileWarnings _).mp member
      rw [disable_assertion_dependencies] at depends
      exact List.mem_map.mp (perm.mem_iff.mpr (resolved own ownMember dependency depends))
    · intro action member cyclic
      rw [build_depends_on settings drafts fileErrors fileWarnings] at cyclic
      exact acyclic _ (target action member) cyclic

theorem error_free_iff (settings : Settings) (drafts : List Draft)
    (fileErrors fileWarnings : List FileMessage) :
    (build settings drafts fileErrors fileWarnings).hasErrors = false ↔
      fileErrors = [] ∧ (build settings drafts fileErrors fileWarnings).WellFormed := by
  rw [build_well_formed_iff, hasErrors]
  unfold build
  dsimp only
  rw [group_errors_free_iff]
  simp only [List.append_eq_nil_iff, and_assoc]

theorem well_formed_apart (graph : Graph) (wellFormed : graph.WellFormed) (run : RunOptions) :
    ¬ graph.Tangled run := by
  rintro ⟨a, b, chosen, _, _, there, back⟩
  obtain ⟨action, member, rfl⟩ := List.mem_map.mp (graph.chosen_target run a chosen)
  exact wellFormed.acyclic action member (there.trans back)

theorem well_formed_select (graph : Graph) (wellFormed : graph.WellFormed) (run : RunOptions) :
    (∃ earlier name later error, run.actions = earlier ++ name :: later ∧
        (∀ n ∈ earlier, graph.Accepts n) ∧ graph.Refuses name error ∧
        graph.select run = .error error) ∨
      (∀ name ∈ run.actions, graph.Accepts name) ∧
        ∃ order, graph.select run = .ok order ∧ order.Nodup ∧
          (∀ t, t ∈ order ↔ graph.Chosen run t) ∧
          order.Pairwise fun a b => ¬ TransGen graph.DependsOn a b := by
  rcases graph.base_cases run with
    ⟨earlier, name, later, error, split, before, refuses, failed⟩ | ⟨accepted, base, found, lists⟩
  · exact Or.inl ⟨earlier, name, later, error, split, before, refuses,
      graph.select_refused run error failed⟩
  · exact Or.inr ⟨accepted, graph.select_ok wellFormed.distinct run base lists found
      (graph.well_formed_apart wellFormed run)⟩

theorem well_formed_selected (graph : Graph) (wellFormed : graph.WellFormed) (run : RunOptions)
    (order : List Target) (selected : graph.select run = .ok order) :
    (∀ name ∈ run.actions, graph.Accepts name) ∧ order.Nodup ∧
      (∀ t, t ∈ order ↔ graph.Chosen run t) ∧
      order.Pairwise fun a b => ¬ TransGen graph.DependsOn a b := by
  rcases graph.well_formed_select wellFormed run with
    ⟨_, _, _, _, _, _, _, failed⟩ | ⟨accepted, other, found, lists⟩
  · cases failed.symm.trans selected
  · obtain rfl := Except.ok.inj (found.symm.trans selected)
    exact ⟨accepted, lists⟩

theorem select_ok_iff (graph : Graph) (wellFormed : graph.WellFormed) (run : RunOptions) :
    (∃ order, graph.select run = .ok order) ↔ ∀ name ∈ run.actions, graph.Accepts name := by
  constructor
  · rintro ⟨order, selected⟩
    exact (graph.well_formed_selected wellFormed run order selected).1
  · intro accepted
    rcases graph.well_formed_select wellFormed run with
      ⟨_, name, _, cause, split, _, refuses, _⟩ | ⟨_, order, selected, _⟩
    · have useless := (graph.refused_iff name).mp ⟨cause, refuses⟩
      exact absurd (accepted name (by simp [split])) useless
    · exact ⟨order, selected⟩

theorem build_error_free_iff (settings : Settings) (drafts : List Draft)
    (fileErrors fileWarnings : List FileMessage) :
    ((build settings drafts fileErrors fileWarnings).hasErrors = false ↔
      fileErrors = [] ∧ (build settings drafts fileErrors fileWarnings).WellFormed) ∧
    ((build settings drafts fileErrors fileWarnings).hasErrors = false →
      ∀ run cycle, (build settings drafts fileErrors fileWarnings).select run ≠
        .error (.circularDependency cycle)) := by
  refine ⟨error_free_iff settings drafts fileErrors fileWarnings, fun free run cycle failed => ?_⟩
  have wellFormed := ((error_free_iff settings drafts fileErrors fileWarnings).mp free).2
  rcases well_formed_select _ wellFormed run with
    ⟨_, _, _, _, _, _, refuses, refused⟩ | ⟨_, order, ordered, _⟩
  · obtain rfl := Except.error.inj (refused.symm.trans failed)
    cases refuses
  · rw [ordered] at failed
    cases failed

end SqlWorkflow.Graph
