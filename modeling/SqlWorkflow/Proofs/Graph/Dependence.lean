import Mathlib.Data.List.Nodup
import SqlWorkflow.Proofs.Dag.Reachability
import SqlWorkflow.Proofs.Graph.Actions

namespace SqlWorkflow

open Relation

def DependsAmong (actions : List Action) (dependent dependency : Target) : Prop :=
  ∃ action ∈ actions, action.canonicalTarget = dependent ∧ dependency ∈ action.dependencyTargets

theorem trans_gen_inside {α : Type} (r s : α → α → Prop) (inside : α → Prop)
    (restricted : ∀ a b, s a b ↔ r a b ∧ inside b) (source : ∀ a b, r a b → inside a) (a b : α) :
    TransGen s a b ↔ TransGen r a b ∧ inside b := by
  constructor
  · intro walked
    induction walked with
    | single edge => exact ((restricted _ _).mp edge).imp_left .single
    | tail _ edge ih => exact ((restricted _ _).mp edge).imp_left ih.1.tail
  · rintro ⟨walked, last⟩
    induction walked with
    | single edge => exact .single ((restricted _ _).mpr ⟨edge, last⟩)
    | tail _ edge ih => exact (ih (source _ _ edge)).tail ((restricted _ _).mpr ⟨edge, last⟩)

theorem depends_among_source (actions : List Action) (a b : Target)
    (depends : DependsAmong actions a b) : a ∈ actions.map Action.canonicalTarget := by
  obtain ⟨action, member, rfl, _⟩ := depends
  exact List.mem_map_of_mem member

theorem depends_among_congr (old new : List Action)
    (same : ∀ target dependencies,
      (∃ a ∈ old, a.canonicalTarget = target ∧ a.dependencyTargets = dependencies) ↔
        ∃ a ∈ new, a.canonicalTarget = target ∧ a.dependencyTargets = dependencies) :
    DependsAmong old = DependsAmong new := by
  have shape (actions : List Action) (a b : Target) : DependsAmong actions a b ↔
      ∃ dependencies, (∃ action ∈ actions, action.canonicalTarget = a ∧
        action.dependencyTargets = dependencies) ∧ b ∈ dependencies := by
    constructor
    · rintro ⟨action, member, target, depends⟩
      exact ⟨_, ⟨action, member, target, rfl⟩, depends⟩
    · rintro ⟨_, ⟨action, member, target, rfl⟩, depends⟩
      exact ⟨action, member, target, depends⟩
  funext a b
  exact propext (by simp only [shape, same])

namespace Graph

def DependsOn (graph : Graph) (dependent dependency : Target) : Prop :=
  DependsAmong graph.actions dependent dependency

theorem build_depends_on (settings : Settings) (drafts : List Draft)
    (fileErrors fileWarnings : List FileMessage) :
    (build settings drafts fileErrors fileWarnings).DependsOn =
      DependsAmong (orderedActions settings drafts) := by
  refine depends_among_congr _ _ fun target dependencies => ?_
  simp only [mem_build_actions]
  constructor
  · rintro ⟨_, ⟨own, member, rfl⟩, there, depends⟩
    exact ⟨own, member, by simpa using there, by simpa using depends⟩
  · rintro ⟨own, member, there, depends⟩
    exact ⟨_, ⟨own, member, rfl⟩, by simpa using there, by simpa using depends⟩

theorem mem_merged (actions : List Action) (target : Target) (dependencies : List Target) :
    (target, dependencies) ∈ (mergedDependencies actions).toList ↔
      target ∈ actions.map Action.canonicalTarget ∧
        dependencies = (actionsAt actions target).flatMap Action.dependencyTargets := by
  rw [mergedDependencies, targetsOf, SortedMap.mem_of_list_map _ (SortedSet.of_list_nodup _),
    SortedSet.mem_of_list]

theorem mem_merged_keys (actions : List Action) (target : Target) :
    target ∈ (mergedDependencies actions).keys ↔ target ∈ actions.map Action.canonicalTarget := by
  rw [mergedDependencies, SortedMap.mem_keys_of_list, List.map_map]
  exact (List.map_id _).symm ▸ SortedSet.mem_of_list _ _

theorem merged_depends_on (actions : List Action) (a b : Target) :
    (Dag.build (mergedDependencies actions)).DependsOn a b ↔
      DependsAmong actions a b ∧ b ∈ actions.map Action.canonicalTarget := by
  rw [Dag.build_depends_on, mem_merged_keys]
  refine and_congr_left fun _ => ?_
  constructor
  · rintro ⟨dependencies, entry, depends⟩
    obtain ⟨_, rfl⟩ := (mem_merged actions a dependencies).mp entry
    obtain ⟨action, member, depends⟩ := List.mem_flatMap.mp depends
    obtain ⟨member, there⟩ := List.mem_filter.mp member
    exact ⟨action, member, of_decide_eq_true there, depends⟩
  · rintro ⟨action, member, rfl, depends⟩
    exact ⟨_, (mem_merged actions _ _).mpr ⟨List.mem_map_of_mem member, rfl⟩,
      List.mem_flatMap.mpr ⟨action, List.mem_filter.mpr ⟨member, decide_eq_true rfl⟩, depends⟩⟩

theorem merged_reaches (actions : List Action) (a b : Target) :
    TransGen (Dag.build (mergedDependencies actions)).DependsOn a b ↔
      TransGen (DependsAmong actions) a b ∧ b ∈ actions.map Action.canonicalTarget :=
  trans_gen_inside _ _ (· ∈ actions.map Action.canonicalTarget) (merged_depends_on actions)
    (depends_among_source actions) a b

theorem mem_dag_nodes (graph : Graph) (t : Target) :
    t ∈ graph.dag.nodes ↔ t ∈ graph.actions.map Action.canonicalTarget := by
  rw [dag, Dag.mem_build_nodes, dependencies, SortedMap.mem_keys_of_list, List.map_map]
  exact Iff.rfl

theorem dag_closed (graph : Graph) : graph.dag.Closed :=
  Dag.build_closed graph.dependencies

section Distinct

variable (graph : Graph) (distinct : (graph.actions.map Action.canonicalTarget).Nodup)

include distinct

theorem dag_depends_on (a b : Target) :
    graph.dag.DependsOn a b ↔
      graph.DependsOn a b ∧ b ∈ graph.actions.map Action.canonicalTarget := by
  have keys : ((graph.actions.map fun action =>
      (action.canonicalTarget, action.dependencyTargets)).map Prod.fst).Nodup := by
    rw [List.map_map]
    exact distinct
  rw [dag, Dag.build_depends_on, ← Dag.mem_build_nodes, ← dag, mem_dag_nodes, dependencies]
  simp only [SortedMap.mem_of_list _ keys, List.mem_map, Prod.mk.injEq]
  refine and_congr_left fun _ => ?_
  constructor
  · rintro ⟨_, ⟨action, member, there, rfl⟩, depends⟩
    exact ⟨action, member, there, depends⟩
  · rintro ⟨action, member, there, depends⟩
    exact ⟨_, ⟨action, member, there, rfl⟩, depends⟩

theorem dag_reaches (a b : Target) :
    TransGen graph.dag.DependsOn a b ↔
      TransGen graph.DependsOn a b ∧ b ∈ graph.actions.map Action.canonicalTarget :=
  trans_gen_inside _ _ (· ∈ graph.actions.map Action.canonicalTarget)
    (graph.dag_depends_on distinct) (depends_among_source graph.actions) a b

theorem find_eq_some_iff (target : Target) (action : Action) :
    graph.find? target = some action ↔
      action ∈ graph.actions ∧ action.canonicalTarget = target := by
  have sound (other : Action) (found : graph.find? target = some other) :
      other ∈ graph.actions ∧ other.canonicalTarget = target := by
    unfold find? at found
    exact ⟨List.mem_of_find?_eq_some found, by simpa using List.find?_some found⟩
  constructor
  · exact sound action
  · rintro ⟨member, there⟩
    cases found : graph.find? target with
    | none =>
        have absent := List.find?_eq_none.mp found action member
        simp [there] at absent
    | some other =>
        obtain ⟨otherMember, otherThere⟩ := sound other found
        rw [List.inj_on_of_nodup_map distinct otherMember member (otherThere.trans there.symm)]

end Distinct

end Graph

end SqlWorkflow
