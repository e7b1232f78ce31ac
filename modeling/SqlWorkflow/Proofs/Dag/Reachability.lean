import Mathlib.Logic.Relation
import SqlWorkflow.Dag
import SqlWorkflow.Proofs.SortedMap

namespace SqlWorkflow

open Relation

theorem reaches_iff_trans_gen {α : Type} (next : α → List α) (domain : List α)
    (closed : ∀ x y, y ∈ next x → y ∈ domain) (start x : α) :
    Reaches next domain (next start) x ↔ TransGen (fun a b => b ∈ next a) start x := by
  constructor
  · intro reached
    induction reached with
    | seed _ source => exact .single source
    | step _ child _ ih => exact ih.tail child
  · intro walked
    induction walked with
    | single child => exact .seed (closed _ _ child) child
    | tail _ child ih => exact .step ih child (closed _ _ child)

namespace Dag

def DependsOn (dag : Dag) (dependent dependency : Target) : Prop :=
  (⟨dependency, dependent⟩ : Edge) ∈ dag.edges

-- Both ends of every edge are nodes, so a search over the nodes misses nothing.
def Closed (dag : Dag) : Prop :=
  ∀ a b, dag.DependsOn a b → a ∈ dag.nodes ∧ b ∈ dag.nodes

theorem mem_dependencies_of (dag : Dag) (a b : Target) :
    b ∈ dag.dependenciesOf a ↔ dag.DependsOn a b := by
  simp only [dependenciesOf, DependsOn, List.mem_map, List.mem_filter, decide_eq_true_eq]
  constructor
  · rintro ⟨edge, ⟨member, rfl⟩, rfl⟩
    exact member
  · intro member
    exact ⟨⟨b, a⟩, ⟨member, rfl⟩, rfl⟩

theorem mem_dependents_of (dag : Dag) (a b : Target) :
    a ∈ dag.dependentsOf b ↔ dag.DependsOn a b := by
  simp only [dependentsOf, DependsOn, List.mem_map, List.mem_filter, decide_eq_true_eq]
  constructor
  · rintro ⟨edge, ⟨member, rfl⟩, rfl⟩
    exact member
  · intro member
    exact ⟨⟨b, a⟩, ⟨member, rfl⟩, rfl⟩

theorem mem_ancestors (dag : Dag) (closed : dag.Closed) (a b : Target) :
    b ∈ (dag.ancestors a).toList ↔ TransGen dag.DependsOn a b := by
  have inside (x y : Target) (child : y ∈ dag.dependenciesOf x) : y ∈ dag.nodes :=
    (closed x y ((dag.mem_dependencies_of x y).mp child)).2
  rw [ancestors, SortedSet.mem_of_list, mem_gather, reaches_iff_trans_gen _ _ inside]
  simp only [mem_dependencies_of]

theorem mem_descendants (dag : Dag) (closed : dag.Closed) (a b : Target) :
    a ∈ (dag.descendants b).toList ↔ TransGen dag.DependsOn a b := by
  have inside (x y : Target) (child : y ∈ dag.dependentsOf x) : y ∈ dag.nodes :=
    (closed y x ((dag.mem_dependents_of y x).mp child)).1
  rw [descendants, SortedSet.mem_of_list, mem_gather, reaches_iff_trans_gen _ _ inside,
    ← transGen_swap]
  simp only [mem_dependents_of]

theorem mem_add_action (dag : Dag) (target t : Target) :
    t ∈ (dag.addAction target).nodes ↔ t = target ∨ t ∈ dag.nodes := by
  unfold addAction
  split
  · rename_i known
    constructor
    · exact Or.inr
    · rintro (rfl | old)
      · exact known
      · exact old
  · simp [or_comm]

theorem add_action_edges (dag : Dag) (target : Target) :
    (dag.addAction target).edges = dag.edges := by
  unfold addAction
  split <;> rfl

theorem mem_add_dependency (dag : Dag) (dependent dependency t : Target) :
    t ∈ (dag.addDependency dependent dependency).nodes ↔
      (t = dependent ∨ t = dependency) ∨ t ∈ dag.nodes := by
  rw [or_comm (a := t = dependent), or_assoc, ← mem_add_action, ← mem_add_action]
  unfold addDependency
  dsimp only
  split <;> rfl

theorem add_dependency_depends_on (dag : Dag) (dependent dependency a b : Target) :
    (dag.addDependency dependent dependency).DependsOn a b ↔
      dag.DependsOn a b ∨ a = dependent ∧ b = dependency := by
  unfold addDependency DependsOn
  dsimp only
  split
  · rename_i known
    simp only [add_action_edges] at known ⊢
    constructor
    · exact Or.inl
    · rintro (old | ⟨rfl, rfl⟩)
      · exact old
      · exact known
  · simp [add_action_edges, and_comm]

theorem add_actions_nodes (targets : List Target) (dag : Dag) (t : Target) :
    t ∈ (targets.foldl addAction dag).nodes ↔ t ∈ targets ∨ t ∈ dag.nodes := by
  induction targets generalizing dag with
  | nil => simp
  | cons first rest ih =>
      rw [List.foldl_cons, ih, mem_add_action, List.mem_cons]
      exact or_left_comm.trans or_assoc.symm

theorem add_actions_edges (targets : List Target) (dag : Dag) :
    (targets.foldl addAction dag).edges = dag.edges := by
  induction targets generalizing dag with
  | nil => rfl
  | cons first rest ih => rw [List.foldl_cons, ih, add_action_edges]

def addDependencies (dag : Dag) (pairs : List (Target × Target)) : Dag :=
  pairs.foldl (fun dag pair => dag.addDependency pair.1 pair.2) dag

theorem add_dependencies_nodes (pairs : List (Target × Target)) (dag : Dag) (t : Target) :
    t ∈ (dag.addDependencies pairs).nodes ↔
      (∃ pair ∈ pairs, t = pair.1 ∨ t = pair.2) ∨ t ∈ dag.nodes := by
  induction pairs generalizing dag with
  | nil => simp [addDependencies]
  | cons first rest ih =>
      rw [addDependencies, List.foldl_cons, ← addDependencies, ih, mem_add_dependency]
      simp only [List.mem_cons, exists_eq_or_imp]
      exact or_left_comm.trans or_assoc.symm

theorem add_dependencies_depends_on (pairs : List (Target × Target)) (dag : Dag) (a b : Target) :
    (dag.addDependencies pairs).DependsOn a b ↔ dag.DependsOn a b ∨ (a, b) ∈ pairs := by
  induction pairs generalizing dag with
  | nil => simp [addDependencies]
  | cons first rest ih =>
      rw [addDependencies, List.foldl_cons, ← addDependencies, ih, add_dependency_depends_on,
        List.mem_cons, Prod.ext_iff, or_assoc]

def declaredPairs (dependencies : SortedMap Target (List Target)) : List (Target × Target) :=
  dependencies.toList.flatMap fun entry =>
    (entry.2.filter (· ∈ dependencies.keys)).map fun dependency => (entry.1, dependency)

theorem build_eq (dependencies : SortedMap Target (List Target)) :
    build dependencies =
      (dependencies.keys.foldl addAction {}).addDependencies (declaredPairs dependencies) := by
  simp only [build, addDependencies, declaredPairs, List.foldl_flatMap, List.foldl_map]

theorem mem_declared_pairs (dependencies : SortedMap Target (List Target)) (a b : Target) :
    (a, b) ∈ declaredPairs dependencies ↔
      (∃ targets, (a, targets) ∈ dependencies.toList ∧ b ∈ targets) ∧ b ∈ dependencies.keys := by
  simp only [declaredPairs, List.mem_flatMap, List.mem_map, List.mem_filter, decide_eq_true_eq]
  constructor
  · rintro ⟨⟨target, targets⟩, entry, dependency, ⟨member, known⟩, same⟩
    obtain ⟨rfl, rfl⟩ := Prod.mk.inj same
    exact ⟨⟨targets, entry, member⟩, known⟩
  · rintro ⟨⟨targets, entry, member⟩, known⟩
    exact ⟨(a, targets), entry, b, ⟨member, known⟩, rfl⟩

theorem build_depends_on (dependencies : SortedMap Target (List Target)) (a b : Target) :
    (build dependencies).DependsOn a b ↔
      (∃ targets, (a, targets) ∈ dependencies.toList ∧ b ∈ targets) ∧ b ∈ dependencies.keys := by
  rw [build_eq, add_dependencies_depends_on, mem_declared_pairs, DependsOn, add_actions_edges]
  simp

theorem mem_build_nodes (dependencies : SortedMap Target (List Target)) (t : Target) :
    t ∈ (build dependencies).nodes ↔ t ∈ dependencies.keys := by
  rw [build_eq, add_dependencies_nodes, add_actions_nodes]
  constructor
  · rintro (⟨⟨a, b⟩, pair, rfl | rfl⟩ | known | none)
    · obtain ⟨⟨targets, entry, _⟩, _⟩ := (mem_declared_pairs dependencies _ _).mp pair
      exact List.mem_map_of_mem entry
    · exact ((mem_declared_pairs dependencies _ _).mp pair).2
    · exact known
    · cases none
  · exact fun known => Or.inr (Or.inl known)

theorem build_closed (dependencies : SortedMap Target (List Target)) :
    (build dependencies).Closed := by
  intro a b depends
  obtain ⟨⟨targets, entry, _⟩, known⟩ := (build_depends_on dependencies a b).mp depends
  exact ⟨(mem_build_nodes dependencies a).mpr (List.mem_map_of_mem entry),
    (mem_build_nodes dependencies b).mpr known⟩

end Dag

end SqlWorkflow
