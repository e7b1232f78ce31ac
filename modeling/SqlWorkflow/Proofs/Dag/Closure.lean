import SqlWorkflow.Proofs.Dag.Calls
import SqlWorkflow.Proofs.Dag.CyclePath

namespace SqlWorkflow.Dag

open Relation

theorem cycle_member_returns {depends : Target → Target → Prop} {start t : Target}
    {cycle : List Target} (closes : IsCycle depends start cycle) (member : t ∈ cycle) :
    TransGen depends t t := by
  have onward : cycle.Pairwise (TransGen depends) :=
    List.isChain_iff_pairwise.mp (closes.linked.imp fun _ _ edge => TransGen.single edge)
  have round : TransGen depends start start := by
    obtain ⟨front, last, rfl⟩ := cycle_split closes
    have first : start ∈ front ++ [last] := by
      apply List.mem_of_head?
      simpa using closes.starts
    exact (List.pairwise_append.mp onward).2.2 start first start List.mem_cons_self
  obtain ⟨before, after, rfl⟩ := List.mem_iff_append.mp member
  obtain ⟨_, behind, across⟩ := List.pairwise_append.mp onward
  cases before with
  | nil =>
      obtain rfl : t = start := by simpa using closes.starts
      exact round
  | cons first rest =>
      obtain rfl : first = start := by simpa using closes.starts
      have there := across first List.mem_cons_self t List.mem_cons_self
      have ends : (t :: after).getLast? = some first := by
        simpa only [List.getLast?_append_cons] using closes.ends
      cases after with
      | nil =>
          obtain rfl : t = first := by simpa using ends
          exact round
      | cons next others =>
          rw [List.getLast?_cons_cons] at ends
          have back := (List.pairwise_cons.mp behind).1 first (List.mem_of_getLast? ends)
          exact back.trans there

theorem returns_iff_on_cycle (dag : Dag) (closed : dag.Closed) (t : Target) :
    TransGen dag.DependsOn t t ↔ ∃ start cycle, IsCycle dag.DependsOn start cycle ∧ t ∈ cycle := by
  constructor
  · intro cyclic
    have shortest := (dag.cycle_path_shortest closed t cyclic).1
    exact ⟨t, dag.cyclePath t, shortest.toIsCycle, List.mem_of_head? shortest.starts⟩
  · intro ⟨start, cycle, closes, member⟩
    exact cycle_member_returns closes member

theorem add_dependency_closed (dag : Dag) (closed : dag.Closed) (dependent dependency : Target) :
    (dag.addDependency dependent dependency).Closed := by
  intro a b depends
  rw [mem_add_dependency, mem_add_dependency]
  rcases (add_dependency_depends_on dag dependent dependency a b).mp depends with old | new
  · exact ⟨Or.inr (closed a b old).1, Or.inr (closed a b old).2⟩
  · exact ⟨Or.inl (Or.inl new.1), Or.inl (Or.inr new.2)⟩

theorem add_dependency_extends (dag : Dag) (dependent dependency a b : Target)
    (walked : TransGen dag.DependsOn a b) :
    TransGen (dag.addDependency dependent dependency).DependsOn a b :=
  TransGen.mono (fun x y old =>
    (add_dependency_depends_on dag dependent dependency x y).mpr (.inl old)) a b walked

section Closed

variable (dag : Dag) (closed : dag.Closed)

include closed

theorem unknown_unreached (t : Target) (unknown : t ∉ dag.nodes) :
    dag.ancestors t = ∅ ∧ dag.descendants t = ∅ := by
  constructor
  · apply SortedSet.members_ext
    intro other
    rw [mem_ancestors dag closed]
    refine iff_of_false (fun walked => ?_) List.not_mem_nil
    obtain ⟨next, edge, _⟩ := TransGen.head'_iff.mp walked
    exact unknown (closed t next edge).1
  · apply SortedSet.members_ext
    intro other
    rw [mem_descendants dag closed]
    refine iff_of_false (fun walked => ?_) List.not_mem_nil
    obtain ⟨next, _, edge⟩ := TransGen.tail'_iff.mp walked
    exact unknown (closed next t edge).2

theorem add_dependency_keeps (dependent dependency a : Target) :
    (dag.ancestors a).toList ⊆ ((dag.addDependency dependent dependency).ancestors a).toList ∧
    (dag.descendants a).toList ⊆
      ((dag.addDependency dependent dependency).descendants a).toList := by
  have still := add_dependency_closed dag closed dependent dependency
  constructor
  · intro b member
    rw [mem_ancestors dag closed] at member
    rw [mem_ancestors _ still]
    exact add_dependency_extends dag dependent dependency a b member
  · intro b member
    rw [mem_descendants dag closed] at member
    rw [mem_descendants _ still]
    exact add_dependency_extends dag dependent dependency b a member

end Closed

theorem of_calls_relation (calls : List Call) :
    (ofCalls calls).DependsOn = fun a b => .dependency a b ∈ calls :=
  funext fun a => funext fun b => propext (of_calls_depends_on calls a b)

def declaringCalls (dependencies : SortedMap Target (List Target)) : List Call :=
  dependencies.keys.map .action ++
    (declaredPairs dependencies).map fun pair => .dependency pair.1 pair.2

theorem build_of_calls (dependencies : SortedMap Target (List Target)) :
    build dependencies = ofCalls (declaringCalls dependencies) := by
  rw [build_eq, addDependencies, ofCalls, declaringCalls, List.foldl_append, List.foldl_map,
    List.foldl_map]
  rfl

def Declares (dependencies : SortedMap Target (List Target)) (a b : Target) : Prop :=
  (∃ targets, dependencies.get? a = some targets ∧ b ∈ targets) ∧ b ∈ dependencies.keys

theorem build_relation (dependencies : SortedMap Target (List Target)) :
    (build dependencies).DependsOn = Declares dependencies := by
  funext a b
  simp only [build_depends_on, Declares, SortedMap.get_eq_some_iff]

theorem reach_transitive_closure (calls : List Call) :
    (∀ a b, b ∈ ((ofCalls calls).descendants a).toList ↔
      TransGen (fun x y => .dependency y x ∈ calls) a b) ∧
    (∀ a b, b ∈ ((ofCalls calls).ancestors a).toList ↔
      a ∈ ((ofCalls calls).descendants b).toList) ∧
    (∀ a, a ∈ ((ofCalls calls).descendants a).toList ↔
      ∃ start cycle, IsCycle (fun x y => .dependency x y ∈ calls) start cycle ∧ a ∈ cycle) ∧
    (∀ a, (∀ made ∈ calls, ¬ made.Names a) →
      (ofCalls calls).ancestors a = ∅ ∧ (ofCalls calls).descendants a = ∅) ∧
    (∀ dependent dependency a,
      ((ofCalls calls).ancestors a).toList ⊆
        (((ofCalls calls).addDependency dependent dependency).ancestors a).toList ∧
      ((ofCalls calls).descendants a).toList ⊆
        (((ofCalls calls).addDependency dependent dependency).descendants a).toList) ∧
    ∀ dependencies, (∃ made, build dependencies = ofCalls made) ∧
      ∀ a b,
        (b ∈ ((build dependencies).ancestors a).toList ↔ TransGen (Declares dependencies) a b) ∧
        (a ∈ ((build dependencies).descendants b).toList ↔
          TransGen (Declares dependencies) a b) := by
  have closed := of_calls_closed calls
  refine ⟨fun a b => ?_, fun a b => ?_, fun a => ?_, fun a unnamed => ?_, ?_, ?_⟩
  · rw [mem_descendants _ closed, of_calls_relation, ← transGen_swap]
  · rw [mem_ancestors _ closed, mem_descendants _ closed]
  · rw [mem_descendants _ closed, returns_iff_on_cycle _ closed, of_calls_relation]
  · apply unknown_unreached _ closed
    intro node
    obtain ⟨made, member, named⟩ := (mem_of_calls_nodes calls a).mp node
    exact unnamed made member named
  · exact add_dependency_keeps _ closed
  · intro dependencies
    refine ⟨⟨_, build_of_calls dependencies⟩, fun a b => ?_⟩
    rw [mem_ancestors _ (build_closed dependencies), mem_descendants _ (build_closed dependencies),
      build_relation]
    exact ⟨Iff.rfl, Iff.rfl⟩

-- A target on a cycle is its own ancestor, one that only leads there is not.
example : ((ofCalls (bothWays "a" "b" ++ [.dependency (sample "c") (sample "a")])).ancestors
    (sample "a")).toList = [sample "a", sample "b"] := by cbv

end SqlWorkflow.Dag
