import Mathlib.Data.List.Permutation
import SqlWorkflow.Proofs.Dag.Order

namespace SqlWorkflow.Dag

open Relation

structure SameGraph (dag other : Dag) : Prop where
  nodes : ∀ t, t ∈ dag.nodes ↔ t ∈ other.nodes
  edges : ∀ a b, dag.DependsOn a b ↔ other.DependsOn a b

section Same

variable {dag other : Dag} (same : SameGraph dag other)

include same

theorem SameGraph.relation : dag.DependsOn = other.DependsOn :=
  funext fun a => funext fun b => propext (same.edges a b)

theorem dependencies_of_congr (a b : Target) :
    b ∈ dag.dependenciesOf a ↔ b ∈ other.dependenciesOf a := by
  rw [mem_dependencies_of, mem_dependencies_of, same.edges]

theorem known_congr (selected : SortedSet Target) : dag.known selected = other.known selected :=
  List.filter_congr fun t _ => by simp only [same.nodes]

theorem extend_walks_congr (members seen : List Target) (walks : List (List Target)) :
    dag.extendWalks members seen walks = other.extendWalks members seen walks := by
  induction walks generalizing seen with
  | nil => rfl
  | cons walk walks ih =>
      have next : SortedSet.ofList (walk.head?.toList.flatMap dag.dependenciesOf) =
          SortedSet.ofList (walk.head?.toList.flatMap other.dependenciesOf) :=
        SortedSet.of_list_congr _ _ fun t => by
          simp only [List.mem_flatMap, dependencies_of_congr same]
      simp only [extendWalks, next, ih]

theorem close_walk_congr (members : List Target) (start : Target) (rounds : Nat)
    (seen : List Target) (walks : List (List Target)) :
    dag.closeWalk members start rounds seen walks =
      other.closeWalk members start rounds seen walks := by
  induction rounds generalizing seen walks with
  | zero => rfl
  | succ rounds ih =>
      simp only [closeWalk, dependencies_of_congr same, extend_walks_congr same, ih]

variable (closed : dag.Closed) (otherClosed : other.Closed)

include closed otherClosed

theorem component_congr (t : Target) : dag.component t = other.component t := by
  refine ascending_ext _ _ (dag.component_ascending t) (other.component_ascending t) fun u => ?_
  rw [mem_component dag closed, mem_component other otherClosed, same.relation]

variable (once : dag.nodes.Nodup) (otherOnce : other.nodes.Nodup)

include once otherOnce

theorem cycle_path_congr (start : Target) : dag.cyclePath start = other.cyclePath start := by
  have count : dag.nodes.length = other.nodes.length :=
    ((List.perm_ext_iff_of_nodup once otherOnce).mpr same.nodes).length_eq
  simp only [cyclePath, component_congr same closed otherClosed, count, close_walk_congr same]

theorem cycles_congr : dag.cycles = other.cycles := by
  have nodes : SortedSet.ofList dag.nodes = SortedSet.ofList other.nodes :=
    SortedSet.of_list_congr _ _ same.nodes
  have leads : dag.leadsCycle = other.leadsCycle := funext fun t => by
    rw [leadsCycle, component_congr same closed otherClosed, leadsCycle]
  have paths : dag.cyclePath = other.cyclePath :=
    funext (cycle_path_congr same closed otherClosed once otherOnce)
  rw [cycles, nodes, leads, paths, cycles]

end Same

-- The same order, or a cycle for both, which need not be the same one.
inductive Agree : Except Error (List Target) → Except Error (List Target) → Prop where
  | ordered (order : List Target) : Agree (.ok order) (.ok order)
  | circular (cycle other : List Target) :
      Agree (.error (.circularDependency cycle)) (.error (.circularDependency other))

theorem entangled_congr {dag other : Dag} {chosen : List Target}
    (same : dag.SameReach other chosen) : dag.Entangled chosen ↔ other.Entangled chosen := by
  constructor
  · rintro ⟨a, ma, b, mb, different, there, back⟩
    exact ⟨a, ma, b, mb, different, (same a ma b mb).mp there, (same b mb a ma).mp back⟩
  · rintro ⟨a, ma, b, mb, different, there, back⟩
    exact ⟨a, ma, b, mb, different, (same a ma b mb).mpr there, (same b mb a ma).mpr back⟩

section Two

variable {dag other : Dag} (closed : dag.Closed) (otherClosed : other.Closed)
variable (selected otherSelected : SortedSet Target)
variable (nodes : other.known otherSelected = dag.known selected)

include closed otherClosed nodes

theorem order_subset_same (same : dag.SameReach other (dag.known selected))
    (apart : ¬ dag.Entangled (dag.known selected)) :
    ∃ order, dag.orderSubset selected = .ok order ∧
      other.orderSubset otherSelected = .ok order := by
  have otherApart : ¬ other.Entangled (other.known otherSelected) := by
    rwa [nodes, ← entangled_congr same]
  obtain ⟨order, answer, _, drains⟩ := order_subset_complete dag closed selected apart
  obtain ⟨found, otherAnswer, _, otherDrains⟩ :=
    order_subset_complete other otherClosed otherSelected otherApart
  rw [nodes] at otherDrains
  obtain rfl := drains_unique (drains_congr closed otherClosed same drains) otherDrains
  exact ⟨order, answer, otherAnswer⟩

theorem order_subset_agree (same : dag.SameReach other (dag.known selected)) :
    Agree (dag.orderSubset selected) (other.orderSubset otherSelected) := by
  by_cases entangled : dag.Entangled (dag.known selected)
  · have otherEntangled : other.Entangled (other.known otherSelected) := by
      rwa [nodes, ← entangled_congr same]
    obtain ⟨cycle, _, answer⟩ := order_subset_entangled dag closed selected entangled
    obtain ⟨found, _, otherAnswer⟩ :=
      order_subset_entangled other otherClosed otherSelected otherEntangled
    rw [answer, otherAnswer]
    exact .circular cycle found
  · obtain ⟨order, answer, otherAnswer⟩ :=
      order_subset_same closed otherClosed selected otherSelected nodes same entangled
    rw [answer, otherAnswer]
    exact .ordered order

end Two

theorem order_subset_congr {dag other : Dag} (same : SameGraph dag other) (closed : dag.Closed)
    (otherClosed : other.Closed) (once : dag.nodes.Nodup) (otherOnce : other.nodes.Nodup)
    (selected : SortedSet Target) : dag.orderSubset selected = other.orderSubset selected := by
  have nodes := known_congr same selected
  have reach : dag.SameReach other (dag.known selected) := fun a _ b _ => by rw [same.relation]
  by_cases entangled : dag.Entangled (dag.known selected)
  · have otherEntangled : other.Entangled (other.known selected) := by
      rwa [← nodes, ← entangled_congr reach]
    obtain ⟨cycle, first, answer⟩ := order_subset_entangled dag closed selected entangled
    obtain ⟨found, otherFirst, otherAnswer⟩ :=
      order_subset_entangled other otherClosed selected otherEntangled
    rw [cycles_congr same closed otherClosed once otherOnce, otherFirst] at first
    rw [answer, otherAnswer, Option.some.inj first]
  · obtain ⟨order, answer, otherAnswer⟩ :=
      order_subset_same closed otherClosed selected selected nodes.symm reach entangled
    rw [answer, otherAnswer]

inductive Call where
  | action (target : Target)
  | dependency (dependent dependency : Target)

def call (dag : Dag) : Call → Dag
  | .action target => dag.addAction target
  | .dependency dependent dependency => dag.addDependency dependent dependency

def ofCalls (calls : List Call) : Dag :=
  calls.foldl call {}

def Call.Names : Call → Target → Prop
  | .action a, t => t = a
  | .dependency a b, t => t = a ∨ t = b

theorem mem_call_nodes (dag : Dag) (made : Call) (t : Target) :
    t ∈ (dag.call made).nodes ↔ made.Names t ∨ t ∈ dag.nodes := by
  cases made with
  | action target => exact mem_add_action dag target t
  | dependency dependent dependency => exact mem_add_dependency dag dependent dependency t

theorem call_depends_on (dag : Dag) (made : Call) (a b : Target) :
    (dag.call made).DependsOn a b ↔ dag.DependsOn a b ∨ .dependency a b = made := by
  cases made with
  | action target =>
      rw [call, DependsOn, add_action_edges, DependsOn]
      simp
  | dependency dependent dependency =>
      rw [call, add_dependency_depends_on, Call.dependency.injEq]

theorem add_action_nodup (dag : Dag) (target : Target) (once : dag.nodes.Nodup) :
    (dag.addAction target).nodes.Nodup := by
  unfold addAction
  split
  · exact once
  · rename_i fresh
    simpa using once.concat fresh

theorem call_nodup (dag : Dag) (made : Call) (once : dag.nodes.Nodup) :
    (dag.call made).nodes.Nodup := by
  cases made with
  | action target => exact add_action_nodup dag target once
  | dependency dependent dependency =>
      have both := add_action_nodup _ dependency (add_action_nodup dag dependent once)
      unfold call addDependency
      dsimp only
      split <;> exact both

theorem of_calls_snoc (calls : List Call) (last : Call) :
    ofCalls (calls ++ [last]) = (ofCalls calls).call last := by
  rw [ofCalls, List.foldl_append]
  rfl

theorem mem_of_calls_nodes (calls : List Call) (t : Target) :
    t ∈ (ofCalls calls).nodes ↔ ∃ made ∈ calls, made.Names t := by
  induction calls using List.reverseRecOn with
  | nil => simp [ofCalls]
  | append_singleton calls last ih =>
      rw [of_calls_snoc, mem_call_nodes, ih]
      simp [or_and_right, exists_or, or_comm]

theorem of_calls_depends_on (calls : List Call) (a b : Target) :
    (ofCalls calls).DependsOn a b ↔ .dependency a b ∈ calls := by
  induction calls using List.reverseRecOn with
  | nil => simp [ofCalls, DependsOn]
  | append_singleton calls last ih =>
      rw [of_calls_snoc, call_depends_on, ih, List.mem_append, List.mem_singleton]

theorem of_calls_nodup (calls : List Call) : (ofCalls calls).nodes.Nodup := by
  induction calls using List.reverseRecOn with
  | nil => exact List.nodup_nil
  | append_singleton calls last ih =>
      rw [of_calls_snoc]
      exact call_nodup _ last ih

theorem of_calls_closed (calls : List Call) : (ofCalls calls).Closed := by
  intro a b depends
  have made := (of_calls_depends_on calls a b).mp depends
  exact ⟨(mem_of_calls_nodes calls a).mpr ⟨_, made, Or.inl rfl⟩,
    (mem_of_calls_nodes calls b).mpr ⟨_, made, Or.inr rfl⟩⟩

theorem of_calls_same (calls others : List Call) (same : ∀ made, made ∈ calls ↔ made ∈ others) :
    SameGraph (ofCalls calls) (ofCalls others) where
  nodes t := by simp only [mem_of_calls_nodes, same]
  edges a b := by simp only [of_calls_depends_on, same]

-- What `orderSubset` answers for one selection, and that on the way no degree is below zero and
-- none is lowered from zero.
structure Orders (dag : Dag) (selected : SortedSet Target) : Prop where
  fails : (∃ cycle, dag.orderSubset selected = .error (.circularDependency cycle)) ↔
    dag.Entangled (dag.known selected)
  names : ∀ error, dag.orderSubset selected = .error error →
    ∃ cycle, dag.cycles.head? = some cycle ∧ error = .circularDependency cycle
  lists : ¬ dag.Entangled (dag.known selected) → ∃ order,
    dag.orderSubset selected = .ok order ∧ order.Perm (dag.known selected) ∧
      dag.LeastFirst (dag.known selected) order
  degrees : ∀ state, Countdown.Reached dag (dag.known selected) state →
    ∀ entry ∈ state.degrees.toList, 0 ≤ entry.2
  lowers : ∀ state, Countdown.Reached dag (dag.known selected) state →
    ∀ t, least? state.ready = some t → ∀ follower ∈ dag.followersOf (dag.known selected) t,
      ∃ degree, state.degrees.get? follower = some degree ∧ 0 < degree

theorem order_subset_orders (dag : Dag) (closed : dag.Closed) (selected : SortedSet Target) :
    dag.Orders selected := by
  have complete := order_subset_complete dag closed selected
  have fails := order_subset_entangled dag closed selected
  constructor
  · constructor
    · rintro ⟨cycle, failed⟩
      refine Classical.byContradiction fun apart => ?_
      obtain ⟨order, answer, _⟩ := complete apart
      cases failed.symm.trans answer
    · intro entangled
      obtain ⟨cycle, _, answer⟩ := fails entangled
      exact ⟨cycle, answer⟩
  · intro error failed
    by_cases entangled : dag.Entangled (dag.known selected)
    · obtain ⟨cycle, first, answer⟩ := fails entangled
      exact ⟨cycle, first, Except.error.inj (failed.symm.trans answer)⟩
    · obtain ⟨order, answer, _⟩ := complete entangled
      cases failed.symm.trans answer
  · intro apart
    obtain ⟨order, answer, perm, drains⟩ := complete apart
    exact ⟨order, answer, perm, drains_least_first closed drains⟩
  · exact Countdown.reached_degrees closed (dag.known_nodup selected)
  · exact Countdown.reached_lowers closed (dag.known_nodup selected)

theorem order_subset_exact (calls : List Call) (selected : SortedSet Target) :
    (ofCalls calls).Orders selected ∧
    (∀ others otherSelected,
      (ofCalls others).known otherSelected = (ofCalls calls).known selected →
      (ofCalls calls).SameReach (ofCalls others) ((ofCalls calls).known selected) →
      Agree ((ofCalls calls).orderSubset selected) ((ofCalls others).orderSubset otherSelected)) ∧
    ∀ others, (∀ made, made ∈ calls ↔ made ∈ others) →
      (ofCalls calls).orderSubset selected = (ofCalls others).orderSubset selected := by
  refine ⟨order_subset_orders _ (of_calls_closed calls) selected, ?_, ?_⟩
  · intro others otherSelected nodes same
    exact order_subset_agree (of_calls_closed calls) (of_calls_closed others) selected
      otherSelected nodes same
  · intro others same
    exact order_subset_congr (of_calls_same calls others same) (of_calls_closed calls)
      (of_calls_closed others) (of_calls_nodup calls) (of_calls_nodup others) selected

def sample (name : String) : Target :=
  ⟨none, "s", name⟩

def bothWays (a b : String) : List Call :=
  [.dependency (sample a) (sample b), .dependency (sample b) (sample a)]

def alone : Dag :=
  ofCalls (bothWays "c" "d")

def beside : Dag :=
  ofCalls (bothWays "a" "b" ++ bothWays "c" "d")

def lastTwo : SortedSet Target :=
  .ofList [sample "c", sample "d"]

theorem alone_known : alone.known lastTwo = [sample "c", sample "d"] := by cbv

theorem alone_beside_reach : alone.SameReach beside (alone.known lastTwo) := by
  rw [alone_known]
  intro a member b _
  rw [← mem_ancestors alone (of_calls_closed _), ← mem_ancestors beside (of_calls_closed _)]
  have same : alone.ancestors a = beside.ancestors a := by
    rcases List.mem_pair.mp member with rfl | rfl
    · cbv
    · cbv
  rw [same]

theorem alone_entangled : alone.Entangled (alone.known lastTwo) := by
  rw [alone_known]
  refine ⟨sample "c", by simp, sample "d", by simp, by decide, .single ?_, .single ?_⟩
  · exact (of_calls_depends_on _ _ _).mpr (by simp [bothWays])
  · exact (of_calls_depends_on _ _ _).mpr (by simp [bothWays])

-- The cycle that is named is the first of the graph, also where no selected target is on it.
theorem foreign_cycle_named :
    beside.known lastTwo = alone.known lastTwo ∧
    alone.SameReach beside (alone.known lastTwo) ∧
    alone.orderSubset lastTwo =
      .error (.circularDependency [sample "c", sample "d", sample "c"]) ∧
    beside.orderSubset lastTwo =
      .error (.circularDependency [sample "a", sample "b", sample "a"]) := by
  have known : beside.known lastTwo = alone.known lastTwo := by cbv
  have both : beside.Entangled (beside.known lastTwo) :=
    known ▸ (entangled_congr alone_beside_reach).mp alone_entangled
  have near : alone.cycles.head? = some [sample "c", sample "d", sample "c"] := by cbv
  have far : beside.cycles.head? = some [sample "a", sample "b", sample "a"] := by cbv
  refine ⟨known, alone_beside_reach, ?_, ?_⟩
  · obtain ⟨cycle, first, answer⟩ :=
      order_subset_entangled alone (of_calls_closed _) lastTwo alone_entangled
    rw [answer, Option.some.inj (first.symm.trans near)]
  · obtain ⟨cycle, first, answer⟩ :=
      order_subset_entangled beside (of_calls_closed _) lastTwo both
    rw [answer, Option.some.inj (first.symm.trans far)]

end SqlWorkflow.Dag
