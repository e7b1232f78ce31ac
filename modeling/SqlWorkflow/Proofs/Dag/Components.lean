import Mathlib.Data.List.Forall2
import SqlWorkflow.Proofs.Dag.Calls
import SqlWorkflow.Proofs.Dag.CyclePath

namespace SqlWorkflow.Dag

open Relation

-- What a search for strongly connected components gives, in whatever order it finds them.
structure Components (dag : Dag) (groups : List (List Target)) : Prop where
  partition : groups.flatten.Perm dag.nodes
  filled : [] ∉ groups
  together : ∀ group ∈ groups, ∀ a ∈ group, ∀ b, b ∈ group ↔
    ReflTransGen dag.DependsOn a b ∧ ReflTransGen dag.DependsOn b a

def goesRound (dag : Dag) (group : List Target) : Bool :=
  1 < group.length || group.any fun t => t ∈ dag.dependenciesOf t

structure IsCycleFor (dag : Dag) (group path : List Target) : Prop where
  least : ∃ start ∈ group, (∀ t ∈ group, t = start ∨ compare start t = .lt) ∧
    IsShortestCycle dag.DependsOn start path
  inside : ∀ t ∈ path, t ∈ group

section Group

variable {dag : Dag} {groups : List (List Target)} (once : dag.nodes.Nodup)
variable (components : dag.Components groups) {group : List Target} (known : group ∈ groups)

include components known

theorem other_member_trans (a b : Target) (memberA : a ∈ group) (memberB : b ∈ group)
    (different : a ≠ b) : TransGen dag.DependsOn a b := by
  have walked := ((components.together group known a memberA b).mp memberB).1
  cases reflTransGen_iff_eq_or_transGen.mp walked with
  | inl same => exact absurd same.symm different
  | inr walked => exact walked

theorem goes_round_of_cyclic (a : Target) (member : a ∈ group)
    (cyclic : TransGen dag.DependsOn a a) : dag.goesRound group = true := by
  obtain ⟨b, edge, back⟩ := TransGen.head'_iff.mp cyclic
  have memberB := (components.together group known a member b).mpr ⟨.single edge, back⟩
  by_cases long : 1 < group.length
  · simp [goesRound, long]
  · obtain ⟨only, alone⟩ : ∃ only, group = [only] := by
      have filled := List.length_pos_of_mem member
      exact List.length_eq_one_iff.mp (by omega)
    rw [alone, List.mem_singleton] at member memberB
    subst member memberB
    simp [goesRound, alone, (dag.mem_dependencies_of _ _).mpr edge]

include once

theorem group_nodup : group.Nodup := by
  have distinct := components.partition.nodup_iff.mpr once
  exact (List.nodup_flatten.mp distinct).1 group known

theorem cyclic_of_goes_round (round : dag.goesRound group = true) (a : Target)
    (member : a ∈ group) : TransGen dag.DependsOn a a := by
  have returns (b : Target) (memberB : b ∈ group) (different : a ≠ b) :
      TransGen dag.DependsOn a a :=
    (other_member_trans components known a b member memberB different).trans
      (other_member_trans components known b a memberB member different.symm)
  simp only [goesRound, Bool.or_eq_true, decide_eq_true_eq, List.any_eq_true] at round
  cases round with
  | inl long =>
      by_cases alone : ∀ b ∈ group, b = a
      · have within : group.length ≤ [a].length :=
          (List.subperm_of_subset (group_nodup once components known) fun b memberB => by
            simp [alone b memberB]).length_le
        simp only [List.length_singleton] at within
        omega
      · obtain ⟨b, memberB, different⟩ : ∃ b ∈ group, b ≠ a := by simpa using alone
        exact returns b memberB different.symm
  | inr own =>
      obtain ⟨b, memberB, edge⟩ := own
      by_cases same : a = b
      · subst same
        exact .single ((dag.mem_dependencies_of a a).mp edge)
      · exact returns b memberB same

variable (closed : dag.Closed)

include closed

theorem group_component (round : dag.goesRound group = true) (a : Target) (member : a ∈ group) :
    (SortedSet.ofList group).toList = dag.component a := by
  refine ascending_ext _ _ (SortedSet.ofList group).ascending (dag.component_ascending a) ?_
  intro b
  rw [SortedSet.mem_of_list, mem_component dag closed, components.together group known a member]
  have cyclic := cyclic_of_goes_round once components known round a member
  by_cases same : a = b
  · subst same
    simp [cyclic, ReflTransGen.refl]
  · simp [reflTransGen_iff_eq_or_transGen, same, Ne.symm same]

end Group

def leader (group : List Target) : Target :=
  (SortedSet.ofList group).toList.head?.getD default

theorem leader_head (group : List Target) (filled : group ≠ []) :
    (SortedSet.ofList group).toList.head? = some (leader group) := by
  rw [leader]
  cases sorted : (SortedSet.ofList group).toList with
  | nil =>
      obtain ⟨t, member⟩ := List.exists_mem_of_ne_nil group filled
      rw [← SortedSet.mem_of_list, sorted] at member
      cases member
  | cons first rest => rfl

theorem leader_mem (group : List Target) (filled : group ≠ []) : leader group ∈ group :=
  (SortedSet.mem_of_list group _).mp (List.mem_of_head? (leader_head group filled))

theorem leader_least (group : List Target) (t : Target) (member : t ∈ group) :
    t = leader group ∨ compare (leader group) t = .lt :=
  ascending_head_least _ (SortedSet.ofList group).ascending _ t
    (leader_head group (List.ne_nil_of_mem member)) ((SortedSet.mem_of_list group t).mpr member)

section Groups

variable {dag : Dag} (closed : dag.Closed) (once : dag.nodes.Nodup)
variable {groups : List (List Target)} (components : dag.Components groups)

include closed once components

theorem leader_leads (group : List Target) (known : group ∈ groups)
    (round : dag.goesRound group = true) : dag.leadsCycle (leader group) = true := by
  have filled : group ≠ [] := fun empty => components.filled (empty ▸ known)
  have same := group_component once components known closed round _ (leader_mem group filled)
  rw [leadsCycle, ← same, leader_head group filled]
  exact decide_eq_true rfl

theorem leads_cycle_iff (t : Target) : dag.leadsCycle t = true ↔
    ∃ group ∈ groups, dag.goesRound group = true ∧ leader group = t := by
  constructor
  · intro leads
    have cyclic := dag.leads_cycle_cyclic closed t leads
    have node := components.partition.mem_iff.mpr (dag.cyclic_mem_nodes closed t cyclic)
    obtain ⟨group, known, member⟩ := List.mem_flatten.mp node
    have round := goes_round_of_cyclic components known t member cyclic
    refine ⟨group, known, round, ?_⟩
    rw [leader, group_component once components known closed round t member,
      dag.leads_cycle_head t leads, Option.getD_some]
  · intro ⟨group, known, round, same⟩
    exact same ▸ leader_leads closed once components group known round

-- Groups have no member in common, so no two of them have one leader.
theorem leaders_perm :
    ((groups.filter dag.goesRound).map leader).Perm
      ((SortedSet.ofList dag.nodes).toList.filter dag.leadsCycle) := by
  have distinct := components.partition.nodup_iff.mpr once
  have apart : (groups.filter dag.goesRound).Pairwise fun a b => leader a ≠ leader b := by
    refine ((List.nodup_flatten.mp distinct).2.filter _).imp_of_mem fun {a b} memberA memberB apart => ?_
    have filled (group : List Target) (member : group ∈ groups.filter dag.goesRound) :
        group ≠ [] :=
      fun empty => components.filled (empty ▸ (List.mem_filter.mp member).1)
    intro same
    exact apart (leader_mem a (filled a memberA)) (same ▸ leader_mem b (filled b memberB))
  refine (List.perm_ext_iff_of_nodup (List.pairwise_map.mpr apart)
    ((SortedSet.of_list_nodup dag.nodes).filter _)).mpr fun t => ?_
  have node (leads : dag.leadsCycle t = true) : t ∈ dag.nodes :=
    dag.cyclic_mem_nodes closed t (dag.leads_cycle_cyclic closed t leads)
  rw [List.mem_filter, SortedSet.mem_of_list, and_iff_right_of_imp node,
    leads_cycle_iff closed once components]
  simp only [List.mem_map, List.mem_filter, and_assoc]

theorem cycles_for_groups : ∃ paths, paths.Perm dag.cycles ∧
    List.Forall₂ dag.IsCycleFor (groups.filter dag.goesRound) paths := by
  refine ⟨(groups.filter dag.goesRound).map fun group => dag.cyclePath (leader group), ?_, ?_⟩
  · have mapped := (leaders_perm closed once components).map dag.cyclePath
    rwa [List.map_map] at mapped
  · rw [List.forall₂_map_right_iff, List.forall₂_same]
    intro group listed
    obtain ⟨known, round⟩ := List.mem_filter.mp listed
    have leads := leader_leads closed once components group known round
    have cyclic := dag.leads_cycle_cyclic closed _ leads
    obtain ⟨shortest, inside⟩ := dag.cycle_path_shortest closed _ cyclic
    have member := leader_mem group fun empty => components.filled (empty ▸ known)
    refine ⟨⟨leader group, member, leader_least group, shortest⟩, fun t onPath => ?_⟩
    rw [← SortedSet.mem_of_list, group_component once components known closed round _ member]
    exact inside t onPath

end Groups

theorem cycle_path_from (dag : Dag) (closed : dag.Closed) (start : Target)
    (leads : dag.leadsCycle start = true) : ∃ rest, dag.cyclePath start = start :: rest := by
  have cyclic := dag.leads_cycle_cyclic closed start leads
  exact List.head?_eq_some_iff.mp (dag.cycle_path_shortest closed start cyclic).1.starts

theorem cycles_ascending (dag : Dag) (closed : dag.Closed) : Ascending dag.cycles := by
  have starts := (SortedSet.ofList dag.nodes).ascending.filter dag.leadsCycle
  refine List.pairwise_map.mpr (starts.imp_of_mem fun {a b} memberA memberB less => ?_)
  obtain ⟨restA, pathA⟩ := dag.cycle_path_from closed a (List.mem_filter.mp memberA).2
  obtain ⟨restB, pathB⟩ := dag.cycle_path_from closed b (List.mem_filter.mp memberB).2
  rw [pathA, pathB, List.compare_cons_cons, less]
  rfl

theorem validate_ok_iff (dag : Dag) (closed : dag.Closed) :
    dag.validate = .ok () ↔ dag.Acyclic := by
  rw [← dag.cycles_eq_nil_iff closed, validate]
  cases dag.cycles <;> simp

section Nodes

variable (dag : Dag)

def group (t : Target) : List Target :=
  (SortedSet.ofList dag.nodes).toList.filter fun u => u = t ∨ u ∈ dag.component t

def groups : List (List Target) :=
  ((SortedSet.ofList dag.nodes).toList.filter fun t => (dag.group t).head? = some t).map dag.group

theorem mem_groups (known : List Target) : known ∈ dag.groups ↔
    ∃ t ∈ dag.nodes, known.head? = some t ∧ known = dag.group t := by
  simp only [groups, List.mem_map, List.mem_filter, SortedSet.mem_of_list, decide_eq_true_eq]
  constructor
  · intro found
    obtain ⟨t, ⟨node, head⟩, same⟩ := found
    exact ⟨t, node, same ▸ head, same.symm⟩
  · intro found
    obtain ⟨t, node, head, same⟩ := found
    exact ⟨t, ⟨node, same ▸ head⟩, same.symm⟩

variable (closed : dag.Closed)

include closed

theorem mem_group (t u : Target) (node : t ∈ dag.nodes) : u ∈ dag.group t ↔
    ReflTransGen dag.DependsOn t u ∧ ReflTransGen dag.DependsOn u t := by
  rw [group, List.mem_filter, SortedSet.mem_of_list, decide_eq_true_eq, mem_component dag closed]
  by_cases same : u = t
  · subst same
    simp [node, ReflTransGen.refl]
  · have walks : (u ∈ dag.nodes ∧ TransGen dag.DependsOn t u ∧ TransGen dag.DependsOn u t) ↔
        TransGen dag.DependsOn t u ∧ TransGen dag.DependsOn u t :=
      and_iff_right_of_imp fun both => dag.cyclic_mem_nodes closed u (both.2.trans both.1)
    simp [reflTransGen_iff_eq_or_transGen, same, Ne.symm same, walks]

theorem group_same (t u : Target) (node : t ∈ dag.nodes) (nodeU : u ∈ dag.nodes)
    (member : u ∈ dag.group t) : dag.group u = dag.group t := by
  have sorted (v : Target) : Ascending (dag.group v) :=
    (SortedSet.ofList dag.nodes).ascending.filter _
  obtain ⟨there, back⟩ := (dag.mem_group closed t u node).mp member
  refine ascending_ext _ _ (sorted u) (sorted t) fun v => ?_
  rw [mem_group dag closed u v nodeU, mem_group dag closed t v node]
  constructor
  · intro both
    exact ⟨there.trans both.1, both.2.trans back⟩
  · intro both
    exact ⟨back.trans both.1, both.2.trans there⟩

theorem mem_groups_flatten (t : Target) : t ∈ dag.groups.flatten ↔ t ∈ dag.nodes := by
  have within (a b : Target) (member : b ∈ dag.group a) : b ∈ dag.nodes :=
    (SortedSet.mem_of_list dag.nodes b).mp (List.mem_filter.mp member).1
  simp only [List.mem_flatten, mem_groups dag]
  constructor
  · intro ⟨_, ⟨a, _, _, same⟩, member⟩
    exact within a t (same ▸ member)
  · intro node
    have own : t ∈ dag.group t := (dag.mem_group closed t t node).mpr ⟨.refl, .refl⟩
    cases members : dag.group t with
    | nil =>
        rw [members] at own
        cases own
    | cons first rest =>
        have member : first ∈ dag.group t := members ▸ List.mem_cons_self
        have nodeFirst := within t first member
        have same := dag.group_same closed t first node nodeFirst member
        exact ⟨dag.group first, ⟨first, nodeFirst, by rw [same, members]; rfl, rfl⟩, same ▸ own⟩

theorem groups_nodup : dag.groups.flatten.Nodup := by
  have distinct := SortedSet.of_list_nodup dag.nodes
  rw [List.nodup_flatten]
  constructor
  · intro known listed
    obtain ⟨t, _, _, rfl⟩ := (dag.mem_groups known).mp listed
    exact distinct.filter _
  · refine List.pairwise_map.mpr ((distinct.filter _).imp_of_mem fun {a b} memberA memberB => ?_)
    obtain ⟨nodeA, headA⟩ := List.mem_filter.mp memberA
    obtain ⟨nodeB, headB⟩ := List.mem_filter.mp memberB
    rw [SortedSet.mem_of_list] at nodeA nodeB
    -- a common member has the group of both, and that has one first member
    intro different u inA inB
    have nodeU := (SortedSet.mem_of_list dag.nodes u).mp (List.mem_filter.mp inA).1
    have same := (dag.group_same closed a u nodeA nodeU inA).symm.trans
      (dag.group_same closed b u nodeB nodeU inB)
    rw [decide_eq_true_eq] at headA headB
    rw [same, headB] at headA
    exact different (Option.some.inj headA).symm

theorem groups_components (once : dag.nodes.Nodup) : dag.Components dag.groups where
  partition := (List.perm_ext_iff_of_nodup (dag.groups_nodup closed) once).mpr
    (dag.mem_groups_flatten closed)
  filled empty := by
    obtain ⟨_, _, head, _⟩ := (dag.mem_groups []).mp empty
    cases head
  together known listed a member b := by
    have node (u : Target) (inside : u ∈ known) : u ∈ dag.nodes :=
      (dag.mem_groups_flatten closed u).mp (List.mem_flatten.mpr ⟨known, listed, inside⟩)
    obtain ⟨t, nodeT, _, rfl⟩ := (dag.mem_groups known).mp listed
    rw [← dag.group_same closed t a nodeT (node a member) member]
    exact dag.mem_group closed a b (node a member)

end Nodes

theorem cycles_exact (calls : List Call) :
    (∃ groups, (ofCalls calls).Components groups) ∧
    (∀ groups, (ofCalls calls).Components groups → ∃ paths,
      paths.Perm (ofCalls calls).cycles ∧
      List.Forall₂ (ofCalls calls).IsCycleFor
        (groups.filter (ofCalls calls).goesRound) paths) ∧
    Ascending (ofCalls calls).cycles ∧
    ((ofCalls calls).cycles = [] ↔ (ofCalls calls).Acyclic) ∧
    ((ofCalls calls).validate = .ok () ↔ (ofCalls calls).Acyclic) ∧
    ∀ others, SameGraph (ofCalls calls) (ofCalls others) →
      (ofCalls calls).cycles = (ofCalls others).cycles := by
  have closed := of_calls_closed calls
  have once := of_calls_nodup calls
  refine ⟨⟨_, groups_components _ closed once⟩, fun groups components => ?_, ?_, ?_, ?_, ?_⟩
  · exact cycles_for_groups closed once components
  · exact cycles_ascending _ closed
  · exact cycles_eq_nil_iff _ closed
  · exact validate_ok_iff _ closed
  · intro others same
    exact cycles_congr same closed (of_calls_closed others) once (of_calls_nodup others)

-- Two cycles that share a node, a node that depends on itself, and one that is on no cycle.
def knotted : Dag :=
  ofCalls ([("a", "b"), ("b", "a"), ("b", "c"), ("c", "b"), ("d", "d"), ("e", "a")].map
    fun edge => .dependency ⟨none, "s", edge.1⟩ ⟨none, "s", edge.2⟩)

example : knotted.cycles.map (List.map Target.name) = [["a", "b", "a"], ["d", "d"]] := by cbv

end SqlWorkflow.Dag
