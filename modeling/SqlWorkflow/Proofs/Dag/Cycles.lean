import SqlWorkflow.Proofs.Dag.Reachability

namespace SqlWorkflow.Dag

open Relation

def Acyclic (dag : Dag) : Prop :=
  ∀ t, ¬ TransGen dag.DependsOn t t

theorem mem_component (dag : Dag) (closed : dag.Closed) (a b : Target) :
    b ∈ dag.component a ↔ TransGen dag.DependsOn a b ∧ TransGen dag.DependsOn b a := by
  simp only [component, List.mem_filter, decide_eq_true_eq, mem_ancestors dag closed,
    mem_descendants dag closed]

theorem component_ascending (dag : Dag) (a : Target) : Ascending (dag.component a) :=
  List.Pairwise.filter _ (dag.ancestors a).ascending

theorem component_same (dag : Dag) (closed : dag.Closed) (a b : Target)
    (member : b ∈ dag.component a) : dag.component b = dag.component a := by
  obtain ⟨there, back⟩ := (dag.mem_component closed a b).mp member
  refine ascending_ext _ _ (dag.component_ascending b) (dag.component_ascending a) ?_
  intro x
  rw [mem_component dag closed, mem_component dag closed]
  constructor
  · rintro ⟨forth, home⟩
    exact ⟨there.trans forth, home.trans back⟩
  · rintro ⟨forth, home⟩
    exact ⟨back.trans forth, home.trans there⟩

theorem leads_cycle_head (dag : Dag) (t : Target) (leads : dag.leadsCycle t = true) :
    (dag.component t).head? = some t :=
  of_decide_eq_true leads

theorem leads_cycle_cyclic (dag : Dag) (closed : dag.Closed) (t : Target)
    (leads : dag.leadsCycle t = true) : TransGen dag.DependsOn t t :=
  ((dag.mem_component closed t t).mp (List.mem_of_head? (dag.leads_cycle_head t leads))).1

-- A target on a cycle need not lead it; the least of its group does.
theorem exists_leader (dag : Dag) (closed : dag.Closed) (t : Target)
    (cyclic : TransGen dag.DependsOn t t) : ∃ leader ∈ dag.component t, dag.leadsCycle leader := by
  have member : t ∈ dag.component t := (dag.mem_component closed t t).mpr ⟨cyclic, cyclic⟩
  cases group : dag.component t with
  | nil =>
      rw [group] at member
      cases member
  | cons leader rest =>
      have inside : leader ∈ dag.component t := group ▸ List.mem_cons_self
      refine ⟨leader, List.mem_cons_self, ?_⟩
      simp [leadsCycle, dag.component_same closed t leader inside, group]

theorem cyclic_mem_nodes (dag : Dag) (closed : dag.Closed) (t : Target)
    (cyclic : TransGen dag.DependsOn t t) : t ∈ dag.nodes := by
  cases cyclic with
  | single edge => exact (closed _ _ edge).2
  | tail _ edge => exact (closed _ _ edge).2

theorem mem_cycles (dag : Dag) (closed : dag.Closed) (path : List Target) :
    path ∈ dag.cycles ↔
      ∃ start, TransGen dag.DependsOn start start ∧ dag.leadsCycle start ∧
        path = dag.cyclePath start := by
  simp only [cycles, List.mem_map, List.mem_filter, SortedSet.mem_of_list]
  constructor
  · rintro ⟨start, ⟨_, leads⟩, rfl⟩
    exact ⟨start, dag.leads_cycle_cyclic closed start leads, leads, rfl⟩
  · rintro ⟨start, cyclic, leads, rfl⟩
    exact ⟨start, ⟨dag.cyclic_mem_nodes closed start cyclic, leads⟩, rfl⟩

theorem cycles_eq_nil_iff (dag : Dag) (closed : dag.Closed) : dag.cycles = [] ↔ dag.Acyclic := by
  rw [List.eq_nil_iff_forall_not_mem]
  constructor
  · intro none t cyclic
    obtain ⟨leader, member, leads⟩ := dag.exists_leader closed t cyclic
    obtain ⟨there, back⟩ := (dag.mem_component closed t leader).mp member
    exact none _ ((dag.mem_cycles closed _).mpr ⟨leader, back.trans there, leads, rfl⟩)
  · intro acyclic path member
    obtain ⟨start, cyclic, _⟩ := (dag.mem_cycles closed path).mp member
    exact acyclic start cyclic

theorem start_mem_cycle_path (dag : Dag) (start : Target) : start ∈ dag.cyclePath start := by
  simp [cyclePath]

theorem validate_error (dag : Dag) (closed : dag.Closed) (t : Target)
    (cyclic : TransGen dag.DependsOn t t) :
    ∃ cycle, dag.cycles.head? = some cycle ∧
      dag.validate = .error (.circularDependency cycle) := by
  cases paths : dag.cycles with
  | nil => exact absurd cyclic ((dag.cycles_eq_nil_iff closed).mp paths t)
  | cons cycle rest => exact ⟨cycle, rfl, by simp only [validate, paths]⟩

end SqlWorkflow.Dag
