import SqlWorkflow.Proofs.Dag.Countdown

namespace SqlWorkflow.Dag

open Relation

def known (dag : Dag) (selected : SortedSet Target) : List Target :=
  selected.toList.filter (· ∈ dag.nodes)

theorem known_nodup (dag : Dag) (selected : SortedSet Target) : (dag.known selected).Nodup :=
  (ascending_nodup _ selected.ascending).filter _

section Answers

variable (dag : Dag) (closed : dag.Closed) (selected : SortedSet Target)

include closed

theorem order_subset_of_drains (order : List Target) (drains : Drains dag (dag.known selected) order)
    (complete : order.length = (dag.known selected).length) :
    dag.orderSubset selected = .ok order := by
  have counted := Countdown.countdown_drains closed (dag.known_nodup selected)
  rw [← drains_unique counted drains] at complete ⊢
  exact if_pos complete

theorem order_subset_complete (apart : ¬ dag.Entangled (dag.known selected)) :
    ∃ order, dag.orderSubset selected = .ok order ∧ order.Perm (dag.known selected) ∧
      Drains dag (dag.known selected) order := by
  have drains := Countdown.countdown_drains closed (dag.known_nodup selected)
  have perm := drains_perm closed drains (dag.known_nodup selected) apart
  exact ⟨_, if_pos perm.length_eq, perm, drains⟩

theorem order_subset_ok (apart : ¬ dag.Entangled (dag.known selected)) :
    ∃ order, dag.orderSubset selected = .ok order ∧ order.Perm (dag.known selected) ∧
      order.Pairwise fun a b => ¬ TransGen dag.DependsOn a b := by
  obtain ⟨order, answer, perm, drains⟩ := order_subset_complete dag closed selected apart
  exact ⟨order, answer, perm, drains_dependencies_first closed drains⟩

theorem order_subset_entangled (entangled : dag.Entangled (dag.known selected)) :
    ∃ cycle, dag.cycles.head? = some cycle ∧
      dag.orderSubset selected = .error (.circularDependency cycle) := by
  have drains := Countdown.countdown_drains closed (dag.known_nodup selected)
  have incomplete := drains_incomplete closed drains entangled
  obtain ⟨a, _, b, _, _, there, back⟩ := entangled
  obtain ⟨cycle, first, reported⟩ := dag.validate_error closed a (there.trans back)
  refine ⟨cycle, first, (if_neg incomplete).trans ?_⟩
  rw [reported]
  rfl

end Answers

end SqlWorkflow.Dag
