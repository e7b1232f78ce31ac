import Mathlib.Data.List.Permutation
import SqlWorkflow.Proofs.Dag.Order
import SqlWorkflow.Proofs.Graph.Dependence
import SqlWorkflow.Proofs.Selection.Names

namespace SqlWorkflow.Graph

open Relation

def BaseMember (graph : Graph) (run : RunOptions) (action : Action) : Prop :=
  action ∈ graph.actions ∧ action.kind ≠ .declaration ∧
    if run.actions ≠ [] then ∃ name ∈ run.actions, Means name action
    else action.disabled = false ∧ (run.tags ≠ [] → ∃ tag ∈ action.tags, tag ∈ run.tags)

def Adds (graph : Graph) (run : RunOptions) (origin target : Target) : Prop :=
  run.includeDependencies = true ∧ TransGen graph.DependsOn origin target ∨
    run.includeDependents = true ∧ TransGen graph.DependsOn target origin

-- Additions start from the base alone, whatever the actions on the way are.
def ExtraMember (graph : Graph) (run : RunOptions) (action : Action) : Prop :=
  action ∈ graph.actions ∧ action.kind ≠ .declaration ∧ action.disabled = false ∧
    ∃ base, graph.BaseMember run base ∧ graph.Adds run base.canonicalTarget action.canonicalTarget

def Chosen (graph : Graph) (run : RunOptions) (target : Target) : Prop :=
  ∃ action, (graph.BaseMember run action ∨ graph.ExtraMember run action) ∧
    action.canonicalTarget = target

def Tangled (graph : Graph) (run : RunOptions) : Prop :=
  ∃ a b, graph.Chosen run a ∧ graph.Chosen run b ∧ a ≠ b ∧
    TransGen graph.DependsOn a b ∧ TransGen graph.DependsOn b a

theorem enabled_iff (action : Action) :
    action.enabled = true ↔ action.kind ≠ .declaration ∧ action.disabled = false := by
  simp [Action.enabled, Action.runnable]

theorem chosen_target (graph : Graph) (run : RunOptions) (t : Target)
    (chosen : graph.Chosen run t) : t ∈ graph.actions.map Action.canonicalTarget := by
  obtain ⟨action, base | extra, rfl⟩ := chosen
  · exact List.mem_map_of_mem base.1
  · exact List.mem_map_of_mem extra.1

def ListsBase (graph : Graph) (run : RunOptions) (base : List Target) : Prop :=
  ∀ t, t ∈ base ↔ ∃ action, graph.BaseMember run action ∧ action.canonicalTarget = t

theorem named_lists_base (graph : Graph) (run : RunOptions) (named : run.actions ≠ []) :
    graph.ListsBase run (run.actions.map graph.runnableTargets).flatten := by
  intro t
  simp only [BaseMember, if_pos named, List.mem_flatten, List.mem_map]
  constructor
  · rintro ⟨_, ⟨name, listed, rfl⟩, found⟩
    obtain ⟨action, member, runnable, means, there⟩ := (graph.mem_runnable_targets name t).mp found
    exact ⟨action, ⟨member, runnable, name, listed, means⟩, there⟩
  · rintro ⟨action, ⟨member, runnable, name, listed, means⟩, there⟩
    exact ⟨_, ⟨name, listed, rfl⟩,
      (graph.mem_runnable_targets name t).mpr ⟨action, member, runnable, means, there⟩⟩

theorem tagged_lists_base (graph : Graph) (run : RunOptions) (unnamed : run.actions = [])
    (tagged : run.tags ≠ []) : graph.ListsBase run (graph.tagged run.tags) := by
  intro t
  simp only [Graph.tagged, BaseMember, unnamed, ne_eq, not_true_eq_false, if_false, List.mem_map,
    List.mem_filter, Bool.and_eq_true, enabled_iff, List.any_eq_true, decide_eq_true_eq]
  constructor
  · rintro ⟨action, ⟨member, ⟨runnable, enabled⟩, shared⟩, there⟩
    exact ⟨action, ⟨member, runnable, enabled, fun _ => shared⟩, there⟩
  · rintro ⟨action, ⟨member, runnable, enabled, shared⟩, there⟩
    exact ⟨action, ⟨member, ⟨runnable, enabled⟩, shared tagged⟩, there⟩

theorem enabled_lists_base (graph : Graph) (run : RunOptions) (unnamed : run.actions = [])
    (untagged : run.tags = []) : graph.ListsBase run graph.allEnabled := by
  intro t
  simp only [allEnabled, BaseMember, unnamed, untagged, ne_eq, not_true_eq_false, if_false,
    List.mem_map, List.mem_filter, enabled_iff]
  constructor
  · rintro ⟨action, ⟨member, runnable, enabled⟩, there⟩
    exact ⟨action, ⟨member, runnable, enabled, fun absurd => absurd.elim⟩, there⟩
  · rintro ⟨action, ⟨member, runnable, enabled, _⟩, there⟩
    exact ⟨action, ⟨member, runnable, enabled⟩, there⟩

theorem base_cases (graph : Graph) (run : RunOptions) :
    (∃ earlier name later error, run.actions = earlier ++ name :: later ∧
        (∀ n ∈ earlier, graph.Accepts n) ∧ graph.Refuses name error ∧
        graph.baseSelection run = .error error) ∨
      (∀ name ∈ run.actions, graph.Accepts name) ∧
        ∃ base, graph.baseSelection run = .ok base ∧ graph.ListsBase run base := by
  unfold baseSelection
  by_cases unnamed : run.actions = []
  · refine Or.inr ⟨by simp [unnamed], ?_⟩
    by_cases untagged : run.tags = []
    · refine ⟨graph.allEnabled, ?_, graph.enabled_lists_base run unnamed untagged⟩
      simp [unnamed, untagged]
    · refine ⟨graph.tagged run.tags, ?_, graph.tagged_lists_base run unnamed untagged⟩
      simp [unnamed, untagged]
  · have named : (!run.actions.isEmpty) = true := by simpa using unnamed
    rw [if_pos named]
    rcases graph.named_all_cases run.actions with
      ⟨earlier, name, later, error, split, known, refused, failed⟩ | ⟨known, found⟩
    · refine Or.inl ⟨earlier, name, later, error, split, known, refused, ?_⟩
      rw [failed]
      rfl
    · refine Or.inr ⟨known, _, ?_, graph.named_lists_base run unnamed⟩
      rw [found]
      rfl

theorem select_refused (graph : Graph) (run : RunOptions) (error : Error)
    (failed : graph.baseSelection run = .error error) : graph.select run = .error error := by
  rw [select, failed]
  rfl

theorem select_base (graph : Graph) (run : RunOptions) (base : List Target)
    (found : graph.baseSelection run = .ok base) :
    graph.select run =
      graph.dag.orderSubset (.ofList (base ++ graph.extraSelection run base)) := by
  rw [select, found]
  rfl

section Distinct

variable (graph : Graph) (distinct : (graph.actions.map Action.canonicalTarget).Nodup)
variable (run : RunOptions)

include distinct

theorem mem_added (origin t : Target) (fromKnown : origin ∈ graph.actions.map Action.canonicalTarget)
    (known : t ∈ graph.actions.map Action.canonicalTarget) :
    t ∈ (if run.includeDependencies then (graph.dag.ancestors origin).toList else []) ++
        (if run.includeDependents then (graph.dag.descendants origin).toList else []) ↔
      graph.Adds run origin t := by
  rw [List.mem_append]
  refine or_congr ?_ ?_
  · rw [List.mem_ite_nil_right, Dag.mem_ancestors _ graph.dag_closed,
      dag_reaches graph distinct, and_iff_left known]
  · rw [List.mem_ite_nil_right, Dag.mem_descendants _ graph.dag_closed,
      dag_reaches graph distinct, and_iff_left fromKnown]

variable (base : List Target) (lists : graph.ListsBase run base)

include lists

theorem mem_extra_selection (t : Target) :
    t ∈ graph.extraSelection run base ↔
      ∃ action, graph.ExtraMember run action ∧ action.canonicalTarget = t := by
  simp only [extraSelection, List.mem_filter, List.mem_flatMap, Option.any_eq_true,
    find_eq_some_iff graph distinct, enabled_iff]
  constructor
  · rintro ⟨⟨origin, listed, added⟩, action, ⟨member, rfl⟩, runnable, enabled⟩
    obtain ⟨source, inBase, rfl⟩ := (lists origin).mp listed
    have adds := (graph.mem_added distinct run _ _ (List.mem_map_of_mem inBase.1)
      (List.mem_map_of_mem member)).mp added
    exact ⟨action, ⟨member, runnable, enabled, source, inBase, adds⟩, rfl⟩
  · rintro ⟨action, ⟨member, runnable, enabled, source, inBase, adds⟩, rfl⟩
    have added := (graph.mem_added distinct run _ _ (List.mem_map_of_mem inBase.1)
      (List.mem_map_of_mem member)).mpr adds
    exact ⟨⟨_, (lists _).mpr ⟨source, inBase, rfl⟩, added⟩, action, ⟨member, rfl⟩, runnable, enabled⟩

theorem mem_known (t : Target) :
    t ∈ graph.dag.known (.ofList (base ++ graph.extraSelection run base)) ↔
      graph.Chosen run t := by
  have members : t ∈ base ++ graph.extraSelection run base ↔ graph.Chosen run t := by
    rw [List.mem_append, lists t, graph.mem_extra_selection distinct run base lists]
    simp only [Chosen, or_and_right, exists_or]
  simp only [Dag.known, List.mem_filter, SortedSet.mem_of_list, members, mem_dag_nodes,
    decide_eq_true_eq]
  exact and_iff_left_of_imp (graph.chosen_target run t)

theorem entangled_iff :
    graph.dag.Entangled (graph.dag.known (.ofList (base ++ graph.extraSelection run base))) ↔
      graph.Tangled run := by
  simp only [Dag.Entangled, mem_known graph distinct run base lists, dag_reaches graph distinct]
  constructor
  · rintro ⟨a, chosenA, b, chosenB, different, there, back⟩
    exact ⟨a, b, chosenA, chosenB, different, there.1, back.1⟩
  · rintro ⟨a, b, chosenA, chosenB, different, there, back⟩
    exact ⟨a, chosenA, b, chosenB, different, ⟨there, graph.chosen_target run b chosenB⟩,
      ⟨back, graph.chosen_target run a chosenA⟩⟩

variable (found : graph.baseSelection run = .ok base)

include found

theorem select_ok (apart : ¬ graph.Tangled run) :
    ∃ order, graph.select run = .ok order ∧ order.Nodup ∧
      (∀ t, t ∈ order ↔ graph.Chosen run t) ∧
      order.Pairwise fun a b => ¬ TransGen graph.DependsOn a b := by
  rw [← graph.entangled_iff distinct run base lists] at apart
  obtain ⟨order, ordered, perm, sorted⟩ := graph.dag.order_subset_ok graph.dag_closed _ apart
  have members (t : Target) : t ∈ order ↔ graph.Chosen run t :=
    perm.mem_iff.trans (graph.mem_known distinct run base lists t)
  refine ⟨order, (graph.select_base run base found).trans ordered,
    perm.nodup_iff.mpr (graph.dag.known_nodup _), members, ?_⟩
  refine List.Pairwise.imp_of_mem (fun {a b} _ memberB separate depends => ?_) sorted
  exact separate ((graph.dag_reaches distinct a b).mpr
    ⟨depends, graph.chosen_target run b ((members b).mp memberB)⟩)

theorem select_tangled (tangled : graph.Tangled run) :
    ∃ cycle ∈ graph.dag.cycles, graph.select run = .error (.circularDependency cycle) := by
  rw [← graph.entangled_iff distinct run base lists] at tangled
  obtain ⟨cycle, first, failed⟩ := graph.dag.order_subset_entangled graph.dag_closed _ tangled
  exact ⟨cycle, List.mem_of_head? first, (graph.select_base run base found).trans failed⟩

end Distinct

inductive Outcome (graph : Graph) (run : RunOptions) : Except Error (List Target) → Prop where
  | refused {earlier later : List String} {name : String} {error : Error}
      (split : run.actions = earlier ++ name :: later) (before : ∀ n ∈ earlier, graph.Accepts n)
      (refuses : graph.Refuses name error) : Outcome graph run (.error error)
  | tangled {cycle : List Target} (accepted : ∀ name ∈ run.actions, graph.Accepts name)
      (each : graph.Tangled run) (reported : cycle ∈ graph.dag.cycles) :
      Outcome graph run (.error (.circularDependency cycle))
  | ordered {order : List Target} (accepted : ∀ name ∈ run.actions, graph.Accepts name)
      (apart : ¬ graph.Tangled run) (once : order.Nodup)
      (members : ∀ t, t ∈ order ↔ graph.Chosen run t) : Outcome graph run (.ok order)

theorem select_outcome (graph : Graph)
    (distinct : (graph.actions.map Action.canonicalTarget).Nodup) (run : RunOptions) :
    graph.Outcome run (graph.select run) := by
  rcases graph.base_cases run with
    ⟨earlier, name, later, error, split, before, refuses, failed⟩ | ⟨accepted, base, found, lists⟩
  · rw [graph.select_refused run error failed]
    exact .refused split before refuses
  · by_cases tangled : graph.Tangled run
    · obtain ⟨cycle, reported, answer⟩ :=
        graph.select_tangled distinct run base lists found tangled
      rw [answer]
      exact .tangled accepted tangled reported
    · obtain ⟨order, answer, once, members, _⟩ :=
        graph.select_ok distinct run base lists found tangled
      rw [answer]
      exact .ordered accepted tangled once members

theorem select_of_drains (graph : Graph) (run : RunOptions) (base chosen order : List Target)
    (found : graph.baseSelection run = .ok base)
    (known : graph.dag.known (.ofList (base ++ graph.extraSelection run base)) = chosen)
    (drains : Dag.Drains graph.dag chosen order) (complete : order.length = chosen.length) :
    graph.select run = .ok order := by
  subst known
  rw [graph.select_base run base found]
  exact Dag.order_subset_of_drains graph.dag graph.dag_closed _ order drains complete

def node (name : String) : Target :=
  ⟨none, "s", name⟩

def sampleTable (name : String) (dependencies : List String) (disabled : Bool) : Table where
  tableType := .table
  enumType := .table
  common := {
    fileName := name ++ ".sqlx"
    target := node name
    canonicalTarget := node name
    dependencyTargets := dependencies.map node
    disabled }
  query := "select 1"

-- The only way from the top down to the base leads through a disabled table.
def chain : Graph where
  tables := [sampleTable "base" ["raw"] false, sampleTable "mid" ["base"] true,
    sampleTable "top" ["mid"] false]
  declarations := [{ fileName := "raw.sqlx", target := node "raw", canonicalTarget := node "raw" }]

def upTo : RunOptions := { actions := ["s.top"], includeDependencies := true }

theorem chain_selected : chain.select upTo = .ok [node "base", node "top"] :=
  chain.select_of_drains upTo [node "top"] [node "base", node "top"] _ (by cbv) (by cbv)
    (.take (by cbv) (.take (by cbv) (.stop (by cbv)))) rfl

theorem select_outcome_chain : (chain.actions.map Action.canonicalTarget).Nodup ∧
    chain.select upTo = .ok [node "base", node "top"] ∧
      chain.Outcome upTo (chain.select upTo) :=
  ⟨by decide, chain_selected, select_outcome chain (by decide) upTo⟩

end SqlWorkflow.Graph
