import Mathlib.Data.List.Forall2
import SqlWorkflow.Plan

namespace SqlWorkflow

def RunOptions.refreshing (run : RunOptions) (fullRefresh : Bool) : RunOptions :=
  { run with fullRefresh }

def Action.Extends : Action → Prop
  | .table t => t.tableType = .incremental ∧ t.common.disabled = false
  | _ => False

def Table.rebuilt (table : Table) : Table :=
  { table with tableType := .table }

namespace Lowering

section Tasks

variable (warehouse : Warehouse)

theorem table_tasks_other (table : Table) (other : table.tableType ≠ .incremental)
    (fullRefresh : Bool) :
    tableTasks warehouse fullRefresh table = tableTasks warehouse false table := by
  unfold tableTasks buildTable
  cases type : table.tableType with
  | view => rfl
  | table => rfl
  | incremental => exact absurd type other

theorem tasks_kept (action : Action) (other : ¬ action.Extends) (fullRefresh : Bool) :
    tasks warehouse fullRefresh action = tasks warehouse false action := by
  unfold tasks
  by_cases disabled : action.disabled = true
  · rw [if_pos disabled, if_pos disabled]
  · rw [if_neg disabled, if_neg disabled]
    cases action with
    | table t =>
        refine table_tasks_other warehouse t (fun incremental => ?_) fullRefresh
        exact other ⟨incremental, eq_false_of_ne_true disabled⟩
    | _ => rfl

theorem table_tasks_rebuilt (table : Table) (incremental : table.tableType = .incremental)
    (fullRefresh : Bool) :
    tableTasks warehouse true table = tableTasks warehouse fullRefresh table.rebuilt := by
  unfold tableTasks buildTable
  rw [incremental]
  rfl

theorem tasks_rebuilt (table : Table) (incremental : table.tableType = .incremental)
    (fullRefresh : Bool) :
    tasks warehouse true (.table table) = tasks warehouse fullRefresh (.table table.rebuilt) := by
  have same : (Action.table table.rebuilt).disabled = (Action.table table).disabled := rfl
  rw [tasks, tasks, same]
  exact congrArg (ite _ []) (table_tasks_rebuilt warehouse table incremental fullRefresh)

end Tasks

structure Refreshes (warehouse : Warehouse) (action : Action) (plain full : Execution) : Prop where
  execution : plain = Lowering.execution warehouse false action
  name : full.name = plain.name
  kind : full.kind = plain.kind
  tableType : full.tableType = plain.tableType
  target : full.target = plain.target
  dependencies : full.dependencyTargets = plain.dependencyTargets
  hermeticity : full.hermeticity = plain.hermeticity
  kept : ¬ action.Extends → full.tasks = plain.tasks
  rebuilt : ∀ table, action = .table table → action.Extends → ∀ fullRefresh,
    full.tasks = Lowering.tasks warehouse fullRefresh (.table table.rebuilt)

theorem execution_refreshes (warehouse : Warehouse) (action : Action) :
    Refreshes warehouse action (execution warehouse false action)
      (execution warehouse true action) := by
  refine ⟨rfl, rfl, rfl, rfl, rfl, rfl, rfl, fun other => ?_, ?_⟩
  · exact tasks_kept warehouse action other true
  · rintro table rfl extending fullRefresh
    exact tasks_rebuilt warehouse table extending.1 fullRefresh

end Lowering

namespace Graph

def planned (graph : Graph) (run : RunOptions) : Except PlanError (List Action) :=
  match graph.firstError? with
  | some first => .error (.graphHasErrors graph.errorCount first)
  | none => ((graph.select run).mapError .selection).map fun order => order.filterMap graph.find?

theorem plan_eq (graph : Graph) (run : RunOptions) :
    graph.plan run = (graph.planned run).map fun actions =>
      { settings := graph.settings
        run
        actions := actions.map
          (Lowering.execution graph.settings.effectiveWarehouse run.fullRefresh) } := by
  unfold plan planned
  cases graph.firstError? with
  | some first => rfl
  | none => cases graph.select run <;> rfl

theorem planned_refreshing (graph : Graph) (run : RunOptions) (fullRefresh : Bool) :
    graph.planned (run.refreshing fullRefresh) = graph.planned run := rfl

theorem planned_known (graph : Graph) (run : RunOptions) (actions : List Action)
    (planned : graph.planned run = .ok actions) (action : Action) (listed : action ∈ actions) :
    action ∈ graph.actions := by
  unfold Graph.planned at planned
  split at planned
  · cases planned
  · cases selected : graph.select run with
    | error cause => rw [selected] at planned; cases planned
    | ok order =>
        rw [selected] at planned
        obtain rfl : order.filterMap graph.find? = actions := Except.ok.inj planned
        obtain ⟨target, _, found⟩ := List.mem_filterMap.mp listed
        exact List.mem_of_find?_eq_some found

theorem full_refresh_rebuilds (graph : Graph) (run : RunOptions) :
    (∃ cause, graph.plan (run.refreshing false) = .error cause ∧
      graph.plan (run.refreshing true) = .error cause) ∨
    ∃ plain full, graph.plan (run.refreshing false) = .ok plain ∧
      graph.plan (run.refreshing true) = .ok full ∧ full.settings = plain.settings ∧
      List.Forall₂ (fun before after => ∃ action ∈ graph.actions,
        Lowering.Refreshes graph.settings.effectiveWarehouse action before after)
        plain.actions full.actions := by
  rw [plan_eq, plan_eq, planned_refreshing, planned_refreshing]
  cases planned : graph.planned run with
  | error cause => exact Or.inl ⟨cause, rfl, rfl⟩
  | ok actions =>
      refine Or.inr ⟨_, _, rfl, rfl, rfl, ?_⟩
      rw [List.forall₂_map_left_iff, List.forall₂_map_right_iff, List.forall₂_same]
      intro action listed
      exact ⟨action, graph.planned_known run actions planned action listed,
        Lowering.execution_refreshes _ action⟩

end Graph

end SqlWorkflow
