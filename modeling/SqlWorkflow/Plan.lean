import SqlWorkflow.Selection

namespace SqlWorkflow

inductive PlanError where
  | selection (cause : Error)
  | graphHasErrors (count : Nat) (first : FileMessage)
deriving DecidableEq

def PlanError.message : PlanError → String
  | selection cause => cause.message
  | graphHasErrors count first =>
      "[P002] Cannot plan a graph with " ++ toString count ++ " compile error(s); first in " ++
        first.path ++ ": " ++ first.message

inductive Task where
  | statement (sql : String)
  | assertion (sql : String)
deriving DecidableEq

namespace Task

def word : Task → String
  | statement _ => "statement"
  | assertion _ => "assertion"

def sql : Task → String
  | statement sql => sql
  | assertion sql => sql

end Task

structure Execution where
  name : String
  kind : ActionKind
  tableType : Option TableType
  target : Target
  dependencyTargets : List Target
  hermeticity : Hermeticity
  tasks : List Task
deriving DecidableEq

structure Plan where
  settings : Settings
  run : RunOptions
  actions : List Execution
deriving DecidableEq

def Plan.taskCount (plan : Plan) : Nat :=
  (plan.actions.flatMap Execution.tasks).length

namespace Lowering

-- Builds a table anew. Where one statement cannot, the old table is dropped first.
def replaceTable (warehouse : Warehouse) (target query : String) : List Task :=
  if warehouse.replacesTables then
    [.statement ("create or replace table " ++ target ++ " as " ++ query)]
  else
    [.statement ("drop table if exists " ++ target ++ " cascade"),
      .statement ("create table " ++ target ++ " as " ++ query)]

def deleteMatches (target query : String) (uniqueKey : List String) : List Task :=
  if uniqueKey.isEmpty then []
  else
    let same := Text.join " and " (uniqueKey.map fun k => "t." ++ k ++ " = s." ++ k)
    [.statement ("delete from " ++ target ++ " as t where exists (select 1 from (" ++ query ++
      ") as s where " ++ same ++ ")")]

def extendTable (target query incrementalQuery : String) (uniqueKey : List String) : List Task :=
  [.statement ("create table if not exists " ++ target ++ " as select * from (" ++ query ++
      ") as incremental_source where false")] ++
    deleteMatches target incrementalQuery uniqueKey ++
    [.statement ("insert into " ++ target ++ " " ++ incrementalQuery)]

def buildTable (warehouse : Warehouse) (fullRefresh : Bool) (table : Table) : List Task :=
  let target := warehouse.quote table.common.target
  match table.tableType, fullRefresh with
  | .view, _ => [.statement ("create or replace view " ++ target ++ " as " ++ table.query)]
  | .table, _ => replaceTable warehouse target table.query
  | .incremental, true => replaceTable warehouse target table.query
  | .incremental, false =>
      extendTable target table.query (table.incrementalQuery.getD table.query) table.uniqueKey

def tableTasks (warehouse : Warehouse) (fullRefresh : Bool) (table : Table) : List Task :=
  table.preOps.map .statement ++ buildTable warehouse fullRefresh table ++
    table.postOps.map .statement

def tasks (warehouse : Warehouse) (fullRefresh : Bool) (action : Action) : List Task :=
  if action.disabled then []
  else match action with
    | .table t => tableTasks warehouse fullRefresh t
    | .assertion a => [.assertion a.query]
    | .operation o => o.queries.map .statement
    | .declaration _ => []

def execution (warehouse : Warehouse) (fullRefresh : Bool) (action : Action) : Execution where
  name := action.canonicalTarget.display
  kind := action.kind
  tableType := match action with
    | .table t => some t.tableType
    | _ => none
  target := action.target
  dependencyTargets := action.dependencyTargets
  hermeticity := action.hermeticity
  tasks := tasks warehouse fullRefresh action

end Lowering

def Graph.plan (graph : Graph) (run : RunOptions) : Except PlanError Plan :=
  match graph.firstError? with
  | some first => .error (.graphHasErrors graph.errorCount first)
  | none =>
      match graph.select run with
      | .error cause => .error (.selection cause)
      | .ok order =>
          let execution :=
            Lowering.execution graph.settings.effectiveWarehouse run.fullRefresh
          .ok {
            settings := graph.settings
            run
            actions := (order.filterMap graph.find?).map execution }

end SqlWorkflow
