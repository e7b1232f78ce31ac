import Mathlib.Data.List.Forall2
import SqlWorkflow.Plan
import SqlWorkflow.Proofs.Graph.Errors

namespace SqlWorkflow

open Relation

-- The statements that build a table. Each has one relation to change and, around its name, fixed
-- words, a query of the table and its key columns.
inductive Table.Builds (table : Table) (relation : String) : String → Prop where
  | replaceView :
      Builds table relation ("create or replace view " ++ relation ++ " as " ++ table.query)
  | replaceTable :
      Builds table relation ("create or replace table " ++ relation ++ " as " ++ table.query)
  | drop : Builds table relation ("drop table if exists " ++ relation ++ " cascade")
  | create : Builds table relation ("create table " ++ relation ++ " as " ++ table.query)
  | createMissing : Builds table relation ("create table if not exists " ++ relation ++
      " as select * from (" ++ table.query ++ ") as incremental_source where false")
  | deleteMatches : Builds table relation ("delete from " ++ relation ++
      " as t where exists (select 1 from (" ++ table.incrementalQuery.getD table.query ++
      ") as s where " ++
      Text.join " and " (table.uniqueKey.map fun k => "t." ++ k ++ " = s." ++ k) ++ ")")
  | insert : Builds table relation
      ("insert into " ++ relation ++ " " ++ table.incrementalQuery.getD table.query)

def Table.Anew (table : Table) (fullRefresh : Bool) : Prop :=
  table.tableType = .table ∨ table.tableType = .incremental ∧ fullRefresh = true

inductive Table.Fills (table : Table) (fullRefresh : Bool) (relation : String) : String → Prop where
  | view (type : table.tableType = .view) :
      Fills table fullRefresh relation
        ("create or replace view " ++ relation ++ " as " ++ table.query)
  | replaceTable (anew : table.Anew fullRefresh) :
      Fills table fullRefresh relation
        ("create or replace table " ++ relation ++ " as " ++ table.query)
  | create (anew : table.Anew fullRefresh) :
      Fills table fullRefresh relation ("create table " ++ relation ++ " as " ++ table.query)
  | insert (type : table.tableType = .incremental) (kept : fullRefresh = false) :
      Fills table fullRefresh relation
        ("insert into " ++ relation ++ " " ++ table.incrementalQuery.getD table.query)

structure Table.BuiltBy (table : Table) (fullRefresh : Bool) (relation : String)
    (builds : List String) : Prop where
  own : ∀ sql ∈ builds, table.Builds relation sql
  filled : ∃ before sql, builds = before ++ [sql] ∧ table.Fills fullRefresh relation sql

namespace Lowering

theorem replace_table_built (warehouse : Warehouse) (table : Table) (fullRefresh : Bool)
    (relation : String) (anew : table.Anew fullRefresh) :
    ∃ builds : List String, replaceTable warehouse relation table.query = builds.map .statement ∧
      table.BuiltBy fullRefresh relation builds := by
  unfold replaceTable
  split
  · refine ⟨[_], rfl, ?_, [], _, rfl, .replaceTable anew⟩
    intro sql member
    rw [List.mem_singleton.mp member]
    exact .replaceTable
  · refine ⟨[_, _], rfl, ?_, [_], _, rfl, .create anew⟩
    intro sql member
    rcases List.mem_pair.mp member with rfl | rfl
    · exact .drop
    · exact .create

theorem extend_table_built (table : Table) (relation : String)
    (type : table.tableType = .incremental) :
    ∃ builds : List String,
      extendTable relation table.query (table.incrementalQuery.getD table.query) table.uniqueKey =
        builds.map .statement ∧ table.BuiltBy false relation builds := by
  unfold extendTable deleteMatches
  split
  · refine ⟨[_, _], rfl, ?_, [_], _, rfl, .insert type rfl⟩
    intro sql member
    rcases List.mem_pair.mp member with rfl | rfl
    · exact .createMissing
    · exact .insert
  · refine ⟨[_, _, _], rfl, ?_, [_, _], _, rfl, .insert type rfl⟩
    intro sql member
    rcases List.mem_cons.mp member with rfl | later
    · exact .createMissing
    · rcases List.mem_pair.mp later with rfl | rfl
      · exact .deleteMatches
      · exact .insert

theorem build_table_built (warehouse : Warehouse) (fullRefresh : Bool) (table : Table) :
    ∃ builds : List String, buildTable warehouse fullRefresh table = builds.map .statement ∧
      table.BuiltBy fullRefresh (warehouse.quote table.common.target) builds := by
  unfold buildTable
  cases type : table.tableType with
  | view =>
      refine ⟨[_], rfl, ?_, [], _, rfl, .view type⟩
      intro sql member
      rw [List.mem_singleton.mp member]
      exact .replaceView
  | table => exact replace_table_built warehouse table fullRefresh _ (Or.inl type)
  | incremental =>
      cases fullRefresh with
      | false => exact extend_table_built table _ type
      | true => exact replace_table_built warehouse table true _ (Or.inr ⟨type, rfl⟩)

-- What a planned action has to run: nothing while it is disabled, else what its kind asks for.
structure Fits (warehouse : Warehouse) (fullRefresh : Bool) (action : Action) (tasks : List Task) :
    Prop where
  disabled : action.disabled = true → tasks = []
  assertion : ∀ a, action = .assertion a → action.disabled = false → tasks = [.assertion a.query]
  operation : ∀ o, action = .operation o → action.disabled = false →
    tasks = o.queries.map .statement
  table : ∀ t, action = .table t → action.disabled = false →
    ∃ builds, t.BuiltBy fullRefresh (warehouse.quote t.common.target) builds ∧
      tasks = (t.preOps ++ builds ++ t.postOps).map .statement

theorem tasks_fit (warehouse : Warehouse) (fullRefresh : Bool) (action : Action) :
    Fits warehouse fullRefresh action (tasks warehouse fullRefresh action) := by
  constructor
  · intro disabled
    unfold tasks
    exact if_pos disabled
  · rintro a rfl enabled
    rw [tasks, if_neg (by simp [enabled])]
  · rintro o rfl enabled
    rw [tasks, if_neg (by simp [enabled])]
  · rintro t rfl enabled
    obtain ⟨builds, built, fit⟩ := build_table_built warehouse fullRefresh t
    refine ⟨builds, fit, ?_⟩
    rw [tasks, if_neg (by simp [enabled])]
    simp only [tableTasks, built, List.map_append]

structure Enters (warehouse : Warehouse) (fullRefresh : Bool) (action : Action)
    (entry : Execution) : Prop where
  name : entry.name = action.canonicalTarget.display
  kind : entry.kind = action.kind
  tableType : ∀ type, entry.tableType = some type ↔
    ∃ t, action = .table t ∧ t.tableType = type
  target : entry.target = action.target
  dependencies : entry.dependencyTargets = action.dependencyTargets
  hermeticity : entry.hermeticity = action.hermeticity
  tasks : Fits warehouse fullRefresh action entry.tasks

theorem execution_enters (warehouse : Warehouse) (fullRefresh : Bool) (action : Action) :
    Enters warehouse fullRefresh action (execution warehouse fullRefresh action) where
  name := rfl
  kind := rfl
  tableType type := by
    cases action with
    | table t => simp [execution]
    | _ => simp [execution]
  target := rfl
  dependencies := rfl
  hermeticity := rfl
  tasks := tasks_fit warehouse fullRefresh action

end Lowering

namespace Graph

theorem first_error_none_iff (graph : Graph) :
    graph.firstError? = none ↔ graph.hasErrors = false := by
  simp [firstError?, allErrors, hasErrors, List.any_eq_false]

theorem plan_ok_iff (graph : Graph) (run : RunOptions) (plan : Plan) :
    graph.plan run = .ok plan ↔ graph.hasErrors = false ∧
      ∃ order, graph.select run = .ok order ∧ plan = {
        settings := graph.settings
        run
        actions := (order.filterMap graph.find?).map
          (Lowering.execution graph.settings.effectiveWarehouse run.fullRefresh) } := by
  rw [Graph.plan, ← first_error_none_iff]
  cases graph.firstError? with
  | some first =>
      constructor
      · intro planned
        cases planned
      · rintro ⟨free, _⟩
        cases free
  | none =>
      rw [and_iff_right rfl]
      cases graph.select run with
      | error cause =>
          constructor
          · intro planned
            cases planned
          · rintro ⟨_, selected, _⟩
            cases selected
      | ok order =>
          constructor
          · intro planned
            exact ⟨order, rfl, (Except.ok.inj planned).symm⟩
          · rintro ⟨_, selected, rfl⟩
            rw [Except.ok.inj selected]

def FirstError (graph : Graph) (first : FileMessage) : Prop :=
  ∃ rest, (first.path, first.message :: rest) ∈ graph.errors.toList ∧
    ∀ other ∈ graph.errors.toList, other.2 ≠ [] → (compare first.path other.1).isLE

theorem first_error_some (graph : Graph) (first : FileMessage)
    (found : graph.firstError? = some first) : graph.FirstError first := by
  rw [firstError?, allErrors, List.head?_flatMap, List.findSome?_eq_some_iff] at found
  obtain ⟨before, ⟨path, texts⟩, after, split, here, clear⟩ := found
  cases texts with
  | nil => cases here
  | cons text rest =>
      obtain rfl : ⟨path, text⟩ = first := Option.some.inj here
      refine ⟨rest, by rw [split]; simp, fun other member filled => ?_⟩
      have sorted := graph.errors.ascending
      rw [split, List.map_append, List.map_cons] at sorted
      rw [split] at member
      rcases List.mem_append.mp member with earlier | later
      · have empty := clear other earlier
        simp [filled] at empty
      · rcases List.mem_cons.mp later with rfl | later
        · simp
        · have tail := (List.pairwise_append.mp sorted).2.1
          have less := (List.pairwise_cons.mp tail).1 other.1 (List.mem_map_of_mem later)
          rw [less]
          rfl

theorem error_count_eq (graph : Graph) :
    graph.errorCount = (graph.errors.toList.flatMap Prod.snd).length := by
  simp [errorCount, allErrors, List.length_flatMap]

theorem found_targets (graph : Graph) (order : List Target)
    (known : ∀ t ∈ order, ∃ action, graph.find? t = some action ∧ action.canonicalTarget = t) :
    (order.filterMap graph.find?).map Action.canonicalTarget = order := by
  induction order with
  | nil => rfl
  | cons first rest ih =>
      obtain ⟨action, found, there⟩ := known first List.mem_cons_self
      rw [List.filterMap_cons, found, List.map_cons, there,
        ih fun t member => known t (List.mem_cons_of_mem first member)]

structure Executes (graph : Graph) (run : RunOptions) (order : List Target)
    (actions : List Action) (plan : Plan) : Prop where
  entries : List.Forall₂
    (Lowering.Enters graph.settings.effectiveWarehouse run.fullRefresh) actions plan.actions
  targets : actions.map Action.canonicalTarget = order
  once : order.Nodup
  runnable : ∀ action ∈ actions, action ∈ graph.actions ∧ action.kind ≠ .declaration
  dependenciesFirst : ∀ (i j : Nat) (later : i < order.length) (earlier : j < order.length),
    TransGen graph.DependsOn order[i] order[j] → j < i
  settings : plan.settings = graph.settings
  options : plan.run = run

theorem chosen_found (graph : Graph)
    (distinct : (graph.actions.map Action.canonicalTarget).Nodup) (run : RunOptions) (t : Target)
    (chosen : graph.Chosen run t) : ∃ action, graph.find? t = some action ∧
      action ∈ graph.actions ∧ action.kind ≠ .declaration ∧ action.canonicalTarget = t := by
  obtain ⟨action, base | extra, rfl⟩ := chosen
  · exact ⟨action, (graph.find_eq_some_iff distinct _ _).mpr ⟨base.1, rfl⟩, base.1, base.2.1, rfl⟩
  · exact ⟨action, (graph.find_eq_some_iff distinct _ _).mpr ⟨extra.1, rfl⟩, extra.1, extra.2.1,
      rfl⟩

theorem acyclic_order (graph : Graph) (wellFormed : graph.WellFormed) (run : RunOptions)
    (order : List Target) (members : ∀ t, t ∈ order ↔ graph.Chosen run t)
    (sorted : order.Pairwise fun a b => ¬ TransGen graph.DependsOn a b) (i j : Nat)
    (later : i < order.length) (earlier : j < order.length)
    (depends : TransGen graph.DependsOn order[i] order[j]) : j < i := by
  have apart := List.pairwise_iff_getElem.mp sorted
  rcases Nat.lt_trichotomy j i with less | same | greater
  · exact less
  · subst same
    obtain ⟨action, member, there⟩ := List.mem_map.mp
      (graph.chosen_target run _ ((members _).mp (List.getElem_mem later)))
    rw [← there] at depends
    exact absurd depends (wellFormed.acyclic action member)
  · exact absurd depends (apart i j later earlier greater)

theorem plan_of_select (graph : Graph) (wellFormed : graph.WellFormed) (run : RunOptions)
    (order : List Target) (free : graph.hasErrors = false) (selected : graph.select run = .ok order)
    (once : order.Nodup) (members : ∀ t, t ∈ order ↔ graph.Chosen run t)
    (sorted : order.Pairwise fun a b => ¬ TransGen graph.DependsOn a b) :
    ∃ plan, graph.plan run = .ok plan ∧
      graph.Executes run order (order.filterMap graph.find?) plan := by
  have found (t : Target) (member : t ∈ order) :=
    graph.chosen_found wellFormed.distinct run t ((members t).mp member)
  refine ⟨_, (graph.plan_ok_iff run _).mpr ⟨free, order, selected, rfl⟩, ?_⟩
  constructor
  · rw [List.forall₂_map_right_iff, List.forall₂_same]
    exact fun action _ => Lowering.execution_enters _ _ action
  · refine graph.found_targets order fun t member => ?_
    obtain ⟨action, here, _, _, there⟩ := found t member
    exact ⟨action, here, there⟩
  · exact once
  · intro action listed
    obtain ⟨t, member, here⟩ := List.mem_filterMap.mp listed
    obtain ⟨other, otherHere, known, runnable, _⟩ := found t member
    obtain rfl := Option.some.inj (otherHere.symm.trans here)
    exact ⟨known, runnable⟩
  · exact graph.acyclic_order wellFormed run order members sorted
  · rfl
  · rfl

inductive PlanOutcome (graph : Graph) (run : RunOptions) : Except PlanError Plan → Prop where
  | faulty {count : Nat} {first : FileMessage} (errors : graph.hasErrors = true)
      (counted : count = (graph.errors.toList.flatMap Prod.snd).length)
      (least : graph.FirstError first) :
      PlanOutcome graph run (.error (.graphHasErrors count first))
  | unnamed {name : String} {cause : Error} (free : graph.hasErrors = false)
      (listed : name ∈ run.actions) (useless : ¬ graph.Accepts name)
      (refuses : graph.Refuses name cause) : PlanOutcome graph run (.error (.selection cause))
  | planned {order : List Target} {actions : List Action} {plan : Plan}
      (free : graph.hasErrors = false) (accepted : ∀ name ∈ run.actions, graph.Accepts name)
      (selected : graph.select run = .ok order) (executes : graph.Executes run order actions plan) :
      PlanOutcome graph run (.ok plan)

theorem build_plan_outcome (settings : Settings) (drafts : List Draft)
    (fileErrors fileWarnings : List FileMessage) (run : RunOptions) :
    (build settings drafts fileErrors fileWarnings).PlanOutcome run
      ((build settings drafts fileErrors fileWarnings).plan run) := by
  have sound := error_free_iff settings drafts fileErrors fileWarnings
  generalize build settings drafts fileErrors fileWarnings = graph at sound ⊢
  cases found : graph.firstError? with
  | some first =>
      have errors : graph.hasErrors = true := by
        rw [← Bool.not_eq_false, ← first_error_none_iff, found]
        simp
      have answer : graph.plan run = .error (.graphHasErrors graph.errorCount first) := by
        rw [plan, found]
      rw [answer]
      exact .faulty errors graph.error_count_eq (graph.first_error_some first found)
  | none =>
      have free := graph.first_error_none_iff.mp found
      have wellFormed := (sound.mp free).2
      rcases graph.well_formed_select wellFormed run with
        ⟨earlier, name, later, cause, split, _, refuses, failed⟩ |
          ⟨accepted, order, selected, once, members, sorted⟩
      · have answer : graph.plan run = .error (.selection cause) := by
          rw [plan, found, failed]
        have listed : name ∈ run.actions := by simp [split]
        rw [answer]
        exact .unnamed free listed ((graph.refused_iff name).mp ⟨cause, refuses⟩) refuses
      · obtain ⟨plan, answer, executes⟩ :=
          graph.plan_of_select wellFormed run order free selected once members sorted
        rw [answer]
        exact .planned free accepted selected executes

end Graph

end SqlWorkflow
