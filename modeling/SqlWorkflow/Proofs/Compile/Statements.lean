import SqlWorkflow.Proofs.Compile.Dependencies

-- The incremental query of a table is not checked to be there, so where it renders to nothing the
-- rows of the table are inserted from nothing.
namespace SqlWorkflow

namespace Sql

def Opens (text : String) : Prop :=
  ∃ c ∈ text.toList.head?, Text.isBlank c = false

def Ends (text : String) : Prop :=
  ∃ c ∈ text.toList.getLast?, Text.isBlank c = false

theorem opens_append (front text : String) (opens : Opens front) : Opens (front ++ text) := by
  obtain ⟨c, first, solid⟩ := opens
  refine ⟨c, ?_, solid⟩
  rw [String.toList_append, List.head?_append, Option.mem_def.mp first]
  rfl

theorem ends_append (front text : String) (ends : Ends text) : Ends (front ++ text) := by
  obtain ⟨c, last, solid⟩ := ends
  refine ⟨c, ?_, solid⟩
  rw [String.toList_append, List.getLast?_append, Option.mem_def.mp last]
  rfl

theorem is_statement_iff (sql : String) : IsStatement sql ↔ Opens sql ∧ Ends sql := by
  constructor
  · intro ⟨filled, opens, ends⟩
    have filled : sql.toList ≠ [] := fun none => filled (String.toList_eq_nil_iff.mp none)
    have first := List.head?_eq_some_head filled
    have last := List.getLast?_eq_some_getLast filled
    exact ⟨⟨_, first, opens _ first⟩, _, last, ends _ last⟩
  · intro ⟨⟨first, atHead, opens⟩, last, atEnd, ends⟩
    refine ⟨fun empty => ?_, fun c found => ?_, fun c found => ?_⟩
    · rw [empty] at atHead
      cases atHead
    · exact Option.mem_unique atHead found ▸ opens
    · exact Option.mem_unique atEnd found ▸ ends

theorem wrapped_statement (front sql : String) (opens : Opens front) (statement : IsStatement sql) :
    IsStatement (front ++ sql) :=
  (is_statement_iff _).mpr
    ⟨opens_append front sql opens, ends_append front sql ((is_statement_iff sql).mp statement).2⟩

theorem closed_statement (front close : String) (opens : Opens front) (ends : Ends close) :
    IsStatement (front ++ close) :=
  (is_statement_iff _).mpr ⟨opens_append front close opens, ends_append front close ends⟩

end Sql

namespace Lowering

open Sql (IsStatement Opens Ends)

section Tasks

variable (warehouse : Warehouse) (target query : String)

theorem replace_table_stated (stated : IsStatement query) :
    ∀ task ∈ replaceTable warehouse target query, IsStatement task.sql := by
  have create (front : String) (opens : Opens front) :
      IsStatement (front ++ target ++ " as " ++ query) :=
    Sql.wrapped_statement _ _ (Sql.opens_append _ _ (Sql.opens_append _ _ opens)) stated
  unfold replaceTable
  by_cases replaces : warehouse.replacesTables = true
  · rw [if_pos replaces, List.forall_mem_singleton]
    exact create _ ⟨'c', rfl, rfl⟩
  · rw [if_neg replaces, List.forall_mem_cons, List.forall_mem_singleton]
    refine ⟨?_, create _ ⟨'c', rfl, rfl⟩⟩
    exact Sql.closed_statement _ _ (Sql.opens_append _ _ ⟨'d', rfl, rfl⟩) ⟨'e', rfl, rfl⟩

theorem delete_matches_stated (uniqueKey : List String) :
    ∀ task ∈ deleteMatches target query uniqueKey, IsStatement task.sql := by
  unfold deleteMatches
  by_cases keyless : uniqueKey.isEmpty = true
  · rw [if_pos keyless]
    intro task member
    cases member
  · rw [if_neg keyless, List.forall_mem_singleton]
    refine Sql.closed_statement _ _ ?_ ⟨')', rfl, rfl⟩
    repeat refine Sql.opens_append _ _ ?_
    exact ⟨'d', rfl, rfl⟩

theorem extend_table_stated (incrementalQuery : String) (uniqueKey : List String)
    (stated : IsStatement incrementalQuery) :
    ∀ task ∈ extendTable target query incrementalQuery uniqueKey, IsStatement task.sql := by
  unfold extendTable
  rw [List.forall_mem_append, List.forall_mem_append, List.forall_mem_singleton,
    List.forall_mem_singleton]
  refine ⟨⟨?_, delete_matches_stated target incrementalQuery uniqueKey⟩, ?_⟩
  · refine Sql.closed_statement _ _ ?_ ⟨'e', rfl, rfl⟩
    repeat refine Sql.opens_append _ _ ?_
    exact ⟨'c', rfl, rfl⟩
  · refine Sql.wrapped_statement _ _ ?_ stated
    repeat refine Sql.opens_append _ _ ?_
    exact ⟨'i', rfl, rfl⟩

end Tasks

theorem build_table_stated (warehouse : Warehouse) (fullRefresh : Bool) (table : Table)
    (query : IsStatement table.query)
    (incremental : fullRefresh = false → ∀ sql ∈ table.incrementalQuery, IsStatement sql) :
    ∀ task ∈ buildTable warehouse fullRefresh table, IsStatement task.sql := by
  unfold buildTable
  dsimp only
  split
  · rw [List.forall_mem_singleton]
    refine Sql.wrapped_statement _ _ ?_ query
    repeat refine Sql.opens_append _ _ ?_
    exact ⟨'c', rfl, rfl⟩
  · exact replace_table_stated warehouse _ _ query
  · exact replace_table_stated warehouse _ _ query
  · refine extend_table_stated _ _ _ _ ?_
    cases again : table.incrementalQuery with
    | none => exact query
    | some sql => exact incremental rfl sql again

-- An enabled incremental table inserts what its incremental query gives, after everything but its
-- post-operations.
theorem tasks_insert (warehouse : Warehouse) (table : Table) (sql : String)
    (incremental : table.tableType = .incremental) (again : table.incrementalQuery = some sql)
    (enabled : table.common.disabled = false) :
    ∃ before, tasks warehouse false (.table table) = before ++
      .statement ("insert into " ++ warehouse.quote table.common.target ++ " " ++ sql) ::
        table.postOps.map .statement := by
  have runs : (Action.table table).disabled = false := enabled
  rw [tasks, if_neg (by simp [runs])]
  simp only [tableTasks, buildTable, incremental, again, Option.getD_some, extendTable,
    List.append_assoc, List.singleton_append]
  simp only [← List.append_assoc]
  exact ⟨_, rfl⟩

theorem table_tasks_stated (warehouse : Warehouse) (fullRefresh : Bool) (table : Table)
    (query : IsStatement table.query)
    (incremental : fullRefresh = false → ∀ sql ∈ table.incrementalQuery, IsStatement sql)
    (preOps : ∀ sql ∈ table.preOps, IsStatement sql)
    (postOps : ∀ sql ∈ table.postOps, IsStatement sql) :
    ∀ task ∈ tableTasks warehouse fullRefresh table, IsStatement task.sql := by
  unfold tableTasks
  rw [List.forall_mem_append, List.forall_mem_append, List.forall_mem_map, List.forall_mem_map]
  exact ⟨⟨preOps, build_table_stated warehouse fullRefresh table query incremental⟩, postOps⟩

theorem checked_tasks_stated (settings : Settings) (warehouse : Warehouse) (fullRefresh : Bool)
    (draft : Draft) (checked : draft.kind.Checked)
    (present : draft.kind.incrementalQuery? = some "" → fullRefresh = true) :
    ∀ task ∈ tasks warehouse fullRefresh (draft.toAction settings), IsStatement task.sql := by
  obtain ⟨file, identity, dependencies, tags, disabled, description, hermeticity, kind⟩ := draft
  unfold tasks
  split
  · intro task member
    cases member
  · cases kind with
    | table tableType query incrementalQuery uniqueKey preOps postOps assertions =>
        obtain ⟨stated, trimmed, before, after⟩ := checked
        refine table_tasks_stated warehouse fullRefresh _ stated ?_ before after
        intro partly sql again
        refine ⟨fun empty => ?_, trimmed sql again⟩
        subst empty
        rw [present again] at partly
        cases partly
    | assertion query parent => exact List.forall_mem_singleton.mpr checked
    | operation queries hasOutput => exact List.forall_mem_map.mpr checked
    | declaration =>
        intro task member
        cases member

end Lowering

namespace DraftKind

theorem Checked.statements {kind : DraftKind} (checked : kind.Checked) :
    (∀ sql ∈ kind.statements, Sql.IsStatement sql) ↔ kind.incrementalQuery? ≠ some "" := by
  constructor
  · intro stated empty
    cases kind with
    | table tableType query incrementalQuery uniqueKey preOps postOps assertions =>
        obtain rfl : incrementalQuery = some "" := empty
        exact (stated "" (by simp [DraftKind.statements])).1 rfl
    | _ => cases empty
  · intro filled
    cases kind with
    | table tableType query incrementalQuery uniqueKey preOps postOps assertions =>
        obtain ⟨stated, trimmed, before, after⟩ := checked
        unfold DraftKind.statements
        rw [List.forall_mem_append, List.forall_mem_append, List.forall_mem_append,
          List.forall_mem_singleton]
        refine ⟨⟨⟨before, stated⟩, fun sql again => ?_⟩, after⟩
        have again : incrementalQuery = some sql := Option.mem_toList.mp again
        refine ⟨fun empty => filled ?_, trimmed sql again⟩
        rw [← empty]
        exact again
    | assertion query parent => exact List.forall_mem_singleton.mpr checked
    | operation queries hasOutput => exact checked
    | declaration => exact List.forall_mem_nil _

end DraftKind

namespace Definition

open Sql (IsStatement)

structure Delivers (definition : Definition) (names : NameTable) (draft : Draft) : Prop where
  checked : draft.kind.Checked
  incremental : ∀ sql, draft.kind.incrementalQuery? = some sql ↔
    definition.config.tableType? = some .incremental ∧
      (Template.render { definition.setting names with incremental := true } definition.body).1 =
        .ok sql
  stated : (∀ sql ∈ draft.kind.statements, IsStatement sql) ↔
    draft.kind.incrementalQuery? ≠ some ""
  tasks : ∀ settings warehouse fullRefresh,
    (draft.kind.incrementalQuery? = some "" → fullRefresh = true) →
    ∀ task ∈ Lowering.tasks warehouse fullRefresh (draft.toAction settings), IsStatement task.sql
  inserted : ∀ sql, draft.kind.incrementalQuery? = some sql → ∀ settings, ∃ table,
    draft.toAction settings = .table table ∧
    (∀ drafts fileErrors fileWarnings, draft ∈ drafts →
      .table table ∈ (Graph.build settings drafts fileErrors fileWarnings).actions) ∧
    (table.common.disabled = false → ∀ warehouse, ∃ before,
      Lowering.tasks warehouse false (.table table) = before ++
        .statement ("insert into " ++ warehouse.quote table.common.target ++ " " ++ sql) ::
          table.postOps.map .statement)

theorem incremental_inserted (draft : Draft) (settings : Settings) (sql : String)
    (incremental : draft.kind.tableType? = some .incremental)
    (again : draft.kind.incrementalQuery? = some sql) : ∃ table,
    draft.toAction settings = .table table ∧
    (∀ drafts fileErrors fileWarnings, draft ∈ drafts →
      .table table ∈ (Graph.build settings drafts fileErrors fileWarnings).actions) ∧
    (table.common.disabled = false → ∀ warehouse, ∃ before,
      Lowering.tasks warehouse false (.table table) = before ++
        .statement ("insert into " ++ warehouse.quote table.common.target ++ " " ++ sql) ::
          table.postOps.map .statement) := by
  obtain ⟨file, identity, dependencies, tags, disabled, description, hermeticity, kind⟩ := draft
  cases kind with
  | table tableType query incrementalQuery uniqueKey preOps postOps assertions =>
      obtain rfl : tableType = .incremental := Option.some.inj incremental
      obtain rfl : incrementalQuery = some sql := again
      refine ⟨_, rfl, fun drafts fileErrors fileWarnings member => ?_, fun enabled warehouse =>
        Lowering.tasks_insert warehouse _ sql rfl rfl enabled⟩
      exact (Graph.mem_built settings drafts fileErrors fileWarnings _).mpr
        ⟨_, List.mem_map_of_mem member, rfl⟩
  | _ => cases again

theorem draft_delivers (names : NameTable) (definition : Definition) (draft : Draft)
    (drafted : definition.draft names = .ok draft) : definition.Delivers names draft := by
  obtain ⟨declared, mentions, rendered⟩ := draft_drafted names definition draft drafted
  have stated := (renders_draft_kind _ definition _ _ _ rendered.rendered).1
  refine ⟨stated.checked, stated.incremental, stated.checked.statements,
    fun settings warehouse fullRefresh present =>
      Lowering.checked_tasks_stated settings warehouse fullRefresh draft stated.checked present,
    fun sql again settings => ?_⟩
  have incremental := stated.type.trans ((stated.incremental sql).mp again).1
  exact incremental_inserted draft settings sql incremental again

end Definition

theorem hourly_delivers :
    hourly.draft hourlyNames = .ok hourlyDraft ∧ hourly.Delivers hourlyNames hourlyDraft ∧
      ∀ sql ∈ hourlyDraft.kind.statements, Sql.IsStatement sql := by
  have drafted : hourly.draft hourlyNames = .ok hourlyDraft := by decide +kernel
  have delivers := Definition.draft_delivers hourlyNames hourly hourlyDraft drafted
  exact ⟨drafted, delivers, delivers.stated.mpr (by decide)⟩

def seed : Definition where
  path := "definitions/seed.sqlx"
  config := .table .incremental {} {} []
  body := "\x7b% if not incremental() %\x7dselect 1 as id\x7b% endif %\x7d"

def seedNames : NameTable :=
  .ofList {} [(.table, ⟨none, "dataform", "seed"⟩)]

theorem seed_inserts_nothing : ∃ draft, seed.draft seedNames = .ok draft ∧
    "" ∈ draft.kind.statements ∧
    .statement "insert into `dataform.seed` " ∈
      Lowering.tasks .bigQuery false (draft.toAction seedNames.settings) := by
  refine ⟨{
    fileName := "definitions/seed.sqlx"
    identity := { name := "seed" }
    kind := .table .incremental "select 1 as id" (some "") [] [] [] {} }, ?_, ?_, ?_⟩
  · decide +kernel
  · decide
  · decide

end SqlWorkflow
