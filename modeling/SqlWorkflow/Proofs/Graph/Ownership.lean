import SqlWorkflow.Proofs.AssertionsOff
import SqlWorkflow.Proofs.Graph.Suffix
import SqlWorkflow.Proofs.Quoting

-- Duplicates are looked for among canonical targets, while statements address runtime targets.
namespace SqlWorkflow

theorem Target.with_suffix_plain (target : Target) (suffix : Option String)
    (plain : suffix.getD "" = "") : target.withSuffix suffix = target := by
  cases suffix with
  | none => rfl
  | some text => exact if_pos plain

theorem Target.with_suffix_text (target : Target) (text : String) (present : text ≠ "") :
    target.withSuffix (some text) = { target with schema := target.schema ++ "_" ++ text } :=
  if_neg present

theorem Target.with_suffix_injective (a b : Target) (suffix : Option String)
    (same : a.withSuffix suffix = b.withSuffix suffix) : a = b := by
  by_cases plain : suffix.getD "" = ""
  · rwa [a.with_suffix_plain suffix plain, b.with_suffix_plain suffix plain] at same
  · cases suffix with
    | none => exact absurd rfl plain
    | some text =>
        rw [a.with_suffix_text text plain, b.with_suffix_text text plain] at same
        obtain ⟨database, schema, name⟩ := Target.mk.inj same
        have schemas : a.schema = b.schema := by
          simpa [← String.toList_inj] using schema
        cases a
        cases b
        simp_all

namespace Action

-- The suffix takes an action of the project to a relation that the project only declares.
structure LandsOn (suffix : Option String) (own declared : Action) : Prop where
  project : own.kind ≠ .declaration
  external : declared.kind = .declaration
  appended : ∃ text, suffix = some text ∧ text ≠ "" ∧ declared.canonicalTarget =
    { own.canonicalTarget with schema := own.canonicalTarget.schema ++ "_" ++ text }

end Action

namespace Settings

theorem runtime_target_own (settings : Settings) (kind : ActionKind) (canonical : Target)
    (own : kind ≠ .declaration) :
    settings.runtimeTarget kind canonical = canonical.withSuffix settings.schemaSuffix := by
  cases kind with
  | declaration => exact absurd rfl own
  | _ => rfl

end Settings

namespace Graph

theorem lands_on_iff (settings : Settings) (own declared : Action)
    (apart : own.canonicalTarget ≠ declared.canonicalTarget) (project : own.kind ≠ .declaration)
    (external : declared.kind = .declaration) :
    settings.runtimeTarget own.kind own.canonicalTarget = declared.canonicalTarget ↔
      own.LandsOn settings.schemaSuffix declared := by
  rw [settings.runtime_target_own _ _ project]
  constructor
  · intro same
    by_cases plain : settings.schemaSuffix.getD "" = ""
    · rw [Target.with_suffix_plain _ _ plain] at same
      exact absurd same apart
    · cases suffix : settings.schemaSuffix with
      | none => simp [suffix] at plain
      | some text =>
          have present : text ≠ "" := by simpa [suffix] using plain
          rw [suffix, Target.with_suffix_text _ _ present] at same
          exact ⟨project, external, text, rfl, present, same.symm⟩
  · rintro ⟨_, _, text, suffix, present, there⟩
    rw [suffix, Target.with_suffix_text _ _ present, there]

theorem runtime_targets_meet_iff (settings : Settings) (a b : Action)
    (apart : a.canonicalTarget ≠ b.canonicalTarget) :
    settings.runtimeTarget a.kind a.canonicalTarget =
        settings.runtimeTarget b.kind b.canonicalTarget ↔
      a.LandsOn settings.schemaSuffix b ∨ b.LandsOn settings.schemaSuffix a := by
  by_cases declaredA : a.kind = .declaration <;> by_cases declaredB : b.kind = .declaration
  · rw [declaredA, declaredB]
    constructor
    · exact fun same => absurd same apart
    · rintro (lands | lands)
      · exact absurd declaredA lands.project
      · exact absurd declaredB lands.project
  · have lands := lands_on_iff settings b a apart.symm declaredB declaredA
    rw [declaredA, Settings.runtimeTarget, eq_comm, lands, or_iff_right]
    exact fun other => other.project declaredA
  · have lands := lands_on_iff settings a b apart declaredA declaredB
    rw [declaredB, Settings.runtimeTarget, lands, or_iff_left]
    exact fun other => other.project declaredB
  · rw [settings.runtime_target_own _ _ declaredA, settings.runtime_target_own _ _ declaredB]
    constructor
    · exact fun same => absurd (Target.with_suffix_injective _ _ _ same) apart
    · rintro (lands | lands)
      · exact absurd lands.external declaredB
      · exact absurd lands.external declaredA

structure BuildsOwn (graph : Graph) (table : Table) (tasks : List Task) : Prop where
  disabled : table.common.disabled = true → tasks = []
  built : table.common.disabled = false → ∃ builds : List String, builds ≠ [] ∧
    tasks = (table.preOps ++ builds ++ table.postOps).map .statement ∧
    ∀ sql ∈ builds,
      table.Builds (graph.settings.effectiveWarehouse.quote table.common.target) sql
  -- When another action has a relation that is written like the one of the table.
  shared : ∀ other ∈ graph.actions, other ≠ .table table →
    (graph.settings.effectiveWarehouse.quote table.common.target =
        graph.settings.effectiveWarehouse.quote other.target ↔
      (Action.table table).LandsOn graph.settings.schemaSuffix other ∨
        graph.settings.effectiveWarehouse.Confuses table.common.target other.target)

section Build

variable (settings : Settings) (drafts : List Draft) (fileErrors fileWarnings : List FileMessage)

theorem built_targets_meet_iff (a b : Action)
    (knownA : a ∈ (build settings drafts fileErrors fileWarnings).actions)
    (knownB : b ∈ (build settings drafts fileErrors fileWarnings).actions)
    (apart : a.canonicalTarget ≠ b.canonicalTarget) :
    a.target = b.target ↔
      a.LandsOn settings.schemaSuffix b ∨ b.LandsOn settings.schemaSuffix a := by
  rw [build_target settings drafts fileErrors fileWarnings a knownA,
    build_target settings drafts fileErrors fileWarnings b knownB]
  exact runtime_targets_meet_iff settings a b apart

theorem built_table_own (distinct : ((build settings drafts fileErrors fileWarnings).actions.map
      Action.canonicalTarget).Nodup) (table : Table)
    (known : .table table ∈ (build settings drafts fileErrors fileWarnings).actions)
    (fullRefresh : Bool) :
    (build settings drafts fileErrors fileWarnings).BuildsOwn table
      (Lowering.tasks settings.effectiveWarehouse fullRefresh (.table table)) := by
  constructor
  · intro disabled
    exact if_pos disabled
  · intro enabled
    have fits := Lowering.tasks_fit settings.effectiveWarehouse fullRefresh (.table table)
    obtain ⟨builds, built, tasks⟩ := fits.table table rfl enabled
    obtain ⟨before, last, rfl, _⟩ := built.filled
    exact ⟨before ++ [last], by simp, tasks, built.own⟩
  · intro other member different
    have apart : (Action.table table).canonicalTarget ≠ other.canonicalTarget := fun same =>
      different (List.inj_on_of_nodup_map distinct known member same).symm
    have meet := built_targets_meet_iff settings drafts fileErrors fileWarnings _ other known member
      apart
    rw [Warehouse.quote_eq_iff, show table.common.target = (Action.table table).target from rfl,
      meet, or_assoc]
    refine or_congr_right ⟨?_, Or.inr⟩
    rintro (lands | confused)
    · cases lands.external
    · exact confused

theorem build_targets_owned
    (free : (build settings drafts fileErrors fileWarnings).hasErrors = false) :
    ((build settings drafts fileErrors fileWarnings).actions.Pairwise fun a b =>
      a.target = b.target ↔
        a.LandsOn settings.schemaSuffix b ∨ b.LandsOn settings.schemaSuffix a) ∧
    ∀ run plan, (build settings drafts fileErrors fileWarnings).plan run = .ok plan →
      ∀ execution ∈ plan.actions, execution.kind = .table →
        ∃ table, .table table ∈ (build settings drafts fileErrors fileWarnings).actions ∧
          execution.target = table.common.target ∧
          (build settings drafts fileErrors fileWarnings).BuildsOwn table execution.tasks := by
  have distinct := ((error_free_iff settings drafts fileErrors fileWarnings).mp free).2.distinct
  constructor
  · refine (List.pairwise_map.mp distinct).imp_of_mem fun knownA knownB apart => ?_
    exact built_targets_meet_iff settings drafts fileErrors fileWarnings _ _ knownA knownB apart
  · intro run plan planned execution listed kind
    obtain ⟨action, member, rfl⟩ := plan_executes_own _ run plan planned execution listed
    cases action with
    | table t =>
        exact ⟨t, member, rfl,
          built_table_own settings drafts fileErrors fileWarnings distinct t member run.fullRefresh⟩
    | _ => cases kind

end Build

-- A table that the suffix takes to a declared relation. PostgreSQL writes the relation of the same
-- schema in another database alike, and the hook of the table drops a third one.
def suffixedTable : List Draft :=
  [{ fileName := "audit.sqlx"
     identity := { name := "log", schema := some "audit" }
     kind := .declaration },
    { fileName := "events.sqlx"
      identity := { name := "events", schema := some "raw" }
      kind := .table .table "select 1 as id" none [] ["drop table audit.log"] [] {} },
    { fileName := "lake.sqlx"
      identity := { name := "events", schema := some "raw_dev", database := some "lake" }
      kind := .declaration },
    { fileName := "source.sqlx"
      identity := { name := "events", schema := some "raw_dev" }
      kind := .declaration }]

def developed : Settings :=
  { warehouse := some .postgres, schemaSuffix := some "dev" }

theorem suffixed_table_free : (build developed suffixedTable [] []).hasErrors = false := by cbv

theorem suffixed_table_planned : ∃ plan, (build developed suffixedTable [] []).plan {} = .ok plan ∧
    plan.actions =
      ([⟨none, "raw", "events"⟩].filterMap (build developed suffixedTable [] []).find?).map
        (Lowering.execution .postgres false) := by
  have selected : (build developed suffixedTable [] []).select {} = .ok [⟨none, "raw", "events"⟩] :=
    select_of_drains _ {} [⟨none, "raw", "events"⟩] [⟨none, "raw", "events"⟩] _ (by cbv) (by cbv)
      (.take (by cbv) (.stop (by cbv))) rfl
  exact ⟨_, (plan_ok_iff _ _ _).mpr ⟨suffixed_table_free, _, selected, rfl⟩, rfl⟩

theorem suffixed_table_not_apart :
    (build developed suffixedTable [] []).hasErrors = false ∧
    ¬ ((build developed suffixedTable [] []).actions.map Action.target).Nodup ∧
    ((build developed suffixedTable [] []).plan {}).map
        (fun plan => plan.actions.map Execution.tasks) =
      .ok [[.statement "drop table audit.log",
        .statement "drop table if exists \"raw_dev\".\"events\" cascade",
        .statement "create table \"raw_dev\".\"events\" as select 1 as id"]] ∧
    Warehouse.postgres.quote ⟨some "lake", "raw_dev", "events"⟩ = "\"raw_dev\".\"events\"" := by
  refine ⟨suffixed_table_free, ?_, ?_, by cbv⟩
  · have targets : (build developed suffixedTable [] []).actions.map Action.target =
        [⟨none, "raw_dev", "events"⟩, ⟨none, "audit", "log"⟩, ⟨none, "raw_dev", "events"⟩,
          ⟨some "lake", "raw_dev", "events"⟩] := by
      cbv
    rw [targets]
    decide
  · obtain ⟨plan, planned, actions⟩ := suffixed_table_planned
    rw [planned, Except.map, actions]
    cbv

theorem suffixed_table_owned :
    (build developed suffixedTable [] []).hasErrors = false ∧
    ∃ plan execution, (build developed suffixedTable [] []).plan {} = .ok plan ∧
      execution ∈ plan.actions ∧ execution.kind = .table ∧
      ∃ table, .table table ∈ (build developed suffixedTable [] []).actions ∧
        execution.target = table.common.target ∧
        (build developed suffixedTable [] []).BuildsOwn table execution.tasks := by
  obtain ⟨plan, planned, actions⟩ := suffixed_table_planned
  have kinds : plan.actions.map Execution.kind = [.table] := by
    rw [actions]
    cbv
  obtain ⟨execution, alone, kind⟩ := List.map_eq_singleton_iff.mp kinds
  have listed : execution ∈ plan.actions := by simp [alone]
  exact ⟨suffixed_table_free, plan, execution, planned, listed, kind,
    (build_targets_owned developed suffixedTable [] [] suffixed_table_free).2 {} plan planned
      execution listed kind⟩

end Graph

end SqlWorkflow
