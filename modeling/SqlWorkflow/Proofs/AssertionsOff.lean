import SqlWorkflow.Proofs.Graph.Changed
import SqlWorkflow.Proofs.Graph.Disabled
import SqlWorkflow.Proofs.Plan

namespace SqlWorkflow

def Assertion.turnedOff (assertion : Assertion) : Assertion :=
  { assertion with common := { assertion.common with disabled := true } }

def Action.withoutAssertion : Action → Action
  | .assertion a => .assertion a.turnedOff
  | action => action

def Settings.withoutAssertions (settings : Settings) : Settings :=
  { settings with disableAssertions := some true }

namespace Graph

theorem without_assertion_keeps_links : KeepsLinks Action.withoutAssertion where
  kind action := by cases action <;> rfl
  canonical action := by cases action <;> rfl
  file action := by cases action <;> rfl
  dependencies action := by cases action <;> rfl

theorem to_action_without_assertion (settings : Settings) (draft : Draft) :
    Draft.toAction settings.withoutAssertions draft =
      (Draft.toAction settings draft).withoutAssertion := by
  obtain ⟨file, identity, dependencies, tags, disabled, description, hermeticity, kind⟩ := draft
  cases kind <;> cases disabled <;> rfl

theorem propagate_without_assertion (actions : List Action) :
    propagateDisabled (actions.map Action.withoutAssertion) =
      (propagateDisabled actions).map Action.withoutAssertion := by
  rw [propagateDisabled, propagateDisabled, List.map_map, List.map_map]
  refine List.map_congr_left fun action _ => ?_
  cases action with
  | assertion a =>
      simp only [Function.comp_apply, Action.withoutAssertion, disable_assertion_eq,
        Assertion.turnedOff, Bool.true_or]
  | _ => rfl

structure TurnsOff (before after : Graph) : Prop where
  tables : after.tables = before.tables
  assertions : after.assertions = before.assertions.map Assertion.turnedOff
  operations : after.operations = before.operations
  declarations : after.declarations = before.declarations
  errors : after.errors = before.errors
  warnings : after.warnings = before.warnings

theorem mem_assertions (graph : Graph) (a : Assertion) :
    a ∈ graph.assertions ↔ .assertion a ∈ graph.actions := by
  simp [actions]

section Build

variable (settings : Settings) (drafts : List Draft) (fileErrors fileWarnings : List FileMessage)

theorem build_changed_off :
    (build settings.withoutAssertions drafts fileErrors fileWarnings).actions =
        (build settings drafts fileErrors fileWarnings).actions.map Action.withoutAssertion ∧
      (build settings.withoutAssertions drafts fileErrors fileWarnings).errors =
        (build settings drafts fileErrors fileWarnings).errors :=
  build_changed without_assertion_keeps_links settings settings.withoutAssertions drafts fileErrors
    fileWarnings (to_action_without_assertion settings) propagate_without_assertion

theorem build_turns_off : TurnsOff (build settings drafts fileErrors fileWarnings)
    (build settings.withoutAssertions drafts fileErrors fileWarnings) := by
  have final := settled_changed without_assertion_keeps_links settings settings.withoutAssertions
    drafts (to_action_without_assertion settings) propagate_without_assertion
  constructor
  case errors => exact (build_changed_off settings drafts fileErrors fileWarnings).2
  case warnings => rfl
  all_goals
    unfold build
    dsimp only
    rw [final, List.filterMap_map]
  case assertions =>
    rw [List.map_filterMap]
    refine congrArg (List.filterMap · _) (funext fun action => ?_)
    cases action <;> rfl
  all_goals
    refine congrArg (List.filterMap · _) (funext fun action => ?_)
    cases action <;> rfl

theorem build_assertions_present (draft : Draft) (drafted : draft ∈ drafts)
    (kind : draft.actionKind = .assertion) :
    ∃ a ∈ (build settings drafts fileErrors fileWarnings).assertions,
      a.common.fileName = draft.fileName ∧
      a.common.canonicalTarget = settings.canonicalTarget .assertion draft.identity ∧
      a.common.dependencyTargets = draft.dependencyTargets := by
  have known : draft.toAction settings ∈ ownActions settings drafts := List.mem_map_of_mem drafted
  obtain ⟨file, identity, dependencies, tags, disabled, description, hermeticity, draftKind⟩ := draft
  cases draftKind with
  | assertion query parent =>
      have member := (mem_built settings drafts fileErrors fileWarnings _).mpr ⟨_, known, rfl⟩
      rw [settle, Draft.toAction, disable_assertion_eq] at member
      exact ⟨_, (mem_assertions _ _).mpr member, rfl, rfl, rfl⟩
  | _ => cases kind

end Build

end Graph

theorem Lowering.tasks_statements (warehouse : Warehouse) (fullRefresh : Bool) (action : Action)
    (quiet : action.kind = .assertion → action.disabled = true) (sql : String) :
    Task.assertion sql ∉ Lowering.tasks warehouse fullRefresh action := by
  intro planned
  unfold Lowering.tasks at planned
  split at planned
  · cases planned
  · rename_i enabled
    cases action with
    | table t =>
        obtain ⟨builds, built, _⟩ := Lowering.build_table_built warehouse fullRefresh t
        simp [Lowering.tableTasks, built] at planned
    | assertion a => exact enabled (quiet rfl)
    | operation o => simp at planned
    | declaration d => cases planned

inductive SameButAssertions : Except PlanError Plan → Except PlanError Plan → Prop where
  | refused (error : PlanError) : SameButAssertions (.error error) (.error error)
  | planned {before after : Plan} (same : ∀ execution : Execution, execution.kind ≠ .assertion →
      (execution ∈ before.actions ↔ execution ∈ after.actions)) :
      SameButAssertions (.ok before) (.ok after)

namespace Graph

theorem plan_executes_own (graph : Graph) (run : RunOptions) (plan : Plan)
    (planned : graph.plan run = .ok plan) (execution : Execution)
    (listed : execution ∈ plan.actions) :
    ∃ action ∈ graph.actions, execution =
      Lowering.execution graph.settings.effectiveWarehouse run.fullRefresh action := by
  obtain ⟨_, order, _, rfl⟩ := (graph.plan_ok_iff run plan).mp planned
  obtain ⟨action, found, rfl⟩ := List.mem_map.mp listed
  obtain ⟨target, _, found⟩ := List.mem_filterMap.mp found
  exact ⟨action, List.mem_of_find?_eq_some found, rfl⟩

-- Without additions a plan executes the base of its selection.
theorem plan_of_base (graph : Graph) (wellFormed : graph.WellFormed)
    (free : graph.hasErrors = false) (run : RunOptions) (alone : run.includeDependencies = false)
    (apart : run.includeDependents = false) (base : List Target)
    (found : graph.baseSelection run = .ok base) (lists : graph.ListsBase run base) :
    ∃ plan, graph.plan run = .ok plan ∧ ∀ execution, execution ∈ plan.actions ↔
      ∃ action, graph.BaseMember run action ∧ execution =
        Lowering.execution graph.settings.effectiveWarehouse run.fullRefresh action := by
  obtain ⟨order, selected, _, members, _⟩ := graph.select_ok wellFormed.distinct run base
    lists found (graph.well_formed_apart wellFormed run)
  have chosen (t : Target) : t ∈ order ↔ ∃ action, graph.BaseMember run action ∧
      action.canonicalTarget = t := by
    rw [members]
    constructor
    · rintro ⟨action, base | ⟨_, _, _, _, _, ⟨added, _⟩ | ⟨added, _⟩⟩, there⟩
      · exact ⟨action, base, there⟩
      · rw [alone] at added
        cases added
      · rw [apart] at added
        cases added
    · rintro ⟨action, base, there⟩
      exact ⟨action, Or.inl base, there⟩
  refine ⟨_, (graph.plan_ok_iff run _).mpr ⟨free, order, selected, rfl⟩, fun execution => ?_⟩
  simp only [List.mem_map, List.mem_filterMap, chosen, graph.find_eq_some_iff wellFormed.distinct]
  constructor
  · rintro ⟨action, ⟨_, ⟨other, base, rfl⟩, member, there⟩, rfl⟩
    obtain rfl := List.inj_on_of_nodup_map wellFormed.distinct base.1 member there.symm
    exact ⟨other, base, rfl⟩
  · rintro ⟨action, base, rfl⟩
    exact ⟨action, ⟨_, ⟨action, base, rfl⟩, base.1, rfl⟩, rfl⟩

section Off

variable {before after : Graph} (changed : after.actions = before.actions.map .withoutAssertion)

include changed

theorem base_member_off (run : RunOptions) (action : Action) (other : action.kind ≠ .assertion) :
    after.BaseMember run action ↔ before.BaseMember run action := by
  have member : action ∈ after.actions ↔ action ∈ before.actions := by
    rw [changed, List.mem_map]
    constructor
    · rintro ⟨own, known, rfl⟩
      cases own with
      | assertion a => exact absurd rfl other
      | _ => exact known
    · intro known
      refine ⟨action, known, ?_⟩
      cases action with
      | assertion a => exact absurd rfl other
      | _ => rfl
  rw [BaseMember, BaseMember, member]

-- Names are resolved by target and kind alone, and nothing else fails a selection.
theorem base_refused_off (run : RunOptions) (error : Error) :
    after.baseSelection run = .error error ↔ before.baseSelection run = .error error := by
  have names : after.named = before.named :=
    funext (named_changed without_assertion_keeps_links changed)
  unfold baseSelection
  rw [names]
  split
  · rfl
  · split <;> exact ⟨nofun, nofun⟩

theorem plan_off (settings : after.settings.effectiveWarehouse = before.settings.effectiveWarehouse)
    (errors : after.errors = before.errors) (sound : before.hasErrors = false → before.WellFormed)
    (soundOff : after.hasErrors = false → after.WellFormed) (run : RunOptions)
    (alone : run.includeDependencies = false) (apart : run.includeDependents = false) :
    SameButAssertions (before.plan run) (after.plan run) := by
  have first : after.firstError? = before.firstError? := by
    rw [firstError?, firstError?, allErrors, allErrors, errors]
  cases found : before.firstError? with
  | some error =>
      have count : after.errorCount = before.errorCount := by
        rw [errorCount, errorCount, allErrors, allErrors, errors]
      rw [plan, plan, first, found, count]
      exact .refused _
  | none =>
      have free := before.first_error_none_iff.mp found
      have freeOff := after.first_error_none_iff.mp (first.trans found)
      rcases before.base_cases run with ⟨_, _, _, error, _, _, _, failed⟩ | ⟨_, base, chosen, lists⟩
      · have failedOff := (base_refused_off changed run error).mpr failed
        rw [plan, plan, first, found, before.select_refused run error failed,
          after.select_refused run error failedOff]
        exact .refused _
      · rcases after.base_cases run with
          ⟨_, _, _, error, _, _, _, failed⟩ | ⟨_, baseOff, chosenOff, listsOff⟩
        · rw [(base_refused_off changed run error).mp failed] at chosen
          cases chosen
        · obtain ⟨planned, answer, executes⟩ :=
            before.plan_of_base (sound free) free run alone apart base chosen lists
          obtain ⟨plannedOff, answerOff, executesOff⟩ :=
            after.plan_of_base (soundOff freeOff) freeOff run alone apart baseOff chosenOff listsOff
          rw [answer, answerOff]
          refine .planned fun execution other => ?_
          rw [executes, executesOff, settings]
          refine exists_congr fun action => and_congr_left ?_
          rintro rfl
          exact (base_member_off changed run action other).symm

end Off

theorem plan_runs_no_assertion (graph : Graph)
    (off : ∀ a ∈ graph.assertions, a.common.disabled = true) (run : RunOptions) (plan : Plan)
    (planned : graph.plan run = .ok plan) (execution : Execution)
    (listed : execution ∈ plan.actions) (sql : String) : .assertion sql ∉ execution.tasks := by
  obtain ⟨action, member, rfl⟩ := graph.plan_executes_own run plan planned execution listed
  refine Lowering.tasks_statements _ _ action ?_ sql
  intro kind
  cases action with
  | assertion a => exact off a ((graph.mem_assertions a).mpr member)
  | _ => cases kind

theorem build_without_assertions (settings : Settings) (drafts : List Draft)
    (fileErrors fileWarnings : List FileMessage) :
    TurnsOff (build settings drafts fileErrors fileWarnings)
      (build settings.withoutAssertions drafts fileErrors fileWarnings) ∧
    Synthesis.ofDrafts settings.withoutAssertions drafts = Synthesis.ofDrafts settings drafts ∧
    (∀ draft ∈ drafts, draft.actionKind = .assertion →
      ∃ a ∈ (build settings.withoutAssertions drafts fileErrors fileWarnings).assertions,
        a.common.fileName = draft.fileName ∧
        a.common.canonicalTarget = settings.canonicalTarget .assertion draft.identity ∧
        a.common.dependencyTargets = draft.dependencyTargets) ∧
    (∀ a ∈ (build settings.withoutAssertions drafts fileErrors fileWarnings).assertions,
      a.common.disabled = true) ∧
    (∀ run plan,
      (build settings.withoutAssertions drafts fileErrors fileWarnings).plan run = .ok plan →
        ∀ execution ∈ plan.actions, ∀ sql, .assertion sql ∉ execution.tasks) ∧
    ∀ run : RunOptions, run.includeDependencies = false → run.includeDependents = false →
      SameButAssertions ((build settings drafts fileErrors fileWarnings).plan run)
        ((build settings.withoutAssertions drafts fileErrors fileWarnings).plan run) := by
  have turned := build_turns_off settings drafts fileErrors fileWarnings
  have off : ∀ a ∈ (build settings.withoutAssertions drafts fileErrors fileWarnings).assertions,
      a.common.disabled = true := by
    rw [turned.assertions]
    rintro _ member
    obtain ⟨a, _, rfl⟩ := List.mem_map.mp member
    rfl
  refine ⟨turned, rfl, ?_, off, plan_runs_no_assertion _ off, ?_⟩
  · exact build_assertions_present settings.withoutAssertions drafts fileErrors fileWarnings
  · exact plan_off (build_changed_off settings drafts fileErrors fileWarnings).1 rfl turned.errors
      (fun free => ((error_free_iff settings drafts fileErrors fileWarnings).mp free).2)
      (fun free =>
        ((error_free_iff settings.withoutAssertions drafts fileErrors fileWarnings).mp free).2)

end Graph

end SqlWorkflow
