import SqlWorkflow.Proofs.AssertionsOff
import SqlWorkflow.Proofs.Compile.Files
import SqlWorkflow.Proofs.Compile.Renderings
import SqlWorkflow.Proofs.Template.Calls

namespace SqlWorkflow

open Relation

namespace Definition

def Evaluates (names : NameTable) (definition : Definition) (traces : List (List Template.Call)) :
    Prop :=
  List.Forall₂ (fun part calls => Template.Calls part.1 part.2 calls)
    (definition.renderings (definition.setting names)) traces

theorem renderings_names (setting : Template.Setting) (definition : Definition) :
    ∀ part ∈ definition.renderings setting, part.1.names = setting.names := by
  intro part member
  unfold renderings at member
  split at member
  · rcases List.mem_append.mp member with body | hook
    · rcases List.mem_cons.mp body with rfl | again
      · rfl
      · split at again
        · rw [List.mem_singleton.mp again]
        · cases again
    · obtain ⟨template, _, rfl⟩ := List.mem_map.mp hook
      rfl
  · cases member
  · rw [List.mem_singleton.mp member]

theorem calls_exist (parts : List (Template.Setting × String))
    (rendered : ∀ part ∈ parts, ∃ text, (Template.render part.1 part.2).1 = .ok text) :
    ∃ traces, List.Forall₂ (fun part calls => Template.Calls part.1 part.2 calls) parts traces := by
  induction parts with
  | nil => exact ⟨[], .nil⟩
  | cons part parts ih =>
      obtain ⟨text, first⟩ := rendered part List.mem_cons_self
      obtain ⟨calls, made⟩ := Template.render_traced part.1 part.2 text first
      obtain ⟨traces, rest⟩ := ih fun other member => rendered other (List.mem_cons_of_mem _ member)
      exact ⟨calls :: traces, .cons made rest⟩

theorem calls_dependencies (names : NameTable) (parts : List (Template.Setting × String))
    (same : ∀ part ∈ parts, part.1.names = names) (traces : List (List Template.Call))
    (made : List.Forall₂ (fun part calls => Template.Calls part.1 part.2 calls) parts traces) :
    (parts.flatMap fun part => (Template.render part.1 part.2).2).filterMap
        Template.Mention.dependency =
      traces.flatten.filterMap (Template.Call.dependency? names) := by
  induction made with
  | nil => rfl
  | cons first rest ih =>
      rw [List.flatMap_cons, List.filterMap_append, Template.render_dependencies _ _ _ first,
        same _ List.mem_cons_self, List.flatten_cons, List.filterMap_append,
        ih fun part member => same part (List.mem_cons_of_mem _ member)]

theorem declaration_draft_dependencies (names : NameTable) (definition : Definition)
    (draft : Draft) (drafted : definition.draft names = .ok draft)
    (declaration : draft.actionKind = .declaration) : draft.dependencies = [] := by
  obtain ⟨_, _, rendered⟩ := draft_drafted names definition draft drafted
  rw [Draft.actionKind, (renders_draft_kind _ definition _ _ _ rendered.rendered).1.kind] at declaration
  unfold Definition.draft at drafted
  cases config : definition.config with
  | declaration options =>
      rw [config] at drafted
      obtain rfl := Except.ok.inj drafted
      rfl
  | _ => rw [config] at declaration; cases declaration

end Definition

def NameTable.StandsFor (names : NameTable) (dotted : String) (canonical : Target) : Prop :=
  ∃ reference runtime, Reference.parse? dotted = some reference ∧
    (names.resolve reference = .found canonical runtime ∨
      names.resolve reference = .missing canonical runtime)

theorem targets_ok (names : NameTable) (reference : Reference) (canonical runtime : Target)
    (targets : names.targets reference = .ok (canonical, runtime)) :
    names.resolve reference = .found canonical runtime ∨
      names.resolve reference = .missing canonical runtime := by
  unfold NameTable.targets at targets
  cases resolved : names.resolve reference with
  | found canonical' runtime' =>
      rw [resolved] at targets
      cases targets
      exact Or.inl rfl
  | missing canonical' runtime' =>
      rw [resolved] at targets
      cases targets
      exact Or.inr rfl
  | ambiguous candidates => rw [resolved] at targets; cases targets

theorem declared_dependencies_ok (names : NameTable) (listed : List String)
    (declared : List Target) (resolved : names.declaredDependencies listed = .ok declared) :
    List.Forall₂ names.StandsFor listed declared := by
  refine (map_m_ok _ _ _ resolved).imp fun dotted canonical stands => ?_
  cases spelled : Reference.parse? dotted with
  | none => rw [spelled] at stands; cases stands
  | some reference =>
      rw [spelled] at stands
      dsimp only at stands
      cases targets : names.targets reference with
      | error cause => rw [targets] at stands; cases stands
      | ok pair =>
          rw [targets] at stands
          obtain rfl := Except.ok.inj stands
          exact ⟨reference, pair.2, spelled, targets_ok names reference _ _ targets⟩

theorem draft_dependencies (names : NameTable) (definition : Definition) (draft : Draft)
    (drafted : definition.draft names = .ok draft) : ∃ declared,
    List.Forall₂ names.StandsFor
      ((definition.config.options?.map ActionOptions.dependencies).getD []) declared ∧
    (∃ traces, definition.Evaluates names traces) ∧
    ∀ traces, definition.Evaluates names traces → ∃ referenced,
      draft.dependencies = declared ++ referenced ∧ Ascending referenced ∧
      ∀ t, t ∈ referenced ↔
        ∃ calls ∈ traces, ∃ call ∈ calls, call.dependency? names = some t := by
  obtain ⟨declared, mentions, drafted⟩ := Definition.draft_drafted names definition draft drafted
  obtain ⟨_, rendered, kept⟩ :=
    Definition.renders_draft_kind _ definition _ _ _ drafted.rendered
  rw [List.nil_append] at kept
  refine ⟨declared, declared_dependencies_ok names _ declared drafted.resolved,
    Definition.calls_exist _ rendered, fun traces evaluates => ?_⟩
  refine ⟨_, drafted.dependencies, (Template.dependencies mentions).ascending, fun t => ?_⟩
  have called := Definition.calls_dependencies names _ (Definition.renderings_names _ definition)
    traces evaluates
  rw [Template.dependencies, SortedSet.mem_of_list, kept, called]
  simp only [List.mem_filterMap, List.mem_flatten]
  constructor
  · rintro ⟨call, ⟨calls, made, member⟩, names⟩
    exact ⟨calls, made, call, member, names⟩
  · rintro ⟨calls, made, call, member, names⟩
    exact ⟨call, ⟨calls, made, member⟩, names⟩

namespace Graph

structure Links (graph : Graph) (file : String) (canonical : Target) (dependencies : List Target) :
    Prop where
  listed : ∃ action ∈ graph.actions, action.fileName = file ∧ action.canonicalTarget = canonical ∧
    Ascending action.dependencyTargets ∧ ∀ t, t ∈ action.dependencyTargets ↔ t ∈ dependencies
  first : ∀ run plan, graph.plan run = .ok plan → ∃ planned : List Action,
    plan.actions = planned.map
      (Lowering.execution graph.settings.effectiveWarehouse run.fullRefresh) ∧
    (∀ action ∈ planned, action ∈ graph.actions) ∧
    ∀ (i j : Nat) (later : i < planned.length) (earlier : j < planned.length),
      planned[i].canonicalTarget = canonical → planned[j].canonicalTarget ∈ dependencies → j < i

theorem to_action_dependencies (settings : Settings) (draft : Draft)
    (declaration : draft.actionKind = .declaration → draft.dependencies = []) :
    (draft.toAction settings).dependencyTargets = draft.dependencyTargets := by
  obtain ⟨file, identity, dependencies, tags, disabled, description, hermeticity, kind⟩ := draft
  cases kind with
  | declaration =>
      obtain rfl : dependencies = [] := declaration rfl
      rfl
  | _ => rfl

section Build

variable (settings : Settings) (drafts : List Draft) (fileErrors fileWarnings : List FileMessage)

theorem built_lists (draft : Draft) (member : draft ∈ drafts)
    (declaration : draft.actionKind = .declaration → draft.dependencies = []) :
    ∃ action ∈ (build settings drafts fileErrors fileWarnings).actions,
      action.fileName = draft.fileName ∧
      action.canonicalTarget = settings.canonicalTarget draft.actionKind draft.identity ∧
      Ascending action.dependencyTargets ∧
      ∀ t, t ∈ action.dependencyTargets ↔ t ∈ draft.dependencies := by
  have known : draft.toAction settings ∈ ownActions settings drafts := List.mem_map_of_mem member
  have built := (mem_built settings drafts fileErrors fileWarnings _).mpr ⟨_, known, rfl⟩
  have dependencies := to_action_dependencies settings draft declaration
  refine ⟨_, built, ?_, ?_, ?_, fun t => ?_⟩
  · rw [settle, disable_assertion_file, to_action_file]
  · rw [settle_canonical, to_action_canonical]
  · rw [settle_dependencies, dependencies]
    exact (SortedSet.ofList draft.dependencies).ascending
  · rw [settle_dependencies, dependencies]
    exact SortedSet.mem_of_list draft.dependencies t

theorem built_planned (run : RunOptions) (plan : Plan)
    (planned : (build settings drafts fileErrors fileWarnings).plan run = .ok plan) :
    ∃ order actions,
      (build settings drafts fileErrors fileWarnings).Executes run order actions plan ∧
      plan.actions = actions.map (Lowering.execution
        (build settings drafts fileErrors fileWarnings).settings.effectiveWarehouse
        run.fullRefresh) := by
  have sound := error_free_iff settings drafts fileErrors fileWarnings
  generalize build settings drafts fileErrors fileWarnings = graph at planned sound ⊢
  obtain ⟨free, order, selected, made⟩ := (graph.plan_ok_iff run plan).mp planned
  have wellFormed := (sound.mp free).2
  obtain ⟨_, once, members, sorted⟩ := graph.well_formed_selected wellFormed run order selected
  obtain ⟨other, answer, executes⟩ :=
    graph.plan_of_select wellFormed run order free selected once members sorted
  obtain rfl := Except.ok.inj (answer.symm.trans planned)
  exact ⟨order, _, executes, congrArg Plan.actions made⟩

theorem build_links (draft : Draft) (member : draft ∈ drafts)
    (declaration : draft.actionKind = .declaration → draft.dependencies = []) :
    (build settings drafts fileErrors fileWarnings).Links draft.fileName
      (settings.canonicalTarget draft.actionKind draft.identity) draft.dependencies := by
  have listed := built_lists settings drafts fileErrors fileWarnings draft member declaration
  refine ⟨listed, fun run plan planned => ?_⟩
  obtain ⟨action, known, _, canonical, _, lists⟩ := listed
  obtain ⟨order, actions, executes, made⟩ :=
    built_planned settings drafts fileErrors fileWarnings run plan planned
  refine ⟨actions, made, fun other runs => (executes.runnable other runs).1, ?_⟩
  intro i j later earlier here depends
  have targets := executes.targets
  subst targets
  refine executes.dependenciesFirst i j (by simpa using later) (by simpa using earlier) ?_
  simp only [List.getElem_map]
  refine TransGen.single ⟨action, known, canonical.trans here.symm, ?_⟩
  exact (lists _).mpr depends

end Build

end Graph

theorem draft_keeps_references (names : NameTable) (definition : Definition) (draft : Draft)
    (drafted : definition.draft names = .ok draft) :
    (∃ declared,
      List.Forall₂ names.StandsFor
        ((definition.config.options?.map ActionOptions.dependencies).getD []) declared ∧
      (∃ traces, definition.Evaluates names traces) ∧
      ∀ traces, definition.Evaluates names traces → ∃ referenced,
        draft.dependencies = declared ++ referenced ∧ Ascending referenced ∧
        ∀ t, t ∈ referenced ↔
          ∃ calls ∈ traces, ∃ call ∈ calls, call.dependency? names = some t) ∧
    ∀ drafts fileErrors fileWarnings, draft ∈ drafts →
      (Graph.build names.settings drafts fileErrors fileWarnings).Links definition.path
        (definition.canonicalTarget names.settings) draft.dependencies := by
  refine ⟨draft_dependencies names definition draft drafted,
    fun drafts fileErrors fileWarnings member => ?_⟩
  have links := Graph.build_links names.settings drafts fileErrors fileWarnings draft member
    (Definition.declaration_draft_dependencies names definition draft drafted)
  rwa [Compile.draft_file names definition draft drafted,
    Definition.draft_canonical names definition draft drafted] at links

def hourly : Definition where
  path := "hourly.sqlx"
  config := .table .incremental { dependencies := ["base"], hermetic := some true } {} ["id"]
  preOperations := some "delete from $\x7bref('log')\x7d"
  body := "select 1 as id\x7b% if incremental() %\x7d from $\x7bref('late')\x7d\x7b% endif %\x7d"

def hourlyNames : NameTable :=
  .ofList {} (["base", "hourly", "late", "log"].map fun name => (.table, ⟨none, "dataform", name⟩))

def hourlyDraft : Draft where
  fileName := "hourly.sqlx"
  identity := { name := "hourly" }
  dependencies := ["base", "late", "log"].map (⟨none, "dataform", ·⟩)
  kind := .table .incremental "select 1 as id" (some "select 1 as id from `dataform.late`") ["id"]
    ["delete from `dataform.log`"] [] {}

theorem hourly_keeps_references : hourly.draft hourlyNames = .ok hourlyDraft ∧
    (∃ declared traces referenced, hourly.Evaluates hourlyNames traces ∧
      hourlyDraft.dependencies = declared ++ referenced ∧
      ∀ t, t ∈ referenced ↔
        ∃ calls ∈ traces, ∃ call ∈ calls, call.dependency? hourlyNames = some t) ∧
    (Graph.build hourlyNames.settings [hourlyDraft] [] []).Links "hourly.sqlx"
      (hourly.canonicalTarget hourlyNames.settings) hourlyDraft.dependencies := by
  have drafted : hourly.draft hourlyNames = .ok hourlyDraft := by decide +kernel
  obtain ⟨⟨declared, _, ⟨traces, evaluates⟩, exactly⟩, links⟩ :=
    draft_keeps_references hourlyNames hourly hourlyDraft drafted
  obtain ⟨referenced, dependencies, _, members⟩ := exactly traces evaluates
  exact ⟨drafted, ⟨declared, traces, referenced, evaluates, dependencies, members⟩,
    links [hourlyDraft] [] [] (List.mem_singleton_self _)⟩

end SqlWorkflow
