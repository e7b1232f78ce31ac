import SqlWorkflow.Proofs.Graph.Changed
import SqlWorkflow.Proofs.Graph.Disabled

namespace SqlWorkflow

namespace Action

def withTarget (target : Target) : Action → Action
  | .table t => .table { t with common := { t.common with target } }
  | .assertion a => .assertion { a with common := { a.common with target } }
  | .operation o => .operation { o with common := { o.common with target } }
  | .declaration d => .declaration { d with target }

def SameButSchema (a b : Action) : Prop :=
  ∃ schema, b = a.withTarget { a.target with schema }

structure RunsIn (suffix : Option String) (action : Action) : Prop where
  unchanged : action.kind = .declaration ∨ suffix.getD "" = "" →
    action.target.schema = action.canonicalTarget.schema
  appended : ∀ text, action.kind ≠ .declaration → suffix = some text → text ≠ "" →
    action.target.schema = action.canonicalTarget.schema ++ "_" ++ text

def addressed (settings : Settings) (action : Action) : Action :=
  action.withTarget (settings.runtimeTarget action.kind action.canonicalTarget)

section WithTarget

variable (action : Action) (target : Target)

theorem with_target_kind : (action.withTarget target).kind = action.kind := by
  cases action <;> rfl

theorem with_target_canonical :
    (action.withTarget target).canonicalTarget = action.canonicalTarget := by
  cases action <;> rfl

theorem with_target_file : (action.withTarget target).fileName = action.fileName := by
  cases action <;> rfl

theorem with_target_dependencies :
    (action.withTarget target).dependencyTargets = action.dependencyTargets := by
  cases action <;> rfl

theorem with_target_disabled : (action.withTarget target).disabled = action.disabled := by
  cases action <;> rfl

theorem with_target_tags : (action.withTarget target).tags = action.tags := by
  cases action <;> rfl

theorem disable_with_target (disabled : List Target) :
    Graph.disableAssertion disabled (action.withTarget target) =
      (Graph.disableAssertion disabled action).withTarget target := by
  cases action with
  | assertion a =>
      rw [withTarget, Graph.disable_assertion_eq, Graph.disable_assertion_eq]
      rfl
  | _ => rfl

end WithTarget

end Action

namespace Graph

open SqlWorkflow.Action

theorem addressed_keeps_links (settings : Settings) : KeepsLinks (Action.addressed settings) where
  kind action := with_target_kind action _
  canonical action := with_target_canonical action _
  file action := with_target_file action _
  dependencies action := with_target_dependencies action _

theorem to_action_addressed (settings : Settings) (suffix : Option String) (draft : Draft) :
    Draft.toAction { settings with schemaSuffix := suffix } draft =
      (Draft.toAction settings draft).addressed { settings with schemaSuffix := suffix } := by
  obtain ⟨file, identity, dependencies, tags, disabled, description, hermeticity, kind⟩ := draft
  cases kind <;> rfl

theorem propagate_addressed (settings : Settings) (actions : List Action) :
    propagateDisabled (actions.map (Action.addressed settings)) =
      (propagateDisabled actions).map (Action.addressed settings) := by
  have flags (action : Action) : (action.addressed settings).disabled = action.disabled :=
    with_target_disabled action _
  simp only [propagateDisabled, List.filter_map, List.map_map, Function.comp_def, flags,
    (addressed_keeps_links settings).canonical]
  refine List.map_congr_left fun action _ => ?_
  rw [Action.addressed, disable_with_target, Action.addressed, disable_assertion_kind,
    disable_assertion_canonical]

theorem disable_assertion_target (disabled : List Target) (action : Action) :
    (disableAssertion disabled action).target = action.target := by
  cases action with
  | assertion a => rw [disable_assertion_eq]; rfl
  | _ => rfl

theorem to_action_target (settings : Settings) (draft : Draft) :
    (draft.toAction settings).target = settings.runtimeTarget (draft.toAction settings).kind
      (draft.toAction settings).canonicalTarget := by
  obtain ⟨file, identity, dependencies, tags, disabled, description, hermeticity, kind⟩ := draft
  cases kind <;> rfl

theorem build_target (settings : Settings) (drafts : List Draft)
    (fileErrors fileWarnings : List FileMessage) (action : Action)
    (member : action ∈ (build settings drafts fileErrors fileWarnings).actions) :
    action.target = settings.runtimeTarget action.kind action.canonicalTarget := by
  obtain ⟨own, known, rfl⟩ := (mem_built settings drafts fileErrors fileWarnings action).mp member
  obtain ⟨draft, _, rfl⟩ := List.mem_map.mp known
  rw [settle_kind, settle_canonical, settle, disable_assertion_target, to_action_target]

theorem runtime_target_database (settings : Settings) (kind : ActionKind) (canonical : Target) :
    (settings.runtimeTarget kind canonical).database = canonical.database := by
  cases kind with
  | declaration => rfl
  | _ => exact Target.with_suffix_database canonical _

theorem runtime_target_name (settings : Settings) (kind : ActionKind) (canonical : Target) :
    (settings.runtimeTarget kind canonical).name = canonical.name := by
  cases kind with
  | declaration => rfl
  | _ => exact Target.with_suffix_name canonical _

theorem runs_in_runtime_target (settings : Settings) (action : Action)
    (target : action.target = settings.runtimeTarget action.kind action.canonicalTarget) :
    action.RunsIn settings.schemaSuffix := by
  constructor
  · intro plain
    rw [target]
    cases kind : action.kind with
    | declaration => rfl
    | _ =>
        have empty : settings.schemaSuffix.getD "" = "" := by simpa [kind] using plain
        cases suffix : settings.schemaSuffix with
        | none => simp [Settings.runtimeTarget, suffix, Target.withSuffix]
        | some text =>
            obtain rfl : text = "" := by simpa [suffix] using empty
            simp [Settings.runtimeTarget, suffix, Target.withSuffix]
  · intro text owned suffix filled
    rw [target]
    cases kind : action.kind with
    | declaration => exact absurd kind owned
    | _ => simp [Settings.runtimeTarget, suffix, Target.withSuffix, filled]

theorem same_but_schema_addressed (settings other : Settings) (action : Action)
    (target : action.target = settings.runtimeTarget action.kind action.canonicalTarget) :
    action.SameButSchema (action.addressed other) := by
  have database : (other.runtimeTarget action.kind action.canonicalTarget).database =
      action.target.database := by
    rw [target, runtime_target_database, runtime_target_database]
  have name : (other.runtimeTarget action.kind action.canonicalTarget).name =
      action.target.name := by
    rw [target, runtime_target_name, runtime_target_name]
  refine ⟨(other.runtimeTarget action.kind action.canonicalTarget).schema, ?_⟩
  dsimp only
  rw [addressed, ← database, ← name]

section Selection

variable {change : Action → Action} (keeps : KeepsLinks change)
  (flags : ∀ action, (change action).disabled = action.disabled)
  (tags : ∀ action, (change action).tags = action.tags)
  {graph other : Graph} (changed : other.actions = graph.actions.map change)

include keeps flags

theorem enabled_changed (action : Action) : (change action).enabled = action.enabled := by
  rw [Action.enabled, Action.enabled, runnable_changed keeps, flags]

include changed

theorem extra_selection_changed (run : RunOptions) (base : List Target) :
    other.extraSelection run base = graph.extraSelection run base := by
  simp only [extraSelection, dag_changed keeps changed, find_changed keeps changed,
    Option.any_map, enabled_changed keeps flags]

include tags

theorem base_selection_changed (run : RunOptions) :
    other.baseSelection run = graph.baseSelection run := by
  have names : other.named = graph.named := funext (named_changed keeps changed)
  have enabled := enabled_changed keeps flags
  simp only [baseSelection, names, tagged, allEnabled, changed, List.filter_map, List.map_map,
    Function.comp_def, enabled, tags, keeps.canonical]

theorem select_changed (run : RunOptions) : other.select run = graph.select run := by
  simp only [select, base_selection_changed keeps flags tags changed,
    dag_changed keeps changed, extra_selection_changed keeps flags changed]

end Selection

theorem build_suffix_changed (settings : Settings) (suffix : Option String) (drafts : List Draft)
    (fileErrors fileWarnings : List FileMessage) :
    List.Forall₂ SameButSchema (build settings drafts fileErrors fileWarnings).actions
      (build { settings with schemaSuffix := suffix } drafts fileErrors fileWarnings).actions ∧
    (∀ action ∈ (build settings drafts fileErrors fileWarnings).actions,
      action.RunsIn settings.schemaSuffix) ∧
    (build { settings with schemaSuffix := suffix } drafts fileErrors fileWarnings).errors =
      (build settings drafts fileErrors fileWarnings).errors ∧
    (build { settings with schemaSuffix := suffix } drafts fileErrors fileWarnings).warnings =
      (build settings drafts fileErrors fileWarnings).warnings ∧
    ∀ run, (build { settings with schemaSuffix := suffix } drafts fileErrors fileWarnings).select
      run = (build settings drafts fileErrors fileWarnings).select run := by
  have keeps := addressed_keeps_links { settings with schemaSuffix := suffix }
  have target := build_target settings drafts fileErrors fileWarnings
  obtain ⟨changed, errors⟩ := build_changed keeps settings
    { settings with schemaSuffix := suffix } drafts fileErrors fileWarnings
    (to_action_addressed settings suffix) (propagate_addressed _)
  refine ⟨?_, fun action member => runs_in_runtime_target settings action (target action member),
    errors, rfl, fun run => ?_⟩
  · rw [changed, List.forall₂_map_right_iff, List.forall₂_same]
    exact fun action member =>
      same_but_schema_addressed settings _ action (target action member)
  · exact select_changed keeps (fun action => with_target_disabled action _)
      (fun action => with_target_tags action _) changed run

end Graph

end SqlWorkflow
