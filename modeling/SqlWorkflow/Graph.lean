import SqlWorkflow.Dag
import SqlWorkflow.Draft

namespace SqlWorkflow

abbrev Messages := SortedMap String (List String)

structure Graph where
  settings : Settings := {}
  tables : List Table := []
  assertions : List Assertion := []
  operations : List Operation := []
  declarations : List Declaration := []
  errors : Messages := ∅
  warnings : Messages := ∅
deriving DecidableEq, Inhabited

namespace Graph

def actions (graph : Graph) : List Action :=
  graph.tables.map .table ++ graph.assertions.map .assertion ++
    graph.operations.map .operation ++ graph.declarations.map .declaration

def find? (graph : Graph) (target : Target) : Option Action :=
  graph.actions.find? (·.canonicalTarget = target)

def hasErrors (graph : Graph) : Bool :=
  graph.errors.toList.any fun entry => !entry.2.isEmpty

def allErrors (graph : Graph) : List FileMessage :=
  graph.errors.toList.flatMap fun entry => entry.2.map fun message => ⟨entry.1, message⟩

def firstError? (graph : Graph) : Option FileMessage :=
  graph.allErrors.head?

def errorCount (graph : Graph) : Nat :=
  graph.allErrors.length

-- The dependencies of every action by canonical target; the last action of a target counts.
def dependencies (graph : Graph) : SortedMap Target (List Target) :=
  .ofList (graph.actions.map fun action => (action.canonicalTarget, action.dependencyTargets))

def dag (graph : Graph) : Dag :=
  .build graph.dependencies

end Graph

def Draft.dependencyTargets (draft : Draft) : List Target :=
  (SortedSet.ofList draft.dependencies).toList

def Draft.common (settings : Settings) (draft : Draft) : ActionMeta :=
  let kind := draft.actionKind
  let canonical := settings.canonicalTarget kind draft.identity
  { fileName := draft.fileName
    target := settings.runtimeTarget kind canonical
    canonicalTarget := canonical
    dependencyTargets := draft.dependencyTargets
    disabled := draft.disabled || (kind = .assertion && settings.assertionsDisabled)
    tags := draft.tags
    hermeticity := draft.hermeticity
    description := draft.description }

def Draft.toAction (settings : Settings) (draft : Draft) : Action :=
  let common := draft.common settings
  match draft.kind with
  | .table tableType query incrementalQuery uniqueKey preOps postOps _ =>
      .table { tableType, enumType := tableType, common, query, incrementalQuery, uniqueKey,
               preOps, postOps }
  | .assertion query parent => .assertion { common, query, parentAction := parent }
  | .operation queries hasOutput => .operation { common, queries, hasOutput }
  | .declaration =>
      .declaration { fileName := common.fileName, target := common.target
                     canonicalTarget := common.canonicalTarget, description := common.description }

namespace Graph

def actionOrder : Action → Action → Ordering :=
  compareLex (compareOn Action.canonicalTarget) (compareOn Action.fileName)

def orderedActions (settings : Settings) (drafts : List Draft) : List Action :=
  (drafts.map (Draft.toAction settings)).mergeSort fun a b => (actionOrder a b).isLE

def targetsOf (actions : List Action) : List Target :=
  (SortedSet.ofList (actions.map Action.canonicalTarget)).toList

def actionsAt (actions : List Action) (target : Target) : List Action :=
  actions.filter (·.canonicalTarget = target)

def duplicateErrors (actions : List Action) : List FileMessage :=
  (targetsOf actions).flatMap fun target =>
    let files := (actionsAt actions target).map Action.fileName
    if files.length < 2 then []
    else files.map fun file => ⟨file, (Error.duplicateTarget target files).message⟩

def unresolvedErrors (actions : List Action) : List FileMessage :=
  let known := targetsOf actions
  actions.flatMap fun action =>
    (action.dependencyTargets.filter (· ∉ known)).map fun dependency =>
      ⟨action.fileName, (Error.unresolvedDependency action.canonicalTarget dependency).message⟩

def mergedDependencies (actions : List Action) : SortedMap Target (List Target) :=
  .ofList ((targetsOf actions).map fun target =>
    (target, (actionsAt actions target).flatMap Action.dependencyTargets))

def cycleErrors (actions : List Action) : List FileMessage :=
  (Dag.build (mergedDependencies actions)).cycles.flatMap fun cycle =>
    ((actions.filter (·.canonicalTarget ∈ cycle)).map Action.fileName).map fun file =>
      ⟨file, (Error.circularDependency cycle).message⟩

def groupErrors (messages : List FileMessage) : Messages :=
  .ofList ((SortedSet.ofList (messages.map FileMessage.path)).toList.map fun path =>
    (path, (SortedSet.ofList ((messages.filter (·.path = path)).map FileMessage.message)).toList))

def groupWarnings (messages : List FileMessage) : Messages :=
  .ofList ((SortedSet.ofList (messages.map FileMessage.path)).toList.map fun path =>
    (path, (messages.filter (·.path = path)).map FileMessage.message))

def disableAssertion (disabled : List Target) : Action → Action
  | .assertion a =>
      if a.common.dependencyTargets.any (· ∈ disabled) then
        .assertion { a with common := { a.common with disabled := true } }
      else .assertion a
  | action => action

def propagateDisabled (actions : List Action) : List Action :=
  let disabled := (actions.filter Action.disabled).map Action.canonicalTarget
  actions.map (disableAssertion disabled)

def build (settings : Settings) (drafts : List Draft) (fileErrors fileWarnings : List FileMessage) :
    Graph :=
  let actions := orderedActions settings drafts
  let final := propagateDisabled actions
  { settings
    tables := final.filterMap fun | .table t => some t | _ => none
    assertions := final.filterMap fun | .assertion a => some a | _ => none
    operations := final.filterMap fun | .operation o => some o | _ => none
    declarations := final.filterMap fun | .declaration d => some d | _ => none
    errors := groupErrors
      (fileErrors ++ duplicateErrors actions ++ unresolvedErrors actions ++ cycleErrors actions)
    warnings := groupWarnings fileWarnings }

end Graph

end SqlWorkflow
