import SqlWorkflow.Definition
import SqlWorkflow.Graph
import SqlWorkflow.Hermeticity
import SqlWorkflow.Project
import SqlWorkflow.Sql.Statements
import SqlWorkflow.Template.Environment

-- Every name is declared before any template is rendered, so definitions can refer to each other in
-- any order. What is wrong with one of them becomes an error about its file and stops no other.
namespace SqlWorkflow

inductive DraftFault where
  | template (cause : TemplateError)
  | definition (cause : Error)
deriving DecidableEq

def DraftFault.message : DraftFault → String
  | template cause => cause.message
  | definition cause => cause.message

abbrev Rendering := StateT (List Template.Mention) (Except DraftFault)

namespace Rendering

def text (setting : Template.Setting) (template : String) : Rendering String := do
  match Template.render setting template with
  | (.ok text, mentions) =>
      modify (· ++ mentions)
      return text
  | (.error cause, _) => throw (.template cause)

def query (setting : Template.Setting) (definition : Definition) : Rendering String := do
  let text ← text setting definition.body
  if text.isEmpty then
    let kind := definition.config.actionKind
    throw (.definition (.invalidDefinition definition.path (.emptyQuery kind)))
  else return text

def statements (setting : Template.Setting) (template : String) : Rendering (List String) := do
  return Sql.splitStatements (← text setting template)

def optionalStatements (setting : Template.Setting) (template : Option String) :
    Rendering (List String) :=
  match template with
  | some template => statements setting template
  | none => pure []

def draftKind (setting : Template.Setting) (definition : Definition) : Rendering DraftKind := do
  match definition.config with
  | .table tableType _ assertions uniqueKey =>
      let query ← query setting definition
      let incrementalQuery ← match tableType with
        | .incremental => some <$> text { setting with incremental := true } definition.body
        | _ => pure none
      let preOps ← optionalStatements setting definition.preOperations
      let postOps ← optionalStatements setting definition.postOperations
      return .table tableType query incrementalQuery uniqueKey preOps postOps assertions
  | .assertion _ => return .assertion (← query setting definition) none
  | .operation _ hasOutput =>
      return .operation (← statements setting definition.body) hasOutput
  | .declaration _ => return .declaration

end Rendering

def DraftKind.statements : DraftKind → List String
  | .table _ query incrementalQuery _ preOps postOps _ =>
      preOps ++ [query] ++ incrementalQuery.toList ++ postOps
  | .assertion query _ => [query]
  | .operation queries _ => queries
  | .declaration => []

def NameTable.declaredDependencies (names : NameTable) (declared : List String) :
    Except TemplateError (List Target) :=
  declared.mapM fun raw =>
    match Reference.parse? raw with
    | none => .error (.invalidReference raw)
    | some reference => (names.targets reference).map Prod.fst

namespace Definition

def canonicalTarget (settings : Settings) (definition : Definition) : Target :=
  settings.canonicalTarget definition.config.actionKind definition.identity

def setting (names : NameTable) (definition : Definition) : Template.Setting where
  names := names
  action := definition.actionName
  target := names.settings.runtimeTarget definition.config.actionKind
    (definition.canonicalTarget names.settings)
  incremental := false

def declarationDraft (definition : Definition) : Draft where
  fileName := definition.path
  identity := definition.identity
  description := definition.config.description
  kind := .declaration

def render (names : NameTable) (definition : Definition) (options : ActionOptions) :
    Except DraftFault Draft := do
  let declared ← (names.declaredDependencies options.dependencies).mapError .template
  let (kind, mentions) ← (Rendering.draftKind (definition.setting names) definition).run []
  return {
    fileName := definition.path
    identity := definition.identity
    dependencies := declared ++ (Template.dependencies mentions).toList
    tags := options.tags
    disabled := options.disabled
    description := options.description
    hermeticity := match options.hermetic with
      | some true => .hermetic
      | some false => .nonHermetic
      | none => .infer names.settings.effectiveWarehouse kind.statements
          (Template.referenced mentions).toList
    kind }

def draft (names : NameTable) (definition : Definition) : Except FileMessage Draft :=
  match definition.config.options? with
  | none => .ok definition.declarationDraft
  | some options =>
      (definition.render names options).mapError fun fault => ⟨definition.path, fault.message⟩

def notes (definition : Definition) : List FileMessage :=
  let ignored := match definition.config with
    | .declaration _ => !definition.body.isEmpty
    | _ => false
  definition.warnings.map (FileMessage.mk definition.path) ++
    if ignored then
      [⟨definition.path, "Declarations have no query; the file body was ignored"⟩]
    else []

end Definition

def separate {α : Type} (results : List (Except FileMessage α)) : List α × List FileMessage :=
  (results.filterMap Except.toOption, results.filterMap fun result =>
    match result with
    | .ok _ => none
    | .error message => some message)

namespace Project

def readDefinition (project : Project) (path : String) : Except FileMessage Definition :=
  let read := do
    let text ← (project.folder.tree.readText (FilePath.names path)).mapError
      (Error.unreadableFile path)
    Definition.ofText path text
  read.mapError fun cause => ⟨path, cause.message⟩

def names (project : Project) (definitions : List Definition) : NameTable :=
  .ofList project.settings (definitions.map fun definition =>
    (definition.config.actionKind, definition.canonicalTarget project.settings))

def compile (project : Project) : Graph :=
  let (definitions, unread) := separate (project.definitions.toList.map project.readDefinition)
  let names := project.names definitions
  let (drafts, unrendered) := separate (definitions.map (Definition.draft names))
  let synthesis := Synthesis.ofDrafts project.settings drafts
  .build project.settings (drafts ++ synthesis.drafts)
    (unread ++ unrendered ++ synthesis.errors) (definitions.flatMap Definition.notes)

end Project

end SqlWorkflow
