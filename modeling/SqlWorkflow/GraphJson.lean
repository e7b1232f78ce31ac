import SqlWorkflow.Json
import SqlWorkflow.Plan

namespace SqlWorkflow

namespace Target

def toJson (target : Target) : Json :=
  .object (Json.optional "database" .string target.database ++
    [("schema", .string target.schema), ("name", .string target.name)])

def ofJson? (json : Json) : Option Target := do
  let members ← json.membersAs? ["database", "schema", "name"]
  let database ← Json.withDefault members "database" (Json.nullable Json.string?) none
  let schema ← Json.required members "schema" Json.string?
  let name ← Json.required members "name" Json.string?
  return { database, schema, name }

end Target

namespace Storage

def fieldNames : List String := ["bucketName", "tableFolderRoot", "tableFolderSubpath"]

def toJson (storage : Storage) : Json :=
  .object (Json.optional "bucketName" .string storage.bucketName ++
    Json.optional "tableFolderRoot" .string storage.tableFolderRoot ++
    Json.optional "tableFolderSubpath" .string storage.tableFolderSubpath)

def ofJson? (json : Json) : Option Storage := do
  let members ← json.membersAs? fieldNames
  if members.any (·.1 ∉ fieldNames) then none
  let text := Json.nullable Json.string?
  let bucketName ← Json.withDefault members "bucketName" text none
  let tableFolderRoot ← Json.withDefault members "tableFolderRoot" text none
  let tableFolderSubpath ← Json.withDefault members "tableFolderSubpath" text none
  return { bucketName, tableFolderRoot, tableFolderSubpath }

end Storage

namespace Settings

def fieldNames : List String :=
  ["warehouse", "defaultDatabase", "defaultSchema", "assertionSchema", "defaultLocation",
    "schemaSuffix", "vars", "disableAssertions", "coreVersion", "storage"]

def toJson (settings : Settings) : Json :=
  .object (Json.optional "warehouse" (fun w => .string w.word) settings.warehouse ++
    Json.optional "defaultDatabase" .string settings.defaultDatabase ++
    Json.optional "defaultSchema" .string settings.defaultSchema ++
    Json.optional "assertionSchema" .string settings.assertionSchema ++
    Json.optional "defaultLocation" .string settings.defaultLocation ++
    Json.optional "schemaSuffix" .string settings.schemaSuffix ++
    (if settings.vars.isEmpty then [] else [("vars", Json.ofMap .string settings.vars)]) ++
    Json.optional "disableAssertions" .bool settings.disableAssertions ++
    Json.optional "coreVersion" .string settings.coreVersion ++
    Json.optional "storage" Storage.toJson settings.storage)

def varText? : Json → Option String
  | .string value => some value
  | .int value => some (toString value)
  | .bool value => some (toString value)
  | _ => none

def ofJson? (json : Json) : Option Settings := do
  let members ← json.membersAs? fieldNames
  if members.any (·.1 ∉ fieldNames) then none
  let text := Json.nullable Json.string?
  let warehouse ← Json.withDefault members "warehouse"
    (Json.nullable fun w => w.string?.bind Warehouse.ofWord?) none
  let defaultDatabase ← Json.withDefault members "defaultDatabase" text none
  let defaultSchema ← Json.withDefault members "defaultSchema" text none
  let assertionSchema ← Json.withDefault members "assertionSchema" text none
  let defaultLocation ← Json.withDefault members "defaultLocation" text none
  let schemaSuffix ← Json.withDefault members "schemaSuffix" text none
  let vars ← Json.withDefault members "vars" (Json.map? varText?) ∅
  let disableAssertions ←
    Json.withDefault members "disableAssertions" (Json.nullable Json.bool?) none
  let coreVersion ← Json.withDefault members "coreVersion" text none
  let storage ← Json.withDefault members "storage" (Json.nullable Storage.ofJson?) none
  return { warehouse, defaultDatabase, defaultSchema, assertionSchema, defaultLocation,
           schemaSuffix, vars, disableAssertions, coreVersion, storage }

end Settings

namespace ActionMeta

def toMembers (common : ActionMeta) : List (String × Json) :=
  [("fileName", .string common.fileName), ("target", common.target.toJson),
    ("canonicalTarget", common.canonicalTarget.toJson),
    ("dependencyTargets", .array (common.dependencyTargets.map Target.toJson)),
    ("disabled", .bool common.disabled), ("tags", Json.strings common.tags),
    ("hermeticity", .string common.hermeticity.word)] ++
    Json.optional "description" .string common.description

def ofMembers? (members : List (String × Json)) : Option ActionMeta := do
  let fileName ← Json.required members "fileName" Json.string?
  let target ← Json.required members "target" Target.ofJson?
  let canonicalTarget ← Json.required members "canonicalTarget" Target.ofJson?
  let dependencyTargets ←
    Json.withDefault members "dependencyTargets" (Json.list? Target.ofJson?) []
  let disabled ← Json.withDefault members "disabled" Json.bool? false
  let tags ← Json.withDefault members "tags" (Json.list? Json.string?) []
  let hermeticity ← Json.withDefault members "hermeticity"
    (fun w => w.string?.bind Hermeticity.ofWord?) .hermetic
  let description ← Json.withDefault members "description" (Json.nullable Json.string?) none
  return { fileName, target, canonicalTarget, dependencyTargets, disabled, tags, hermeticity,
           description }

end ActionMeta

namespace Table

def toJson (table : Table) : Json :=
  .object ([("type", .string table.tableType.word),
      ("enumType", .string table.enumType.capitals)] ++
    table.common.toMembers ++ [("query", .string table.query)] ++
    Json.optional "incrementalQuery" .string table.incrementalQuery ++
    Json.optionalStrings "uniqueKey" table.uniqueKey ++
    Json.optionalStrings "preOps" table.preOps ++ Json.optionalStrings "postOps" table.postOps)

def ofJson? : Json → Option Table
  | .object members => do
      let tableType ← Json.required members "type" fun w => w.string?.bind TableType.ofWord?
      let enumType ← Json.required members "enumType" fun w => w.string?.bind TableType.ofCapitals?
      let common ← ActionMeta.ofMembers? members
      let query ← Json.required members "query" Json.string?
      let incrementalQuery ←
        Json.withDefault members "incrementalQuery" (Json.nullable Json.string?) none
      let uniqueKey ← Json.withDefault members "uniqueKey" (Json.list? Json.string?) []
      let preOps ← Json.withDefault members "preOps" (Json.list? Json.string?) []
      let postOps ← Json.withDefault members "postOps" (Json.list? Json.string?) []
      return { tableType, enumType, common, query, incrementalQuery, uniqueKey, preOps, postOps }
  | _ => none

end Table

namespace Assertion

def toJson (assertion : Assertion) : Json :=
  .object (assertion.common.toMembers ++ [("query", .string assertion.query)] ++
    Json.optional "parentAction" Target.toJson assertion.parentAction)

def ofJson? : Json → Option Assertion
  | .object members => do
      let common ← ActionMeta.ofMembers? members
      let query ← Json.required members "query" Json.string?
      let parentAction ← Json.withDefault members "parentAction" (Json.nullable Target.ofJson?) none
      return { common, query, parentAction }
  | _ => none

end Assertion

namespace Operation

def toJson (operation : Operation) : Json :=
  .object (operation.common.toMembers ++
    [("queries", Json.strings operation.queries), ("hasOutput", .bool operation.hasOutput)])

def ofJson? : Json → Option Operation
  | .object members => do
      let common ← ActionMeta.ofMembers? members
      let queries ← Json.required members "queries" (Json.list? Json.string?)
      let hasOutput ← Json.withDefault members "hasOutput" Json.bool? false
      return { common, queries, hasOutput }
  | _ => none

end Operation

namespace Declaration

def toJson (declaration : Declaration) : Json :=
  .object ([("fileName", .string declaration.fileName), ("target", declaration.target.toJson),
    ("canonicalTarget", declaration.canonicalTarget.toJson)] ++
    Json.optional "description" .string declaration.description)

def ofJson? (json : Json) : Option Declaration := do
  let members ← json.membersAs? ["fileName", "target", "canonicalTarget", "description"]
  let fileName ← Json.required members "fileName" Json.string?
  let target ← Json.required members "target" Target.ofJson?
  let canonicalTarget ← Json.required members "canonicalTarget" Target.ofJson?
  let description ← Json.withDefault members "description" (Json.nullable Json.string?) none
  return { fileName, target, canonicalTarget, description }

end Declaration

namespace Graph

def toJson (graph : Graph) : Json :=
  .object [("projectConfig", graph.settings.toJson),
    ("tables", .array (graph.tables.map Table.toJson)),
    ("assertions", .array (graph.assertions.map Assertion.toJson)),
    ("operations", .array (graph.operations.map Operation.toJson)),
    ("declarations", .array (graph.declarations.map Declaration.toJson)),
    ("graphErrors", Json.ofMap Json.strings graph.errors),
    ("graphWarnings", Json.ofMap Json.strings graph.warnings)]

def ofJson? (json : Json) : Option Graph := do
  let members ← json.membersAs? ["projectConfig", "tables", "assertions", "operations",
    "declarations", "graphErrors", "graphWarnings"]
  let settings ← Json.required members "projectConfig" Settings.ofJson?
  let tables ← Json.required members "tables" (Json.list? Table.ofJson?)
  let assertions ← Json.required members "assertions" (Json.list? Assertion.ofJson?)
  let operations ← Json.required members "operations" (Json.list? Operation.ofJson?)
  let declarations ← Json.required members "declarations" (Json.list? Declaration.ofJson?)
  let errors ← Json.required members "graphErrors" (Json.map? (Json.list? Json.string?))
  let warnings ← Json.required members "graphWarnings" (Json.map? (Json.list? Json.string?))
  return { settings, tables, assertions, operations, declarations, errors, warnings }

end Graph

def RunOptions.toJson (run : RunOptions) : Json :=
  .object [("actions", Json.strings run.actions), ("tags", Json.strings run.tags),
    ("fullRefresh", .bool run.fullRefresh),
    ("includeDependencies", .bool run.includeDependencies),
    ("includeDependents", .bool run.includeDependents)]

def Task.toJson (task : Task) : Json :=
  .object [("type", .string task.word), ("statement", .string task.sql)]

def Execution.toJson (execution : Execution) : Json :=
  .object ([("name", .string execution.name), ("type", .string execution.kind.word)] ++
    Json.optional "tableType" (fun t => .string t.word) execution.tableType ++
    [("target", execution.target.toJson),
      ("dependencyTargets", .array (execution.dependencyTargets.map Target.toJson)),
      ("hermeticity", .string execution.hermeticity.word),
      ("tasks", .array (execution.tasks.map Task.toJson))])

-- Nothing is known about the warehouse before a run, so its list of tables is empty.
def Plan.toJson (plan : Plan) : Json :=
  .object [("projectConfig", plan.settings.toJson), ("runConfig", plan.run.toJson),
    ("warehouseState", .object [("tables", .array [])]),
    ("actions", .array (plan.actions.map Execution.toJson))]

end SqlWorkflow
