import SqlWorkflow.GraphJson
import SqlWorkflow.Proofs.Json.Printing

namespace SqlWorkflow

open Json

namespace Target

def jsonFields (target : Target) : List (String × Option Json) :=
  [("database", target.database.map .string), ("schema", some (.string target.schema)),
    ("name", some (.string target.name))]

theorem to_json_present (target : Target) :
    target.toJson = .object (present target.jsonFields) := by
  simp [toJson, jsonFields]

theorem json_reads : Reads toJson ofJson? := by
  intro target json rearranged
  rw [to_json_present] at rearranged
  obtain ⟨members, rfl, carries⟩ :=
    present_carries target.jsonFields (by simp [jsonFields]) json rearranged
  have database := carries.nullable string_reads rfl "database" target.database
    (by simp [jsonFields])
  have schema := carries.required string_reads "schema" target.schema (by simp [jsonFields])
  have name := carries.required string_reads "name" target.name (by simp [jsonFields])
  simp only [ofJson?, membersAs?, Option.bind_eq_bind, Option.bind_some, database, schema, name]
  rfl

theorem printable (depth : Nat) (target : Target) : Printable (depth + 1) target.toJson := by
  rw [to_json_present]
  apply present_printable
  simp [jsonFields, Printable.string]

end Target

namespace Storage

def jsonFields (storage : Storage) : List (String × Option Json) :=
  [("bucketName", storage.bucketName.map .string),
    ("tableFolderRoot", storage.tableFolderRoot.map .string),
    ("tableFolderSubpath", storage.tableFolderSubpath.map .string)]

theorem to_json_present (storage : Storage) :
    storage.toJson = .object (present storage.jsonFields) := by
  simp [toJson, jsonFields]

theorem json_reads : Reads toJson ofJson? := by
  intro storage json rearranged
  rw [to_json_present] at rearranged
  obtain ⟨members, rfl, carries⟩ :=
    present_carries storage.jsonFields (by simp [jsonFields]) json rearranged
  have known : (members.any fun member => member.1 ∉ fieldNames) = false :=
    carries.names_known
  have bucketName := carries.nullable string_reads rfl "bucketName" storage.bucketName
    (by simp [jsonFields])
  have tableFolderRoot := carries.nullable string_reads rfl "tableFolderRoot"
    storage.tableFolderRoot (by simp [jsonFields])
  have tableFolderSubpath := carries.nullable string_reads rfl "tableFolderSubpath"
    storage.tableFolderSubpath (by simp [jsonFields])
  simp only [ofJson?, membersAs?, Option.bind_eq_bind, Option.bind_some, known, bucketName,
    tableFolderRoot, tableFolderSubpath]
  rfl

theorem printable (depth : Nat) (storage : Storage) : Printable (depth + 1) storage.toJson := by
  rw [to_json_present]
  apply present_printable
  simp [jsonFields, Printable.string]

end Storage

namespace Settings

def jsonFields (settings : Settings) : List (String × Option Json) :=
  [("warehouse", settings.warehouse.map fun warehouse => .string warehouse.word),
    ("defaultDatabase", settings.defaultDatabase.map .string),
    ("defaultSchema", settings.defaultSchema.map .string),
    ("assertionSchema", settings.assertionSchema.map .string),
    ("defaultLocation", settings.defaultLocation.map .string),
    ("schemaSuffix", settings.schemaSuffix.map .string),
    ("vars", if settings.vars.isEmpty then none else some (ofMap .string settings.vars)),
    ("disableAssertions", settings.disableAssertions.map .bool),
    ("coreVersion", settings.coreVersion.map .string),
    ("storage", settings.storage.map Storage.toJson)]

theorem to_json_present (settings : Settings) :
    settings.toJson = .object (present settings.jsonFields) := by
  simp [toJson, jsonFields]

theorem var_text_reads : Reads .string varText? := by
  intro value json rearranged
  cases rearranged
  rfl

theorem json_reads : Reads toJson ofJson? := by
  intro settings json rearranged
  rw [to_json_present] at rearranged
  obtain ⟨members, rfl, carries⟩ :=
    present_carries settings.jsonFields (by simp [jsonFields]) json rearranged
  have known : (members.any fun member => member.1 ∉ fieldNames) = false :=
    carries.names_known
  have warehouse := carries.nullable (word_reads Warehouse.word Warehouse.ofWord?
    Warehouse.of_word_word) rfl "warehouse" settings.warehouse (by simp [jsonFields])
  have text (name : String) (value : Option String)
      (listed : (name, value.map .string) ∈ settings.jsonFields) :=
    carries.nullable string_reads rfl name value listed
  have defaultDatabase := text "defaultDatabase" settings.defaultDatabase (by simp [jsonFields])
  have defaultSchema := text "defaultSchema" settings.defaultSchema (by simp [jsonFields])
  have assertionSchema := text "assertionSchema" settings.assertionSchema (by simp [jsonFields])
  have defaultLocation := text "defaultLocation" settings.defaultLocation (by simp [jsonFields])
  have schemaSuffix := text "schemaSuffix" settings.schemaSuffix (by simp [jsonFields])
  have vars := carries.withDefault (map_reads var_text_reads) "vars" settings.vars ∅
    settings.vars.isEmpty (fun blank => (SortedMap.eq_empty _ blank).symm) (by simp [jsonFields])
  have disableAssertions := carries.nullable bool_reads rfl "disableAssertions"
    settings.disableAssertions (by simp [jsonFields])
  have coreVersion := text "coreVersion" settings.coreVersion (by simp [jsonFields])
  have storage := carries.nullable Storage.json_reads rfl "storage" settings.storage
    (by simp [jsonFields])
  simp only [ofJson?, membersAs?, Option.bind_eq_bind, Option.bind_some, known, warehouse,
    defaultDatabase, defaultSchema, assertionSchema, defaultLocation, schemaSuffix, vars,
    disableAssertions, coreVersion, storage]
  rfl

theorem printable (depth : Nat) (settings : Settings) :
    Printable (depth + 2) settings.toJson := by
  rw [to_json_present]
  apply present_printable
  have vars := of_map_printable depth .string settings.vars (.string depth)
  have storage := Storage.printable depth
  simp only [jsonFields, List.forall_mem_cons, Option.forall_mem_map]
  simp [Printable.string, Printable.bool, vars, storage]

end Settings

namespace ActionMeta

def jsonFields (common : ActionMeta) : List (String × Option Json) :=
  [("fileName", some (.string common.fileName)), ("target", some common.target.toJson),
    ("canonicalTarget", some common.canonicalTarget.toJson),
    ("dependencyTargets", some (.array (common.dependencyTargets.map Target.toJson))),
    ("disabled", some (.bool common.disabled)), ("tags", some (strings common.tags)),
    ("hermeticity", some (.string common.hermeticity.word)),
    ("description", common.description.map .string)]

theorem to_members_present (common : ActionMeta) :
    common.toMembers = present common.jsonFields := by
  simp [toMembers, jsonFields]

theorem members_read (common : ActionMeta) (whole : List (String × Option Json))
    (members : List (String × Json)) (carries : Carries whole members)
    (within : common.jsonFields ⊆ whole) : ofMembers? members = some common := by
  have fileName := carries.required string_reads "fileName" common.fileName
    (within (by simp [jsonFields]))
  have target := carries.required Target.json_reads "target" common.target
    (within (by simp [jsonFields]))
  have canonicalTarget := carries.required Target.json_reads "canonicalTarget"
    common.canonicalTarget (within (by simp [jsonFields]))
  have dependencyTargets := carries.withDefault (list_reads Target.json_reads)
    "dependencyTargets" common.dependencyTargets [] false nofun (within (by simp [jsonFields]))
  have disabled := carries.withDefault bool_reads "disabled" common.disabled false false nofun
    (within (by simp [jsonFields]))
  have tags := carries.withDefault strings_reads "tags" common.tags [] false nofun
    (within (by simp [jsonFields]))
  have hermeticity := carries.withDefault (word_reads Hermeticity.word Hermeticity.ofWord?
    Hermeticity.of_word_word) "hermeticity" common.hermeticity .hermetic false nofun
    (within (by simp [jsonFields]))
  have description := carries.nullable string_reads rfl "description" common.description
    (within (by simp [jsonFields]))
  simp only [ofMembers?, Option.bind_eq_bind, Option.bind_some, fileName, target,
    canonicalTarget, dependencyTargets, disabled, tags, hermeticity, description]
  rfl

theorem printable (depth : Nat) (common : ActionMeta) :
    ∀ field ∈ common.jsonFields, ∀ json ∈ field.2, Printable (depth + 2) json := by
  have target := Target.printable (depth + 1)
  have list := list_printable (depth + 1) Target.toJson common.dependencyTargets
    (Target.printable depth)
  simp [jsonFields, Printable.string, Printable.bool, target, list, strings_printable]

end ActionMeta

namespace Table

def jsonFields (table : Table) : List (String × Option Json) :=
  [("type", some (.string table.tableType.word)),
    ("enumType", some (.string table.enumType.capitals))] ++ table.common.jsonFields ++
  [("query", some (.string table.query)), ("incrementalQuery", table.incrementalQuery.map .string),
    ("uniqueKey", if table.uniqueKey.isEmpty then none else some (strings table.uniqueKey)),
    ("preOps", if table.preOps.isEmpty then none else some (strings table.preOps)),
    ("postOps", if table.postOps.isEmpty then none else some (strings table.postOps))]

theorem to_json_present (table : Table) : table.toJson = .object (present table.jsonFields) := by
  simp only [toJson, jsonFields, ActionMeta.to_members_present, optionalStrings, strings,
    present_append, present_some, present_map, present_unless, present_nil, List.append_assoc,
    List.append_nil, List.cons_append, List.nil_append]

theorem json_reads : Reads toJson ofJson? := by
  intro table json rearranged
  rw [to_json_present] at rearranged
  obtain ⟨members, rfl, carries⟩ :=
    present_carries table.jsonFields (by simp [jsonFields, ActionMeta.jsonFields]) json rearranged
  have tableType := carries.required (word_reads TableType.word TableType.ofWord?
    TableType.of_word_word) "type" table.tableType (by simp [jsonFields])
  have enumType := carries.required (word_reads TableType.capitals TableType.ofCapitals?
    TableType.of_capitals_capitals) "enumType" table.enumType (by simp [jsonFields])
  have common := table.common.members_read table.jsonFields members carries
    fun field listed => by simp [jsonFields, listed]
  have query := carries.required string_reads "query" table.query (by simp [jsonFields])
  have incrementalQuery := carries.nullable string_reads rfl "incrementalQuery"
    table.incrementalQuery (by simp [jsonFields])
  have list (name : String) (value : List String)
      (listed : (name, if value.isEmpty then none else some (strings value)) ∈ table.jsonFields) :=
    carries.withDefault strings_reads name value [] value.isEmpty
      (fun blank => (List.isEmpty_iff.mp blank).symm) listed
  have uniqueKey := list "uniqueKey" table.uniqueKey (by simp [jsonFields])
  have preOps := list "preOps" table.preOps (by simp [jsonFields])
  have postOps := list "postOps" table.postOps (by simp [jsonFields])
  simp only [ofJson?, Option.bind_eq_bind, Option.bind_some, tableType, enumType, common, query,
    incrementalQuery, uniqueKey, preOps, postOps]
  rfl

theorem printable (depth : Nat) (table : Table) : Printable (depth + 3) table.toJson := by
  rw [to_json_present]
  apply present_printable
  have lists := strings_printable (depth + 1)
  simp only [jsonFields, List.forall_mem_append]
  refine ⟨⟨?_, table.common.printable depth⟩, ?_⟩
  · simp [Printable.string]
  · simp [Printable.string, lists]

end Table

namespace Assertion

def jsonFields (assertion : Assertion) : List (String × Option Json) :=
  assertion.common.jsonFields ++ [("query", some (.string assertion.query)),
    ("parentAction", assertion.parentAction.map Target.toJson)]

theorem to_json_present (assertion : Assertion) :
    assertion.toJson = .object (present assertion.jsonFields) := by
  simp [toJson, jsonFields, ActionMeta.to_members_present]

theorem json_reads : Reads toJson ofJson? := by
  intro assertion json rearranged
  rw [to_json_present] at rearranged
  obtain ⟨members, rfl, carries⟩ :=
    present_carries assertion.jsonFields (by simp [jsonFields, ActionMeta.jsonFields]) json
      rearranged
  have common := assertion.common.members_read assertion.jsonFields members carries
    fun field listed => by simp [jsonFields, listed]
  have query := carries.required string_reads "query" assertion.query (by simp [jsonFields])
  have parentAction := carries.nullable Target.json_reads rfl "parentAction"
    assertion.parentAction (by simp [jsonFields])
  simp only [ofJson?, Option.bind_eq_bind, Option.bind_some, common, query, parentAction]
  rfl

theorem printable (depth : Nat) (assertion : Assertion) :
    Printable (depth + 3) assertion.toJson := by
  rw [to_json_present]
  apply present_printable
  have target := Target.printable (depth + 1)
  refine List.forall_mem_append.mpr ⟨assertion.common.printable depth, ?_⟩
  simp [Printable.string, target]

end Assertion

namespace Operation

def jsonFields (operation : Operation) : List (String × Option Json) :=
  operation.common.jsonFields ++ [("queries", some (strings operation.queries)),
    ("hasOutput", some (.bool operation.hasOutput))]

theorem to_json_present (operation : Operation) :
    operation.toJson = .object (present operation.jsonFields) := by
  simp [toJson, jsonFields, ActionMeta.to_members_present]

theorem json_reads : Reads toJson ofJson? := by
  intro operation json rearranged
  rw [to_json_present] at rearranged
  obtain ⟨members, rfl, carries⟩ :=
    present_carries operation.jsonFields (by simp [jsonFields, ActionMeta.jsonFields]) json
      rearranged
  have common := operation.common.members_read operation.jsonFields members carries
    fun field listed => by simp [jsonFields, listed]
  have queries := carries.required strings_reads "queries" operation.queries (by simp [jsonFields])
  have hasOutput := carries.withDefault bool_reads "hasOutput" operation.hasOutput false false nofun
    (by simp [jsonFields])
  simp only [ofJson?, Option.bind_eq_bind, Option.bind_some, common, queries, hasOutput]
  rfl

theorem printable (depth : Nat) (operation : Operation) :
    Printable (depth + 3) operation.toJson := by
  rw [to_json_present]
  apply present_printable
  refine List.forall_mem_append.mpr ⟨operation.common.printable depth, ?_⟩
  simp [Printable.bool, strings_printable]

end Operation

namespace Declaration

def jsonFields (declaration : Declaration) : List (String × Option Json) :=
  [("fileName", some (.string declaration.fileName)), ("target", some declaration.target.toJson),
    ("canonicalTarget", some declaration.canonicalTarget.toJson),
    ("description", declaration.description.map .string)]

theorem to_json_present (declaration : Declaration) :
    declaration.toJson = .object (present declaration.jsonFields) := by
  simp [toJson, jsonFields]

theorem json_reads : Reads toJson ofJson? := by
  intro declaration json rearranged
  rw [to_json_present] at rearranged
  obtain ⟨members, rfl, carries⟩ :=
    present_carries declaration.jsonFields (by simp [jsonFields]) json rearranged
  have fileName := carries.required string_reads "fileName" declaration.fileName
    (by simp [jsonFields])
  have target := carries.required Target.json_reads "target" declaration.target
    (by simp [jsonFields])
  have canonicalTarget := carries.required Target.json_reads "canonicalTarget"
    declaration.canonicalTarget (by simp [jsonFields])
  have description := carries.nullable string_reads rfl "description" declaration.description
    (by simp [jsonFields])
  simp only [ofJson?, membersAs?, Option.bind_eq_bind, Option.bind_some, fileName, target,
    canonicalTarget, description]
  rfl

theorem printable (depth : Nat) (declaration : Declaration) :
    Printable (depth + 3) declaration.toJson := by
  rw [to_json_present]
  apply present_printable
  have target := Target.printable (depth + 1)
  simp [jsonFields, Printable.string, target]

end Declaration

namespace Graph

def jsonFields (graph : Graph) : List (String × Option Json) :=
  [("projectConfig", some graph.settings.toJson),
    ("tables", some (.array (graph.tables.map Table.toJson))),
    ("assertions", some (.array (graph.assertions.map Assertion.toJson))),
    ("operations", some (.array (graph.operations.map Operation.toJson))),
    ("declarations", some (.array (graph.declarations.map Declaration.toJson))),
    ("graphErrors", some (ofMap strings graph.errors)),
    ("graphWarnings", some (ofMap strings graph.warnings))]

theorem json_reads : Reads toJson ofJson? := by
  intro graph json rearranged
  obtain ⟨members, rfl, carries⟩ :=
    present_carries graph.jsonFields (by simp [jsonFields]) json rearranged
  have settings := carries.required Settings.json_reads "projectConfig" graph.settings
    (by simp [jsonFields])
  have tables := carries.required (list_reads Table.json_reads) "tables" graph.tables
    (by simp [jsonFields])
  have assertions := carries.required (list_reads Assertion.json_reads) "assertions"
    graph.assertions (by simp [jsonFields])
  have operations := carries.required (list_reads Operation.json_reads) "operations"
    graph.operations (by simp [jsonFields])
  have declarations := carries.required (list_reads Declaration.json_reads) "declarations"
    graph.declarations (by simp [jsonFields])
  have errors := carries.required (map_reads strings_reads) "graphErrors" graph.errors
    (by simp [jsonFields])
  have warnings := carries.required (map_reads strings_reads) "graphWarnings" graph.warnings
    (by simp [jsonFields])
  simp only [ofJson?, membersAs?, Option.bind_eq_bind, Option.bind_some, settings, tables,
    assertions, operations, declarations, errors, warnings]
  rfl

theorem printable (depth : Nat) (graph : Graph) : Printable (depth + 5) graph.toJson := by
  apply present_printable (depth + 4) graph.jsonFields
  have settings := Settings.printable (depth + 2)
  have tables := list_printable (depth + 3) Table.toJson graph.tables (Table.printable depth)
  have assertions := list_printable (depth + 3) Assertion.toJson graph.assertions
    (Assertion.printable depth)
  have operations := list_printable (depth + 3) Operation.toJson graph.operations
    (Operation.printable depth)
  have declarations := list_printable (depth + 3) Declaration.toJson graph.declarations
    (Declaration.printable depth)
  have notes := fun map => of_map_printable (depth + 3) strings map (strings_printable (depth + 2))
  simp [jsonFields, settings, tables, assertions, operations, declarations, notes]

theorem written_read_back (graph : Graph) :
    ofJson? graph.toJson = some graph ∧
    ∀ json, Rearranged graph.toJson json → ∃ read, ofJson? json = some read ∧ read = graph ∧
      ∀ run, read.select run = graph.select run ∧ read.plan run = graph.plan run := by
  refine ⟨json_reads graph graph.toJson (.same _), fun json rearranged => ?_⟩
  have read := json_reads graph json rearranged
  exact ⟨graph, read, rfl, fun run => ⟨rfl, rfl⟩⟩

end Graph

theorem Task.printable (depth : Nat) (task : Task) : Printable (depth + 1) task.toJson :=
  .object depth _ (by simp [Printable.string])

theorem Execution.printable (depth : Nat) (execution : Execution) :
    Printable (depth + 3) execution.toJson := by
  have target := Target.printable (depth + 1)
  have list := list_printable (depth + 1) Target.toJson execution.dependencyTargets
    (Target.printable depth)
  have tasks := list_printable (depth + 1) Task.toJson execution.tasks (Task.printable depth)
  have tableType := optional_printable (depth + 2) "tableType" (fun t : TableType => .string t.word)
    execution.tableType fun _ => .string _ _
  refine .object (depth + 2) _ ?_
  simp only [List.forall_mem_append, List.forall_mem_cons]
  simpa [Printable.string, target, list, tasks] using tableType

theorem RunOptions.printable (depth : Nat) (run : RunOptions) : Printable (depth + 2) run.toJson :=
  .object (depth + 1) _ (by simp [Printable.bool, strings_printable])

theorem Plan.printable (depth : Nat) (plan : Plan) : Printable (depth + 5) plan.toJson := by
  have settings := Settings.printable (depth + 2)
  have run := RunOptions.printable (depth + 2)
  have actions := list_printable (depth + 3) Execution.toJson plan.actions
    (Execution.printable depth)
  have state : Printable (depth + 4) (.object [("tables", .array [])]) :=
    .object (depth + 3) _ (by simpa using Printable.array (depth + 2) [] (by simp))
  exact .object (depth + 4) _ (by simp [settings, run, actions, state])

end SqlWorkflow
