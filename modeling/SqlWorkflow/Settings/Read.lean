import SqlWorkflow.Document.Record
import SqlWorkflow.Json
import SqlWorkflow.Settings
import SqlWorkflow.Yaml.Node

-- YAML and JSON give the same settings. They differ in what they take for a text, for the entries
-- of a mapping and for the fields of a record.
namespace SqlWorkflow

structure SettingsFormat where
  text? : Document → Option String
  flag? : Document → Option Bool
  variant? : Document → Option (String × Bool)
  entries? : Document → Option (List (Document × Document))
  fields? : List String → Document → Option (List (Document × Document))

namespace SettingsFormat

def scalarText? (document : Document) : Option String :=
  match document.untagged with
  | .scalar text _ => some text
  | _ => none

-- A mapping without entries may be left empty, but it may not be null.
def yamlEntries? (document : Document) : Option (List (Document × Document)) :=
  match document.untagged with
  | .mapping entries => some entries
  | .scalar "" .null => some []
  | _ => none

-- Any scalar is a text, and a tag can name a variant.
def yaml : SettingsFormat where
  text? := scalarText?
  flag? document :=
    match document.untagged with
    | .scalar _ (.bool value) => some value
    | _ => none
  variant? document :=
    match document with
    | .scalar text _ => some (text, true)
    | .tagged tag content => some (tag, content matches .scalar _ .null)
    | _ => none
  entries? := yamlEntries?
  fields? _ := yamlEntries?

def jsonText? : Document → Option String
  | .scalar text .text => some text
  | _ => none

def positional : List String → List Document → List (Document × Document)
  | _, [] => []
  | [], _ :: _ => [(.broken, .broken)]
  | name :: names, item :: items => (.string name, item) :: positional names items

-- Only strings are texts. A record may be an array of its fields, and a variant an object.
def json : SettingsFormat where
  text? := jsonText?
  flag? document :=
    match document with
    | .scalar _ (.bool value) => some value
    | _ => none
  variant? document :=
    match document with
    | .scalar text .text => some (text, true)
    | .mapping ((key, value) :: rest) =>
        (jsonText? key).map fun word => (word, (value matches .scalar _ .null) && rest.isEmpty)
    | _ => none
  entries? document :=
    match document with
    | .mapping entries => some entries
    | _ => none
  fields? names document :=
    match document with
    | .mapping entries => some entries
    | .sequence items => some (positional names items)
    | _ => none

variable {α : Type}

def required (read? : Document → Option α) (document : Document) : Reading α :=
  match read? document with
  | some value => .ok value
  | none => .error .malformed

def optionalText (format : SettingsFormat) : Document → Reading (Option String) :=
  Document.optionalValue (required format.text?)

def optionalFlag (format : SettingsFormat) : Document → Reading (Option Bool) :=
  Document.optionalValue (required format.flag?)

def record (format : SettingsFormat) (names : List String) (intake : Document.Intake α) (empty : α)
    (document : Document) : Reading α := do
  let entries ← required (format.fields? names) document
  Document.takeFields format.text? intake [] empty entries

def warehouse (format : SettingsFormat) (document : Document) : Reading Warehouse := do
  let (word, alone) ← required format.variant? document
  match Warehouse.ofWord? word with
  | none => .error (.unknownVariant word)
  | some warehouse => if alone then .ok warehouse else .error .malformed

-- The value of a variable is a text. A whole number or a boolean has one; another number may not
-- have the text that the file has, so it is refused once all variables are read.
def varValue : Document → Reading (Except Binary64 String)
  | .scalar text .text => .ok (.ok text)
  | .scalar _ (.int value) => .ok (.ok (toString value))
  | .scalar _ (.bool value) => .ok (.ok (if value then "true" else "false"))
  | .scalar _ (.float value) => .ok (.error value)
  | _ => .error .malformed

def varEntry (format : SettingsFormat) (entry : Document × Document) :
    Reading (String × Except Binary64 String) := do
  let name ← required format.text? entry.1
  return (name, ← varValue entry.2)

def exactVar (entry : String × Except Binary64 String) : Reading (String × String) :=
  match entry.2 with
  | .ok text => .ok (entry.1, text)
  | .error number => .error (.inexactNumber entry.1 (Layout.plain.write number))

def vars (format : SettingsFormat) (document : Document) : Reading Vars := do
  let entries ← (← required format.entries? document).mapM format.varEntry
  let exact ← (SortedMap.ofList entries).toList.mapM exactVar
  return SortedMap.ofList exact

end SettingsFormat

namespace Storage

def fields : List String := ["bucketName", "tableFolderRoot", "tableFolderSubpath"]

def intake (format : SettingsFormat) : Document.Intake Storage := fun name value storage =>
  match name with
  | "bucketName" => some ((format.optionalText value).map ({ storage with bucketName := · }))
  | "tableFolderRoot" =>
      some ((format.optionalText value).map ({ storage with tableFolderRoot := · }))
  | "tableFolderSubpath" =>
      some ((format.optionalText value).map ({ storage with tableFolderSubpath := · }))
  | _ => none

end Storage

namespace Settings

def fields : List String :=
  ["warehouse", "defaultDatabase", "defaultSchema", "assertionSchema", "defaultLocation",
    "schemaSuffix", "vars", "disableAssertions", "coreVersion", "storage"]

def intake (format : SettingsFormat) : Document.Intake Settings := fun name value settings =>
  match name with
  | "warehouse" =>
      some ((Document.optionalValue format.warehouse value).map ({ settings with warehouse := · }))
  | "defaultDatabase" =>
      some ((format.optionalText value).map ({ settings with defaultDatabase := · }))
  | "defaultSchema" =>
      some ((format.optionalText value).map ({ settings with defaultSchema := · }))
  | "assertionSchema" =>
      some ((format.optionalText value).map ({ settings with assertionSchema := · }))
  | "defaultLocation" =>
      some ((format.optionalText value).map ({ settings with defaultLocation := · }))
  | "schemaSuffix" =>
      some ((format.optionalText value).map ({ settings with schemaSuffix := · }))
  | "vars" => some ((format.vars value).map ({ settings with vars := · }))
  | "disableAssertions" =>
      some ((format.optionalFlag value).map ({ settings with disableAssertions := · }))
  | "coreVersion" => some ((format.optionalText value).map ({ settings with coreVersion := · }))
  | "storage" =>
      some ((Document.optionalValue (format.record Storage.fields (Storage.intake format) {})
        value).map ({ settings with storage := · }))
  | _ => none

def ofDocument (format : SettingsFormat) (document : Document) : Reading Settings :=
  format.record fields (intake format) {} document

def ofReading (format : SettingsFormat) (reading : Document × Bool) : Reading Settings := do
  let settings ← ofDocument format reading.1
  if reading.2 then return settings else .error .malformed

def ofJsonText (text : String) : Reading Settings :=
  ofReading .json (Json.readDocument text)

def ofYamlText (text : String) : Reading Settings :=
  if Text.isBlankText text then .ok {} else ofReading .yaml (Yaml.readDocument text)

end Settings

end SqlWorkflow
