import SqlWorkflow.ConfigBlock
import SqlWorkflow.Document.Record
import SqlWorkflow.Yaml.Node

namespace SqlWorkflow

inductive BlockType where
  | table (tableType : TableType)
  | assertion
  | operations
  | declaration
deriving DecidableEq

namespace BlockType

def word : BlockType → String
  | table tableType => tableType.word
  | assertion => "assertion"
  | operations => "operations"
  | declaration => "declaration"

def ofWord? : String → Option BlockType
  | "assertion" => some assertion
  | "operations" => some operations
  | "declaration" => some declaration
  | text => (TableType.ofWord? text).map table

def sharedKeys : List String :=
  ["name", "schema", "database", "tags", "dependencies", "disabled", "description", "hermetic"]

def knownKeys : BlockType → List String
  | table .incremental => "assertions" :: "uniqueKey" :: sharedKeys
  | table _ => "assertions" :: sharedKeys
  | assertion => sharedKeys
  | operations => "hasOutput" :: sharedKeys
  | declaration => ["name", "schema", "database", "description"]

end BlockType

open Document in
def ActionOptions.intake : Intake ActionOptions := fun name value options =>
  match name with
  | "name" => some ((optionalValue textValue value).map ({ options with name := · }))
  | "schema" => some ((optionalValue textValue value).map ({ options with schema := · }))
  | "database" => some ((optionalValue textValue value).map ({ options with database := · }))
  | "tags" => some ((textsValue value).map ({ options with tags := · }))
  | "dependencies" => some ((textsValue value).map ({ options with dependencies := · }))
  | "disabled" => some ((flagValue value).map ({ options with disabled := · }))
  | "description" => some ((optionalValue textValue value).map ({ options with description := · }))
  | "hermetic" => some ((optionalValue flagValue value).map ({ options with hermetic := · }))
  | _ => none

open Document in
def DeclarationOptions.intake : Intake DeclarationOptions := fun name value options =>
  match name with
  | "name" => some ((optionalValue textValue value).map ({ options with name := · }))
  | "schema" => some ((optionalValue textValue value).map ({ options with schema := · }))
  | "database" => some ((optionalValue textValue value).map ({ options with database := · }))
  | "description" => some ((optionalValue textValue value).map ({ options with description := · }))
  | _ => none

open Document in
def AssertionSpecs.intake : Intake AssertionSpecs := fun name value specs =>
  match name with
  | "uniqueKey" => some ((optionalValue textsValue value).map ({ specs with uniqueKey := · }))
  | "uniqueKeys" => some ((listValue textsValue value).map ({ specs with uniqueKeys := · }))
  | "nonNull" => some ((textsValue value).map ({ specs with nonNull := · }))
  | "rowConditions" => some ((textsValue value).map ({ specs with rowConditions := · }))
  | _ => none

namespace ConfigBlock

abbrev Entries := List (Document × Document)

def lastFirst (entries : Entries) : Entries :=
  entries.getLast?.toList ++ entries.dropLast

-- Takes out the entry under a string. The last entry moves into its place.
def takeOut? (name : String) : Entries → Option (Document × Entries)
  | [] => none
  | (.scalar text .text, value) :: entries =>
      if text = name then some (value, lastFirst entries)
      else (takeOut? name entries).map fun found =>
        (found.1, (.scalar text .text, value) :: found.2)
  | entry :: entries => (takeOut? name entries).map fun found => (found.1, entry :: found.2)

def without (entries : Entries) (name : String) : Entries :=
  match takeOut? name entries with
  | none => entries
  | some (_, rest) => rest

def readOut {α : Type} (name : String) (read : Document → Reading α) (absent : α)
    (entries : Entries) : Reading (α × Entries) :=
  match takeOut? name entries with
  | none => .ok (absent, entries)
  | some (value, rest) => (read value).map fun result => (result, rest)

def unknownKeys (blockType : BlockType) (entries : Entries) : List String :=
  entries.filterMap fun entry =>
    match entry.1.textValue? with
    | some text => if blockType.knownKeys.contains text then none else some text
    | none => some entry.1.shown

def unknownKeyWarning (blockType : BlockType) (key : String) : String :=
  "Unknown config key '" ++ key ++ "' for action type '" ++ blockType.word ++ "' was ignored"

def ofKnown (blockType : BlockType) (entries : Entries) : Reading ConfigBlock := do
  let (assertions, entries) ←
    readOut "assertions" (Document.recordValue AssertionSpecs.intake {}) {} entries
  let (uniqueKey, entries) ← readOut "uniqueKey" Document.textsValue [] entries
  let (hasOutput, entries) ← readOut "hasOutput" Document.flagValue false entries
  let options := Document.takeFields Document.textValue? ActionOptions.intake [] {} entries
  match blockType with
  | .table tableType => return .table tableType (← options) assertions uniqueKey
  | .assertion => return .assertion (← options)
  | .operations => return .operation (← options) hasOutput
  | .declaration =>
      return .declaration
        (← Document.takeFields Document.textValue? DeclarationOptions.intake [] {} entries)

structure Noted where
  config : ConfigBlock := default
  warnings : List String := []
deriving DecidableEq, Inhabited

def checkName (config : ConfigBlock) : Reading ConfigBlock :=
  if config.declaredName.any Text.isBlankText then .error .emptyName else .ok config

def inFile {α : Type} (path : String) (reading : Reading α) : Except Error α :=
  reading.mapError (Error.invalidConfig path)

def ofEntries (path : String) (entries : Entries) : Except Error Noted := do
  let (word, entries) ← match takeOut? "type" entries with
    | none => pure (BlockType.operations.word, entries)
    | some (.scalar text .text, rest) => pure (text, rest)
    | some (value, _) => inFile path (.error (.typeNotText value.shown))
  match BlockType.ofWord? word with
  | none => .error (.unknownActionType path word)
  | some blockType =>
      let unknown := unknownKeys blockType entries
      let config ← inFile path ((ofKnown blockType (unknown.foldl without entries)).bind checkName)
      return { config, warnings := unknown.map (unknownKeyWarning blockType) }

def ofText (path body : String) : Except Error Noted :=
  match Yaml.readDocument ("\x7b" ++ body ++ "\x7d") with
  | (document, complete) =>
      if !complete || !document.hasValue then .error (.invalidConfig path .malformed)
      else match document with
        | .mapping entries => ofEntries path entries
        | .scalar _ .null => ofEntries path []
        | _ => .error (.invalidConfig path .notMapping)

end ConfigBlock

end SqlWorkflow
