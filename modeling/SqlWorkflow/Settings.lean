import SqlWorkflow.Text.Blank
import SqlWorkflow.Warehouse
import SqlWorkflow.Error

namespace SqlWorkflow

abbrev Vars := SortedMap String String

structure Storage where
  bucketName : Option String := none
  tableFolderRoot : Option String := none
  tableFolderSubpath : Option String := none
deriving DecidableEq, Inhabited

structure Settings where
  warehouse : Option Warehouse := none
  defaultDatabase : Option String := none
  defaultSchema : Option String := none
  assertionSchema : Option String := none
  defaultLocation : Option String := none
  schemaSuffix : Option String := none
  vars : Vars := ∅
  disableAssertions : Option Bool := none
  coreVersion : Option String := none
  storage : Option Storage := none
deriving DecidableEq, Inhabited

structure Overrides where
  vars : Vars := ∅
  schemaSuffix : Option String := none
  defaultLocation : Option String := none
  defaultDatabase : Option String := none
  defaultSchema : Option String := none
  assertionSchema : Option String := none
  disableAssertions : Bool := false
deriving DecidableEq, Inhabited

namespace Settings

def effectiveWarehouse (settings : Settings) : Warehouse :=
  settings.warehouse.getD .bigQuery

def effectiveSchema (settings : Settings) : String :=
  settings.defaultSchema.getD "dataform"

def effectiveAssertionSchema (settings : Settings) : String :=
  settings.assertionSchema.getD "dataform_assertions"

def assertionsDisabled (settings : Settings) : Bool :=
  settings.disableAssertions.getD false

-- An override replaces the variables that it names, each field that it has, and can turn assertions
-- off but not on.
def withOverrides (settings : Settings) (overrides : Overrides) : Settings :=
  { settings with
    vars := settings.vars.merge overrides.vars
    schemaSuffix := overrides.schemaSuffix <|> settings.schemaSuffix
    defaultLocation := overrides.defaultLocation <|> settings.defaultLocation
    defaultDatabase := overrides.defaultDatabase <|> settings.defaultDatabase
    defaultSchema := overrides.defaultSchema <|> settings.defaultSchema
    assertionSchema := overrides.assertionSchema <|> settings.assertionSchema
    disableAssertions :=
      if overrides.disableAssertions then some true else settings.disableAssertions }

def isSuffixChar (c : Char) : Bool :=
  c.isAlphanum || c == '_'

def firstBlank (fields : List (String × Option String)) : Option String :=
  (fields.find? fun field => field.2.any Text.isBlankText).map Prod.fst

def validate (settings : Settings) : Except Error Unit :=
  match firstBlank [("defaultDatabase", settings.defaultDatabase),
      ("defaultSchema", settings.defaultSchema), ("assertionSchema", settings.assertionSchema)] with
  | some field => .error (.settingsInvalid (.emptyField field))
  | none =>
      match settings.schemaSuffix with
      | none => .ok ()
      | some suffix =>
          if suffix.toList.all isSuffixChar then .ok ()
          else .error (.settingsInvalid (.badSuffix suffix))

-- The canonical target of an identity. Assertions default to the assertion schema, every other kind
-- to the default schema; the suffix plays no part.
def canonicalTarget (settings : Settings) (kind : ActionKind) (identity : Identity) : Target where
  database := identity.database <|> settings.defaultDatabase
  schema := identity.schema.getD (match kind with
    | .assertion => settings.effectiveAssertionSchema
    | _ => settings.effectiveSchema)
  name := identity.name

-- The runtime target of a canonical one. Declarations name relations that the project does not own,
-- so they never get the suffix.
def runtimeTarget (settings : Settings) (kind : ActionKind) (canonical : Target) : Target :=
  match kind with
  | .declaration => canonical
  | _ => canonical.withSuffix settings.schemaSuffix

end Settings

namespace Overrides

def parsePair (pair : List Char) : Except Error (String × String) :=
  match Text.splitFirst '=' pair with
  | none => .error (.invalidVars (.noEquals (String.ofList pair)))
  | some (key, value) =>
      match Text.trimChars key with
      | [] => .error (.invalidVars (.emptyName (String.ofList pair)))
      | name => .ok (String.ofList name, String.ofList (Text.trimChars value))

-- Variables written `k=v` and separated by commas. Blank pairs are skipped, and a name given twice
-- has its last value.
def parseVars (raw : String) : Except Error Vars := do
  let pairs := ((Text.splitOn ',' raw.toList).map Text.trimChars).filter (!·.isEmpty)
  return SortedMap.ofList (← pairs.mapM parsePair)

end Overrides

end SqlWorkflow
