import SqlWorkflow.Plan

namespace SqlWorkflow

def programName : String := "dagform"

def programVersion : String := "0.1.0"

structure SettingsFlags where
  vars : Option String := none
  schemaSuffix : Option String := none
  defaultLocation : Option String := none
  defaultDatabase : Option String := none
  defaultSchema : Option String := none
  assertionSchema : Option String := none
  disableAssertions : Bool := false
  -- How many files may be compiled at once. No result depends on it.
  jobs : Option Nat := none
deriving DecidableEq, Inhabited

def SettingsFlags.overrides (flags : SettingsFlags) : Except Error Overrides := do
  let vars ← match flags.vars with
    | some raw => Overrides.parseVars raw
    | none => pure ∅
  return {
    vars
    schemaSuffix := flags.schemaSuffix
    defaultLocation := flags.defaultLocation
    defaultDatabase := flags.defaultDatabase
    defaultSchema := flags.defaultSchema
    assertionSchema := flags.assertionSchema
    disableAssertions := flags.disableAssertions }

structure CompileFlags where
  settings : SettingsFlags := {}
  json : Bool := false
  allowErrors : Bool := false
deriving DecidableEq, Inhabited

structure RunFlags where
  settings : SettingsFlags := {}
  -- Where the credentials of the warehouse are. A dry run does not read them.
  credentials : Option String := none
  dryRun : Bool := false
  json : Bool := false
  selection : RunOptions := {}
deriving DecidableEq, Inhabited

inductive Command where
  | compile (flags : CompileFlags)
  | run (flags : RunFlags)
  | install
deriving DecidableEq

structure Invocation where
  verbose : Bool := false
  project : String := "."
  command : Command
deriving DecidableEq

inductive HelpTopic where
  | program
  | compile
  | run
  | install
  | help
deriving DecidableEq

inductive Request where
  | command (invocation : Invocation)
  | help (topic : HelpTopic)
  | version
deriving DecidableEq

end SqlWorkflow
