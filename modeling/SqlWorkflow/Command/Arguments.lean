import SqlWorkflow.Command.Option

namespace SqlWorkflow

structure CommandInput (α : Type) where
  verbose : Bool := false
  project : Option String := none
  flags : α
deriving DecidableEq

def countDigits (text : String) : List Char :=
  match text.toList with
  | '+' :: digits => digits
  | digits => digits

def readCount (text : String) : Option Nat :=
  let digits := countDigits text
  if digits.isEmpty || !digits.all Char.isDigit then none
  else
    let value := digits.foldl (fun value digit => 10 * value + (digit.toNat - '0'.toNat)) 0
    if value < Nat.pow 2 64 then some value else none

def readPath (text : String) : Option String :=
  if text.isEmpty then none else some text

namespace CommandOption

variable {α : Type}

def ofFlag (name description : String) (set : α → α) : CommandOption α :=
  { name, description, effect := .flag set }

def ofText (name label description : String) (set : String → α → α) : CommandOption α :=
  { name, description, effect := .value label fun text flags => some (set text flags) }

def ofPath (name label description : String) (set : String → α → α) : CommandOption α :=
  { name, description, effect := .value label fun text flags =>
      (readPath text).map fun path => set path flags }

def ofList (name label description : String) (add : List String → α → α) : CommandOption α :=
  { name, description, repeats := true, effect := .value label fun text flags =>
      some (add (Text.split ',' text) flags) }

def verbose (set : α → α) : CommandOption α :=
  { name := "verbose", letter := some 'v', description := "Enable verbose output"
    effect := .flag set }

def help (topic : HelpTopic) : CommandOption α :=
  { name := "help", letter := some 'h', description := "Print help"
    effect := .answer (.help topic) }

def version : CommandOption α :=
  { name := "version", letter := some 'V', description := "Print version"
    effect := .answer .version }

end CommandOption

namespace SettingsFlags

def options : List (CommandOption SettingsFlags) :=
  [.ofText "vars" "VARS" "Override/add variables as `key=value,key2=value2`" fun text flags =>
      { flags with vars := some text },
    .ofText "schema-suffix" "SCHEMA_SUFFIX" "Suffix appended to every runtime schema"
      fun text flags => { flags with schemaSuffix := some text },
    .ofText "default-location" "DEFAULT_LOCATION" "Override the default location"
      fun text flags => { flags with defaultLocation := some text },
    .ofText "default-database" "DEFAULT_DATABASE" "Override the default database"
      fun text flags => { flags with defaultDatabase := some text },
    .ofText "default-schema" "DEFAULT_SCHEMA" "Override the default schema"
      fun text flags => { flags with defaultSchema := some text },
    .ofText "assertion-schema" "ASSERTION_SCHEMA" "Override the assertion schema"
      fun text flags => { flags with assertionSchema := some text },
    .ofFlag "disable-assertions" "Disable every assertion"
      fun flags => { flags with disableAssertions := true },
    { name := "jobs", letter := some 'j'
      description := "Maximum number of files compiled at once (default: CPU count)"
      effect := .value "JOBS" fun text flags =>
        (readCount text).map fun count => { flags with jobs := some count } }]

end SettingsFlags

namespace CompileFlags

def options : List (CommandOption CompileFlags) :=
  SettingsFlags.options.map (.within settings fun settings flags => { flags with settings }) ++
    [.ofFlag "json" "Print the compiled graph as JSON" fun flags => { flags with json := true },
      .ofFlag "allow-errors" "Exit successfully even when the graph has errors"
        fun flags => { flags with allowErrors := true }]

end CompileFlags

def RunOptions.options : List (CommandOption RunOptions) :=
  [.ofList "tags" "TAGS" "Only run actions with one of these tags (comma-separated)"
      fun tags run => { run with tags := run.tags ++ tags },
    .ofList "actions" "ACTIONS" "Only run these actions (comma-separated)"
      fun actions run => { run with actions := run.actions ++ actions },
    .ofFlag "full-refresh" "Rebuild incremental tables from scratch"
      fun run => { run with fullRefresh := true },
    .ofFlag "include-deps" "Also run the transitive dependencies of the selection"
      fun run => { run with includeDependencies := true },
    .ofFlag "include-dependents" "Also run the transitive dependents of the selection"
      fun run => { run with includeDependents := true }]

namespace RunFlags

def options : List (CommandOption RunFlags) :=
  SettingsFlags.options.map (.within settings fun settings flags => { flags with settings }) ++
    [.ofPath "credentials" "CREDENTIALS" "Warehouse credentials file (unused by dry runs)"
        fun path flags => { flags with credentials := some path },
      .ofFlag "dry-run" "Print the plan without contacting the warehouse"
        fun flags => { flags with dryRun := true },
      .ofFlag "json" "Print the execution plan as JSON" fun flags => { flags with json := true }] ++
    RunOptions.options.map
      (.within selection fun selection flags => { flags with selection })

end RunFlags

namespace CommandInput

variable {α : Type}

def takeProject (text : String) (input : CommandInput α) : Except UsageError (CommandInput α) :=
  match input.project, readPath text with
  | some _, _ => .error (.unexpectedOperand text)
  | none, none => .error (.refusedValue "PROJECT_DIR" text)
  | none, some path => .ok { input with project := some path }

def options (topic : HelpTopic) (options : List (CommandOption α)) :
    List (CommandOption (CommandInput α)) :=
  .verbose (fun input => { input with verbose := true }) ::
    options.map (.within CommandInput.flags fun flags input => { input with flags }) ++
      [.help topic]

def arguments (topic : HelpTopic) (options : List (CommandOption α)) :
    CommandArguments (CommandInput α) where
  options := CommandInput.options topic options
  operand := takeProject

def read [Inhabited α] (verbose : Bool) (topic : HelpTopic) (options : List (CommandOption α))
    (command : α → Command) (texts : List String) : Except UsageError Request := do
  match ← (arguments topic options).read texts { flags := { flags := default } } with
  | .answered request => return request
  | .going given =>
      let input := given.flags
      return .command {
        verbose := verbose || input.verbose
        project := input.project.getD "."
        command := command input.flags }

end CommandInput

namespace HelpTopic

def ofName? : String → Option HelpTopic
  | "compile" => some compile
  | "run" => some run
  | "install" => some install
  | "help" => some help
  | _ => none

def ofNames : List String → Except UsageError HelpTopic
  | [] => .ok program
  | name :: more =>
      match ofName? name, more with
      | none, _ => .error (.unknownCommand name)
      | some topic, [] => .ok topic
      | some _, name :: _ => .error (.unknownCommand name)

end HelpTopic

namespace Request

def options : List (CommandOption Bool) :=
  [.verbose fun _ => true, .help .program, .version]

def ofCommand (verbose : Bool) (name : String) (texts : List String) : Except UsageError Request :=
  match name with
  | "compile" => CommandInput.read verbose .compile CompileFlags.options .compile texts
  | "run" => CommandInput.read verbose .run RunFlags.options .run texts
  | "install" =>
      CommandInput.read verbose .install ([] : List (CommandOption Unit)) (fun _ => .install) texts
  | "help" => (HelpTopic.ofNames texts).map .help
  | name => .error (.unknownCommand name)

def read (given : Given Bool) : List String → Except UsageError Request
  | [] => .error .missingCommand
  | text :: rest =>
      match ArgumentForm.ofText text with
      | .separator => .error .missingCommand
      | .operand name => ofCommand given.flags name rest
      | .long text => do
          match ← given.giveLong options text with
          | .going given => read given rest
          | .answered request => return request
      | .letters letters => do
          match ← given.giveLetters options letters with
          | .going given => read given rest
          | .answered request => return request

def ofArguments (texts : List String) : Except UsageError Request :=
  read { flags := false } texts

end Request

end SqlWorkflow
