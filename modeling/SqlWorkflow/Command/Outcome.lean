import SqlWorkflow.Command.Help
import SqlWorkflow.Command.Report
import SqlWorkflow.Compile
import SqlWorkflow.GraphJson

namespace SqlWorkflow

structure Outcome where
  exitCode : Nat := 0
  output : String := ""
  diagnostics : String := ""
deriving DecidableEq

structure Premises where
  directory : String
  project : Option FileTree

namespace Outcome

def ofOutput (output : String) : Outcome :=
  { output }

def fail (outcome : Outcome) (failure : Failure) : Outcome :=
  { outcome with exitCode := 1, diagnostics := outcome.diagnostics ++ failure.text }

def failing (failure : Failure) : Outcome :=
  ({} : Outcome).fail failure

def ofUsageError (e : UsageError) : Outcome where
  exitCode := 2
  diagnostics := textLine ("error: " ++ e.message) ++ textLine "" ++
    textLine "For more information, try '--help'."

def ofExcept (result : Except Failure Outcome) : Outcome :=
  match result with
  | .ok outcome => outcome
  | .error failure => failing failure

end Outcome

def Premises.graph (premises : Premises) (path : String) (flags : SettingsFlags) :
    Except Failure Graph := do
  let overrides ← flags.overrides.mapError Failure.ofError
  let project ← (Project.load (FilePath.join premises.directory path) premises.project
    overrides).mapError (Failure.inContext ("Failed to compile project at " ++ path))
  return project.compile

namespace Command

def graphFailure (graph : Graph) (first : FileMessage) : Failure where
  message := "Compilation failed with " ++ toString graph.errorCount ++ " error(s); first in " ++
    first.path ++ ": " ++ first.message

def compileOutcome (premises : Premises) (path : String) (flags : CompileFlags) : Outcome :=
  .ofExcept do
    let graph ← premises.graph path flags.settings
    let output := if flags.json then textLine (graph.toJson.pretty 0) else graph.summary
    let printed : Outcome := { output, diagnostics := graph.diagnostics }
    match graph.firstError? with
    | some first =>
        return if flags.allowErrors then printed else printed.fail (graphFailure graph first)
    | none => return printed

def liveRunFailure : Failure where
  message := "Live warehouse execution is not supported by this build; re-run with --dry-run"

def planFailure : PlanError → Failure
  | .selection cause => .inContext "Failed to plan execution" cause
  | e => ⟨"Failed to plan execution", [e.message]⟩

def runOutcome (premises : Premises) (verbose : Bool) (path : String) (flags : RunFlags) :
    Outcome :=
  if !flags.dryRun then .failing liveRunFailure
  else .ofExcept do
    let graph ← premises.graph path flags.settings
    let diagnostics := if graph.hasErrors then graph.diagnostics else ""
    match graph.plan flags.selection with
    | .error e => return ({ diagnostics } : Outcome).fail (planFailure e)
    | .ok plan =>
        let output := if flags.json then textLine (plan.toJson.pretty 0) else plan.summary verbose
        return { output, diagnostics }

-- A pinned version is not installed by hand; otherwise the installed one is named.
def installOutcome (premises : Premises) (path : String) : Outcome :=
  let folder : Folder := ⟨path, premises.project.getD .empty⟩
  .ofExcept do
    let source ← (SettingsSource.locate folder).mapError Failure.ofError
    let settings ← (source.load folder).mapError
      (Failure.inContext ("Failed to read " ++ source.fileName))
    match settings.coreVersion with
    | some version =>
        throw { message := "No installation is needed when coreVersion " ++ version ++
          " is pinned in " ++ source.fileName ++
          ": installation is stateless and lazy, and happens when compile is called" }
    | none =>
        let installed ← (Packages.installedVersion folder).mapError Failure.ofError
        return .ofOutput (textLine (corePackage ++ " " ++ installed ++ " is installed"))

end Command

def Invocation.outcome (premises : Premises) (invocation : Invocation) : Outcome :=
  match invocation.command with
  | .compile flags => Command.compileOutcome premises invocation.project flags
  | .run flags => Command.runOutcome premises invocation.verbose invocation.project flags
  | .install => Command.installOutcome premises invocation.project

def Request.project? : Request → Option String
  | command invocation => some invocation.project
  | help _ => none
  | version => none

def Request.outcome (premises : Premises) : Request → Outcome
  | command invocation => invocation.outcome premises
  | help topic => .ofOutput topic.text
  | version => .ofOutput (textLine (programName ++ " " ++ programVersion))

end SqlWorkflow
