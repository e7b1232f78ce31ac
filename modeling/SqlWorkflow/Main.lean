import SqlWorkflow.Command.Outcome

namespace SqlWorkflow

-- The files below a directory of the disk. Hidden ones have no part in a project.
partial def readTree (base : String) : IO FileTree := do
  let here := (← IO.currentDir) / base
  if ← here.isDir then
    let entries ← here.readDir
    let names := (entries.toList.map fun entry => entry.fileName).filter (!Project.isHidden ·)
    return .directory (← names.mapM fun name => do
      return (name, ← readTree (FilePath.join base name)))
  else
    return .file (String.fromUTF8? (← IO.FS.readBinFile here))

def readProject (path : String) : IO (Option FileTree) := do
  let here := (← IO.currentDir) / path
  if ← here.pathExists then return some (← readTree path) else return none

def perform (request : Request) : IO Outcome := do
  let directory := (← IO.currentDir).toString
  let project ← match request.project? with
    | some path => readProject path
    | none => pure none
  return request.outcome { directory, project }

end SqlWorkflow

def main (arguments : List String) : IO UInt32 := do
  let outcome ← match SqlWorkflow.Request.ofArguments arguments with
    | .ok request => SqlWorkflow.perform request
    | .error e => pure (SqlWorkflow.Outcome.ofUsageError e)
  IO.print outcome.output
  IO.eprint outcome.diagnostics
  return UInt32.ofNat outcome.exitCode
