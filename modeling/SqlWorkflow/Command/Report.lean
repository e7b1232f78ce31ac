import SqlWorkflow.Plan

namespace SqlWorkflow

def textLine (text : String) : String :=
  text ++ "\n"

def kindColumn (word : String) : String :=
  word ++ String.ofList (List.replicate (12 - word.length) ' ')

namespace Graph

def shownKind : Action → String
  | .table t => t.tableType.word
  | action => action.kind.word

def summaryLine (action : Action) : String :=
  "  " ++ kindColumn (shownKind action) ++ " " ++ action.target.display ++
    if action.disabled then " (disabled)" else ""

def summary (graph : Graph) : String :=
  textLine ("Compiled " ++ toString graph.actions.length ++ " action(s)") ++
    Text.join "" (graph.actions.map fun action => textLine (summaryLine action))

def allWarnings (graph : Graph) : List FileMessage :=
  graph.warnings.toList.flatMap fun entry => entry.2.map fun message => ⟨entry.1, message⟩

def diagnosticLine (level : String) (message : FileMessage) : String :=
  textLine ("[" ++ level ++ "] " ++ message.path ++ ": " ++ message.message)

def diagnostics (graph : Graph) : String :=
  Text.join "" (graph.allWarnings.map (diagnosticLine "warn") ++
    graph.allErrors.map (diagnosticLine "error"))

end Graph

namespace Plan

def taskLine (verbose : Bool) (task : Task) : String :=
  let mark := match task with
    | .statement _ => ""
    | .assertion _ => "assert: "
  let shown := if verbose then task.sql else (Text.lines task.sql).headD ""
  textLine ("      " ++ mark ++ shown)

def executionLines (verbose : Bool) (execution : Execution) : String :=
  let kind := match execution.tableType with
    | some tableType => tableType.word
    | none => execution.kind.word
  let tasks := match execution.tasks with
    | [] => textLine "      (no tasks)"
    | tasks => Text.join "" (tasks.map (taskLine verbose))
  textLine ("  " ++ kindColumn kind ++ " " ++ execution.target.display) ++ tasks

def summary (verbose : Bool) (plan : Plan) : String :=
  textLine ("Dry run: " ++ toString plan.actions.length ++ " action(s), " ++
    toString plan.taskCount ++ " task(s)") ++
    Text.join "" (plan.actions.map (executionLines verbose))

end Plan

structure Failure where
  message : String
  causes : List String := []
deriving DecidableEq

def Error.chain (e : Error) : List String :=
  match e with
  | .unreadableFile _ reason => [e.message, reason.message]
  | e => [e.message]

namespace Failure

def ofChain : List String → Failure
  | [] => ⟨"", []⟩
  | message :: causes => ⟨message, causes⟩

def ofError (e : Error) : Failure :=
  ofChain e.chain

def inContext (context : String) (e : Error) : Failure :=
  ⟨context, e.chain⟩

def markedLines (mark text : String) : String :=
  let margin := String.ofList (List.replicate mark.length ' ')
  mark ++ Text.join ("\n" ++ margin) (Text.split '\n' text)

def causeLines : List String → List String
  | [cause] => [markedLines "    " cause]
  | causes => causes.zipIdx.map fun (cause, index) =>
      let number := toString index
      markedLines (String.ofList (List.replicate (5 - number.length) ' ') ++ number ++ ": ") cause

def text (failure : Failure) : String :=
  match failure.causes with
  | [] => textLine ("Error: " ++ failure.message)
  | causes =>
      textLine ("Error: " ++ failure.message) ++ textLine "" ++ textLine "Caused by:" ++
        Text.join "" ((causeLines causes).map textLine)

end Failure

end SqlWorkflow
