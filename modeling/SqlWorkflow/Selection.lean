import SqlWorkflow.Graph
import SqlWorkflow.Reference

-- Names come before tags, and without either every enabled action is chosen. Declarations never
-- are.
namespace SqlWorkflow

structure RunOptions where
  actions : List String := []
  tags : List String := []
  fullRefresh : Bool := false
  includeDependencies : Bool := false
  includeDependents : Bool := false
deriving DecidableEq, Inhabited

namespace Graph

def named (graph : Graph) (name : String) : Except Error (List Target) :=
  match Reference.parse? name with
  | none => .error (.actionNotFound name)
  | some reference =>
      match graph.actions.filter (·.canonicalTarget.matchesParts reference.parts) with
      | [] => .error (.actionNotFound reference.display)
      | found =>
          match found.filter Action.runnable with
          | [] => .error (.declarationNotRunnable reference.display)
          | runnable => .ok (runnable.map Action.canonicalTarget)

def tagged (graph : Graph) (tags : List String) : List Target :=
  (graph.actions.filter fun a => a.enabled && a.tags.any (· ∈ tags)).map Action.canonicalTarget

def allEnabled (graph : Graph) : List Target :=
  (graph.actions.filter Action.enabled).map Action.canonicalTarget

def baseSelection (graph : Graph) (run : RunOptions) : Except Error (List Target) :=
  if !run.actions.isEmpty then (run.actions.mapM graph.named).map List.flatten
  else if !run.tags.isEmpty then .ok (graph.tagged run.tags)
  else .ok graph.allEnabled

def extraSelection (graph : Graph) (run : RunOptions) (base : List Target) : List Target :=
  let dag := graph.dag
  let reached := base.flatMap fun target =>
    (if run.includeDependencies then (dag.ancestors target).toList else []) ++
      (if run.includeDependents then (dag.descendants target).toList else [])
  reached.filter fun target => (graph.find? target).any Action.enabled

def select (graph : Graph) (run : RunOptions) : Except Error (List Target) := do
  let base ← graph.baseSelection run
  graph.dag.orderSubset (.ofList (base ++ graph.extraSelection run base))

end Graph

end SqlWorkflow
