import SqlWorkflow.Dag.Reach
import SqlWorkflow.Error

namespace SqlWorkflow

structure Edge where
  dependency : Target
  dependent : Target
deriving DecidableEq

structure Dag where
  nodes : List Target := []
  edges : List Edge := []
deriving DecidableEq, Inhabited

namespace Dag

def addAction (dag : Dag) (target : Target) : Dag :=
  if target ∈ dag.nodes then dag else { dag with nodes := dag.nodes ++ [target] }

def index? (dag : Dag) (target : Target) : Option Nat :=
  dag.nodes.idxOf? target

def addDependency (dag : Dag) (dependent dependency : Target) : Dag :=
  let dag := (dag.addAction dependent).addAction dependency
  let edge : Edge := { dependency, dependent }
  if edge ∈ dag.edges then dag else { dag with edges := dag.edges ++ [edge] }

-- The graph of actions with their dependencies. Dependencies on targets without an entry of their
-- own are left out.
def build (dependencies : SortedMap Target (List Target)) : Dag :=
  let nodes := dependencies.keys.foldl addAction {}
  dependencies.toList.foldl (fun dag entry =>
    (entry.2.filter (· ∈ dependencies.keys)).foldl (fun dag dependency =>
      dag.addDependency entry.1 dependency) dag) nodes

def dependenciesOf (dag : Dag) (target : Target) : List Target :=
  (dag.edges.filter (·.dependent = target)).map Edge.dependency

def dependentsOf (dag : Dag) (target : Target) : List Target :=
  (dag.edges.filter (·.dependency = target)).map Edge.dependent

def ancestors (dag : Dag) (target : Target) : SortedSet Target :=
  .ofList (gather dag.dependenciesOf dag.nodes (dag.dependenciesOf target))

def descendants (dag : Dag) (target : Target) : SortedSet Target :=
  .ofList (gather dag.dependentsOf dag.nodes (dag.dependentsOf target))

def component (dag : Dag) (target : Target) : List Target :=
  let dependents := (dag.descendants target).toList
  (dag.ancestors target).toList.filter (· ∈ dependents)

-- Extends walks through `members`, held in reverse, by one dependency each. A target is only
-- entered once, from the first walk that gets there.
def extendWalks (dag : Dag) (members : List Target) :
    List Target → List (List Target) → List Target × List (List Target)
  | seen, [] => (seen, [])
  | seen, walk :: walks =>
      let current := walk.head?.toList
      let next := (SortedSet.ofList (current.flatMap dag.dependenciesOf)).toList.filter fun t =>
        t ∈ members ∧ t ∉ seen
      let result := extendWalks dag members (next ++ seen) walks
      (result.1, next.map (· :: walk) ++ result.2)

def closeWalk (dag : Dag) (members : List Target) (start : Target) :
    Nat → List Target → List (List Target) → Option (List Target)
  | 0, _, _ => none
  | rounds + 1, seen, walks =>
      match walks.find? fun walk => walk.head?.any fun t => start ∈ dag.dependenciesOf t with
      | some walk => some walk
      | none =>
          let result := dag.extendWalks members seen walks
          closeWalk dag members start rounds result.1 result.2

def cyclePath (dag : Dag) (start : Target) : List Target :=
  let walk := dag.closeWalk (dag.component start) start dag.nodes.length [start] [[start]]
  ((walk.getD [start]).reverse) ++ [start]

def leadsCycle (dag : Dag) (target : Target) : Bool :=
  (dag.component target).head? = some target

def cycles (dag : Dag) : List (List Target) :=
  ((SortedSet.ofList dag.nodes).toList.filter dag.leadsCycle).map dag.cyclePath

def validate (dag : Dag) : Except Error Unit :=
  match dag.cycles with
  | [] => .ok ()
  | cycle :: _ => .error (.circularDependency cycle)

def compareDisplay : Target → Target → Ordering :=
  compareLex (compareOn Target.display) compare

def least? (targets : List Target) : Option Target :=
  targets.foldl (fun best target =>
    match best with
    | none => some target
    | some other => if compareDisplay target other = .lt then some target else best) none

def followersOf (dag : Dag) (chosen : List Target) (target : Target) : List Target :=
  let after := (dag.descendants target).toList
  chosen.filter fun other => other ≠ target ∧ other ∈ after

def followers (dag : Dag) (chosen : List Target) : SortedMap Target (List Target) :=
  .ofList (chosen.map fun target => (target, dag.followersOf chosen target))

-- An ordering under way. The degree of a target counts those that still have to come before it, and
-- the ready ones are those of degree zero that are not in the order yet.
structure Countdown where
  degrees : SortedMap Target Int
  ready : List Target
  order : List Target := []
deriving DecidableEq

namespace Countdown

def start (chosen : List Target) (followers : SortedMap Target (List Target)) : Countdown :=
  let degrees : SortedMap Target Int := .ofList (chosen.map fun target =>
    (target, (followers.toList.countP (target ∈ ·.2) : Int)))
  { degrees, ready := (degrees.toList.filter (·.2 = 0)).map Prod.fst }

def lower (state : Countdown) (target : Target) : Countdown :=
  match state.degrees.get? target with
  | none => state
  | some degree =>
      { state with
        degrees := state.degrees.insert target (degree - 1)
        ready := if degree - 1 = 0 then target :: state.ready else state.ready }

def emit (state : Countdown) (target : Target) : Countdown :=
  { state with ready := state.ready.erase target, order := state.order ++ [target] }

def step (followers : SortedMap Target (List Target)) (state : Countdown) : Option Countdown :=
  (least? state.ready).map fun target =>
    ((followers.get? target).getD []).foldl lower (state.emit target)

def run (followers : SortedMap Target (List Target)) : Nat → Countdown → Countdown
  | 0, state => state
  | rounds + 1, state =>
      match step followers state with
      | none => state
      | some next => run followers rounds next

end Countdown

-- The selected nodes with every node after its transitive dependencies, even where the path runs
-- through nodes that are not selected; of several free nodes the least by dotted name comes first.
def orderSubset (dag : Dag) (selected : SortedSet Target) : Except Error (List Target) :=
  let chosen := selected.toList.filter (· ∈ dag.nodes)
  let followers := dag.followers chosen
  let order := (Countdown.run followers chosen.length (.start chosen followers)).order
  if order.length = chosen.length then .ok order
  else do
    dag.validate
    return order

end Dag

end SqlWorkflow
