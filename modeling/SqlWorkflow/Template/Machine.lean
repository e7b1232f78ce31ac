import SqlWorkflow.SortedMap
import SqlWorkflow.Template.Filters
import SqlWorkflow.Template.Mention

-- A rendering that fails keeps its mentions and the error of the function that stopped it.
namespace SqlWorkflow.Template

structure Setting where
  names : NameTable
  action : String
  target : Target
  incremental : Bool

inductive Rerun where
  | procedure (decl : Procedure) (closure : Nat)
  | loop (target : Pattern) (body : List Stmt)
  | block (body : List Stmt)

structure Frame where
  -- The latest binding of a name comes first.
  names : List (String × Value) := []
  loop : Option Value := none
  recursion : Option (Rerun × Nat) := none
  closure : Option Nat := none
  base : Option Nat := none
deriving Inhabited

structure Machine where
  frames : List Frame := [{}]
  cells : List (SortedMap String Value) := []
  mentions : List Mention := []
  error : Option TemplateError := none
  escaping : Bool := false

-- A computation that may fail and keeps the machine in any case.
abbrev Run := ExceptT TemplateError (StateM Machine)

namespace Run

def fault {α : Type} : Run α :=
  throw .unrenderable

def orFault {α : Type} : Option α → Run α
  | some value => pure value
  | none => fault

def newCell : Run Nat := do
  let machine ← get
  set { machine with cells := machine.cells ++ [∅] }
  return machine.cells.length

def cell (id : Nat) : Run (SortedMap String Value) := do
  return (← get).cells[id]?.getD ∅

def store (id : Nat) (name : String) (value : Value) : Run Unit := do
  let entries ← cell id
  modify fun machine => { machine with cells := machine.cells.set id (entries.insert name value) }

def opened (value : Value) : Run Value := do
  match value with
  | .cell id =>
      return .map false ((← cell id).toList.map fun entry => (.ofText entry.1, entry.2))
  | value => return value

def push (frame : Frame) : Run Unit :=
  modify fun machine => { machine with frames := frame :: machine.frames }

def pop : Run Unit :=
  modify fun machine => { machine with frames := machine.frames.tail }

def changeTop (change : Frame → Frame) : Run Unit :=
  modify fun machine =>
    { machine with frames := change (machine.frames.head?.getD {}) :: machine.frames.tail }

def bindName (name : String) (value : Value) : Run Unit := do
  let top := (← get).frames.head?.getD {}
  match top.closure with
  | some id => store id name value
  | none => pure ()
  changeTop fun frame => { frame with names := (name, value) :: frame.names }

def inFrame (cells : List (SortedMap String Value)) (name : String) (frame : Frame) :
    Option Value :=
  frame.names.lookup name <|> (if name = "loop" then frame.loop else none) <|>
    frame.base.bind fun id => (cells[id]?.getD ∅).get? name

def globalNames : List String :=
  ["ref", "resolve", "self", "name", "incremental", "when", "range", "dict", "namespace", "debug"]

def global? (setting : Setting) (name : String) : Option Value :=
  if name = "vars" then
    some (.ofEntries false (setting.names.settings.vars.toList.map fun entry =>
      (.ofText entry.1, .ofText entry.2)))
  else if globalNames.contains name then some (.function name)
  else none

def find? (setting : Setting) (name : String) : Run (Option Value) := do
  let machine ← get
  return machine.frames.findSome? (inFrame machine.cells name) <|> global? setting name

def enclose : Run Nat := do
  let machine ← get
  let id ← match (machine.frames.head?.getD {}).closure with
    | some id => pure id
    | none => newCell
  changeTop fun frame => { frame with closure := some id }
  let kept ← cell id
  let bound := machine.frames.flatMap fun frame =>
    frame.names ++ (frame.loop.toList.map fun value => ("loop", value)) ++
      (frame.base.toList.flatMap fun base => (machine.cells[base]?.getD ∅).toList)
  let all := (SortedMap.ofList bound.reverse).merge kept
  modify fun machine => { machine with cells := machine.cells.set id all }
  return id

def truth (value : Value) : Run Bool := do
  if value.isMissing then fault else return (← opened value).isTrue

def itemsOf (value : Value) : Run (List Value) := do
  orFault (← opened value).items?

def assign : Pattern → Value → Run Unit
  | .name name, value => bindName name value
  | .items patterns, value => do
      match ← opened value with
      | .list _ items => assignAll patterns items
      | .map _ entries => assignAll patterns (entries.map Prod.fst)
      | _ => fault
where
  assignAll : List Pattern → List Value → Run Unit
    | [], [] => pure ()
    | pattern :: patterns, item :: items => do
        assign pattern item
        assignAll patterns items
    | _, _ => fault

def printed (value : Value) : Run String := do
  if value.isMissing then fault
  else
    let value ← opened value
    return if (← get).escaping then value.markup else value.display

def made (text : String) : Run Value := do
  return .text text (← get).escaping

def mention (mention : Mention) : Run Unit :=
  modify fun machine => { machine with mentions := machine.mentions ++ [mention] }

def raise {α : Type} (cause : TemplateError) : Run α := do
  modify fun machine => { machine with error := some cause }
  fault

end Run

end SqlWorkflow.Template
