import SqlWorkflow.Template.Evaluate

namespace SqlWorkflow.Template

open Run

def startDepth : Run Nat := do
  return match ← recursion? with
    | some (_, depth) => depth + 1
    | none => 0

-- Runs a body for each item. The names bound in it stay until the loop ends.
def visit (id depth : Nat) (length : Option Nat) (target : Pattern) (body : Run String) :
    Nat → Value → List Value → Run String
  | _, _, [] => pure ""
  | index, previous, item :: items => do
      let state := Value.loop id index length depth previous (items.head?.getD .missing)
      changeTop fun frame => { frame with loop := some state }
      assign target item
      let text ← body
      return text ++ (← visit id depth length target body (index + 1) item items)

def runLoop (target : Pattern) (recursion : Option Rerun) (body : Run String) (items : Value) :
    Run String := do
  let values ← itemsOf items
  let depth ← startDepth
  let id ← newCell
  push { recursion := recursion.map fun part => (part, depth) }
  let text ← visit id depth (← opened items).length? target body 0 .missing values
  pop
  return text

def keepItems (target : Pattern) (condition : Run Value) (items : Value) : Run Value := do
  let values ← itemsOf items
  push {}
  let kept ← values.filterM fun item => do
    assign target item
    truth (← condition)
  pop
  return .ofList kept

def matchArgs (params : List String) (args : List Value) : Option (List Value × Option Value) :=
  let given := Args.ofValues args
  let known := fun (entry : String × Value) => params.contains entry.1 || entry.1 == "caller"
  let twice := (params.take given.places.length).any fun name =>
    (given.names.lookup name).isSome
  if params.length < given.places.length || twice || !given.names.all known then none
  else
    let named := (params.drop given.places.length).map fun name =>
      (given.names.lookup name).getD .missing
    some (given.places ++ named, given.names.lookup "caller")

-- Binds parameters from the last to the first, so that the value that an absent one has by default
-- can use the parameters after it.
def bindParams (default : Expr → Run Value) : List (Pattern × Value × Option Expr) → Run Unit
  | [] => pure ()
  | (param, value, absent) :: more => do
      bindParams default more
      match value.isUndefined, absent with
      | true, some expr => assign param (← default expr)
      | _, _ => assign param value

def withDefaults (params : List Pattern) (values : List Value) (defaults : List Expr) :
    List (Pattern × Value × Option Expr) :=
  let absent := List.replicate (params.length - defaults.length) none ++ defaults.map some
  params.zip (values.zip absent)

def Pattern.text : Pattern → String
  | .name text => text
  | .items _ => ""

def runProcedure (default : Expr → Run Value) (run : List Stmt → Run String) (decl : Procedure)
    (closure : Nat) (args : List Value) : Run Value := do
  match decl with
  | .mk _ params defaults body =>
      let (values, caller) ← orFault (matchArgs (params.map Pattern.text) args)
      let frames := (← get).frames
      modify fun machine => { machine with frames := [{ base := some closure }] }
      match caller with
      | some value => bindName "caller" value
      | none => pure ()
      bindParams default (withDefaults params values defaults)
      let text ← run body
      modify fun machine => { machine with frames }
      made text

def assignTo (object : Value) (name : String) (value : Value) : Run String := do
  match object with
  | .cell id => store id name value; return ""
  | _ => fault

def escapes? (mode : Value) : Option Bool :=
  match mode.text? with
  | some "html" => some true
  | some "none" => some false
  | some _ => none
  | none => some (mode.same (.bool true))

-- The names of other templates. Each is a text, and none of them exists.
def areTemplateNames (value : Value) : Bool :=
  match value with
  | .list _ items => items.all fun item => item.text?.isSome
  | value => value.text?.isSome

mutual

def runStmt (e : Evaluator) : Stmt → Run String
  | .text text => pure text
  | .print expr => do printed (← evalExpr e expr)
  | .loop target items condition recursive body orElse => do
      let items ← evalExpr e items
      let items ← match condition with
        | none => pure items
        | some condition => keepItems target (evalExpr e condition) items
      let again := if recursive then some (Rerun.loop target body) else none
      let text ← runLoop target again (runStmts e body) items
      if (← itemsOf items).isEmpty then runStmts e orElse else return text
  | .branch test body orElse => do
      if ← truth (← evalExpr e test) then runStmts e body else runStmts e orElse
  | .scope bindings body => do
      push {}
      for binding in bindings do
        assign binding.1 (← evalExpr e binding.2)
      let text ← runStmts e body
      pop
      return text
  | .assign target value => do
      assign target (← evalExpr e value)
      return ""
  | .assignAttr object name value => do
      let value ← evalExpr e value
      assignTo (← evalExpr e object) name value
  | .assignText target filters body => do
      let text ← runStmts e body
      assign target (← evalFilters e filters (← made text))
      return ""
  | .assignAttrText object name filters body => do
      let text ← runStmts e body
      let value ← evalFilters e filters (← made text)
      assignTo (← evalExpr e object) name value
  | .escaping mode body => do
      let before := (← get).escaping
      let now ← orFault (escapes? (← evalExpr e mode))
      modify fun machine => { machine with escaping := now }
      let text ← runStmts e body
      modify fun machine => { machine with escaping := before }
      return text
  | .filtered filters body => do
      let text ← runStmts e body
      printed (← evalFilters e filters (← made text))
  | .block _ body => do
      push {}
      let text ← runStmts e body
      pop
      return text
  | .procedure (.mk name params defaults body) => do
      let closure ← enclose
      bindName name (.procedure (.mk name params defaults body) closure)
      return ""
  | .callWith function args caller => do
      let closure ← enclose
      printed (← evalCall e function args (some (.procedure caller closure)))
  | .perform function args => do
      let _ ← evalCall e function args none
      return ""
  | .foreign name optional => do
      let names ← evalExpr e name
      if areTemplateNames names && optional then return "" else fault

def runStmts (e : Evaluator) : List Stmt → Run String
  | [] => pure ""
  | stmt :: stmts => do
      let text ← runStmt e stmt
      return text ++ (← runStmts e stmts)

end

mutual

def blocksIn : Stmt → List (String × List Stmt)
  | .loop _ _ _ _ body orElse => blocksOf body ++ blocksOf orElse
  | .branch _ body orElse => blocksOf body ++ blocksOf orElse
  | .scope _ body => blocksOf body
  | .assignText _ _ body => blocksOf body
  | .assignAttrText _ _ _ body => blocksOf body
  | .escaping _ body => blocksOf body
  | .filtered _ body => blocksOf body
  | .block name body => (name, body) :: blocksOf body
  | _ => []

def blocksOf : List Stmt → List (String × List Stmt)
  | [] => []
  | stmt :: stmts => blocksIn stmt ++ blocksOf stmts

end

def maxReruns : Nat := 100

def evaluator (setting : Setting) (blocks : List (String × List Stmt)) : Nat → Evaluator
  | 0 => ⟨setting, blocks, fun _ _ => fault⟩
  | depth + 1 =>
      let e := evaluator setting blocks depth
      { e with rerun := fun part args => do
          match part, args with
          | .procedure decl closure, args =>
              runProcedure (evalExpr e) (runStmts e) decl closure args
          | .loop target body, [items] =>
              made (← runLoop target (some (.loop target body)) (runStmts e body) items)
          | .block body, _ => do
              push {}
              let text ← runStmts e body
              pop
              made text
          | _, _ => fault }

end SqlWorkflow.Template
