import SqlWorkflow.Template.Machine

-- What runs a part of a template again (a procedure, a recursive loop, a block by its name) goes
-- through `rerun`, so that only the number of such runs inside each other is bounded.
namespace SqlWorkflow.Template

structure Evaluator where
  setting : Setting
  blocks : List (String × List Stmt)
  rerun : Rerun → List Value → Run Value

open Run

def rangeOf (args : List Value) : Option Value := do
  let bound := fun (value : Value) => value.size?.filter (· < Nat.pow 2 32)
  match args with
  | [] => none
  | first :: rest =>
      if 2 < rest.length then none
      else
        let first ← bound first
        let last ← Value.optional bound rest.head?
        let step := (← Value.optional bound rest[1]?).getD 1
        let (start, stop) := match last with
          | none => (0, first)
          | some last => (first, last)
        if step = 0 then none
        else
          let count := (stop - start + step - 1) / step
          if 100000 < count then none
          else return .list .derived ((List.range count).map fun n => .int (start + n * step : Nat))

def dictOf (args : List Value) : Option Value := do
  let (places, names) := match args.getLast? with
    | some (.map true entries) => (args.dropLast, entries)
    | _ => (args, [])
  match places with
  | [] => return .ofEntries false names
  | [.undefined _] => return .ofEntries false names
  | [.map _ entries] => return .ofEntries false (entries ++ names)
  | _ => none

def namespaceOf (args : List Value) : Run Value := do
  let entries ← match args with
    | [] => pure []
    | [.none] => pure []
    | [.map _ entries] => pure entries
    | _ => fault
  let id ← newCell
  for entry in entries do
    match entry.1 with
    | .text name _ => store id name entry.2
    | _ => fault
  return .cell id

def referTo (setting : Setting) (registers : Bool) (args : List Value) : Run Value := do
  let parts ← orFault (args.mapM Value.textArg?)
  match refer setting.names registers parts with
  | .error cause => raise cause
  | .ok found =>
      mention found
      return .ofText (found.text setting.names)

def callFunction (setting : Setting) (name : String) (args : List Value) : Run Value := do
  match name, args with
  | "ref", args => referTo setting true args
  | "resolve", args => referTo setting false args
  | "self", [] => do
      let found : Mention := ⟨none, setting.target⟩
      mention found
      return .ofText (found.text setting.names)
  | "name", [] => return .ofText setting.action
  | "incremental", [] => return .bool setting.incremental
  | "when", condition :: yes :: rest => do
      if 1 < rest.length then fault
      else
        let no ← orFault (Value.optional some rest.head?)
        return if (← opened condition).isTrue then yes else no.getD (.ofText "")
  | "range", args => orFault (rangeOf args)
  | "dict", args => orFault (dictOf args)
  | "namespace", args => namespaceOf args
  | _, _ => fault

def callValue (e : Evaluator) (function : Value) (args : List Value) : Run Value :=
  match function with
  | .function name => callFunction e.setting name args
  | .procedure decl closure => e.rerun (.procedure decl closure) args
  | _ => fault

def recursion? : Run (Option (Rerun × Nat)) := do
  return ((← get).frames.find? fun frame => frame.loop.isSome).bind Frame.recursion

def callMethod (e : Evaluator) (object : Value) (name : String) (args : List Value) :
    Run Value := do
  match object, name with
  | .loop _ index _ _ _ _, "cycle" =>
      if args.isEmpty then fault else return args[index % args.length]?.getD .missing
  | .loop id _ _ _ _ _, "changed" => do
      let last := (← cell id).get? "changed"
      store id "changed" (.ofList args)
      return .bool (!last.any fun value => value.same (.ofList args))
  | object, name =>
      match (← opened object).attr? name with
      | some function => callValue e function args
      | none => fault

def operate (op : BinaryOp) (a b : Value) : Run Value := do
  let a ← opened a
  let b ← opened b
  match op with
  | .equal => return .bool (a.same b)
  | .unequal => return .bool !(a.same b)
  | .less => return .bool (a.order b == .lt)
  | .lessEqual => return .bool (a.order b != .gt)
  | .greater => return .bool (a.order b == .gt)
  | .greaterEqual => return .bool (a.order b != .lt)
  | .contained => if b.isMissing then fault else return .bool (← orFault (b.contains? a))
  | .concat => return .ofText (a.display ++ b.display)
  | .add => orFault (a.add? b)
  | .subtract => orFault (a.subtract? b)
  | .multiply => orFault (a.multiply? b)
  | .divide => orFault (a.divide? b)
  | .floorDivide => orFault (a.floorDivide? b)
  | .remainder => orFault (a.remainder? b)
  | .power => orFault (a.power? b)
  | .or => return b
  | .and => return b

def ofLiteral : Literal → Value
  | .none => .none
  | .bool value => .bool value
  | .int value => .int value
  | .float value => .float value
  | .text value => .ofText value

def found (object : Value) (result : Option Value) : Run Value :=
  match result with
  | some value => pure value
  | none => if object.isUndefined then fault else pure .missing

def checked (name : String) (value : Value) (args : List Value) : Run Value := do
  match name, args with
  | "filter", [] => return .bool (value.text?.any isFilterName)
  | "test", [] => return .bool (value.text?.any fun name =>
      aloneNames.contains name || againstNames.contains name || name == "filter" || name == "test")
  | _, _ => return .bool (← orFault (check? name (← opened value) args))

def filtered (name : String) (value : Value) (args : List Value) : Run Value := do
  orFault (filter? filterDepth name (← opened value) args)

def Arg.isNamed : Arg → Bool
  | .named _ _ => true
  | .nameds _ => true
  | _ => false

def gather (args : List Arg) (caller : Option Value) (places : List Value)
    (names : List (Value × Value)) : List Value :=
  let callers := caller.toList.map fun value => (Value.ofText "caller", value)
  if args.any Arg.isNamed || caller.isSome then places ++ [.ofEntries true (names ++ callers)]
  else places

-- Calls by name. The name is looked up after the arguments are evaluated.
def callName (e : Evaluator) (name : String) (args : List Value) : Run Value := do
  if name = "super" then fault
  else if name = "loop" then
    match args, ← recursion? with
    | [items], some (part, _) => e.rerun part [items]
    | _, _ => fault
  else match ← find? e.setting name with
    | some value => callValue e value args
    | none => fault

def callBlock (e : Evaluator) (name : String) : Run Value :=
  match e.blocks.lookup name with
  | some body => e.rerun (.block body) []
  | none => fault

mutual

def evalExpr (e : Evaluator) : Expr → Run Value
  | .literal value => pure (ofLiteral value)
  | .var name => do return (← find? e.setting name).getD .missing
  | .list items => do return .ofList (← evalItems e items)
  | .map entries => do return .ofEntries false (← evalEntries e entries)
  | .unary .not operand => do return .bool !(← truth (← evalExpr e operand))
  | .unary .negate operand => do orFault (← evalExpr e operand).negate?
  | .binary .or left right => do
      let value ← evalExpr e left
      if ← truth value then return value else evalExpr e right
  | .binary .and left right => do
      let value ← evalExpr e left
      if ← truth value then evalExpr e right else return value
  | .binary op left right => do
      let a ← evalExpr e left
      let b ← evalExpr e right
      operate op a b
  | .choice test yes no => do
      if ← truth (← evalExpr e test) then evalExpr e yes
      else evalOption e no (.undefined true)
  | .attr object name => do
      let object ← opened (← evalExpr e object)
      found object (object.attr? name)
  | .item object key => do
      let object ← opened (← evalExpr e object)
      let key ← evalExpr e key
      found object (object.item? key)
  | .slice object start stop step => do
      let object ← evalExpr e object
      let start ← evalOption e start .none
      let stop ← evalOption e stop .none
      let step ← evalOption e step .none
      if object.isMissing then fault else orFault (Value.slice? object start stop step)
  | .filter name operand args => do
      let value ← evalExpr e operand
      let places ← evalPlaces e args
      let names ← evalNames e args
      filtered name value (gather args none places names)
  | .check name operand args => do
      let value ← evalExpr e operand
      let places ← evalPlaces e args
      let names ← evalNames e args
      checked name value (gather args none places names)
  | .call (.var name) args => do
      let places ← evalPlaces e args
      let names ← evalNames e args
      callName e name (gather args none places names)
  | .call (.attr (.var "self") name) _ => callBlock e name
  | .call (.attr object name) args => do
      let object ← evalExpr e object
      let places ← evalPlaces e args
      let names ← evalNames e args
      callMethod e object name (gather args none places names)
  | .call function args => do
      let function ← evalExpr e function
      let places ← evalPlaces e args
      let names ← evalNames e args
      callValue e function (gather args none places names)

def evalOption (e : Evaluator) : Option Expr → Value → Run Value
  | none, absent => pure absent
  | some expr, _ => evalExpr e expr

def evalItems (e : Evaluator) : List Expr → Run (List Value)
  | [] => pure []
  | item :: items => do
      let value ← evalExpr e item
      return value :: (← evalItems e items)

def evalEntries (e : Evaluator) : List (Expr × Expr) → Run (List (Value × Value))
  | [] => pure []
  | (key, value) :: entries => do
      let key ← evalExpr e key
      let value ← evalExpr e value
      return (key, value) :: (← evalEntries e entries)

def evalPlaces (e : Evaluator) : List Arg → Run (List Value)
  | [] => pure []
  | .value expr :: args => do
      let value ← evalExpr e expr
      return value :: (← evalPlaces e args)
  | .values expr :: args => do
      let values ← itemsOf (← evalExpr e expr)
      return values ++ (← evalPlaces e args)
  | .named _ _ :: args => evalPlaces e args
  | .nameds _ :: args => evalPlaces e args

def evalNames (e : Evaluator) : List Arg → Run (List (Value × Value))
  | [] => pure []
  | .named name expr :: args => do
      let value ← evalExpr e expr
      return (.ofText name, value) :: (← evalNames e args)
  | .nameds expr :: args => do
      match ← opened (← evalExpr e expr) with
      | .map _ entries => return entries ++ (← evalNames e args)
      | _ => fault
  | .value _ :: args => evalNames e args
  | .values _ :: args => evalNames e args

end

def evalArgs (e : Evaluator) (args : List Arg) (caller : Option Value) : Run (List Value) := do
  let places ← evalPlaces e args
  let names ← evalNames e args
  return gather args caller places names

def evalCall (e : Evaluator) (function : Expr) (args : List Arg) (caller : Option Value) :
    Run Value := do
  match function with
  | .var name => callName e name (← evalArgs e args caller)
  | .attr (.var "self") name => callBlock e name
  | .attr object name =>
      let object ← evalExpr e object
      callMethod e object name (← evalArgs e args caller)
  | function =>
      let function ← evalExpr e function
      callValue e function (← evalArgs e args caller)

def evalFilters (e : Evaluator) (filters : List FilterCall) (value : Value) : Run Value :=
  filters.foldlM (fun value filter => do
    filtered filter.name value (← evalArgs e filter.args none)) value

end SqlWorkflow.Template
