import SqlWorkflow.Template.Operators
import SqlWorkflow.Text.LetterCase

namespace SqlWorkflow.Template

namespace Value

def textArg? : Value → Option String
  | .undefined _ => Option.none
  | .map true _ => Option.none
  | value => some value.display

def isSequence : Value → Bool
  | .list .sequence _ => true
  | _ => false

def isMapping (value : Value) : Bool :=
  value.kind == 7

def isWhole : Value → Bool
  | .int _ => true
  | _ => false

def isFloating : Value → Bool
  | .float _ => true
  | _ => false

def isSafe : Value → Bool
  | .text _ safe => safe
  | _ => false

def isBool : Value → Bool
  | .bool _ => true
  | _ => false

def isMultiple (a b : Value) : Bool :=
  match pair? false a b with
  | some (.ints x y) => y != 0 && x % y == 0
  | some (.floats x y) => (Binary64.ofFloat x).remainder (.ofFloat y) == 0
  | _ => false

end Value

def checkTexts (a b : Value) (test : List Char → List Char → Bool) : Option Bool := do
  return test (← a.textArg?).toList (← b.textArg?).toList

def isSmallLetter (c : Char) : Bool :=
  Text.isCased c && Text.lowerChar c == [c]

def isCapital (c : Char) : Bool :=
  Text.isCased c && Text.upperChar c == [c]

def checkAlone (name : String) (value : Value) : Option Bool :=
  match name with
  | "undefined" => some value.isUndefined
  | "defined" => some !value.isUndefined
  | "none" => some (value matches .none)
  | "safe" => some value.isSafe
  | "escaped" => some value.isSafe
  | "odd" => some (value.wide?.any (· % 2 != 0))
  | "even" => some (value.wide?.any (· % 2 == 0))
  | "number" => some value.isNumber
  | "integer" => some value.isWhole
  | "float" => some value.isFloating
  | "string" => some value.text?.isSome
  | "sequence" => some value.isSequence
  | "iterable" => some (value.isUndefined || value.items?.isSome)
  | "mapping" => some value.isMapping
  | "boolean" => some value.isBool
  | "true" => some (value matches .bool true)
  | "false" => some (value matches .bool false)
  | "lower" => value.textArg?.map fun text => text.toList.all isSmallLetter
  | "upper" => value.textArg?.map fun text => text.toList.all isCapital
  | _ => none

def checkAgainst (name : String) (value other : Value) : Option Bool :=
  match name with
  | "divisibleby" => some (value.isMultiple other)
  | "startingwith" => checkTexts value other fun text start => start.isPrefixOf text
  | "endingwith" => checkTexts value other fun text ending => ending.isSuffixOf text
  | "sameas" => some (value.kind == other.kind && value.same other)
  | "eq" => some (value.same other)
  | "equalto" => some (value.same other)
  | "==" => some (value.same other)
  | "ne" => some !(value.same other)
  | "!=" => some !(value.same other)
  | "lt" => some (value.order other == .lt)
  | "lessthan" => some (value.order other == .lt)
  | "<" => some (value.order other == .lt)
  | "le" => some (value.order other != .gt)
  | "<=" => some (value.order other != .gt)
  | "gt" => some (value.order other == .gt)
  | "greaterthan" => some (value.order other == .gt)
  | ">" => some (value.order other == .gt)
  | "ge" => some (value.order other != .lt)
  | ">=" => some (value.order other != .lt)
  | "in" => some ((other.contains? value).getD false)
  | _ => none

def aloneNames : List String :=
  ["undefined", "defined", "none", "safe", "escaped", "odd", "even", "number", "integer", "float",
    "string", "sequence", "iterable", "mapping", "boolean", "true", "false", "lower", "upper"]

def againstNames : List String :=
  ["divisibleby", "startingwith", "endingwith", "sameas", "eq", "equalto", "==", "ne", "!=", "lt",
    "lessthan", "<", "le", "<=", "gt", "greaterthan", ">", "ge", ">=", "in"]

def check? (name : String) (value : Value) (args : List Value) : Option Bool :=
  match args with
  | [] => checkAlone name value
  | [other] => checkAgainst name value other
  | _ => none

end SqlWorkflow.Template
