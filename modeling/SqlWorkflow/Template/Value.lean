import SqlWorkflow.Decimal.Layout
import SqlWorkflow.Template.Ast
import SqlWorkflow.Text.Shown

namespace SqlWorkflow.Template

inductive Shape where
  | sequence
  | derived
  | stream
deriving DecidableEq

inductive Value where
  -- Absent. A silent one is printed as nothing.
  | undefined (silent : Bool)
  | none
  | bool (value : Bool)
  | int (value : Int)
  | float (value : Binary64)
  | text (text : String) (safe : Bool)
  | list (shape : Shape) (items : List Value)
  -- The entries ascend by their keys. Named arguments are a map of their own kind.
  | map (named : Bool) (entries : List (Value × Value))
  | cell (id : Nat)
  | function (name : String)
  | procedure (decl : Procedure) (closure : Nat)
  | loop (id index : Nat) (length : Option Nat) (depth : Nat) (previous next : Value)

namespace Value

instance : Inhabited Value := ⟨.none⟩

def ofText (value : String) : Value := .text value false

def ofList (items : List Value) : Value := .list .sequence items

def missing : Value := .undefined false

def isUndefined : Value → Bool
  | .undefined _ => true
  | _ => false

def isMissing : Value → Bool
  | .undefined silent => !silent
  | _ => false

def isTrue : Value → Bool
  | .undefined _ => false
  | .none => false
  | .bool value => value
  | .int value => value != 0
  | .float value => value.toFloat != 0
  | .text value _ => !value.isEmpty
  | .list shape items => shape == .stream || !items.isEmpty
  | .map _ entries => !entries.isEmpty
  | _ => true

def text? : Value → Option String
  | .text value _ => some value
  | _ => Option.none

def kind : Value → Nat
  | .undefined _ => 0
  | .none => 1
  | .bool _ => 2
  | .int _ => 3
  | .float _ => 3
  | .text _ _ => 4
  | .list .sequence _ => 6
  | .map _ _ => 7
  | .cell _ => 7
  | .loop .. => 7
  | .list _ _ => 8
  | .function _ => 9
  | .procedure _ _ => 9

def isNumber (value : Value) : Bool :=
  value.kind == 3

end Value

def fitsWide (n : Int) : Bool :=
  -(Nat.pow 2 127) ≤ n && n < Nat.pow 2 127

namespace Value

def wide? : Value → Option Int
  | .bool value => some (if value then 1 else 0)
  | .int value => if fitsWide value then some value else Option.none
  | .float value =>
      let whole := value.truncate
      if value.toFloat == Float.ofInt whole then some whole else Option.none
  | _ => Option.none

def float? (exact : Bool) : Value → Option Float
  | .bool value => some (if value then 1 else 0)
  | .int value =>
      let x := Float.ofInt value
      if exact && (Binary64.ofFloat x).truncate != value then Option.none else some x
  | .float value => some value.toFloat
  | _ => Option.none

inductive Pair where
  | ints (a b : Int)
  | floats (a b : Float)
  | texts (a b : String)

def pair? (exact : Bool) (a b : Value) : Option Pair :=
  match a, b with
  | .text x _, .text y _ => some (.texts x y)
  | .float x, b => (b.float? exact).map (.floats x.toFloat)
  | a, .float y => (a.float? exact).map (.floats · y.toFloat)
  | a, b => do return .ints (← a.wide?) (← b.wide?)

mutual

def same : Value → Value → Bool
  | .list _ items, .list _ others => sameItems items others
  | .map _ entries, .map _ others =>
      entries.length == others.length && sameEntries entries others
  | .undefined _, .undefined _ => true
  | .none, .none => true
  | .cell a, .cell b => a == b
  | .loop a .., .loop b .. => a == b
  | .function a, .function b => a == b
  | a, b =>
      match pair? true a b with
      | some (.ints x y) => x == y
      | some (.floats x y) => x == y
      | some (.texts x y) => x == y
      | Option.none => false

def sameItems : List Value → List Value → Bool
  | [], [] => true
  | item :: items, other :: others => same item other && sameItems items others
  | _, _ => false

def sameEntries : List (Value × Value) → List (Value × Value) → Bool
  | [], _ => true
  | (key, value) :: entries, others =>
      (others.any fun other => same key other.1 && same value other.2) &&
        sameEntries entries others

end

def orderFloats (a b : Float) : Ordering :=
  if a < b then .lt else if b < a then .gt else .eq

mutual

def order : Value → Value → Ordering
  | .list s items, .list t others =>
      (compare (kind (.list s [])) (kind (.list t []))).then (orderItems items others)
  | .map _ entries, .map _ others => orderEntries entries others
  | a, b =>
      (compare a.kind b.kind).then (match pair? true a b with
        | some (.ints x y) => compare x y
        | some (.floats x y) => orderFloats x y
        | some (.texts x y) => compare x y
        | Option.none => .eq)

def orderItems : List Value → List Value → Ordering
  | [], [] => .eq
  | [], _ :: _ => .lt
  | _ :: _, [] => .gt
  | item :: items, other :: others => (order item other).then (orderItems items others)

def orderEntries : List (Value × Value) → List (Value × Value) → Ordering
  | [], [] => .eq
  | [], _ :: _ => .lt
  | _ :: _, [] => .gt
  | (key, value) :: entries, (other, another) :: others =>
      ((order key other).then (order value another)).then (orderEntries entries others)

end

def lookup (key : Value) (entries : List (Value × Value)) : Option Value :=
  (entries.find? fun entry => order key entry.1 == .eq).map Prod.snd

def insertEntry (key value : Value) : List (Value × Value) → List (Value × Value)
  | [] => [(key, value)]
  | (k, v) :: rest =>
      match order key k with
      | .lt => (key, value) :: (k, v) :: rest
      | .eq => (k, value) :: rest
      | .gt => (k, v) :: insertEntry key value rest

def ofEntries (named : Bool) (entries : List (Value × Value)) : Value :=
  .map named (entries.foldl (fun map entry => insertEntry entry.1 entry.2 map) [])

-- Numbers inside of lists and maps have an exponent from 10^16 on and below 10^-4.
def nestedLayout : Layout := ⟨true, fun place => -4 < place && place ≤ 16, "NaN", "inf"⟩

mutual

def nested : Value → String
  | .undefined _ => "undefined"
  | .none => "None"
  | .bool value => if value then "True" else "False"
  | .int value => toString value
  | .float value => nestedLayout.write value
  | .text value _ => Text.shown value
  | .list shape items =>
      if shape = .stream then "<iterator>" else "[" ++ nestedItems items ++ "]"
  | .map _ entries => "\x7b" ++ nestedEntries entries ++ "\x7d"
  | .cell _ => "\x7b\x7d"
  | .function name => name
  | .procedure (.mk name _ _ _) _ => "<macro " ++ name ++ ">"
  | .loop _ index length _ _ _ =>
      "<loop " ++ toString index ++ "/" ++ toString (length.getD 0) ++ ">"

def nestedItems : List Value → String
  | [] => ""
  | [item] => nested item
  | item :: items => nested item ++ ", " ++ nestedItems items

def nestedEntries : List (Value × Value) → String
  | [] => ""
  | [(key, value)] => nested key ++ ": " ++ nested value
  | (key, value) :: entries =>
      nested key ++ ": " ++ nested value ++ ", " ++ nestedEntries entries

end

def display : Value → String
  | .undefined _ => ""
  | .text value _ => value
  | .float value => Layout.pointed.write value
  | value => value.nested

def escapeMarkup (text : String) : String :=
  String.ofList (text.toList.flatMap fun c =>
    match c with
    | '<' => "&lt;".toList
    | '>' => "&gt;".toList
    | '&' => "&amp;".toList
    | '"' => "&quot;".toList
    | '\'' => "&#x27;".toList
    | '/' => "&#x2f;".toList
    | c => [c])

def markup (value : Value) : String :=
  match value with
  | .text _ true => value.display
  | _ => if 4 ≤ value.kind then escapeMarkup value.display else value.display

end Value

end SqlWorkflow.Template
