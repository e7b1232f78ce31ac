import SqlWorkflow.Template.Value

namespace SqlWorkflow.Template

namespace Value

def ofInt? (value : Int) : Option Value :=
  if fitsWide value then some (.int value) else Option.none

def ofFloat (value : Float) : Value :=
  .float (.ofFloat value)

def size? (value : Value) : Option Nat :=
  (value.wide?.filter (0 ≤ ·)).map Int.toNat

def repeated (count : Nat) (items : List Value) : Value :=
  .list .derived (List.replicate count items).flatten

def add? (a b : Value) : Option Value :=
  match a, b with
  | .list _ items, .list _ others => some (.list .derived (items ++ others))
  | a, b =>
      match pair? false a b with
      | some (.ints x y) => ofInt? (x + y)
      | some (.floats x y) => some (ofFloat (x + y))
      | some (.texts x y) => some (ofText (x ++ y))
      | Option.none => Option.none

def subtract? (a b : Value) : Option Value :=
  match pair? false a b with
  | some (.ints x y) => ofInt? (x - y)
  | some (.floats x y) => some (ofFloat (x - y))
  | _ => Option.none

def multiply? (a b : Value) : Option Value :=
  let repeatText := fun (s : String) (count : Value) =>
    count.size?.map fun n => ofText (String.join (List.replicate n s))
  match a, b with
  | .text s _, count => repeatText s count
  | count, .text s _ => repeatText s count
  | .list _ items, count => count.size?.map (repeated · items)
  | count, .list _ items => count.size?.map (repeated · items)
  | a, b =>
      match pair? false a b with
      | some (.ints x y) => ofInt? (x * y)
      | some (.floats x y) => some (ofFloat (x * y))
      | _ => Option.none

def divide? (a b : Value) : Option Value := do
  return ofFloat ((← a.float? false) / (← b.float? false))

def floorDivideFloats (x y : Float) : Float :=
  let ratio := x / y
  let quotient := if ratio < 0 then ratio.ceil else ratio.floor
  if (Binary64.ofFloat x).remainder (.ofFloat y) < 0 then
    if 0 < y then quotient - 1 else quotient + 1
  else quotient

def floorDivide? (a b : Value) : Option Value :=
  match pair? false a b with
  | some (.ints x y) => if y = 0 then Option.none else ofInt? (x / y)
  | some (.floats x y) => some (ofFloat (floorDivideFloats x y))
  | _ => Option.none

def remainder? (a b : Value) : Option Value :=
  match pair? false a b with
  | some (.ints x y) => if y = 0 then Option.none else ofInt? (x % y)
  | some (.floats x y) => some (ofFloat ((Binary64.ofFloat x).remainder (.ofFloat y)))
  | _ => Option.none

-- A base beyond one unit has no power of 128 or more within the range of whole numbers.
def powerInts? (base exponent : Int) : Option Value :=
  if exponent < 0 || Nat.pow 2 32 ≤ exponent then Option.none
  else if base.natAbs ≤ 1 then
    let parity := if exponent = 0 then 0 else 2 - exponent.toNat % 2
    some (.int (base.pow parity))
  else if 128 ≤ exponent then Option.none
  else ofInt? (base.pow exponent.toNat)

def power? (a b : Value) : Option Value :=
  match pair? false a b with
  | some (.ints x y) => powerInts? x y
  | some (.floats x y) => some (ofFloat (x ^ y))
  | _ => Option.none

def negate? : Value → Option Value
  | .float value => some (ofFloat (-value.toFloat))
  | .int value => if value = Nat.pow 2 127 then some (.int (-value)) else
      if fitsWide value then ofInt? (-value) else Option.none
  | _ => Option.none

def occursIn (needle : List Char) : List Char → Bool
  | [] => needle.isEmpty
  | c :: rest => needle.isPrefixOf (c :: rest) || occursIn needle rest

def contains? (container value : Value) : Option Bool :=
  match container with
  | .undefined _ => some false
  | .text s _ => some (occursIn value.display.toList s.toList)
  | .list _ items => some (items.any fun item => item.same value)
  | .map _ entries => some (lookup value entries).isSome
  | .function _ => some false
  | .procedure _ _ => some false
  | .loop .. => some false
  | _ => Option.none

def place? (index : Value) (length : Nat) : Option Nat := do
  let n ← index.wide?
  if n < 0 then
    if n.natAbs ≤ length then return length - n.natAbs else Option.none
  else return n.toNat

def loopAttr? (name : String) : Value → Option Value
  | .loop _ index length depth previous next =>
      let count : Int → Value := .int
      match name with
      | "index0" => some (count index)
      | "index" => some (count (index + 1))
      | "length" => length.map fun n => count n
      | "revindex" => length.map fun n => count ((n - index : Nat) : Int)
      | "revindex0" => length.map fun n => count ((n - index - 1 : Nat) : Int)
      | "first" => some (.bool (index == 0))
      | "last" => some (.bool next.isUndefined)
      | "depth" => some (count (depth + 1))
      | "depth0" => some (count depth)
      | "previtem" => some previous
      | "nextitem" => some next
      | _ => Option.none
  | _ => Option.none

def attr? (name : String) (value : Value) : Option Value :=
  match value with
  | .map _ entries => lookup (ofText name) entries
  | value => loopAttr? name value

def item? (value key : Value) : Option Value :=
  match value with
  | .map _ entries => lookup key entries
  | .list _ items => (place? key items.length).bind (items[·]?)
  | .text s _ =>
      let chars := s.toList
      (place? key chars.length).bind fun n => chars[n]?.map fun c => ofText (String.singleton c)
  | value => key.text?.bind fun name => loopAttr? name value

def bound (length : Nat) (index : Int) : Nat :=
  if 0 ≤ index then index.toNat
  else if 0 ≤ length + index then (length + index).toNat
  else Nat.pow 2 64

def everyNth {α : Type} (step : Nat) : List α → List α
  | [] => []
  | item :: items => item :: everyNth step (items.drop (step - 1))
termination_by items => items.length
decreasing_by
  rw [List.length_drop, List.length_cons]
  omega

def sliceForward {α : Type} (start : Int) (stop : Option Int) (step : Nat) (items : List α) :
    List α :=
  let first := bound items.length start
  let last := match stop with
    | Option.none => items.length
    | some stop => bound items.length stop
  everyNth step ((items.drop first).take (last - first))

def sliceBackward {α : Type} (start : Option Int) (stop : Option Int) (step : Nat)
    (items : List α) : List α :=
  let length := items.length
  let first : Int := match start with
    | Option.none => length - 1
    | some start => if start < 0 then length + start else min start (length - 1)
  let last : Int := match stop with
    | Option.none => -1
    | some stop => if stop < 0 then length + stop else stop
  let kept := (items.take (first + 1).toNat).drop (last + 1).toNat
  everyNth step kept.reverse

def slice {α : Type} (start stop : Option Int) (step : Int) (items : List α) : List α :=
  if 0 < step then sliceForward (start.getD 0) stop step.toNat items
  else sliceBackward start stop step.natAbs items

def sliceEnd? : Value → Option (Option Int)
  | .none => some Option.none
  | value => value.wide?.map some

def slice? (value start stop step : Value) : Option Value := do
  let start ← sliceEnd? start
  let stop ← sliceEnd? stop
  let step := (← sliceEnd? step).getD 1
  if step = 0 then Option.none
  else match value with
    | .text s _ => return ofText (String.ofList (slice start stop step s.toList))
    | .list _ items => return .list .derived (slice start stop step items)
    | .undefined _ => return ofList []
    | .none => return ofList []
    | _ => Option.none

def items? : Value → Option (List Value)
  | .undefined silent => if silent then some [] else Option.none
  | .none => some []
  | .text s _ => some (s.toList.map fun c => ofText (String.singleton c))
  | .list _ items => some items
  | .map _ entries => some (entries.map Prod.fst)
  | _ => Option.none

def length? : Value → Option Nat
  | .text s _ => some s.length
  | .list shape items => if shape = .stream then Option.none else some items.length
  | .map _ entries => some entries.length
  | _ => Option.none

end Value

end SqlWorkflow.Template
