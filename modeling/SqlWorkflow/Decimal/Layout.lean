import SqlWorkflow.Decimal.Shortest

-- A layout holds the decisions of one output format; the digits are the shortest ones in every
-- format.
namespace SqlWorkflow

structure Layout where
  keepPoint : Bool
  positional : Int → Bool
  nan : String
  infinity : String

namespace Layout

def plain : Layout := ⟨false, fun _ => true, "NaN", "inf"⟩

def pointed : Layout := ⟨true, fun _ => true, "NaN", "inf"⟩

def scientific : Layout := ⟨true, fun place => -5 < place && place ≤ 16, ".nan", ".inf"⟩

def stripZeros (digits : List Char) : List Char :=
  (digits.reverse.dropWhile (· == '0')).reverse

def positionalText (keepPoint : Bool) (digits : List Char) (place : Int) : List Char :=
  if place ≤ 0 then '0' :: '.' :: List.replicate (-place).toNat '0' ++ digits
  else if (digits.length : Int) ≤ place then
    digits ++ List.replicate (place - digits.length).toNat '0' ++
      if keepPoint then ['.', '0'] else []
  else digits.take place.toNat ++ '.' :: digits.drop place.toNat

def scientificText (digits : List Char) (place : Int) : List Char :=
  let mantissa := match digits with
    | first :: second :: rest => first :: '.' :: second :: rest
    | _ => digits
  mantissa ++ 'e' :: (toString (place - 1)).toList

def write (layout : Layout) (value : Binary64) : String :=
  let sign := if value.isNegative && !value.isNaN then "-" else ""
  let body :=
    if value.isNaN then layout.nan
    else if value.isInfinite then layout.infinity
    else
      let decimal := value.shortest
      if decimal.digits = 0 then (if layout.keepPoint then "0.0" else "0")
      else
        let digits := Nat.toDigits 10 decimal.digits
        let place := (digits.length : Int) + decimal.exponent
        let digits := stripZeros digits
        String.ofList (if layout.positional place
          then positionalText layout.keepPoint digits place else scientificText digits place)
  sign ++ body

end Layout

namespace Decimal

def toBinary (negative : Bool) (decimal : Decimal) : Binary64 :=
  let places := ((Nat.toDigits 10 decimal.digits).length : Int) + decimal.exponent
  let value : Float :=
    if decimal.digits = 0 ∨ places < -400 then 0
    else if 400 < places then 1 / 0
    else Float.ofScientific decimal.digits (decimal.exponent < 0) decimal.exponent.natAbs
  .ofFloat (if negative then -value else value)

def ofDigits (digits : List Char) : Nat :=
  digits.foldl (fun n c => n * 10 + (c.toNat - '0'.toNat)) 0

def parse? (text : List Char) : Option Decimal :=
  let whole := text.takeWhile Char.isDigit
  let rest := text.dropWhile Char.isDigit
  let (fraction, rest) := match rest with
    | '.' :: more => (more.takeWhile Char.isDigit, more.dropWhile Char.isDigit)
    | _ => ([], rest)
  let build := fun (exponent : Int) =>
    some (⟨ofDigits (whole ++ fraction), exponent - fraction.length⟩ : Decimal)
  if whole.isEmpty && fraction.isEmpty then none
  else match rest with
    | [] => build 0
    | e :: power =>
        if e != 'e' && e != 'E' then none
        else
          let (negative, power) := match power with
            | '-' :: more => (true, more)
            | '+' :: more => (false, more)
            | _ => (false, power)
          if power.isEmpty || !power.all Char.isDigit then none
          else build (if negative then -(ofDigits power : Int) else ofDigits power)

end Decimal

end SqlWorkflow
