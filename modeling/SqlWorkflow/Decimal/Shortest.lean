-- The shortest digits of a binary number are the fewest that read back as it, and of those the
-- nearest.
namespace SqlWorkflow

structure Binary64 where
  bits : UInt64
deriving DecidableEq, Inhabited

namespace Binary64

def ofFloat (value : Float) : Binary64 := ⟨value.toBits⟩

def toFloat (value : Binary64) : Float := Float.ofBits value.bits

def isNegative (value : Binary64) : Bool :=
  Nat.pow 2 63 ≤ value.bits.toNat

def biased (value : Binary64) : Nat :=
  value.bits.toNat / Nat.pow 2 52 % Nat.pow 2 11

def fraction (value : Binary64) : Nat :=
  value.bits.toNat % Nat.pow 2 52

def isNaN (value : Binary64) : Bool :=
  value.biased == 2047 && value.fraction != 0

def isInfinite (value : Binary64) : Bool :=
  value.biased == 2047 && value.fraction == 0

def isFinite (value : Binary64) : Bool :=
  value.biased != 2047

-- The whole number `m` of `m * 2 ^ (exponent - 1075)`, the absolute value of a finite number.
def significand (value : Binary64) : Nat :=
  if value.biased = 0 then value.fraction else value.fraction + Nat.pow 2 52

def exponent (value : Binary64) : Nat :=
  max value.biased 1

def wholePart (value : Binary64) : Nat :=
  if 1075 ≤ value.exponent then value.significand * Nat.pow 2 (value.exponent - 1075)
  else value.significand / Nat.pow 2 (1075 - value.exponent)

def truncate (value : Binary64) : Int :=
  let size : Int := if value.isInfinite then Nat.pow 2 127 else value.wholePart
  let whole := if value.isNegative then -size else size
  if value.isNaN then 0 else max (-(Nat.pow 2 127)) (min whole (Nat.pow 2 127 - 1))

def remainder (a b : Binary64) : Float :=
  if !a.isFinite || b.isNaN || b.significand = 0 then 0 / 0
  else if b.isInfinite then a.toFloat
  else
    let low := min a.exponent b.exponent
    let dividend := a.significand * Nat.pow 2 (a.exponent - low)
    let divisor := b.significand * Nat.pow 2 (b.exponent - low)
    let rest := dividend % divisor
    let size := Float.scaleB (Float.ofNat rest) (low - 1075)
    if a.isNegative then -size else size

end Binary64

structure Decimal where
  digits : Nat
  exponent : Int
deriving DecidableEq, Inhabited

-- The positive numbers that read as one binary number: from `low` to `high` around `middle`, all
-- over the denominator `den`, the two ends included or not.
structure Rounding where
  low : Nat
  middle : Nat
  high : Nat
  den : Nat
  closed : Bool

namespace Rounding

-- What rounds to a finite number other than zero, in quarters of its last place. The number below a
-- power of two is only half as far away, except for the least exponent.
def ofBinary (value : Binary64) : Rounding :=
  let m := value.significand
  let below := if value.fraction = 0 ∧ 1 < value.biased then 1 else 2
  let up := Nat.pow 2 (value.exponent - 1075)
  let down := Nat.pow 2 (1075 - value.exponent)
  { low := (4 * m - below) * up, middle := 4 * m * up, high := (4 * m + 2) * up, den := 4 * down
    closed := m % 2 = 0 }

def holds (r : Rounding) (count : Nat) (den : Nat) : Bool :=
  let x := count * r.den
  let low := r.low * den
  let high := r.high * den
  if r.closed then low ≤ x && x ≤ high else low < x && x < high

def onGrid (r : Rounding) (exponent : Int) : Option Nat :=
  let grow := Nat.pow 10 exponent.toNat
  let den := Nat.pow 10 (-exponent).toNat
  let unit := r.den * grow
  let exact := r.middle * den
  let below := exact / unit
  let fits := fun n => 0 < n && r.holds (n * grow) den
  match fits below, fits (below + 1) with
  | true, true => if 2 * (exact % unit) ≤ unit then some below else some (below + 1)
  | true, false => some below
  | false, true => some (below + 1)
  | false, false => none

def magnitude (r : Rounding) : Int :=
  if r.den ≤ r.middle then ((Nat.toDigits 10 (r.middle / r.den)).length : Int) - 1
  else
    let lead := ((Nat.toDigits 10 (r.den / r.middle)).length : Int)
    if r.den ≤ r.middle * Nat.pow 10 (lead - 1).toNat then 1 - lead else -lead

def search (r : Rounding) : Nat → Int → Decimal
  | 0, exponent =>
      let den := r.den * Nat.pow 10 exponent.toNat
      ⟨r.middle * Nat.pow 10 (-exponent).toNat / den, exponent⟩
  | more + 1, exponent =>
      match r.onGrid exponent with
      | some digits => ⟨digits, exponent⟩
      | none => search r more (exponent - 1)

end Rounding

def Binary64.shortest (value : Binary64) : Decimal :=
  if value.significand = 0 then ⟨0, 0⟩
  else
    let r := Rounding.ofBinary value
    r.search 18 (r.magnitude + 1)

end SqlWorkflow
