import Pastiche.Decimal.Binary64

/-!
The shortest decimal that reads back as a given binary64 number, and of those the nearest to it.
-/

namespace Pastiche.Decimal

/-- The decimal `digits * 10 ^ exponent`. -/
structure Scientific where
  digits : Nat
  exponent : Int
deriving DecidableEq

namespace Binary64

/-- The ends of the interval that rounds to a magnitude, in quarters of a unit. Below a power of two
the numbers lie twice as dense. -/
def interval (units : Nat) : Nat × Nat :=
  let step := spacing units
  let below := if units == Nat.pow 2 units.log2 && step > 1 then step else 2 * step
  (4 * units - below, 4 * units + 2 * step)

/-- Does `digits * 10 ^ exponent` round to the magnitude? The ends do if its significand is even. -/
def readsBack (units digits : Nat) (exponent : Int) : Bool :=
  let (low, high) := interval units
  let value := 4 * digits * Nat.pow 10 exponent.toNat * Nat.pow 2 1074
  let scale := Nat.pow 10 (-exponent).toNat
  if units / spacing units % 2 == 0 then low * scale ≤ value && value ≤ high * scale
  else low * scale < value && value < high * scale

/-- The better of the two neighbours of a magnitude among the multiples of `10 ^ exponent`. -/
def neighbour? (units : Nat) (exponent : Int) : Option Nat :=
  let num := units * Nat.pow 10 (-exponent).toNat
  let den := Nat.pow 2 1074 * Nat.pow 10 exponent.toNat
  let down := num / den
  let twice := 2 * (num % den)
  let nearest := if twice > den || (twice == den && down % 2 == 1) then down + 1 else down
  let other := if nearest == down then down + 1 else down
  if readsBack units nearest exponent then some nearest
  else if readsBack units other exponent then some other
  else none

def leadingExponent (units : Nat) : Int :=
  ((Nat.toDigits 10 (units * Nat.pow 10 330 / Nat.pow 2 1074)).length : Int) - 331

/-- The decimal of `more + 1` digits, if one reads back. Rounding up may carry into a new digit. -/
def withDigits? (units more : Nat) : Option Scientific :=
  let exponent := leadingExponent units - more
  (neighbour? units exponent).map fun digits =>
    if digits == Nat.pow 10 (more + 1) then ⟨1, exponent + more + 1⟩ else ⟨digits, exponent⟩

/-- Tries one digit more each time; seventeen always suffice. -/
def shortest (units : Nat) : Scientific :=
  ((List.range 17).findSome? (withDigits? units)).getD ⟨0, 0⟩

end Binary64

end Pastiche.Decimal
