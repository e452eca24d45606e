/-!
Finite binary64 numbers. A magnitude is a whole number of units of `2 ^ -1074`, the least positive
number of the format, so that nothing is lost when two of them are compared.
-/

namespace Pastiche.Decimal

structure Binary64 where
  negative : Bool
  units : Nat
deriving DecidableEq, Inhabited

namespace Binary64

/-- The distance from a magnitude to the next larger one. -/
def spacing (units : Nat) : Nat := Nat.pow 2 (units.log2 - 52)

def largest : Nat := (Nat.pow 2 53 - 1) * Nat.pow 2 2045

/-- The multiple of `step` nearest to `num / den`, an even one where two are equally near. -/
def roundToMultiple (num den step : Nat) : Nat :=
  let down := num / (den * step)
  let twice := 2 * (num % (den * step))
  if twice > den * step || (twice == den * step && down % 2 == 1) then (down + 1) * step
  else down * step

/-- The number nearest to `num / den` units; `none` where that is beyond the largest one. -/
def ofRatio (negative : Bool) (num den : Nat) : Option Binary64 :=
  let units := roundToMultiple num den (spacing (num / den))
  if units ≤ largest then some ⟨negative, units⟩ else none

def ofScientific (negative : Bool) (digits : Nat) (exponent : Int) : Option Binary64 :=
  let places := (Nat.toDigits 10 digits).length
  if digits = 0 ∨ (places : Int) + exponent < -330 then some ⟨negative, 0⟩
  else if (places : Int) + exponent > 310 then none
  else
    ofRatio negative (digits * Nat.pow 10 exponent.toNat * Nat.pow 2 1074)
      (Nat.pow 10 (-exponent).toNat)

def greatestPower : Nat := 308

/-- How many units the number nearest to a power of ten has. -/
def powerUnits (exponent : Nat) : Nat := ((ofScientific false 1 exponent).getD default).units

/-- The product with the number nearest to a power of ten; `none` where that is beyond the largest
one. -/
def raised (x : Binary64) (exponent : Nat) : Option Binary64 :=
  if exponent ≤ greatestPower then
    ofRatio x.negative (x.units * powerUnits exponent) (Nat.pow 2 1074)
  else if x.units = 0 then some x
  else none

/-- The quotient by the number nearest to a power of ten. A power out of range is taken in steps,
and each step rounds. -/
def lowered (x : Binary64) (exponent : Nat) : Option Binary64 :=
  if exponent ≤ greatestPower then
    ofRatio x.negative (x.units * Nat.pow 2 1074) (powerUnits exponent)
  else if x.units = 0 then some x
  else do
    let x ← ofRatio x.negative (x.units * Nat.pow 2 1074) (powerUnits greatestPower)
    lowered x (exponent - greatestPower)
termination_by exponent
decreasing_by simp only [greatestPower] at *; omega

/-- The number times a power of ten, rounded as `raised` and `lowered` do. -/
def scaled (x : Binary64) : (exponent : Int) → Option Binary64
  | .ofNat exponent => x.raised exponent
  | .negSucc exponent => x.lowered (exponent + 1)

end Binary64

end Pastiche.Decimal
