import Pastiche.Decimal.Integer
import Pastiche.Json.Basic
import Pastiche.Word

/-!
From the digits of a JSON number to its value. Whole numbers of 64 bits are exact. Every other
number has the leading digits that fit into 64 bits for its significand, which is rounded first and
then scaled by its power of ten.
-/

namespace Pastiche.Json

structure Numeral where
  negative : Bool
  whole : List Char
  fraction : Option (List Char)
  exponent : Option (Bool × List Char)

namespace Numeral

/-- Appends digits to a significand up to the first one with which it would need more than 64 bits,
and counts the digits that are left. -/
def appendDigits (significand : Nat) : List Char → Nat × Nat
  | [] => (significand, 0)
  | c :: rest =>
    let longer := significand * 10 + Decimal.ofDigits [c]
    if longer < Word.count 64 then appendDigits longer rest else (significand, rest.length + 1)

def writtenExponent (n : Numeral) : Int :=
  match n.exponent with
  | none => 0
  | some (true, digits) => -(Decimal.ofDigits digits : Int)
  | some (false, digits) => Decimal.ofDigits digits

/-- The significand, and the power of ten that it counts. A digit of the whole part that is left out
raises the power, a fraction digit that is taken lowers it. -/
def scientific (n : Numeral) : Decimal.Scientific :=
  let fraction := n.fraction.getD []
  let (whole, unused) := appendDigits 0 n.whole
  let (digits, dropped) := appendDigits whole fraction
  ⟨digits, n.writtenExponent + unused - (fraction.length - dropped : Nat)⟩

def toBinary? (n : Numeral) : Option Number := do
  let ⟨digits, exponent⟩ := n.scientific
  let significand ← Decimal.Binary64.ofScientific n.negative digits 0
  some (.binary (← significand.scaled exponent))

/-- The number; `none` where it is beyond the largest binary64 number. -/
def toNumber? (n : Numeral) : Option Number :=
  let (magnitude, unused) := appendDigits 0 n.whole
  if n.fraction.isSome ∨ n.exponent.isSome ∨ unused ≠ 0 then n.toBinary?
  else if n.negative = false then some (.natural magnitude)
  else if 0 < magnitude ∧ magnitude ≤ Word.count 63 then some (.negative magnitude)
  else n.toBinary?

end Numeral

end Pastiche.Json
