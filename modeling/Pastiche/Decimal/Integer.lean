/-! Whole numbers in decimal digits. -/

namespace Pastiche.Decimal

def ofDigits (digits : List Char) : Nat :=
  digits.foldl (fun n c => n * 10 + (c.toNat - '0'.toNat)) 0

/-- A sign if there is one, a minus only where it is allowed, and what follows it. -/
def signed (allowed : Bool) : List Char → Bool × List Char
  | '+' :: rest => (false, rest)
  | '-' :: rest => if allowed then (true, rest) else (false, '-' :: rest)
  | cs => (false, cs)

/-- The number that a whole text writes, from `least` to `most`. A plus may stand before it, and a
minus where there are numbers below zero. -/
def readInteger (least most : Int) (cs : List Char) : Option Int :=
  let (negative, digits) := signed (least < 0) cs
  if digits.isEmpty || !digits.all Char.isDigit then none
  else
    let value : Int := if negative then -(ofDigits digits : Int) else ofDigits digits
    if least ≤ value ∧ value ≤ most then some value else none

end Pastiche.Decimal
