import Pastiche.Decimal.Shortest
import Pastiche.Dictionary

/-! JSON values, and the text of their numbers. -/

namespace Pastiche

/-- A JSON number. Whole numbers of 64 bits are kept exactly, every other one is in binary64. -/
inductive Json.Number where
  | natural (magnitude : Nat)
  | negative (magnitude : Nat)
  | binary (value : Decimal.Binary64)
deriving DecidableEq

/-- A JSON value. The members of an object are in the order of their names, each name once. -/
inductive Json where
  | null
  | bool (value : Bool)
  | number (value : Json.Number)
  | string (value : String)
  | array (items : List Json)
  | object (members : List (String × Json))

namespace Json

instance : Inhabited Json := ⟨.null⟩

def natural (n : Nat) : Json := .number (.natural n)

def strings (items : List String) : Json := .array (items.map .string)

/-- The object with these members; of two with one name the later counts. -/
def ofMembers (members : List (String × Json)) : Json :=
  .object (members.foldl (fun entries (name, value) => Dictionary.insert name value entries) [])

/-- Which decimal exponents are written out in full, least and greatest. -/
def Number.plainExponents : Int × Int := (-5, 15)

/-- A positive decimal, in full with at least one fraction digit or with an exponent. -/
def Number.scientificText (value : Decimal.Scientific) : List Char :=
  let digits := Nat.toDigits 10 value.digits
  let lead : Int := value.exponent + digits.length - 1
  if lead < plainExponents.1 ∨ plainExponents.2 < lead then
    let fraction := if digits.length ≤ 1 then [] else '.' :: digits.drop 1
    let sign := if lead < 0 then '-' else '+'
    digits.take 1 ++ fraction ++ 'e' :: sign :: Nat.toDigits 10 lead.natAbs
  else if lead < 0 then
    ['0', '.'] ++ List.replicate (lead.natAbs - 1) '0' ++ digits
  else
    let whole := lead.toNat + 1
    let fraction := digits.drop whole
    digits.take whole ++ List.replicate (whole - digits.length) '0' ++
      '.' :: (if fraction.isEmpty then ['0'] else fraction)

def Number.binaryText (value : Decimal.Binary64) : List Char :=
  let magnitude :=
    if value.units = 0 then ['0', '.', '0']
    else scientificText (Decimal.Binary64.shortest value.units)
  if value.negative then '-' :: magnitude else magnitude

def Number.text : Number → List Char
  | .natural n => Nat.toDigits 10 n
  | .negative n => '-' :: Nat.toDigits 10 n
  | .binary value => binaryText value

end Json

end Pastiche
