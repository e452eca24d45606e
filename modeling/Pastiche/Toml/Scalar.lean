import Pastiche.Decimal.Binary64
import Pastiche.Decimal.Integer
import Pastiche.Toml.Basic
import Pastiche.Word

/-! The words of TOML that are not strings: numbers, booleans, dates and times. -/

namespace Pastiche.Toml

/-- Digits that may have single underscores between them. -/
def grouped (isDigit : Char → Bool) (cs : List Char) : Option (List Char) :=
  let parts := cs.splitOn '_'
  if parts.all fun part => !part.isEmpty && part.all isDigit then some parts.flatten else none

def takeSign : List Char → Bool × List Char
  | '+' :: rest => (false, rest)
  | '-' :: rest => (true, rest)
  | cs => (false, cs)

def digitValue (c : Char) : Nat :=
  if c.isDigit then c.toNat - '0'.toNat else c.toLower.toNat - 'a'.toNat + 10

def isDigitOf (radix : Nat) (c : Char) : Bool := c.isAlphanum && digitValue c < radix

def inRadix (radix : Nat) (cs : List Char) : Option Int := do
  let digits ← grouped (isDigitOf radix) cs
  some (digits.foldl (fun n c => n * radix + digitValue c) 0 : Nat)

/-- Decimal digits of which a zero is the first only if it is the only one. -/
def wholeDigits (cs : List Char) : Option (List Char) := do
  match ← grouped Char.isDigit cs with
  | '0' :: _ :: _ => none
  | digits => some digits

/-- An integer of at most 128 bits. -/
def integer? (cs : List Char) : Option Toml := do
  let value ← match cs with
    | '0' :: 'x' :: rest => inRadix 16 rest
    | '0' :: 'o' :: rest => inRadix 8 rest
    | '0' :: 'b' :: rest => inRadix 2 rest
    | cs => do
      let (negative, rest) := takeSign cs
      let magnitude : Nat := Decimal.ofDigits (← wholeDigits rest)
      some (if negative then -(magnitude : Int) else magnitude)
  if -(Word.count 127 : Int) ≤ value ∧ value < Word.count 128 then some (.integer value) else none

def isExponentMark (c : Char) : Bool := c == 'e' || c == 'E'

def exponent? (cs : List Char) : Option Int := do
  let (negative, rest) := takeSign cs
  let magnitude : Nat := Decimal.ofDigits (← grouped Char.isDigit rest)
  some (if negative then -(magnitude : Int) else magnitude)

/-- A number with a fraction or an exponent, not beyond the largest one. -/
def float? (cs : List Char) : Option Toml := do
  let (_, rest) := takeSign cs
  if rest = ['i', 'n', 'f'] ∨ rest = ['n', 'a', 'n'] then some .float
  else
    let mantissa := rest.takeWhile fun c => !isExponentMark c
    let tail := rest.dropWhile fun c => !isExponentMark c
    let whole ← wholeDigits (mantissa.takeWhile (· != '.'))
    let fraction ← match mantissa.dropWhile (· != '.') with
      | [] => if tail.isEmpty then none else some []
      | _ :: digits => grouped Char.isDigit digits
    let exponent ← match tail with
      | [] => some 0
      | _ :: digits => exponent? digits
    let scale := exponent - (fraction.length : Nat)
    let _ ← Decimal.Binary64.ofScientific false (Decimal.ofDigits (whole ++ fraction)) scale
    some .float

/-- A number of exactly so many digits, between two bounds. -/
def field (width least most : Nat) (cs : List Char) : Option (Nat × List Char) :=
  let digits := cs.take width
  let value := Decimal.ofDigits digits
  if digits.length = width ∧ digits.all Char.isDigit = true ∧ least ≤ value ∧ value ≤ most then
    some (value, cs.drop width)
  else none

def mark (c : Char) : List Char → Option (List Char)
  | d :: rest => if c = d then some rest else none
  | [] => none

def isLeapYear (year : Nat) : Bool := year % 4 == 0 && (year % 100 != 0 || year % 400 == 0)

def daysIn (year month : Nat) : Nat :=
  if month = 2 then (if isLeapYear year then 29 else 28)
  else if month = 4 ∨ month = 6 ∨ month = 9 ∨ month = 11 then 30
  else 31

def date? (cs : List Char) : Option (List Char) := do
  let (year, rest) ← field 4 0 9999 cs
  let (month, rest) ← field 2 1 12 (← mark '-' rest)
  let (_, rest) ← field 2 1 (daysIn year month) (← mark '-' rest)
  some rest

def seconds? (cs : List Char) : Option (List Char) := do
  let (_, rest) ← field 2 0 60 cs
  match rest with
  | '.' :: rest =>
    if (rest.takeWhile Char.isDigit).isEmpty then none else some (rest.dropWhile Char.isDigit)
  | rest => some rest

def time? (cs : List Char) : Option (List Char) := do
  let (_, rest) ← field 2 0 23 cs
  let (_, rest) ← field 2 0 59 (← mark ':' rest)
  match rest with
  | ':' :: rest => seconds? rest
  | rest => some rest

def isOffset (cs : List Char) : Bool :=
  match cs with
  | [] => true
  | c :: rest =>
    if c = 'Z' ∨ c = 'z' then rest.isEmpty
    else if c = '+' ∨ c = '-' then
      match (do
        let (_, rest) ← field 2 0 23 rest
        let (_, rest) ← field 2 0 59 (← mark ':' rest)
        some rest : Option (List Char)) with
      | some [] => true
      | _ => false
    else false

def moment? (cs : List Char) : Option Toml :=
  match date? cs with
  | some [] => some .moment
  | some (c :: rest) =>
    if c = 'T' ∨ c = 't' ∨ c = ' ' then
      match time? rest with
      | some rest => if isOffset rest then some .moment else none
      | none => none
    else none
  | none =>
    match time? cs with
    | some [] => some .moment
    | _ => none

def scalar? (cs : List Char) : Option Toml :=
  if cs = ['t', 'r', 'u', 'e'] ∨ cs = ['f', 'a', 'l', 's', 'e'] then some .boolean
  else (integer? cs <|> float? cs) <|> moment? cs

def isWordChar (c : Char) : Bool :=
  c.isAlphanum || c == '_' || c == '+' || c == '-' || c == '.' || c == ':'

/-- A word at the front of a text. One blank may join a date and a time. -/
def word (cs : List Char) : List Char × List Char :=
  let first := cs.takeWhile isWordChar
  let rest := cs.dropWhile isWordChar
  match date? first, rest with
  | some [], ' ' :: c :: _ =>
    if c.isDigit then
      (first ++ ' ' :: (rest.drop 1).takeWhile isWordChar, (rest.drop 1).dropWhile isWordChar)
    else (first, rest)
  | _, _ => (first, rest)

end Pastiche.Toml
