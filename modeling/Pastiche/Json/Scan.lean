import Pastiche.Json.Numeral
import Pastiche.Text.Bytes

/-!
The words of JSON text: blanks, literals, strings and numbers. A scanner takes its word off the
front of the text and leaves the rest.
-/

namespace Pastiche.Json

inductive Flaw where
  /-- The text stops where more is needed. -/
  | truncated
  /-- The text is not JSON. -/
  | malformed
  /-- The text is JSON so far, but not of the kind that is wanted. -/
  | mistyped
deriving DecidableEq

namespace Scan

def isSpace (c : Char) : Bool := c == ' ' || c == '\n' || c == '\t' || c == '\r'

def skipSpace (cs : List Char) : List Char := cs.dropWhile isSpace

def word : List Char → List Char → Except Flaw (List Char)
  | [], cs => .ok cs
  | _ :: _, [] => .error .truncated
  | e :: es, c :: cs => if c = e then word es cs else .error .malformed

def hexValue? (c : Char) : Option Nat :=
  if c.isDigit then some (c.toNat - '0'.toNat)
  else if 'a' ≤ c ∧ c ≤ 'f' then some (c.toNat - 'a'.toNat + 10)
  else if 'A' ≤ c ∧ c ≤ 'F' then some (c.toNat - 'A'.toNat + 10)
  else none

def hexUnit? (a b c d : Char) : Option Nat := do
  pure ((((← hexValue? a) * 16 + (← hexValue? b)) * 16 + (← hexValue? c)) * 16 + (← hexValue? d))

def isLeading (unit : Nat) : Bool := 0xD800 ≤ unit && unit ≤ 0xDBFF

def isTrailing (unit : Nat) : Bool := 0xDC00 ≤ unit && unit ≤ 0xDFFF

def joinSurrogates (leading trailing : Nat) : Char :=
  Char.ofNat (0x10000 + (leading - 0xD800) * 0x400 + (trailing - 0xDC00))

/-- An escape needs four bytes; what is wrong with fewer than four characters. -/
def shortEscape (cs : List Char) : Flaw :=
  if Text.byteLength cs < 4 then .truncated else .malformed

def unescape? : Char → Option Char
  | '"' => some '"'
  | '\\' => some '\\'
  | '/' => some '/'
  | 'b' => some '\x08'
  | 'f' => some '\x0c'
  | 'n' => some '\n'
  | 'r' => some '\r'
  | 't' => some '\t'
  | _ => none

def push (c : Char) : Except Flaw (List Char × List Char) → Except Flaw (List Char × List Char)
  | .ok (text, rest) => .ok (c :: text, rest)
  | .error flaw => .error flaw

/-- A string after its opening quote. Surrogates have to come in pairs. -/
def stringBody : List Char → Except Flaw (List Char × List Char)
  | [] => .error .truncated
  | '"' :: rest => .ok ([], rest)
  | '\\' :: [] => .error .truncated
  | '\\' :: 'u' :: a :: b :: c :: d :: rest =>
    match hexUnit? a b c d with
    | none => .error .malformed
    | some unit =>
      if isTrailing unit then .error .malformed
      else if isLeading unit then
        match rest with
        | [] => .error .truncated
        | ['\\'] => .error .truncated
        | '\\' :: 'u' :: e :: f :: g :: h :: rest =>
          match hexUnit? e f g h with
          | none => .error .malformed
          | some second =>
            if isTrailing second then push (joinSurrogates unit second) (stringBody rest)
            else .error .malformed
        | '\\' :: 'u' :: short => .error (shortEscape short)
        | _ => .error .malformed
      else push (Char.ofNat unit) (stringBody rest)
  | '\\' :: 'u' :: short => .error (shortEscape short)
  | '\\' :: e :: rest =>
    match unescape? e with
    | some c => push c (stringBody rest)
    | none => .error .malformed
  | c :: rest => if c.toNat < 0x20 then .error .malformed else push c (stringBody rest)

/-- A string after its opening quote whose content is not wanted. Surrogates may stand alone. -/
def skipString : List Char → Except Flaw (List Char)
  | [] => .error .truncated
  | '"' :: rest => .ok rest
  | '\\' :: [] => .error .truncated
  | '\\' :: 'u' :: a :: b :: c :: d :: rest =>
    match hexUnit? a b c d with
    | none => .error .malformed
    | some _ => skipString rest
  | '\\' :: 'u' :: short => .error (shortEscape short)
  | '\\' :: e :: rest =>
    match unescape? e with
    | some _ => skipString rest
    | none => .error .malformed
  | c :: rest => if c.toNat < 0x20 then .error .malformed else skipString rest

/-- A run of digits, at least one. `cut` is the flaw where the text ends before it. -/
def digitRun (cut : Flaw) (cs : List Char) : Except Flaw (List Char × List Char) :=
  match cs with
  | [] => .error cut
  | c :: _ =>
    if c.isDigit then .ok (cs.takeWhile Char.isDigit, cs.dropWhile Char.isDigit)
    else .error .malformed

/-- A zero does not lead other digits. -/
def wholePart (cut : Flaw) (cs : List Char) : Except Flaw (List Char × List Char) := do
  let (digits, rest) ← digitRun cut cs
  match digits with
  | '0' :: _ :: _ => .error .malformed
  | _ => .ok (digits, rest)

def fractionPart (cut : Flaw) : List Char → Except Flaw (Option (List Char) × List Char)
  | '.' :: rest => do
    let (digits, rest) ← digitRun cut rest
    .ok (some digits, rest)
  | cs => .ok (none, cs)

def exponentPart (cut : Flaw) : List Char → Except Flaw (Option (Bool × List Char) × List Char)
  | c :: rest =>
    if c = 'e' ∨ c = 'E' then do
      let (negative, rest) := match rest with
        | '+' :: rest => (false, rest)
        | '-' :: rest => (true, rest)
        | rest => (false, rest)
      let (digits, rest) ← digitRun cut rest
      .ok (some (negative, digits), rest)
    else .ok (none, c :: rest)
  | [] => .ok (none, [])

def numeral (cut : Flaw) (cs : List Char) : Except Flaw (Numeral × List Char) := do
  let (negative, cs) := match cs with
    | '-' :: rest => (true, rest)
    | cs => (false, cs)
  let (whole, cs) ← wholePart cut cs
  let (fraction, cs) ← fractionPart cut cs
  let (exponent, cs) ← exponentPart cut cs
  .ok (⟨negative, whole, fraction, exponent⟩, cs)

def number (cs : List Char) : Except Flaw (Number × List Char) := do
  let (parts, rest) ← numeral .truncated cs
  match parts.toNumber? with
  | some value => .ok (value, rest)
  | none => .error .malformed

def startsNumber (c : Char) : Bool := c == '-' || c.isDigit

end Scan

end Pastiche.Json
