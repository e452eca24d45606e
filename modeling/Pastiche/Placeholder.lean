import Pastiche.Random
import Pastiche.Text.Blank

/-! Placeholders: in a text, `#` stands for a random digit and `?` for a random letter. -/

namespace Pastiche

inductive LetterCase where
  | upper
  | lower
deriving DecidableEq

namespace LetterCase

def ofUpper (isUpper : Bool) : LetterCase := if isUpper then .upper else .lower

def ofWord? (word : String) : Option LetterCase :=
  match (Text.strip word).map Char.toLower with
  | "upper" | "true" => some .upper
  | "lower" | "false" => some .lower
  | _ => none

def unknownMessage (word : String) : String :=
  "unknown letter case: " ++ (Text.strip word).map Char.toLower

def first : LetterCase → Char
  | .upper => 'A'
  | .lower => 'a'

def apply : LetterCase → Char → Char
  | .upper, c => c.toUpper
  | .lower, c => c.toLower

end LetterCase

namespace Placeholder

def digit : Char := '#'

def letter : Char := '?'

variable {σ : Type} [Source σ]

def nth (first : Char) (n : Nat) : Char := Char.ofNat (first.toNat + n)

def randomDigit : StateM σ Char := nth '0' <$> pick 10

def randomLetter (case : LetterCase) : StateM σ Char := nth case.first <$> pick 26

/-- What is done with each kind of character: are digits drawn, in which case are letters drawn (if
at all), and in which case are the ASCII letters of the text put (if at all). -/
structure Filling where
  digits : Bool
  letters : Option LetterCase
  literals : Option LetterCase

def Filling.literal (filling : Filling) (c : Char) : Char :=
  match filling.literals with
  | some case => case.apply c
  | none => c

def fillChar (filling : Filling) (c : Char) : StateM σ Char :=
  if c = digit ∧ filling.digits = true then randomDigit
  else if c = letter then
    match filling.letters with
    | some case => randomLetter case
    | none => pure (filling.literal c)
  else pure (filling.literal c)

def fill (filling : Filling) (pattern : String) : StateM σ String :=
  String.ofList <$> pattern.toList.mapM (fillChar filling)

end Placeholder

open Placeholder

variable {σ : Type} [Source σ]

def numerify : String → StateM σ String := fill ⟨true, none, none⟩

def letterify (pattern : String) (case : LetterCase) : StateM σ String :=
  fill ⟨false, some case, none⟩ pattern

def bothify : String → StateM σ String := fill ⟨true, some .upper, none⟩

/-- Draws the digits and the letters, with every ASCII letter of the result in one case. -/
def bothifyWith (pattern : String) (case : LetterCase) : StateM σ String :=
  fill ⟨true, some case, some case⟩ pattern

end Pastiche
