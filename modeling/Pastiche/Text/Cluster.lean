import Pastiche.Text.Case
import Pastiche.Text.ClusterRuns

/-!
Clusters: a character together with the marks, signs and letters that a reader takes for one with
it. Texts with a case are cut nowhere else.
-/

namespace Pastiche.Text

inductive Joining where
  | carriageReturn
  | lineFeed
  | control
  | mark
  /-- A mark that links two consonants. -/
  | linker
  /-- A mark across which consonants are not linked. -/
  | nonJoiner
  | spacingMark
  | joiner
  | leading
  | consonant
  /-- A letter that begins a Hangul syllable. -/
  | initial
  | vowel
  /-- A letter that ends a Hangul syllable. -/
  | final
  /-- A Hangul syllable that ends with its vowel. -/
  | openSyllable
  | closedSyllable
  | pictograph
  /-- One of the two letters of a flag. -/
  | flagLetter
  | other
deriving DecidableEq

def firstSyllable : Nat := 0xAC00

def lastSyllable : Nat := 0xD7A3

/-- Of the syllables with the same initial and vowel the first one is open. -/
def syllableJoining (number : Nat) : Joining :=
  if (number - firstSyllable) % 28 = 0 then .openSyllable else .closedSyllable

def isFlagLetter (c : Char) : Bool := 0x1F1E6 ≤ c.toNat && c.toNat ≤ 0x1F1FF

def joining (c : Char) : Joining :=
  if c = '\r' then .carriageReturn
  else if c = '\n' then .lineFeed
  else if c.toNat < 0x80 then (if c.toNat < 0x20 ∨ c.toNat = 0x7F then .control else .other)
  else if c = '\u200c' then .nonJoiner
  else if c = '\u200d' then .joiner
  else if inRuns linkerRuns c then .linker
  else if inRuns markRuns c then .mark
  else if inRuns spacingMarkRuns c then .spacingMark
  else if inRuns controlRuns c then .control
  else if inRuns leadingRuns c then .leading
  else if inRuns consonantRuns c then .consonant
  else if firstSyllable ≤ c.toNat ∧ c.toNat ≤ lastSyllable then syllableJoining c.toNat
  else if inRuns initialRuns c then .initial
  else if inRuns vowelRuns c then .vowel
  else if inRuns finalRuns c then .final
  else if inRuns pictographRuns c then .pictograph
  else if isFlagLetter c then .flagLetter
  else .other

/-- Does it join whatever stands before it, controls apart? -/
def Joining.isTrailing (j : Joining) : Bool :=
  j == .mark || j == .linker || j == .nonJoiner || j == .spacingMark || j == .joiner

def Joining.isControl (j : Joining) : Bool :=
  j == .carriageReturn || j == .lineFeed || j == .control

/-- Do two neighbours stand in one Hangul syllable? -/
def Joining.inSyllable : Joining → Joining → Bool
  | .initial, .initial => true
  | .initial, .vowel => true
  | .initial, .openSyllable => true
  | .initial, .closedSyllable => true
  | .openSyllable, .vowel => true
  | .vowel, .vowel => true
  | .openSyllable, .final => true
  | .vowel, .final => true
  | .closedSyllable, .final => true
  | .final, .final => true
  | _, _ => false

/-- What the end of a cluster waits for. -/
inductive Pending where
  | nothing
  /-- A joiner, behind a pictograph and its marks. -/
  | joiner
  /-- Another pictograph, behind the joiner. -/
  | pictograph
  /-- A linker, behind a consonant and its marks. -/
  | linker
  /-- Another consonant, behind the linker and more marks. -/
  | consonant
  /-- The second letter of a flag. -/
  | flagLetter
deriving DecidableEq

def Pending.after (pending : Pending) : Joining → Pending
  | .pictograph => .joiner
  | .consonant => .linker
  | .flagLetter => if pending = .flagLetter then .nothing else .flagLetter
  | .mark => if pending = .pictograph ∨ pending = .flagLetter then .nothing else pending
  | .linker =>
    match pending with
    | .joiner => .joiner
    | .linker => .consonant
    | .consonant => .consonant
    | _ => .nothing
  | .nonJoiner => if pending = .joiner then .joiner else .nothing
  | .joiner =>
    match pending with
    | .joiner => .pictograph
    | .linker => .linker
    | .consonant => .consonant
    | _ => .nothing
  | _ => .nothing

def joins (pending : Pending) (first second : Joining) : Bool :=
  if first = .carriageReturn ∧ second = .lineFeed then true
  else if first.isControl || second.isControl then false
  else if second.isTrailing || first = .leading || first.inSyllable second then true
  else match pending, second with
    | .pictograph, .pictograph => true
    | .consonant, .consonant => true
    | .flagLetter, .flagLetter => true
    | _, _ => false

/-- The clusters of a text that follows the character `previous`; the first of them is what still
belongs to its cluster. -/
def clustersAfter (pending : Pending) (previous : Joining) :
    List Char → List Char × List (List Char)
  | [] => ([], [])
  | c :: rest =>
    let here := joining c
    let joined := joins pending previous here
    let reached := (if joined then pending else Pending.nothing).after here
    let (own, later) := clustersAfter reached here rest
    if joined then (c :: own, later) else ([], (c :: own) :: later)

def clusters (cs : List Char) : List (List Char) := (clustersAfter .nothing .control cs).2

end Pastiche.Text
