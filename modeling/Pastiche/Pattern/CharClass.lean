import Pastiche.Pattern.Basic

/-! Character classes: increasing lists of characters without repetition. -/

namespace Pastiche.Pattern

def charRange (first last : Char) : List Char :=
  (List.range' first.toNat (last.toNat + 1 - first.toNat)).filterMap fun n =>
    if h : n.isValidChar then some (Char.ofNatAux n h) else none

def printable : List Char := charRange ' ' '~'

def digitChars : List Char := charRange '0' '9'

def wordChars : List Char := digitChars ++ charRange 'A' 'Z' ++ '_' :: charRange 'a' 'z'

/-- The other printable ASCII characters. -/
def complement (excluded : List Char) : List Char := printable.filter fun c => !excluded.contains c

/-- Leaves out a character that equals the one before it. -/
def dropRepeats : List Char → List Char
  | [] => []
  | [c] => [c]
  | c :: d :: rest => if c = d then dropRepeats (d :: rest) else c :: dropRepeats (d :: rest)

/-- The same characters in increasing order, each once. -/
def normalize (members : List Char) : List Char :=
  dropRepeats (members.mergeSort fun a b => decide (a ≤ b))

inductive Escape where
  | char (c : Char)
  | set (members : List Char)

def escape (c : Char) : Except Flaw Escape :=
  match c with
  | 'd' => .ok (.set digitChars)
  | 'w' => .ok (.set wordChars)
  | 's' => .ok (.set [' '])
  | 'D' => .ok (.set (complement digitChars))
  | 'W' => .ok (.set (complement wordChars))
  | 'S' => .ok (.set (complement [' ']))
  | 'n' => .ok (.char '\n')
  | 't' => .ok (.char '\t')
  | c => if c.isAlphanum then .error (.unsupportedEscape c) else .ok (.char c)

/-- A character of a pattern text, alone or after a backslash. -/
inductive Symbol where
  | plain (c : Char)
  | escaped (c : Char)
  /-- A backslash that ends the text. -/
  | dangling
deriving DecidableEq

def symbols : List Char → List Symbol
  | [] => []
  | ['\\'] => [.dangling]
  | '\\' :: c :: rest => .escaped c :: symbols rest
  | c :: rest => .plain c :: symbols rest

def Symbol.member : Symbol → Except Flaw Escape
  | .plain c => .ok (.char c)
  | .escaped c => escape c
  | .dangling => .error .trailingBackslash

def extend (members : List Char) :
    Except Flaw (List Char × List Symbol) → Except Flaw (List Char × List Symbol)
  | .ok (more, rest) => .ok (members ++ more, rest)
  | .error flaw => .error flaw

/-- The members that a class lists, up to its closing bracket. A bracket that comes first is a
member. A hyphen between two characters makes a range. -/
def classMembers (first : Bool) : List Symbol → Except Flaw (List Char × List Symbol)
  | [] => .error .unclosedClass
  | symbol :: rest =>
    if symbol = .plain ']' ∧ first = false then .ok ([], rest)
    else match symbol.member with
      | .error flaw => .error flaw
      | .ok (.set members) => extend members (classMembers false rest)
      | .ok (.char start) =>
        match rest with
        | .plain '-' :: last :: beyond =>
          if last = .plain ']' then
            extend [start] (classMembers false (.plain '-' :: last :: beyond))
          else match last.member with
            | .error flaw => .error flaw
            | .ok (.set _) => .error .shorthandEndsRange
            | .ok (.char stop) =>
              if stop < start then .error (.invertedRange start stop)
              else extend (charRange start stop) (classMembers false beyond)
        | rest => extend [start] (classMembers false rest)

/-- The members of a class after its opening bracket. A caret takes the complement. -/
def charClass (input : List Symbol) : Except Flaw (List Char × List Symbol) := do
  let (negated, input) := match input with
    | .plain '^' :: rest => (true, rest)
    | input => (false, input)
  let (listed, rest) ← classMembers true input
  let members := if negated then complement listed else normalize listed
  if members.isEmpty then .error .emptyClass else .ok (members, rest)

end Pastiche.Pattern
