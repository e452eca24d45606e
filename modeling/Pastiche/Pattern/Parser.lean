import Pastiche.Pattern.Budget
import Pastiche.Pattern.CharClass
import Pastiche.Text.Blank

/-! Reading the text of a pattern. -/

namespace Pastiche.Pattern

def countMax : Nat := Word.largest 32

/-- Repeated laziness makes no difference to what is generated. -/
def skipLazy : List Symbol → List Symbol
  | .plain '?' :: rest => rest
  | input => input

def Symbol.isDigit : Symbol → Bool
  | .plain c => c.isDigit
  | _ => false

def Symbol.digitValue : Symbol → Nat
  | .plain c => c.toNat - '0'.toNat
  | _ => 0

def number (input : List Symbol) : Except Flaw (Option Nat × List Symbol) :=
  let digits := input.takeWhile Symbol.isDigit
  let value := digits.foldl (fun n s => n * 10 + s.digitValue) 0
  if digits.isEmpty then .ok (none, input)
  else if value > countMax then .error .boundTooLarge
  else .ok (some value, input.dropWhile Symbol.isDigit)

/-- The upper bound of a repetition whose lower bound has been read. -/
def upperBound (maxRepeat least : Nat) : List Symbol → Except Flaw (Nat × List Symbol)
  | .plain ',' :: rest => do
    let (most, rest) ← number rest
    .ok (most.getD (min (least + maxRepeat) countMax), rest)
  | input => .ok (least, input)

def repetition (maxRepeat : Nat) (input : List Symbol) :
    Except Flaw ((Nat × Nat) × List Symbol) := do
  let (least, rest) ← number input
  match least with
  | none => .error .missingBound
  | some least => do
    let (most, rest) ← upperBound maxRepeat least rest
    match rest with
    | .plain '\x7d' :: rest =>
      if most < least then .error (.invertedRepetition least most)
      else if most > min (maxBound + maxRepeat) countMax ∨ least > maxBound then
        .error .boundTooLarge
      else .ok ((least, most), skipLazy rest)
    | _ => .error .unclosedRepetition

/-- How often the tree before it is repeated; once where there is no quantifier. -/
def quantifier (maxRepeat : Nat) : List Symbol → Except Flaw ((Nat × Nat) × List Symbol)
  | .plain '?' :: rest => .ok ((0, 1), skipLazy rest)
  | .plain '*' :: rest => .ok ((0, maxRepeat), skipLazy rest)
  | .plain '+' :: rest => .ok ((1, min (maxRepeat + 1) countMax), skipLazy rest)
  | .plain '\x7b' :: rest => repetition maxRepeat rest
  | input => .ok ((1, 1), input)

/-- A tree that is no group, from its first symbol and the text after it. -/
def atom (symbol : Symbol) (rest : List Symbol) : Except Flaw (Tree × List Symbol) :=
  match symbol with
  | .dangling => .error .trailingBackslash
  | .escaped c => do
    match ← escape c with
    | .char c => .ok (.literal c, rest)
    | .set members => .ok (.oneOf members, rest)
  | .plain '[' => do
    let (members, rest) ← charClass rest
    .ok (.oneOf members, rest)
  | .plain '.' => .ok (.oneOf printable, rest)
  | .plain c =>
    if c = '*' ∨ c = '+' ∨ c = '?' ∨ c = '\x7b' then .error (.nothingToRepeat c)
    else if c = '^' ∨ c = '$' then .error .innerAnchor
    else .ok (.literal c, rest)

def groupContent : List Symbol → Except Flaw (List Symbol)
  | .plain '?' :: .plain ':' :: rest => .ok rest
  | .plain '?' :: _ => .error .capturingGroup
  | rest => .ok rest

/-- Branches, up to the end or to a parenthesis that closes them: the first one, the others, and the
rest of the text. Each step of the budget uses a symbol. -/
def branches (maxRepeat : Nat) : (budget depth : Nat) → List Symbol →
    Except Flaw ((List Item × List (List Item)) × List Symbol)
  | 0, _, _ => .error .unclosedGroup
  | _ + 1, _, [] => .ok (([], []), [])
  | budget + 1, depth, symbol :: rest =>
    if symbol = .plain ')' then .ok (([], []), symbol :: rest)
    else if symbol = .plain '|' then do
      let ((first, others), rest) ← branches maxRepeat budget depth rest
      .ok (([], first :: others), rest)
    else do
      let (tree, rest) ←
        if symbol = .plain '(' then do
          let content ← groupContent rest
          match depth with
          | 0 => .error .tooNested
          | depth + 1 => do
            let ((first, others), rest) ← branches maxRepeat budget depth content
            match rest with
            | .plain ')' :: rest => .ok (.choice (first :: others), rest)
            | _ => .error .unclosedGroup
        else atom symbol rest
      let ((least, most), rest) ← quantifier maxRepeat rest
      let ((first, others), rest) ← branches maxRepeat budget depth rest
      .ok ((.repeated tree least most :: first, others), rest)

/-- The tree of a text without delimiters, whatever its size. -/
def parseTree (maxRepeat : Nat) (body : List Char) : Except Flaw Tree := do
  let input := symbols body
  let ((first, others), rest) ← branches maxRepeat (input.length + 1) maxNesting input
  match rest with
  | [] => .ok (.choice (first :: others))
  | _ => .error .unmatchedParenthesis

def stripSlashes : List Char → List Char
  | '/' :: rest => if rest.getLast? = some '/' then rest.dropLast else '/' :: rest
  | cs => cs

def stripCaret : List Char → List Char
  | '^' :: rest => rest
  | cs => cs

/-- Takes off a dollar at the end that has no backslash before it. -/
def stripDollar (cs : List Char) : List Char :=
  if ['$'] <:+ cs ∧ ¬ ['\\', '$'] <:+ cs then cs.dropLast else cs

/-- The text between blanks, slashes and anchors. -/
def stripDelimiters (cs : List Char) : List Char :=
  stripDollar (stripCaret (stripSlashes (Text.trim cs)))

/-- The tree of a pattern that can be generated from within the limits. -/
def parse (pattern : String) (maxRepeat : Nat) : Except Flaw Tree := do
  let tree ← parseTree maxRepeat (stripDelimiters pattern.toList)
  if tree.maxLength > maxOutput then .error .tooLong
  else if tree.maxVisits > maxSteps then .error .tooManySteps
  else .ok tree

end Pastiche.Pattern
