import Pastiche.Random

/-! Patterns as trees, and the flaws that a pattern text can have. -/

namespace Pastiche.Pattern

mutual

/-- What generates text: a character, a character of a class, or one of several branches. -/
inductive Tree where
  | literal (c : Char)
  | oneOf (members : List Char)
  | choice (branches : List (List Item))

/-- A tree and how often it is repeated, at least and at most. -/
inductive Item where
  | repeated (tree : Tree) (least most : Nat)

end

instance : Inhabited Tree := ⟨.choice []⟩

/-- The largest number a repetition may name. -/
def maxBound : Nat := 1000

def maxNesting : Nat := 32

/-- How many characters a pattern may be able to generate. -/
def maxOutput : Nat := 100000

/-- How many trees a generation may visit. -/
def maxSteps : Nat := 1000000

inductive Flaw where
  | unmatchedParenthesis
  | tooLong
  | tooManySteps
  | capturingGroup
  | tooNested
  | unclosedGroup
  | nothingToRepeat (quantifier : Char)
  | innerAnchor
  | trailingBackslash
  | unsupportedEscape (c : Char)
  | unclosedClass
  | shorthandEndsRange
  | invertedRange (first last : Char)
  | emptyClass
  | missingBound
  | unclosedRepetition
  | invertedRepetition (least most : Nat)
  | boundTooLarge
deriving DecidableEq

def Flaw.message : Flaw → String
  | .unmatchedParenthesis => "unmatched ')'"
  | .tooLong => "pattern may generate more than " ++ maxOutput.repr ++ " characters"
  | .tooManySteps => "pattern may take more than " ++ maxSteps.repr ++ " steps to generate"
  | .capturingGroup => "only non-capturing groups (?:...) are supported"
  | .tooNested => "groups nested deeper than " ++ maxNesting.repr
  | .unclosedGroup => "unclosed group"
  | .nothingToRepeat quantifier => "nothing to repeat before '" ++ quantifier.toString ++ "'"
  | .innerAnchor => "anchors are only supported at the pattern edges"
  | .trailingBackslash => "trailing backslash"
  | .unsupportedEscape c => "unsupported escape '\\" ++ c.toString ++ "'"
  | .unclosedClass => "unclosed character class"
  | .shorthandEndsRange => "class shorthand cannot end a range"
  | .invertedRange first last => "invalid range " ++ first.toString ++ "-" ++ last.toString
  | .emptyClass => "character class matches nothing"
  | .missingBound => "repetition must start with a number"
  | .unclosedRepetition => "unclosed repetition"
  | .invertedRepetition least most =>
    "repetition \x7b" ++ least.repr ++ "," ++ most.repr ++ "\x7d has max below min"
  | .boundTooLarge => "repetition bound above " ++ maxBound.repr

end Pastiche.Pattern
