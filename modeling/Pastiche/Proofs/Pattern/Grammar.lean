import Pastiche.Decimal.Integer
import Pastiche.Pattern.Parser

/-!
The grammar of patterns: which texts derive which trees. A text is cut into the parts of a rule
wherever that is possible; no rule looks at the text after it, except that a character of a class
does not stand alone where a range begins.
-/

namespace Pastiche.Pattern.Grammar

/-- What the character after a backslash stands for. -/
inductive Escaped : Char → Escape → Prop where
  | digit : Escaped 'd' (.set digitChars)
  | word : Escaped 'w' (.set wordChars)
  | space : Escaped 's' (.set [' '])
  | notDigit : Escaped 'D' (.set (complement digitChars))
  | notWord : Escaped 'W' (.set (complement wordChars))
  | notSpace : Escaped 'S' (.set (complement [' ']))
  | lineFeed : Escaped 'n' (.char '\n')
  | tab : Escaped 't' (.char '\t')
  | other {c : Char} (h : c.isAlphanum = false) : Escaped c (.char c)

/-- A character of a class, plain or escaped. -/
inductive Member : List Char → Escape → Prop where
  | plain {c : Char} (h : c ≠ '\\') : Member [c] (.char c)
  | escaped {c : Char} {e : Escape} (h : Escaped c e) : Member ['\\', c] e

/-- A hyphen and a character that does not close the class. -/
def OpensRange (cs : List Char) : Prop := ∃ c rest, cs = '-' :: c :: rest ∧ c ≠ ']'

/-- The text of a class and the characters that it lists. Only where nothing was listed before it
(`first`), a bracket is one of them. -/
inductive Listing : (first : Bool) → List Char → List Char → Prop where
  | nil : Listing false [] []
  | set {first : Bool} {part rest members more : List Char} (hpart : Member part (.set members))
      (hrest : Listing false rest more) : Listing first (part ++ rest) (members ++ more)
  | single {first : Bool} {part rest more : List Char} {c : Char} (hpart : Member part (.char c))
      (hfirst : part = [']'] → first = true) (halone : ¬ OpensRange (rest ++ [']']))
      (hrest : Listing false rest more) : Listing first (part ++ rest) (c :: more)
  | range {first : Bool} {part last rest more : List Char} {start stop : Char}
      (hpart : Member part (.char start)) (hfirst : part = [']'] → first = true)
      (hlast : Member last (.char stop)) (hclosing : last ≠ [']']) (hle : start ≤ stop)
      (hrest : Listing false rest more) :
      Listing first (part ++ '-' :: last ++ rest) (charRange start stop ++ more)

/-- A class after its opening bracket, and its members. -/
inductive Class : List Char → List Char → Prop where
  | positive {cs listed : List Char} (hcaret : cs.head? ≠ some '^') (hcs : Listing true cs listed)
      (hmembers : normalize listed ≠ []) : Class (cs ++ [']']) (normalize listed)
  | negative {cs listed : List Char} (hcs : Listing true cs listed)
      (hmembers : complement listed ≠ []) : Class ('^' :: cs ++ [']']) (complement listed)

/-- A number in decimal digits. -/
def Number (cs : List Char) (n : Nat) : Prop :=
  cs ≠ [] ∧ (∀ c ∈ cs, c.isDigit = true) ∧ Decimal.ofDigits cs = n

/-- A mark without meaning. -/
inductive Lazy : List Char → Prop where
  | absent : Lazy []
  | present : Lazy ['?']

/-- A quantifier with the least and the largest number of repetitions. -/
inductive Quantifier (maxRepeat : Nat) : List Char → Nat → Nat → Prop where
  | once : Quantifier maxRepeat [] 1 1
  | optional {mark : List Char} (hmark : Lazy mark) : Quantifier maxRepeat ('?' :: mark) 0 1
  | star {mark : List Char} (hmark : Lazy mark) : Quantifier maxRepeat ('*' :: mark) 0 maxRepeat
  | plus {mark : List Char} (hmark : Lazy mark) :
      Quantifier maxRepeat ('+' :: mark) 1 (min (maxRepeat + 1) countMax)
  | exactly {digits mark : List Char} {n : Nat} (hdigits : Number digits n) (hn : n ≤ maxBound)
      (hmark : Lazy mark) : Quantifier maxRepeat ('\x7b' :: digits ++ '\x7d' :: mark) n n
  | atLeast {digits mark : List Char} {n : Nat} (hdigits : Number digits n) (hn : n ≤ maxBound)
      (hmark : Lazy mark) :
      Quantifier maxRepeat ('\x7b' :: digits ++ ',' :: '\x7d' :: mark) n
        (min (n + maxRepeat) countMax)
  | between {digits others mark : List Char} {least most : Nat} (hdigits : Number digits least)
      (hothers : Number others most) (hle : least ≤ most) (hleast : least ≤ maxBound)
      (hmost : most ≤ min (maxBound + maxRepeat) countMax) (hmark : Lazy mark) :
      Quantifier maxRepeat ('\x7b' :: digits ++ ',' :: others ++ '\x7d' :: mark) least most

/-- The characters that do not stand for themselves. -/
def metacharacters : List Char :=
  ['\\', '|', '(', ')', '[', '.', '?', '*', '+', '\x7b', '^', '$']

mutual

/-- A tree that can be repeated. Its groups are nested at most `depth` deep. -/
inductive Atom (maxRepeat : Nat) : (depth : Nat) → List Char → Tree → Prop where
  | literal {depth : Nat} {c : Char} (h : c ∉ metacharacters) :
      Atom maxRepeat depth [c] (.literal c)
  | any {depth : Nat} : Atom maxRepeat depth ['.'] (.oneOf printable)
  | escapedChar {depth : Nat} {c d : Char} (h : Escaped c (.char d)) :
      Atom maxRepeat depth ['\\', c] (.literal d)
  | escapedSet {depth : Nat} {c : Char} {members : List Char} (h : Escaped c (.set members)) :
      Atom maxRepeat depth ['\\', c] (.oneOf members)
  | charClass {depth : Nat} {cs members : List Char} (h : Class cs members) :
      Atom maxRepeat depth ('[' :: cs) (.oneOf members)
  | group {depth : Nat} {cs : List Char} {branches : List (List Item)}
      (h : Alternation maxRepeat depth cs branches) :
      Atom maxRepeat (depth + 1) ('(' :: cs ++ [')']) (.choice branches)
  | markedGroup {depth : Nat} {cs : List Char} {branches : List (List Item)}
      (h : Alternation maxRepeat depth cs branches) :
      Atom maxRepeat (depth + 1) ('(' :: '?' :: ':' :: cs ++ [')']) (.choice branches)

/-- Trees one after the other, each with its quantifier. -/
inductive Concatenation (maxRepeat : Nat) : (depth : Nat) → List Char → List Item → Prop where
  | nil {depth : Nat} : Concatenation maxRepeat depth [] []
  | cons {depth least most : Nat} {text mark rest : List Char} {tree : Tree} {items : List Item}
      (htext : Atom maxRepeat depth text tree) (hmark : Quantifier maxRepeat mark least most)
      (hrest : Concatenation maxRepeat depth rest items) :
      Concatenation maxRepeat depth (text ++ (mark ++ rest)) (.repeated tree least most :: items)

/-- Branches with bars between them. -/
inductive Alternation (maxRepeat : Nat) : (depth : Nat) → List Char → List (List Item) → Prop where
  | last {depth : Nat} {cs : List Char} {items : List Item}
      (h : Concatenation maxRepeat depth cs items) : Alternation maxRepeat depth cs [items]
  | cons {depth : Nat} {cs rest : List Char} {items : List Item} {others : List (List Item)}
      (hcs : Concatenation maxRepeat depth cs items)
      (hrest : Alternation maxRepeat depth rest others) :
      Alternation maxRepeat depth (cs ++ '|' :: rest) (items :: others)

end

/-- The tree of a whole text. -/
inductive Derives (maxRepeat : Nat) : List Char → Tree → Prop where
  | root {cs : List Char} {branches : List (List Item)}
      (h : Alternation maxRepeat maxNesting cs branches) : Derives maxRepeat cs (.choice branches)

end Pastiche.Pattern.Grammar
