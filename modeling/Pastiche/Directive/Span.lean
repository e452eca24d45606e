import Pastiche.Text.Bytes

/-!
Where a directive stands in a text. A directive begins with an opener `#{` and ends with the brace
that closes it; quoted arguments may hold any braces.
-/

namespace Pastiche.Directive

def opener : List Char := ['#', '\x7b']

def startsArgument (c : Char) : Bool :=
  c == ' ' || c == '\t' || c == '\n' || c == '\x0c' || c == '\r' || c == ',' || c == '('

def isQuote (c : Char) : Bool := c == '\'' || c == '"'

def precede (before : List Char) :
    Option (List Char × List Char) → Option (List Char × List Char) :=
  Option.map fun (body, rest) => (before ++ body, rest)

/-- The text up to the brace that closes it and the text after that brace, with `depth` more braces
open, in an argument that the given quote opened if any, after the character `previous`. -/
def closing (depth : Nat) (quote : Option Char) (previous : Char) :
    List Char → Option (List Char × List Char)
  | [] => none
  | c :: rest =>
    match quote with
    | some q =>
      if c = '\\' then
        match rest with
        | [] => none
        | skipped :: rest => precede [c, skipped] (closing depth quote skipped rest)
      else precede [c] (closing depth (if c = q then none else quote) c rest)
    | none =>
      if isQuote c && startsArgument previous then precede [c] (closing depth (some c) c rest)
      else if c = '\x7b' then precede [c] (closing (depth + 1) none c rest)
      else if c = '\x7d' then
        match depth with
        | 0 => some ([], rest)
        | depth + 1 => precede [c] (closing depth none c rest)
      else precede [c] (closing depth none c rest)

/-- The body of a directive after its opener, and the text behind its end. An opener before a digit
is a repetition in a pattern. -/
def body? (cs : List Char) : Option (List Char × List Char) :=
  if (cs.head?.map Char.isDigit).getD false then none else closing 0 none '\x7b' cs

/-- A text cut around its first directive. -/
structure Cut where
  before : List Char
  token : List Char
  after : List Char
deriving DecidableEq

def opened? : List Char → Option Cut
  | '#' :: '\x7b' :: inner =>
    (body? inner).map fun (body, after) => ⟨[], opener ++ body ++ ['\x7d'], after⟩
  | _ => none

/-- The leftmost directive. An opener that nothing closes is ordinary text. -/
def cut? : List Char → Option Cut
  | [] => none
  | c :: rest =>
    match opened? (c :: rest) with
    | some cut => some cut
    | none => (cut? rest).map fun cut => { cut with before := c :: cut.before }

theorem precede_eq_some {before : List Char} {found : Option (List Char × List Char)}
    {body rest : List Char} (h : precede before found = some (body, rest)) :
    ∃ inner, found = some (inner, rest) ∧ body = before ++ inner := by
  obtain ⟨⟨inner, rest'⟩, hfound, heq⟩ := Option.map_eq_some_iff.mp h
  obtain ⟨rfl, rfl⟩ := Prod.mk.inj heq
  exact ⟨inner, hfound, rfl⟩

theorem closing_split {depth : Nat} {quote : Option Char} {previous : Char}
    {cs body rest : List Char} (h : closing depth quote previous cs = some (body, rest)) :
    cs = body ++ '\x7d' :: rest := by
  fun_induction closing depth quote previous cs generalizing body rest with
  | case1 => simp at h
  | case2 => simp at h
  | case7 => simp_all
  | case3 _ _ _ _ _ ih | case4 _ _ _ _ _ _ ih | case5 _ _ _ _ _ ih | case6 _ _ _ _ ih
  | case8 _ _ _ _ _ ih | case9 _ _ _ _ _ _ _ ih =>
    obtain ⟨inner, hinner, rfl⟩ := precede_eq_some h
    simp [ih hinner]

theorem opened?_split {cs : List Char} {cut : Cut} (h : opened? cs = some cut) :
    cs = cut.before ++ cut.token ++ cut.after ∧ cut.token ≠ [] := by
  unfold opened? at h
  split at h
  · obtain ⟨⟨body, after⟩, hbody, rfl⟩ := Option.map_eq_some_iff.mp h
    unfold body? at hbody
    split at hbody
    · simp at hbody
    · simp [opener, closing_split hbody]
  · simp at h

theorem cut?_split {cs : List Char} {cut : Cut} (h : cut? cs = some cut) :
    cs = cut.before ++ cut.token ++ cut.after ∧ cut.token ≠ [] := by
  induction cs generalizing cut with
  | nil => simp [cut?] at h
  | cons c rest ih =>
    unfold cut? at h
    split at h
    · rename_i hopened
      rw [← Option.some.inj h]
      exact opened?_split hopened
    · obtain ⟨found, hfound, rfl⟩ := Option.map_eq_some_iff.mp h
      obtain ⟨hsplit, htoken⟩ := ih hfound
      exact ⟨by simp [hsplit], htoken⟩

/-- Where a directive stands, in bytes, from its first one to the one behind it. -/
structure Span where
  start : Nat
  stop : Nat
deriving DecidableEq

def Cut.span (cut : Cut) : Span :=
  ⟨Text.byteLength cut.before, Text.byteLength cut.before + Text.byteLength cut.token⟩

def find? (text : String) : Option Span := (cut? text.toList).map Cut.span

/-- A part of a template: text that is kept or a directive that is replaced. -/
inductive Segment where
  | text (content : List Char)
  | directive (token : List Char)
deriving DecidableEq

def segments (cs : List Char) : List Segment :=
  match _h : cut? cs with
  | none => [.text cs]
  | some cut => .text cut.before :: .directive cut.token :: segments cut.after
termination_by cs.length
decreasing_by
  obtain ⟨hsplit, htoken⟩ := cut?_split _h
  have := List.length_pos_iff.mpr htoken
  rw [hsplit]
  simp only [List.length_append]
  omega

theorem segments_of_none {cs : List Char} (h : cut? cs = none) : segments cs = [.text cs] := by
  rw [segments]
  split
  · rfl
  · rename_i cut hcut
    rw [h] at hcut
    cases hcut

theorem segments_of_some {cs : List Char} {cut : Cut} (h : cut? cs = some cut) :
    segments cs = .text cut.before :: .directive cut.token :: segments cut.after := by
  rw [segments]
  split
  · rename_i hcut
    rw [h] at hcut
    cases hcut
  · rename_i found hcut
    rw [h] at hcut
    cases hcut
    rfl

/-- The directives among parts of a text that begin at the given byte, with their places. -/
def placed (start : Nat) : List Segment → List (Span × List Char)
  | [] => []
  | .text content :: rest => placed (start + Text.byteLength content) rest
  | .directive token :: rest =>
    let stop := start + Text.byteLength token
    (⟨start, stop⟩, token) :: placed stop rest

/-- All directives of a text that do not stand in one another, with their places. -/
def findAll (text : String) : List (Span × List Char) := placed 0 (segments text.toList)

end Pastiche.Directive
