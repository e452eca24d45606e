import Pastiche.Directive.Span
import Pastiche.Text.Blank

/-!
The content of a directive: a dotted reference, and arguments that are separated by commas. The
arguments may stand in parentheses, and each of them in quotes, between slashes or bare.
-/

namespace Pastiche

structure Directive where
  /-- The whole directive, opener and closing brace included. -/
  token : String
  reference : String
  /-- The arguments without their quotes, not yet expanded. -/
  arguments : List String
deriving DecidableEq

namespace Directive

def cons (c : Char) : Option (List Char × List Char) → Option (List Char × List Char) :=
  Option.map fun (text, rest) => (c :: text, rest)

/-- An argument up to its closing quote. A backslash lets a quote stand in the argument. -/
def quoted (quote : Char) : List Char → Option (List Char × List Char)
  | [] => none
  | '\\' :: d :: rest =>
    if d = quote then cons quote (quoted quote rest) else cons '\\' (quoted quote (d :: rest))
  | c :: rest => if c = quote then some ([], rest) else cons c (quoted quote rest)

def endsArgument (cs : List Char) : Bool :=
  match Text.trimStart cs with
  | [] => true
  | c :: _ => c == ','

/-- An argument up to the first slash that ends one. -/
def slashed : List Char → Option (List Char × List Char)
  | [] => none
  | c :: rest =>
    if c = '/' ∧ endsArgument rest = true then some ([], rest) else cons c (slashed rest)

/-- The text up to a comma outside braces, and the rest from there. -/
def bareRun (depth : Nat) : List Char → List Char × List Char
  | [] => ([], [])
  | c :: rest =>
    if c = ',' ∧ depth = 0 then ([], c :: rest)
    else
      let depth := if c = '\x7b' then depth + 1 else if c = '\x7d' then depth - 1 else depth
      let (text, rest) := bareRun depth rest
      (c :: text, rest)

def bare (cs : List Char) : Option (List Char × List Char) :=
  let (text, rest) := bareRun 0 cs
  let text := Text.trimEnd text
  if text.isEmpty then none else some (text, rest)

def argument (cs : List Char) : Option (List Char × List Char) :=
  match cs with
  | '\'' :: rest => quoted '\'' rest
  | '"' :: rest => quoted '"' rest
  | '/' :: rest => slashed rest
  | cs => bare cs

theorem cons_eq_some {c : Char} {found : Option (List Char × List Char)} {text rest : List Char}
    (h : cons c found = some (text, rest)) :
    ∃ inner, found = some (inner, rest) ∧ text = c :: inner := by
  obtain ⟨⟨inner, rest'⟩, hfound, heq⟩ := Option.map_eq_some_iff.mp h
  obtain ⟨rfl, rfl⟩ := Prod.mk.inj heq
  exact ⟨inner, hfound, rfl⟩

theorem quoted_length {quote : Char} {cs text rest : List Char}
    (h : quoted quote cs = some (text, rest)) : rest.length ≤ cs.length := by
  fun_induction quoted quote cs generalizing text with
  | case1 => simp at h
  | case2 _ ih | case3 _ _ _ ih | case5 _ _ _ _ ih =>
    obtain ⟨inner, hinner, -⟩ := cons_eq_some h
    have := ih hinner
    simp only [List.length_cons] at *
    omega
  | case4 => simp_all

theorem slashed_length {cs text rest : List Char} (h : slashed cs = some (text, rest)) :
    rest.length ≤ cs.length := by
  induction cs generalizing text with
  | nil => simp [slashed] at h
  | cons c cs ih =>
    unfold slashed at h
    split at h
    · simp_all
    · obtain ⟨inner, hinner, -⟩ := cons_eq_some h
      have := ih hinner
      simp only [List.length_cons]
      omega

theorem bareRun_split (depth : Nat) (cs : List Char) :
    (bareRun depth cs).1 ++ (bareRun depth cs).2 = cs := by
  induction cs generalizing depth with
  | nil => rfl
  | cons c cs ih =>
    unfold bareRun
    split
    · rfl
    · simp [ih]

theorem bare_length {cs text rest : List Char} (h : bare cs = some (text, rest)) :
    rest.length ≤ cs.length := by
  unfold bare at h
  simp only at h
  split at h
  · simp at h
  · obtain ⟨-, rfl⟩ := Prod.mk.inj (Option.some.inj h)
    have := congrArg List.length (bareRun_split 0 cs)
    simp only [List.length_append] at this
    omega

theorem argument_length {cs text rest : List Char} (h : argument cs = some (text, rest)) :
    rest.length ≤ cs.length := by
  unfold argument at h
  split at h
  · exact Nat.le_succ_of_le (quoted_length h)
  · exact Nat.le_succ_of_le (quoted_length h)
  · exact Nat.le_succ_of_le (slashed_length h)
  · exact bare_length h

def argumentsFrom (cs : List Char) : Option (List (List Char)) :=
  match _h : argument (Text.trimStart cs) with
  | none => none
  | some (text, after) =>
    match _h' : Text.trimStart after with
    | [] => some [text]
    | c :: rest => if c = ',' then (argumentsFrom rest).map (text :: ·) else none
termination_by cs.length
decreasing_by
  have hafter := argument_length _h
  have hrest := (List.dropWhile_sublist Text.isBlank (l := after)).length_le
  have hcs := (List.dropWhile_sublist Text.isBlank (l := cs)).length_le
  simp only [Text.trimStart] at *
  rw [_h', List.length_cons] at hrest
  omega

theorem argumentsFrom_eq (cs : List Char) :
    argumentsFrom cs =
      (argument (Text.trimStart cs)).bind fun (text, after) =>
        match Text.trimStart after with
        | [] => some [text]
        | c :: rest => if c = ',' then (argumentsFrom rest).map (text :: ·) else none := by
  rw [argumentsFrom]
  split
  · rename_i hnone
    rw [hnone]
    rfl
  · rename_i text after hsome
    rw [hsome]
    dsimp only [Option.bind_some]
    split
    · rename_i hafter
      rw [hafter]
    · rename_i c rest hafter
      rw [hafter]

def argumentList (cs : List Char) : Option (List (List Char)) :=
  if (Text.trimStart cs).isEmpty then some [] else argumentsFrom cs

def isReferenceChar (c : Char) : Bool := c.isAlphanum || c == '_' || c == '.'

def isReference (cs : List Char) : Bool := (cs.splitOn '.').all fun part => !part.isEmpty

/-- The text between the opener and the closing brace. -/
def inside? : List Char → Option (List Char)
  | '#' :: '\x7b' :: rest => if rest.getLast? = some '\x7d' then some rest.dropLast else none
  | _ => none

def argumentPart (cs : List Char) : Option (List (List Char)) :=
  match Text.trim cs with
  | [] => some []
  | '(' :: rest => if rest.getLast? = some ')' then argumentList rest.dropLast else none
  | cs => argumentList cs

def parse? (token : String) : Option Directive := do
  let body := Text.trim (← inside? token.toList)
  let reference := body.takeWhile isReferenceChar
  if isReference reference then
    let arguments ← argumentPart (body.dropWhile isReferenceChar)
    some ⟨token, String.ofList reference, arguments.map String.ofList⟩
  else none

def isDotted (d : Directive) : Bool := d.reference.toList.contains '.'

end Directive

end Pastiche
