import Pastiche.Proofs.Directive.Reference
import Pastiche.Proofs.Pattern.Budget
import Pastiche.Proofs.Pattern.Delimiters

/-!
Patterns for a single text. With a backslash before every character that is no letter or digit,
nothing in a text is a mark of the pattern language, at its ends as little as inside. What is
generated from such a pattern is the text, and nothing is drawn.
-/

namespace Pastiche.Pattern

open Grammar

/-- A letter or a digit as it is, any other character behind a backslash. -/
def shield (c : Char) : List Char := if c.isAlphanum = true then [c] else ['\\', c]

def shielded (cs : List Char) : List Char := cs.flatMap shield

def literals (cs : List Char) : List Item := cs.map fun c => .repeated (.literal c) 1 1

def Tree.ofText (cs : List Char) : Tree := .choice [literals cs]

section Ends

theorem shielded_concat (cs : List Char) (c : Char) :
    shielded (cs ++ [c]) = shielded cs ++ shield c := by
  rw [shielded, List.flatMap_append, List.flatMap_singleton]
  rfl

theorem head_shielded {cs : List Char} {d : Char} (h : (shielded cs).head? = some d) :
    d = '\\' ∨ d.isAlphanum = true := by
  cases cs with
  | nil => cases h
  | cons c cs =>
    rw [shielded, List.flatMap_cons] at h
    by_cases hc : c.isAlphanum = true
    · rw [shield, if_pos hc] at h
      exact .inr (Option.some.inj h ▸ hc)
    · rw [shield, if_neg hc] at h
      exact .inl (Option.some.inj h).symm

theorem getLast?_shielded (cs : List Char) : (shielded cs).getLast? = cs.getLast? := by
  rcases cs.eq_nil_or_concat' with rfl | ⟨front, c, rfl⟩
  · rfl
  · rw [shielded_concat, List.getLast?_concat]
    by_cases hc : c.isAlphanum = true
    · rw [shield, if_pos hc, List.getLast?_concat]
    · rw [shield, if_neg hc, List.getLast?_append]
      rfl

theorem stripDollar_shielded (cs : List Char) : stripDollar (shielded cs) = shielded cs := by
  rcases cs.eq_nil_or_concat' with rfl | ⟨front, c, rfl⟩
  · rfl
  · by_cases hc : c = '$'
    · have hescaped : ['\\', '$'] <:+ shielded (front ++ [c]) := by
        rw [shielded_concat, hc]
        exact List.suffix_append _ _
      exact if_neg fun hboth => hboth.2 hescaped
    · refine stripDollar_of_last ?_
      rw [getLast?_shielded, List.getLast?_concat]
      exact fun heq => hc (Option.some.inj heq)

theorem head_shielded_ne {cs : List Char} {d : Char} (hd : d ≠ '\\') (hd' : d.isAlphanum = false) :
    (shielded cs).head? ≠ some d := by
  intro h
  rcases head_shielded h with rfl | halnum
  · exact hd rfl
  · rw [hd'] at halnum
    cases halnum

theorem trim_shielded {cs : List Char} (hlast : ∀ c ∈ cs.getLast?, Text.isBlank c = false) :
    Text.trim (shielded cs) = shielded cs := by
  have hnone : ∀ c ∈ ([] : List Char), Text.isBlank c = true := by simp
  have hfirst : ∀ c ∈ (shielded cs).head?, Text.isBlank c = false := by
    intro c hc
    rcases head_shielded hc with rfl | halnum
    · rfl
    · exact Directive.isBlank_of_isReferenceChar (by simp [Directive.isReferenceChar, halnum])
  have hlast' : ∀ c ∈ (shielded cs).getLast?, Text.isBlank c = false := by
    rwa [getLast?_shielded]
  have htrim := Text.trim_between hnone hnone hfirst hlast'
  rwa [List.nil_append, List.append_nil] at htrim

theorem strip_shielded {cs : List Char} (hlast : ∀ c ∈ cs.getLast?, Text.isBlank c = false) :
    stripDelimiters (shielded cs) = shielded cs := by
  rw [stripDelimiters, trim_shielded hlast,
    stripSlashes_of_head (head_shielded_ne (by decide) (by decide)),
    stripCaret_of_head (head_shielded_ne (by decide) (by decide)), stripDollar_shielded]

end Ends

section Reading

variable {maxRepeat depth : Nat}

theorem not_metacharacter {c : Char} (h : c.isAlphanum = true) : c ∉ metacharacters := by
  intro hmem
  have hmarks : ∀ d ∈ metacharacters, d.isAlphanum = false := by simp [metacharacters]
  rw [hmarks c hmem] at h
  cases h

theorem atom_shield (c : Char) : Atom maxRepeat depth (shield c) (.literal c) := by
  by_cases hc : c.isAlphanum = true
  · rw [shield, if_pos hc]
    exact .literal (not_metacharacter hc)
  · rw [shield, if_neg hc]
    exact .escapedChar (.other (Bool.eq_false_iff.mpr hc))

theorem concatenation_shielded (cs : List Char) :
    Concatenation maxRepeat depth (shielded cs) (literals cs) := by
  induction cs with
  | nil => exact .nil
  | cons c cs ih => exact .cons (atom_shield c) .once ih

theorem itemsCost_literals (toll : Nat) (cs : List Char) :
    itemsCost toll (literals cs) = cs.length := by
  induction cs with
  | nil => rfl
  | cons c cs ih =>
    have hrest : itemsCost toll (literals (c :: cs)) = 1 * 1 + itemsCost toll (literals cs) := rfl
    rw [hrest, ih, List.length_cons]
    omega

theorem cost_ofText (toll : Nat) (cs : List Char) :
    (Tree.ofText cs).cost toll = cs.length + toll := by
  rw [Tree.ofText, Tree.cost, branchesCost, branchesCost, itemsCost_literals, Nat.max_zero]

theorem parse_shielded {cs : List Char} (hlength : cs.length ≤ maxOutput)
    (hlast : ∀ c ∈ cs.getLast?, Text.isBlank c = false) (maxRepeat : Nat) :
    parse (String.ofList (shielded cs)) maxRepeat = .ok (Tree.ofText cs) := by
  have hderives : Derives maxRepeat (shielded cs) (Tree.ofText cs) :=
    .root (.last (concatenation_shielded cs))
  have htree : parseTree maxRepeat (stripDelimiters (String.ofList (shielded cs)).toList) =
      .ok (Tree.ofText cs) := by
    rw [String.toList_ofList, strip_shielded hlast]
    exact parseTree_eq_ok_iff.mpr hderives
  have hsteps : maxOutput + 1 ≤ maxSteps := by decide
  rw [parse_of_parseTree htree, cost_ofText, cost_ofText, if_neg (by omega), if_neg (by omega)]

end Reading

section Generating

variable {σ : Type} [Source σ]

theorem generateItems_literals (cs : List Char) (source : σ) :
    generateItems (literals cs) source = (cs, source) := by
  induction cs with
  | nil => rfl
  | cons c cs ih =>
    have hrest : generateItems (literals (c :: cs)) source =
        (c :: (generateItems (literals cs) source).1, (generateItems (literals cs) source).2) := rfl
    rw [hrest, ih]

theorem generate_ofText (cs : List Char) (source : σ) :
    (Tree.ofText cs).generate source = (cs, source) :=
  generateItems_literals cs source

end Generating

/-- A text of any characters that does not end with a blank, with a backslash before each that is no
letter or digit, is a pattern. Whatever source is given, this text is generated, and the source is
never asked. -/
theorem sample_of_shielded {text : String} (hlength : text.length ≤ maxOutput)
    (hlast : ∀ c ∈ text.toList.getLast?, Text.isBlank c = false) (maxRepeat : Nat) :
    ∃ tree, parse (String.ofList (shielded text.toList)) maxRepeat = .ok tree ∧
      ∀ (σ : Type) [Source σ] (source : σ),
        tree.sample source = (text, source) ∧ tree.draws source = 0 := by
  refine ⟨Tree.ofText text.toList, parse_shielded ?_ hlast maxRepeat, fun σ _ source => ⟨?_, ?_⟩⟩
  · rwa [String.length_toList]
  · rw [sample_state, generate_ofText, String.ofList_toList]
  · rw [Tree.draws, generate_ofText]

theorem sample_of_shielded_marks :
    "/^ (a|\n)$".length ≤ maxOutput ∧
      (∀ c ∈ "/^ (a|\n)$".toList.getLast?, Text.isBlank c = false) ∧
      ∃ tree, parse "\\/\\^\\ \\(a\\|\\\n\\)\\$" 7 = .ok tree ∧
        tree.sample (RandomSource.cycle [3] 0) = ("/^ (a|\n)$", .cycle [3] 0) ∧
        tree.draws (RandomSource.cycle [3] 0) = 0 := by
  have hlength : "/^ (a|\n)$".length ≤ maxOutput := by decide
  have hlast : ∀ c ∈ "/^ (a|\n)$".toList.getLast?, Text.isBlank c = false := by simp [Text.isBlank]
  obtain ⟨tree, hparse, hsample⟩ := sample_of_shielded hlength hlast 7
  exact ⟨hlength, hlast, tree, hparse, hsample _ _⟩

end Pastiche.Pattern
