import Pastiche.Directive.Parser
import Pastiche.Directive.Span
import Pastiche.Proofs.Text.Split

/-! The reference of a directive: where the parser finds it, and what it leaves for the arguments. -/

namespace Pastiche.Directive

/-- One or more segments with dots between them, each of letters, digits and underscores. -/
def IsPath (cs : List Char) : Prop :=
  ∃ segments, segments ≠ [] ∧ cs = ['.'].intercalate segments ∧
    ∀ segment ∈ segments, segment ≠ [] ∧ ∀ c ∈ segment, c.isAlphanum = true ∨ c = '_'

theorem isReferenceChar_bounds {c : Char} (h : isReferenceChar c = true) :
    '.'.toNat ≤ c.toNat ∧ c.toNat ≤ 'z'.toNat := by
  simp only [isReferenceChar, Bool.or_eq_true, beq_iff_eq] at h
  rcases h with (halnum | rfl) | rfl
  · unfold Char.isAlphanum Char.isAlpha Char.isUpper Char.isLower Char.isDigit at halnum
    simp only [Bool.or_eq_true, Bool.and_eq_true, decide_eq_true_eq, UInt32.le_iff_toNat_le,
      ge_iff_le, Char.reduceVal, UInt32.reduceToNat] at halnum
    simp only [Char.toNat, Char.reduceVal, UInt32.reduceToNat]
    omega
  · decide
  · decide

theorem isBlank_of_isReferenceChar {c : Char} (h : isReferenceChar c = true) :
    Text.isBlank c = false := by
  obtain ⟨hlow, hhigh⟩ := isReferenceChar_bounds h
  rw [show '.'.toNat = 46 from rfl] at hlow
  rw [show 'z'.toNat = 122 from rfl] at hhigh
  simp only [Text.isBlank, Bool.or_eq_false_iff, Bool.and_eq_false_iff, decide_eq_false_iff_not,
    beq_eq_false_iff_ne, ne_eq]
  omega

theorem isReferenceChar_of_isBlank {c : Char} (h : Text.isBlank c = true) :
    isReferenceChar c = false := by
  refine Bool.eq_false_iff.mpr fun hchar => ?_
  rw [isBlank_of_isReferenceChar hchar] at h
  cases h

namespace IsPath

variable {reference : List Char}

theorem chars (h : IsPath reference) : ∀ c ∈ reference, isReferenceChar c = true := by
  obtain ⟨segments, -, rfl, hsegments⟩ := h
  intro c hc
  rcases Text.mem_intercalate hc with rfl | ⟨segment, hsegment, hmem⟩
  · rfl
  · rcases (hsegments segment hsegment).2 c hmem with halnum | rfl
    · simp [isReferenceChar, halnum]
    · rfl

theorem isReference (h : IsPath reference) : isReference reference = true := by
  obtain ⟨segments, hne, rfl, hsegments⟩ := h
  have hdot : ∀ segment ∈ segments, '.' ∉ segment := by
    intro segment hsegment hmem
    rcases (hsegments segment hsegment).2 '.' hmem with halnum | heq
    · exact absurd halnum (by decide)
    · exact absurd heq (by decide)
  rw [Directive.isReference, List.splitOn_intercalate '.' hdot hne, List.all_eq_true]
  intro segment hsegment
  simpa using (hsegments segment hsegment).1

theorem ne_nil (h : IsPath reference) : reference ≠ [] := by
  rintro rfl
  exact absurd h.isReference (by decide)

theorem head?_append (h : IsPath reference) (rest : List Char) :
    (reference ++ rest).head? = reference.head? := by
  cases hreference : reference with
  | nil => exact absurd hreference h.ne_nil
  | cons c cs => rfl

theorem not_blank (h : IsPath reference) : ∀ c ∈ reference, Text.isBlank c = false :=
  fun c hc => isBlank_of_isReferenceChar (h.chars c hc)

theorem takeWhile_append (h : IsPath reference) {rest : List Char}
    (hrest : ∀ c ∈ rest.head?, isReferenceChar c = false) :
    (reference ++ rest).takeWhile isReferenceChar = reference := by
  rw [List.takeWhile_append_of_pos h.chars]
  cases rest with
  | nil => simp
  | cons c rest => simp [hrest c rfl]

theorem dropWhile_append (h : IsPath reference) {rest : List Char}
    (hrest : ∀ c ∈ rest.head?, isReferenceChar c = false) :
    (reference ++ rest).dropWhile isReferenceChar = rest := by
  rw [List.dropWhile_append_of_pos h.chars]
  cases rest with
  | nil => rfl
  | cons c rest => simp [hrest c rfl]

theorem trim_append (h : IsPath reference) {rest after : List Char}
    (hlast : ∀ c ∈ rest.getLast?, Text.isBlank c = false)
    (hafter : ∀ c ∈ after, Text.isBlank c = true) :
    Text.trim (reference ++ rest ++ after) = reference ++ rest := by
  have hnone : ∀ c ∈ ([] : List Char), Text.isBlank c = true := by simp
  have hfirst : ∀ c ∈ (reference ++ rest).head?, Text.isBlank c = false := by
    intro c hc
    cases hsplit : reference with
    | nil => exact absurd hsplit h.ne_nil
    | cons d more =>
      rw [hsplit] at hc
      obtain rfl : d = c := by simpa using hc
      exact h.not_blank d (by simp [hsplit])
  have hlast' : ∀ c ∈ (reference ++ rest).getLast?, Text.isBlank c = false := by
    intro c hc
    cases rest with
    | nil =>
      rw [List.append_nil] at hc
      exact h.not_blank c (List.mem_of_mem_getLast? hc)
    | cons d rest =>
      refine hlast c ?_
      simpa [List.getLast?_append] using hc
  exact Text.trim_between hnone hafter hfirst hlast'

end IsPath

theorem token_of_parse? {token : String} {directive : Directive}
    (h : parse? token = some directive) : directive.token = token := by
  obtain ⟨inner, -, hbody⟩ := Option.bind_eq_some_iff.mp h
  dsimp only at hbody
  split at hbody
  · obtain ⟨arguments, -, hdirective⟩ := Option.bind_eq_some_iff.mp hbody
    cases hdirective
    rfl
  · cases hbody

theorem parse?_token {token reference rest after : List Char}
    (htoken : token = opener ++ (reference ++ rest ++ after) ++ ['\x7d'])
    (hreference : IsPath reference) (hrest : ∀ c ∈ rest.head?, isReferenceChar c = false)
    (hlast : ∀ c ∈ rest.getLast?, Text.isBlank c = false)
    (hafter : ∀ c ∈ after, Text.isBlank c = true) :
    parse? (String.ofList token) = (argumentPart rest).map fun arguments =>
      ⟨String.ofList token, String.ofList reference, arguments.map String.ofList⟩ := by
  have hinside : inside? token = some (reference ++ rest ++ after) := by
    rw [htoken]
    simp [opener, inside?]
  simp only [parse?, String.toList_ofList, hinside, Option.bind_eq_bind, Option.bind_some,
    hreference.trim_append hlast hafter, hreference.takeWhile_append hrest,
    hreference.dropWhile_append hrest, hreference.isReference, if_true]
  cases argumentPart rest with
  | none => rfl
  | some arguments => rfl

theorem argumentPart_spaced {before inner : List Char} {c d : Char}
    (hbefore : ∀ e ∈ before, Text.isBlank e = true) (hc : Text.isBlank c = false)
    (hopen : c ≠ '(') (hd : Text.isBlank d = false) :
    argumentPart (before ++ (c :: inner ++ [d])) = argumentsFrom (c :: inner ++ [d]) := by
  have hlist : argumentList (c :: inner ++ [d]) = argumentsFrom (c :: inner ++ [d]) := by
    rw [argumentList, List.cons_append, Text.trimStart_of_head hc]
    rfl
  rw [argumentPart, Text.trim_of_ends hbefore hc hd, ← hlist]
  split
  · rename_i heq
    cases heq
  · rename_i heq
    exact absurd (List.cons.inj heq).1 hopen
  · rfl

theorem argumentPart_parenthesised (list : List Char) :
    argumentPart ('(' :: list ++ [')']) = argumentList list := by
  have hnone : ∀ c ∈ ([] : List Char), Text.isBlank c = true := by simp
  have htrim : Text.trim ('(' :: list ++ [')']) = '(' :: list ++ [')'] :=
    Text.trim_of_ends hnone (by decide) (by decide)
  rw [argumentPart, htrim]
  simp

theorem parse?_spaced {token reference before inner after : List Char} {space c d : Char}
    (htoken : token =
      opener ++ (reference ++ (space :: before ++ (c :: inner ++ [d])) ++ after) ++ ['\x7d'])
    (hreference : IsPath reference) (hbefore : ∀ e ∈ space :: before, Text.isBlank e = true)
    (hc : Text.isBlank c = false) (hopen : c ≠ '(') (hd : Text.isBlank d = false)
    (hafter : ∀ e ∈ after, Text.isBlank e = true) :
    parse? (String.ofList token) = (argumentsFrom (c :: inner ++ [d])).map fun arguments =>
      ⟨String.ofList token, String.ofList reference, arguments.map String.ofList⟩ := by
  have hspace : ∀ e ∈ (space :: before ++ (c :: inner ++ [d])).head?, isReferenceChar e = false := by
    intro e he
    obtain rfl : space = e := by simpa using he
    exact isReferenceChar_of_isBlank (hbefore space (by simp))
  have hlast : ∀ e ∈ (space :: before ++ (c :: inner ++ [d])).getLast?, Text.isBlank e = false := by
    rw [← List.append_assoc]
    exact Text.getLast?_concat_not_blank hd
  rw [parse?_token htoken hreference hspace hlast hafter, argumentPart_spaced hbefore hc hopen hd]

end Pastiche.Directive
