import Mathlib.Data.List.TakeWhile
import Pastiche.Text.Blank

/-! Texts with blanks behind them, and what stands around the text between its blanks. -/

namespace Pastiche.Text

theorem trimStart_eq_nil_iff {cs : List Char} :
    trimStart cs = [] ↔ ∀ c ∈ cs, isBlank c = true :=
  List.dropWhile_eq_nil_iff

theorem trimStart_of_blank {c : Char} (hc : isBlank c = true) (cs : List Char) :
    trimStart (c :: cs) = trimStart cs :=
  List.dropWhile_cons_of_pos hc

theorem ne_of_isBlank {c d : Char} (hc : isBlank c = true) (hd : isBlank d = false) : c ≠ d := by
  rintro rfl
  rw [hd] at hc
  cases hc

/-- The second text is the first with blanks behind it. -/
def Padded (cs padded : List Char) : Prop :=
  ∃ blanks, padded = cs ++ blanks ∧ ∀ c ∈ blanks, isBlank c = true

namespace Padded

variable {cs padded : List Char}

theorem refl (cs : List Char) : Padded cs cs := ⟨[], (List.append_nil cs).symm, nofun⟩

theorem cons (h : Padded cs padded) (c : Char) : Padded (c :: cs) (c :: padded) := by
  obtain ⟨blanks, rfl, hblanks⟩ := h
  exact ⟨blanks, rfl, hblanks⟩

theorem blank (h : Padded [] padded) : ∀ c ∈ padded, isBlank c = true := by
  obtain ⟨blanks, rfl, hblanks⟩ := h
  exact hblanks

theorem exists_tail {c : Char} (h : Padded (c :: cs) padded) :
    ∃ tail, padded = c :: tail ∧ Padded cs tail := by
  obtain ⟨blanks, rfl, hblanks⟩ := h
  exact ⟨cs ++ blanks, rfl, blanks, rfl, hblanks⟩

theorem trimStart_eq_nil (h : Padded cs padded) (hcs : trimStart cs = []) :
    trimStart padded = [] := by
  obtain ⟨blanks, rfl, hblanks⟩ := h
  rw [trimStart_eq_nil_iff] at hcs ⊢
  intro c hc
  rcases List.mem_append.mp hc with hmem | hmem
  · exact hcs c hmem
  · exact hblanks c hmem

theorem trimStart (h : Padded cs padded) : Padded (trimStart cs) (trimStart padded) := by
  induction cs generalizing padded with
  | nil =>
    rw [h.trimStart_eq_nil rfl]
    exact refl []
  | cons c cs ih =>
    obtain ⟨tail, rfl, htail⟩ := h.exists_tail
    by_cases hc : isBlank c = true
    · rw [trimStart_of_blank hc, trimStart_of_blank hc]
      exact ih htail
    · rw [Bool.not_eq_true] at hc
      rw [trimStart_of_head hc, trimStart_of_head hc]
      exact h

theorem trimStart_eq_cons {c : Char} {rest : List Char} (h : Padded cs padded)
    (hcs : Text.trimStart cs = c :: rest) :
    ∃ tail, Text.trimStart padded = c :: tail ∧ Padded rest tail := by
  have htrim := h.trimStart
  rw [hcs] at htrim
  exact htrim.exists_tail

theorem trimEnd_eq (h : Padded cs padded) : trimEnd padded = trimEnd cs := by
  obtain ⟨blanks, rfl, hblanks⟩ := h
  have hreverse : ∀ c ∈ blanks.reverse, isBlank c = true :=
    fun c hc => hblanks c (List.mem_reverse.mp hc)
  rw [trimEnd, List.reverse_append, List.dropWhile_append_of_pos hreverse, trimEnd]

theorem trim_eq (h : Padded cs padded) : trim padded = trim cs := h.trimStart.trimEnd_eq

theorem of_trimEnd (cs : List Char) : Padded (trimEnd cs) cs := by
  refine ⟨(cs.reverse.takeWhile isBlank).reverse, ?_, fun c hc => ?_⟩
  · rw [trimEnd, ← List.reverse_append, List.takeWhile_append_dropWhile, List.reverse_reverse]
  · have hall : (cs.reverse.takeWhile isBlank).all isBlank = true := List.all_takeWhile
    exact List.all_eq_true.mp hall c (List.mem_reverse.mp hc)

end Padded

theorem getLast?_trimEnd (cs : List Char) : ∀ c ∈ (trimEnd cs).getLast?, isBlank c = false := by
  intro c hc
  rw [trimEnd, List.getLast?_reverse] at hc
  have hhead := List.head?_dropWhile_not isBlank cs.reverse
  rw [hc] at hhead
  simpa using hhead

theorem exists_trim (cs : List Char) :
    ∃ before after, cs = before ++ trim cs ++ after ∧ (∀ c ∈ before, isBlank c = true) ∧
      ∀ c ∈ after, isBlank c = true := by
  obtain ⟨after, hafter, hblanks⟩ := Padded.of_trimEnd (trimStart cs)
  refine ⟨cs.takeWhile isBlank, after, ?_, fun c hc => ?_, hblanks⟩
  · rw [trim, List.append_assoc, ← hafter, trimStart, List.takeWhile_append_dropWhile]
  · have hall : (cs.takeWhile isBlank).all isBlank = true := List.all_takeWhile
    exact List.all_eq_true.mp hall c hc

end Pastiche.Text
