/-! Texts that are cut at a character or joined by one. -/

namespace Pastiche.Text

theorem not_mem_of_mem_splitOn {a : Char} {cs part : List Char} (h : part ∈ cs.splitOn a) :
    a ∉ part := by
  induction cs generalizing part with
  | nil =>
    rw [List.splitOn_nil, List.mem_singleton] at h
    simp [h]
  | cons c rest ih =>
    rw [List.splitOn_cons_eq_if_modifyHead] at h
    split at h
    · rcases List.mem_cons.mp h with rfl | hrest
      · simp
      · exact ih hrest
    · rename_i hne
      cases hparts : rest.splitOn a with
      | nil => exact absurd hparts (List.splitOn_ne_nil a rest)
      | cons first others =>
        rw [hparts, List.modifyHead_cons] at h
        rcases List.mem_cons.mp h with rfl | hothers
        · have hfirst : a ∉ first := ih (hparts ▸ List.mem_cons_self)
          have hhead : a ≠ c := fun heq => hne (by simp [heq])
          simp [hhead, hfirst]
        · exact ih (hparts ▸ List.mem_cons_of_mem _ hothers)

theorem mem_intercalate {c d : Char} {parts : List (List Char)}
    (h : d ∈ [c].intercalate parts) : d = c ∨ ∃ part ∈ parts, d ∈ part := by
  induction parts with
  | nil => simp at h
  | cons part parts ih =>
    by_cases hparts : parts = []
    · subst hparts
      exact .inr ⟨part, by simp, by simpa using h⟩
    · rw [List.intercalate_cons_of_ne_nil hparts, List.mem_append, List.mem_append,
        List.mem_singleton] at h
      rcases h with (hpart | hc) | hrest
      · exact .inr ⟨part, by simp, hpart⟩
      · exact .inl hc
      · rcases ih hrest with hc | ⟨other, hother, hmem⟩
        · exact .inl hc
        · exact .inr ⟨other, by simp [hother], hmem⟩

theorem mem_intercalate_of_mem {c d : Char} {part : List Char} {parts : List (List Char)}
    (hpart : part ∈ parts) (hd : d ∈ part) : d ∈ [c].intercalate parts := by
  induction parts with
  | nil => cases hpart
  | cons first parts ih =>
    by_cases hparts : parts = []
    · subst hparts
      have hfirst : part = first := by simpa using hpart
      simpa [hfirst] using hd
    · rw [List.intercalate_cons_of_ne_nil hparts]
      rcases List.mem_cons.mp hpart with rfl | hrest
      · exact List.mem_append_left _ (List.mem_append_left _ hd)
      · exact List.mem_append_right _ (ih hrest)

theorem mem_of_mem_splitOn {a c : Char} {cs part : List Char} (hpart : part ∈ cs.splitOn a)
    (hc : c ∈ part) : c ∈ cs := by
  have hjoined : c ∈ [a].intercalate (cs.splitOn a) := mem_intercalate_of_mem hpart hc
  rwa [List.intercalate_splitOn] at hjoined

end Pastiche.Text
