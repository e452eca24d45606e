import Pastiche.Locale

/-! The chain of a locale: the locale, its language alone and English, each of them once. -/

namespace Pastiche.Locale

variable {l : Locale}

theorem isDefault_iff : l.isDefault = true ↔ l = en := by
  have hen : en = ⟨"en", none⟩ := by decide +kernel
  obtain ⟨language, country⟩ := l
  rw [hen, isDefault, Bool.and_eq_true, beq_iff_eq, Option.isNone_iff_eq_none, Locale.mk.injEq]

theorem withoutCountry_eq_self (h : l.country = none) : l.withoutCountry = l := by
  rw [withoutCountry, ← h]

section Country

variable {country : String} (h : l.country = some country)
include h

theorem withoutCountry_ne_self : l.withoutCountry ≠ l := by
  intro hself
  have hnone : l.country = none := by rw [← hself, withoutCountry]
  rw [h] at hnone
  cases hnone

theorem ne_en_of_country : l ≠ en := by
  rintro rfl
  cases h

theorem chain_of_country :
    l.chain = l :: if l.withoutCountry = en then [en] else [l.withoutCountry, en] := by
  by_cases hen : l.withoutCountry = en
  · rw [chain, h, if_pos (isDefault_iff.mpr hen), if_pos hen, hen]
  · rw [chain, h, if_neg fun hdefault => hen (isDefault_iff.mp hdefault), if_neg hen]
    rfl

end Country

theorem chain_of_language (h : l.country = none) : l.chain = if l = en then [en] else [l, en] := by
  rw [chain, h, withoutCountry_eq_self h]
  by_cases hen : l = en
  · rw [if_pos (isDefault_iff.mpr hen), if_pos hen, hen]
  · rw [if_neg fun hdefault => hen (isDefault_iff.mp hdefault), if_neg hen]
    rfl

theorem chain_eq_eraseDups (l : Locale) : l.chain = [l, l.withoutCountry, en].eraseDups := by
  cases h : l.country with
  | none =>
    rw [chain_of_language h, withoutCountry_eq_self h]
    by_cases hen : l = en
    · simp [List.eraseDups_cons, hen]
    · simp [List.eraseDups_cons, hen, Ne.symm hen]
  | some country =>
    have hself := ne_en_of_country h
    have hlanguage := withoutCountry_ne_self h
    rw [chain_of_country h]
    by_cases hen : l.withoutCountry = en
    · simp [List.eraseDups_cons, hen, hself.symm]
    · simp [List.eraseDups_cons, hen, hlanguage, hself.symm, Ne.symm hen]

theorem exists_chain_eq_cons (l : Locale) : ∃ rest, l.chain = l :: rest := by
  cases h : l.country with
  | none =>
    rw [chain_of_language h]
    by_cases hen : l = en <;> simp [hen]
  | some country => exact ⟨_, chain_of_country h⟩

theorem exists_chain_eq_cons_cons (h : l.withoutCountry ≠ l) :
    ∃ rest, l.chain = l :: l.withoutCountry :: rest := by
  cases hcountry : l.country with
  | none => exact absurd (withoutCountry_eq_self hcountry) h
  | some country =>
    rw [chain_of_country hcountry]
    by_cases hen : l.withoutCountry = en <;> simp [hen]

theorem chain_nodup (l : Locale) : l.chain.Nodup := by
  cases h : l.country with
  | none =>
    rw [chain_of_language h]
    by_cases hen : l = en <;> simp [hen]
  | some country =>
    rw [chain_of_country h]
    by_cases hen : l.withoutCountry = en <;>
      simp [hen, ne_en_of_country h, (withoutCountry_ne_self h).symm]

theorem getLast?_chain (l : Locale) : l.chain.getLast? = some en := by
  cases h : l.country with
  | none =>
    rw [chain_of_language h]
    by_cases hen : l = en <;> simp [hen]
  | some country =>
    rw [chain_of_country h]
    by_cases hen : l.withoutCountry = en <;> simp [hen]

end Pastiche.Locale
