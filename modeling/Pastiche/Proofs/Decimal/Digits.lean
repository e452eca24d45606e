import Pastiche.Json.Scan
import Pastiche.Proofs.Except

/-!
Whole numbers in decimal digits. Every number is read back from its digits, by the reader of a whole
text and by the reader of numbers in JSON, over the full range that the reader has.
-/

namespace Pastiche

namespace Decimal

theorem ofDigits_toDigits (n : Nat) : ofDigits (Nat.toDigits 10 n) = n := by
  have hvalue : Nat.ofDigitChars 10 (Nat.toDigits 10 n) 0 = n := Nat.ofDigitChars_ten_toDigits
  rw [Nat.ofDigitChars_eq_foldl] at hvalue
  simpa only [ofDigits, Nat.mul_comm] using hvalue

theorem isDigit_of_mem_toDigits {n : Nat} {c : Char} (h : c ∈ Nat.toDigits 10 n) :
    c.isDigit = true := Nat.isDigit_of_mem_toDigits (by decide) (by decide) h

theorem exists_toDigits_eq_cons (n : Nat) :
    ∃ c rest, Nat.toDigits 10 n = c :: rest ∧ c.isDigit = true := by
  cases hdigits : Nat.toDigits 10 n with
  | nil => exact absurd hdigits Nat.toDigits_ne_nil
  | cons c rest => exact ⟨c, rest, rfl, isDigit_of_mem_toDigits (hdigits ▸ List.mem_cons_self)⟩

theorem eq_zero_of_toDigits {n : Nat} {rest : List Char} (h : Nat.toDigits 10 n = '0' :: rest) :
    n = 0 := by
  induction n using Nat.strongRecOn generalizing rest with
  | ind n ih =>
    rw [Nat.toDigits_eq_if (by decide)] at h
    by_cases hsmall : n < 10
    · rw [if_pos hsmall] at h
      exact Nat.digitChar_eq_zero.mp (List.head_eq_of_cons_eq h)
    · obtain ⟨c, more, hmore, -⟩ := exists_toDigits_eq_cons (n / 10)
      rw [if_neg hsmall, hmore, List.cons_append] at h
      obtain rfl : c = '0' := List.head_eq_of_cons_eq h
      have hzero := ih (n / 10) (by omega) hmore
      omega

theorem toDigits_ne_zero_cons (n : Nat) (c : Char) (rest : List Char) :
    Nat.toDigits 10 n ≠ '0' :: c :: rest := by
  intro h
  obtain rfl := eq_zero_of_toDigits h
  cases h

theorem ne_sign_of_isDigit {c : Char} (h : c.isDigit = true) : c ≠ '+' ∧ c ≠ '-' := by
  constructor
  · rintro rfl
    cases h
  · rintro rfl
    cases h

theorem readInteger_toDigits {n limit : Nat} (h : n ≤ limit) :
    readInteger 0 limit (Nat.toDigits 10 n) = some (n : Int) := by
  have hall : (Nat.toDigits 10 n).all Char.isDigit = true :=
    List.all_eq_true.mpr fun c => isDigit_of_mem_toDigits
  obtain ⟨c, rest, hdigits, hc⟩ := exists_toDigits_eq_cons n
  obtain ⟨hplus, hminus⟩ := ne_sign_of_isDigit hc
  have hsigned : signed false (Nat.toDigits 10 n) = (false, Nat.toDigits 10 n) := by
    rw [hdigits]
    simp [signed, hplus, hminus]
  simp [readInteger, hsigned, hall, ofDigits_toDigits, h, Nat.toDigits_ne_nil]

theorem le_of_readInteger {least most value : Int} {cs : List Char}
    (h : readInteger least most cs = some value) : least ≤ value ∧ value ≤ most := by
  simp only [readInteger, Option.ite_none_left_eq_some, Option.ite_none_right_eq_some,
    Option.some.injEq] at h
  obtain ⟨-, hrange, rfl⟩ := h
  exact hrange

end Decimal

namespace Json

open Decimal

namespace Numeral

/-- A significand with further digits behind it. -/
def continued (significand : Nat) (cs : List Char) : Nat :=
  cs.foldl (fun n c => n * 10 + (c.toNat - '0'.toNat)) significand

theorem le_continued (significand : Nat) (cs : List Char) :
    significand ≤ continued significand cs := by
  induction cs generalizing significand with
  | nil => exact Nat.le_refl _
  | cons c cs ih =>
    have hlonger := ih (significand * 10 + (c.toNat - '0'.toNat))
    change significand ≤ continued (significand * 10 + (c.toNat - '0'.toNat)) cs
    omega

theorem appendDigits_of_lt {significand : Nat} {cs : List Char}
    (h : continued significand cs < Word.count 64) :
    appendDigits significand cs = (continued significand cs, 0) := by
  induction cs generalizing significand with
  | nil => rfl
  | cons c cs ih =>
    have hdigit : ofDigits [c] = c.toNat - '0'.toNat := by simp [ofDigits]
    have hlonger := le_continued (significand * 10 + (c.toNat - '0'.toNat)) cs
    have hcontinued : continued significand (c :: cs) =
        continued (significand * 10 + (c.toNat - '0'.toNat)) cs := rfl
    rw [hcontinued] at h ⊢
    rw [appendDigits, hdigit]
    exact (if_pos (Nat.lt_of_le_of_lt hlonger h)).trans (ih h)

theorem toNumber?_toDigits {n : Nat} (h : n < Word.count 64) :
    toNumber? ⟨false, Nat.toDigits 10 n, none, none⟩ = some (.natural n) := by
  have hvalue : continued 0 (Nat.toDigits 10 n) = n := ofDigits_toDigits n
  rw [← hvalue] at h
  rw [toNumber?, appendDigits_of_lt h, hvalue]
  simp

end Numeral

namespace Scan

/-- No digit, point or exponent goes on with the number. -/
def EndsNumber (rest : List Char) : Prop :=
  ∀ c ∈ rest.head?, c.isDigit = false ∧ c ≠ '.' ∧ c ≠ 'e' ∧ c ≠ 'E'

variable {rest : List Char}

theorem digitRun_toDigits (cut : Flaw) (n : Nat) (hrest : EndsNumber rest) :
    digitRun cut (Nat.toDigits 10 n ++ rest) = .ok (Nat.toDigits 10 n, rest) := by
  have hall : ∀ c ∈ Nat.toDigits 10 n, c.isDigit = true := fun c => isDigit_of_mem_toDigits
  have hstop : rest.takeWhile Char.isDigit = [] ∧ rest.dropWhile Char.isDigit = rest := by
    cases rest with
    | nil => exact ⟨rfl, rfl⟩
    | cons c rest => simp [(hrest c rfl).1]
  obtain ⟨c, more, hdigits, hc⟩ := exists_toDigits_eq_cons n
  have hrun : digitRun cut (Nat.toDigits 10 n ++ rest) =
      .ok ((Nat.toDigits 10 n ++ rest).takeWhile Char.isDigit,
        (Nat.toDigits 10 n ++ rest).dropWhile Char.isDigit) := by
    rw [hdigits]
    exact if_pos hc
  rw [hrun, List.takeWhile_append_of_pos hall, List.dropWhile_append_of_pos hall, hstop.1, hstop.2,
    List.append_nil]

theorem wholePart_toDigits (cut : Flaw) (n : Nat) (hrest : EndsNumber rest) :
    wholePart cut (Nat.toDigits 10 n ++ rest) = .ok (Nat.toDigits 10 n, rest) := by
  rw [wholePart, digitRun_toDigits cut n hrest, ok_bind]
  dsimp only
  split
  · rename_i c more hdigits
    exact absurd hdigits (toDigits_ne_zero_cons n c more)
  · rfl

theorem number_toDigits {n : Nat} (h : n < Word.count 64) (hrest : EndsNumber rest) :
    number (Nat.toDigits 10 n ++ rest) = .ok (.natural n, rest) := by
  have hfraction : fractionPart .truncated rest = .ok (none, rest) := by
    cases rest with
    | nil => rfl
    | cons c rest => simp [fractionPart, (hrest c rfl).2.1]
  have hexponent : exponentPart .truncated rest = .ok (none, rest) := by
    cases rest with
    | nil => rfl
    | cons c rest => simp [exponentPart, (hrest c rfl).2.2]
  have hnumeral : numeral .truncated (Nat.toDigits 10 n ++ rest) =
      .ok (⟨false, Nat.toDigits 10 n, none, none⟩, rest) := by
    unfold numeral
    split
    rename_i negative cs hsign
    split at hsign
    · rename_i minus
      obtain ⟨c, more, hdigits, hc⟩ := exists_toDigits_eq_cons n
      rw [hdigits] at minus
      exact absurd (List.head_eq_of_cons_eq minus) (ne_sign_of_isDigit hc).2
    · cases hsign
      rw [wholePart_toDigits _ n hrest, ok_bind]
      simp [hfraction, hexponent]
  rw [number, hnumeral, ok_bind]
  simp [Numeral.toNumber?_toDigits h]

end Scan

end Json

end Pastiche
