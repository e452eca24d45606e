import Mathlib.Data.List.Basic

/-!
The case of letters. Only the letters of ASCII have one here, so its laws are read off the first
128 characters; all others stay as they are.
-/

namespace Pastiche.Text

/-- What holds of the first 128 characters holds of all ASCII characters. -/
theorem of_ascii {P : Char → Prop} (h : ∀ n < 0x80, P (Char.ofNat n)) {c : Char}
    (hc : c.toNat < 0x80) : P c := by
  have hnumber := h c.toNat hc
  rwa [Char.ofNat_toNat] at hnumber

theorem isUpper_iff {c : Char} : c.isUpper = true ↔ 65 ≤ c.toNat ∧ c.toNat ≤ 90 :=
  decide_eq_true_iff

theorem isLower_iff {c : Char} : c.isLower = true ↔ 97 ≤ c.toNat ∧ c.toNat ≤ 122 :=
  (Bool.and_eq_true_iff).trans (and_congr decide_eq_true_iff decide_eq_true_iff)

structure Caseless (c : Char) : Prop where
  isUpper : c.isUpper = false
  isLower : c.isLower = false
  toUpper : c.toUpper = c
  toLower : c.toLower = c

theorem caseless_above {c : Char} (hc : 0x80 ≤ c.toNat) : Caseless c := by
  have hupper : ¬ (65 ≤ c.toNat ∧ c.toNat ≤ 90) := by omega
  have hlower : ¬ (97 ≤ c.toNat ∧ c.toNat ≤ 122) := by omega
  exact ⟨Bool.eq_false_iff.mpr (isUpper_iff.not.mpr hupper),
    Bool.eq_false_iff.mpr (isLower_iff.not.mpr hlower), dif_neg hlower, dif_neg hupper⟩

theorem of_table {P : Char → Prop} (hascii : ∀ n < 0x80, P (Char.ofNat n))
    (hothers : ∀ c, Caseless c → P c) (c : Char) : P c := by
  rcases Nat.lt_or_ge c.toNat 0x80 with hc | hc
  · exact of_ascii hascii hc
  · exact hothers c (caseless_above hc)

@[simp] theorem isUpper_toLower (c : Char) : c.toLower.isUpper = false :=
  of_table (P := fun c => c.toLower.isUpper = false) (by decide +kernel)
    (fun c h => by rw [h.toLower, h.isUpper]) c

@[simp] theorem isLower_toUpper (c : Char) : c.toUpper.isLower = false :=
  of_table (P := fun c => c.toUpper.isLower = false) (by decide +kernel)
    (fun c h => by rw [h.toUpper, h.isLower]) c

@[simp] theorem isAlpha_toLower (c : Char) : c.toLower.isAlpha = c.isAlpha :=
  of_table (P := fun c => c.toLower.isAlpha = c.isAlpha) (by decide +kernel)
    (fun c h => by rw [h.toLower]) c

@[simp] theorem isAlpha_toUpper (c : Char) : c.toUpper.isAlpha = c.isAlpha :=
  of_table (P := fun c => c.toUpper.isAlpha = c.isAlpha) (by decide +kernel)
    (fun c h => by rw [h.toUpper]) c

@[simp] theorem toLower_toLower (c : Char) : c.toLower.toLower = c.toLower :=
  of_table (P := fun c => c.toLower.toLower = c.toLower) (by decide +kernel)
    (fun c h => by rw [h.toLower, h.toLower]) c

@[simp] theorem toUpper_toLower (c : Char) : c.toLower.toUpper = c.toUpper :=
  of_table (P := fun c => c.toLower.toUpper = c.toUpper) (by decide +kernel)
    (fun c h => by rw [h.toLower]) c

@[simp] theorem toLower_toUpper (c : Char) : c.toUpper.toLower = c.toLower :=
  of_table (P := fun c => c.toUpper.toLower = c.toLower) (by decide +kernel)
    (fun c h => by rw [h.toUpper]) c

end Pastiche.Text
