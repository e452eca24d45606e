import Pastiche.Json.Scan
import Pastiche.Json.Writer

/-!
Strings as they are written and read. Each class of characters is written in its own way: quotes,
backslashes and the controls with a name of their own by two characters, other controls by the
number of their code, all others as they are. The reader takes every one of them back, whatever
follows it.
-/

namespace Pastiche.Json

open Scan

/-- A number below 256 is what its two hexadecimal digits write. -/
theorem hexUnit?_of_lt {n : Nat} (h : n < 0x100) :
    hexUnit? '0' '0' (hexDigit (n / 16)) (hexDigit n) = some n := by
  have hall : ∀ m < 0x100, hexUnit? '0' '0' (hexDigit (m / 16)) (hexDigit m) = some m := by
    decide +kernel
  exact hall n h

theorem stringBody_code {c : Char} (h : c.toNat < 0x100) (rest : List Char) :
    stringBody ('\\' :: 'u' :: '0' :: '0' :: hexDigit (c.toNat / 16) :: hexDigit c.toNat :: rest) =
      push c (stringBody rest) := by
  have htrailing : isTrailing c.toNat = false := by
    simp only [isTrailing, Bool.and_eq_false_iff, decide_eq_false_iff_not]
    omega
  have hleading : isLeading c.toNat = false := by
    simp only [isLeading, Bool.and_eq_false_iff, decide_eq_false_iff_not]
    omega
  rw [stringBody, hexUnit?_of_lt h]
  simp [htrailing, hleading, Char.ofNat_toNat]

theorem stringBody_raw {c : Char} (hquote : c ≠ '"') (hslash : c ≠ '\\') (h : ¬ c.toNat < 0x20)
    (rest : List Char) : stringBody (c :: rest) = push c (stringBody rest) := by
  rw [stringBody, if_neg h]
  all_goals grind

theorem stringBody_escape (c : Char) (rest : List Char) :
    stringBody (escape c ++ rest) = push c (stringBody rest) := by
  unfold escape
  split
  any_goals rfl
  rename_i hquote hslash _ _ _ _ _
  by_cases hcontrol : c.toNat < 0x20
  · rw [if_pos hcontrol]
    exact stringBody_code (by omega) rest
  · rw [if_neg hcontrol]
    exact stringBody_raw hquote hslash hcontrol rest

theorem stringBody_escaped (cs rest : List Char) :
    stringBody (cs.flatMap escape ++ '"' :: rest) = .ok (cs, rest) := by
  induction cs with
  | nil => rfl
  | cons c cs ih =>
    rw [List.flatMap_cons, List.append_assoc, stringBody_escape, ih]
    rfl

theorem quote_append (cs rest : List Char) :
    quote cs ++ rest = '"' :: (cs.flatMap escape ++ '"' :: rest) := by
  simp [quote]

def isPrintable (c : Char) : Bool := 0x20 ≤ c.toNat

theorem code_printable {n : Nat} (h : n < 0x100) :
    ['\\', 'u', '0', '0', hexDigit (n / 16), hexDigit n].all isPrintable = true := by
  have hall : ∀ m < 0x100,
      ['\\', 'u', '0', '0', hexDigit (m / 16), hexDigit m].all isPrintable = true := by
    decide +kernel
  exact hall n h

theorem escape_printable (c : Char) : (escape c).all isPrintable = true := by
  unfold escape
  split
  any_goals rfl
  by_cases hcontrol : c.toNat < 0x20
  · rw [if_pos hcontrol]
    exact code_printable (by omega)
  · rw [if_neg hcontrol]
    simpa [isPrintable] using hcontrol

theorem quote_printable (cs : List Char) : (quote cs).all isPrintable = true := by
  have hbody : (cs.flatMap escape).all isPrintable = true := by
    simp [List.all_flatMap, escape_printable]
  rw [quote, List.all_append, List.all_cons, hbody]
  rfl

end Pastiche.Json
