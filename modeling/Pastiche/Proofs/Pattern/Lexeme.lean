import Pastiche.Proofs.Except
import Pastiche.Proofs.Pattern.Grammar

/-! The symbols of a text, and the smallest parts of a pattern: escapes and members of classes. -/

namespace Pastiche.Pattern

open Grammar

def Symbol.text : Symbol → List Char
  | .plain c => [c]
  | .escaped c => ['\\', c]
  | .dangling => ['\\']

def spell : List Symbol → List Char
  | [] => []
  | symbol :: rest => symbol.text ++ spell rest

@[simp] theorem spell_append (input rest : List Symbol) :
    spell (input ++ rest) = spell input ++ spell rest := by
  induction input with
  | nil => rfl
  | cons symbol input ih => simp [spell, ih]

@[simp] theorem symbols_backslash (c : Char) (rest : List Char) :
    symbols ('\\' :: c :: rest) = .escaped c :: symbols rest := rfl

theorem symbols_cons {c : Char} (h : c ≠ '\\') (rest : List Char) :
    symbols (c :: rest) = .plain c :: symbols rest := by
  simp [symbols, h]

theorem symbols_append {cs : List Char} (h : ∀ c ∈ cs, c ≠ '\\') (rest : List Char) :
    symbols (cs ++ rest) = cs.map .plain ++ symbols rest := by
  induction cs with
  | nil => rfl
  | cons c cs ih =>
    rw [List.cons_append, symbols_cons (h c (by simp)), ih fun d hd => h d (by simp [hd])]
    rfl

theorem spell_symbols (cs : List Char) : spell (symbols cs) = cs := by
  fun_induction symbols cs with
  | case1 => rfl
  | case2 => rfl
  | case3 c rest ih => simp [spell, Symbol.text, ih]
  | case4 c rest _ _ ih => simp [spell, Symbol.text, ih]

theorem plain_backslash_not_mem_symbols (cs : List Char) : .plain '\\' ∉ symbols cs := by
  fun_induction symbols cs with
  | case1 => simp
  | case2 => simp
  | case3 c rest ih => simp [ih]
  | case4 c rest hdangling hescaped ih =>
    have hc : c ≠ '\\' := by
      rintro rfl
      cases rest with
      | nil => exact hdangling rfl rfl
      | cons d rest => exact hescaped d rest rfl rfl
    simp [ih, Ne.symm hc]

theorem Symbol.eq_plain {symbol : Symbol} {c : Char} {cs rest : List Char} (hc : c ≠ '\\')
    (h : symbol.text ++ rest = c :: cs) : symbol = .plain c ∧ rest = cs := by
  cases symbol with
  | plain d => simpa [Symbol.text] using h
  | escaped d => exact absurd (List.cons.inj h).1.symm hc
  | dangling => exact absurd (List.cons.inj h).1.symm hc

theorem spell_eq_cons {input : List Symbol} {c : Char} {cs : List Char} (hc : c ≠ '\\')
    (h : spell input = c :: cs) : ∃ rest, input = .plain c :: rest ∧ spell rest = cs := by
  cases input with
  | nil => simp [spell] at h
  | cons symbol rest =>
    obtain ⟨rfl, hrest⟩ := Symbol.eq_plain hc h
    exact ⟨rest, rfl, hrest⟩

theorem escape_eq_ok_iff {c : Char} {e : Escape} : escape c = .ok e ↔ Escaped c e := by
  constructor
  · intro h
    unfold escape at h
    split at h
    case h_9 =>
      split at h
      · simp at h
      · rename_i halnum
        obtain rfl := Except.ok.inj h
        exact .other (by simpa using halnum)
    all_goals
      obtain rfl := Except.ok.inj h
      constructor
  · intro h
    cases h with
    | other halnum =>
      unfold escape
      split <;> simp_all
    | _ => rfl

theorem member_eq_ok_iff {symbol : Symbol} {e : Escape} (h : symbol ≠ .plain '\\') :
    symbol.member = .ok e ↔ Member symbol.text e := by
  cases symbol with
  | plain c =>
    constructor
    · intro he
      obtain rfl := Except.ok.inj he
      exact .plain fun hc => h (by rw [hc])
    · intro he
      cases he
      rfl
  | escaped c =>
    constructor
    · intro he
      exact .escaped (escape_eq_ok_iff.mp he)
    · intro he
      cases he with
      | escaped he => exact escape_eq_ok_iff.mpr he
  | dangling =>
    constructor
    · intro he
      simp [Symbol.member] at he
    · intro he
      cases he with
      | plain hc => exact absurd rfl hc

theorem Grammar.Member.exists_symbol {part : List Char} {e : Escape} (h : Member part e) :
    ∃ symbol : Symbol, symbol.text = part ∧ symbol.member = .ok e ∧
      ∀ rest, symbols (part ++ rest) = symbol :: symbols rest := by
  cases h with
  | @plain c hc => exact ⟨.plain c, rfl, rfl, fun rest => symbols_cons hc rest⟩
  | @escaped c e he =>
    exact ⟨.escaped c, rfl, escape_eq_ok_iff.mpr he, fun rest => symbols_backslash c rest⟩

end Pastiche.Pattern
