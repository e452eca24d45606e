import Pastiche.Proofs.Pattern.Lexeme

/-! Reading a quantifier: it takes a text that the grammar derives, whatever stands behind it. -/

namespace Pastiche.Pattern

open Grammar

theorem spell_map_plain (cs : List Char) : spell (cs.map .plain) = cs := by
  induction cs with
  | nil => rfl
  | cons c cs ih => simp [spell, Symbol.text, ih]

theorem Symbol.exists_digit {symbol : Symbol} (h : symbol.isDigit = true) :
    ∃ c : Char, symbol = .plain c ∧ c.isDigit = true := by
  cases symbol with
  | plain c => exact ⟨c, rfl, h⟩
  | escaped c => simp [Symbol.isDigit] at h
  | dangling => simp [Symbol.isDigit] at h

theorem exists_digits {input : List Symbol} (h : ∀ symbol ∈ input, symbol.isDigit = true) :
    ∃ cs : List Char, input = cs.map .plain ∧ ∀ c ∈ cs, c.isDigit = true := by
  induction input with
  | nil => exact ⟨[], rfl, by simp⟩
  | cons symbol input ih =>
    obtain ⟨c, rfl, hc⟩ := Symbol.exists_digit (h symbol (by simp))
    obtain ⟨cs, rfl, hcs⟩ := ih fun s hs => h s (by simp [hs])
    exact ⟨c :: cs, rfl, by simpa [hc] using hcs⟩

theorem foldl_digitValue (cs : List Char) :
    (cs.map Symbol.plain).foldl (fun n s => n * 10 + s.digitValue) 0 = Decimal.ofDigits cs := by
  rw [List.foldl_map]
  rfl

theorem ne_backslash_of_isDigit {c : Char} (h : c.isDigit = true) : c ≠ '\\' := by
  rintro rfl
  simp at h

theorem number_sound {input rest : List Symbol} {n : Nat}
    (h : number input = .ok (some n, rest)) :
    ∃ used, input = used ++ rest ∧ Number (spell used) n := by
  have htaken : ∀ symbol ∈ input.takeWhile Symbol.isDigit, symbol.isDigit = true :=
    List.all_eq_true.mp List.all_takeWhile
  obtain ⟨cs, hcs, hdigits⟩ := exists_digits htaken
  simp only [number, hcs, foldl_digitValue] at h
  split at h
  · simp at h
  · rename_i hempty
    split at h
    · simp at h
    · simp only [Except.ok.injEq, Prod.mk.injEq, Option.some.injEq] at h
      obtain ⟨rfl, rfl⟩ := h
      refine ⟨cs.map .plain, ?_, ?_⟩
      · rw [← hcs, List.takeWhile_append_dropWhile]
      · rw [spell_map_plain]
        exact ⟨by simpa using hempty, hdigits, rfl⟩

theorem number_none {input rest : List Symbol} (h : number input = .ok (none, rest)) :
    rest = input := by
  simp only [number] at h
  split at h
  · exact (Prod.mk.inj (Except.ok.inj h)).2.symm
  · split at h <;> simp at h

theorem number_complete {cs : List Char} {n : Nat} (h : Number cs n) (hn : n ≤ countMax) {c : Char}
    (hc : c.isDigit = false) (hc' : c ≠ '\\') (rest : List Char) :
    number (symbols (cs ++ c :: rest)) = .ok (some n, .plain c :: symbols rest) := by
  obtain ⟨hempty, hdigits, rfl⟩ := h
  have hplain : ∀ s ∈ cs.map Symbol.plain, s.isDigit = true := by
    simpa [Symbol.isDigit] using hdigits
  have htake : (symbols (cs ++ c :: rest)).takeWhile Symbol.isDigit = cs.map .plain := by
    rw [symbols_append fun d hd => ne_backslash_of_isDigit (hdigits d hd), symbols_cons hc',
      List.takeWhile_append_of_pos hplain]
    simp [Symbol.isDigit, hc]
  have hdrop : (symbols (cs ++ c :: rest)).dropWhile Symbol.isDigit = .plain c :: symbols rest := by
    rw [symbols_append fun d hd => ne_backslash_of_isDigit (hdigits d hd), symbols_cons hc',
      List.dropWhile_append_of_pos hplain]
    simp [Symbol.isDigit, hc]
  simp only [number, htake, hdrop, foldl_digitValue]
  simp [hempty, Nat.not_lt.mpr hn]

theorem number_of_not_digit {c : Char} (hc : c.isDigit = false) (input : List Symbol) :
    number (.plain c :: input) = .ok (none, .plain c :: input) := by
  simp [number, Symbol.isDigit, hc]

theorem skipLazy_sound (input : List Symbol) :
    ∃ mark, input = mark ++ skipLazy input ∧ Lazy (spell mark) := by
  unfold skipLazy
  split
  · exact ⟨[.plain '?'], rfl, .present⟩
  · exact ⟨[], rfl, .absent⟩

theorem upperBound_sound {maxRepeat least most : Nat} {input rest : List Symbol}
    (h : upperBound maxRepeat least input = .ok (most, rest)) :
    (rest = input ∧ most = least) ∨
    (input = .plain ',' :: rest ∧ most = min (least + maxRepeat) countMax) ∨
    ∃ used, input = .plain ',' :: (used ++ rest) ∧ Number (spell used) most := by
  unfold upperBound at h
  split at h
  · obtain ⟨⟨found, beyond⟩, hfound, hmost⟩ := bind_eq_ok h
    obtain ⟨rfl, rfl⟩ := Prod.mk.inj (Except.ok.inj hmost)
    cases found with
    | none =>
      obtain rfl := number_none hfound
      exact .inr (.inl ⟨rfl, rfl⟩)
    | some most =>
      obtain ⟨used, rfl, hused⟩ := number_sound hfound
      exact .inr (.inr ⟨used, rfl, hused⟩)
  · obtain ⟨rfl, rfl⟩ := Prod.mk.inj (Except.ok.inj h)
    exact .inl ⟨rfl, rfl⟩

theorem repetition_sound {maxRepeat least most : Nat} {input rest : List Symbol}
    (h : repetition maxRepeat input = .ok ((least, most), rest)) :
    ∃ used, input = used ++ rest ∧ Quantifier maxRepeat ('\x7b' :: spell used) least most := by
  unfold repetition at h
  obtain ⟨⟨found, beyond⟩, hfound, hrest⟩ := bind_eq_ok h
  cases found with
  | none => simp at hrest
  | some n =>
    obtain ⟨digits, rfl, hdigits⟩ := number_sound hfound
    obtain ⟨⟨top, closing⟩, htop, hclosing⟩ := bind_eq_ok hrest
    simp only at hclosing
    split at hclosing
    · rename_i behind
      split at hclosing
      · simp at hclosing
      · rename_i hle
        split at hclosing
        · simp at hclosing
        · rename_i hbound
          simp only [Except.ok.injEq, Prod.mk.injEq] at hclosing
          obtain ⟨⟨rfl, rfl⟩, rfl⟩ := hclosing
          obtain ⟨mark, hmark, hlazy⟩ := skipLazy_sound behind
          have hleast : n ≤ maxBound := by omega
          rcases upperBound_sound htop with ⟨rfl, rfl⟩ | ⟨rfl, rfl⟩ | ⟨others, rfl, hothers⟩
          · refine ⟨digits ++ .plain '\x7d' :: mark, by simp [← hmark], ?_⟩
            have hexactly : Quantifier maxRepeat _ _ _ := .exactly hdigits hleast hlazy
            simpa [spell, Symbol.text] using hexactly
          · refine ⟨digits ++ .plain ',' :: .plain '\x7d' :: mark, by simp [← hmark], ?_⟩
            have hatLeast : Quantifier maxRepeat _ _ _ := .atLeast hdigits hleast hlazy
            simpa [spell, Symbol.text] using hatLeast
          · refine ⟨digits ++ .plain ',' :: others ++ .plain '\x7d' :: mark, by simp [← hmark], ?_⟩
            simpa [spell, Symbol.text] using
              Quantifier.between hdigits hothers (by omega) hleast (by omega) hlazy
    · simp at hclosing

theorem quantifier_sound {maxRepeat least most : Nat} {input rest : List Symbol}
    (h : quantifier maxRepeat input = .ok ((least, most), rest)) :
    ∃ used, input = used ++ rest ∧ Quantifier maxRepeat (spell used) least most := by
  unfold quantifier at h
  split at h
  case h_4 behind =>
    obtain ⟨used, rfl, hused⟩ := repetition_sound h
    exact ⟨.plain '\x7b' :: used, rfl, hused⟩
  case h_5 =>
    simp only [Except.ok.injEq, Prod.mk.injEq] at h
    obtain ⟨⟨rfl, rfl⟩, rfl⟩ := h
    exact ⟨[], rfl, .once⟩
  all_goals
    rename_i behind
    simp only [Except.ok.injEq, Prod.mk.injEq] at h
    obtain ⟨⟨rfl, rfl⟩, rfl⟩ := h
    obtain ⟨mark, hmark, hlazy⟩ := skipLazy_sound behind
  · exact ⟨.plain '?' :: mark, by simp [← hmark], .optional hlazy⟩
  · exact ⟨.plain '*' :: mark, by simp [← hmark], .star hlazy⟩
  · exact ⟨.plain '+' :: mark, by simp [← hmark], .plus hlazy⟩

def Unquantified (cs : List Char) : Prop :=
  ∀ c rest, cs = c :: rest → c ∉ ['?', '*', '+', '\x7b']

theorem Unquantified.not_mem {rest : List Char} {c : Char} {behind : List Symbol}
    (h : Unquantified rest) (hsymbols : symbols rest = .plain c :: behind) :
    c ∉ ['?', '*', '+', '\x7b'] := by
  have hspell := spell_symbols rest
  rw [hsymbols] at hspell
  exact h c (spell behind) hspell.symm

theorem skipLazy_complete {mark rest : List Char} (h : Lazy mark) (hrest : Unquantified rest) :
    skipLazy (symbols (mark ++ rest)) = symbols rest := by
  cases h with
  | absent =>
    rw [List.nil_append]
    unfold skipLazy
    split
    · rename_i behind hsymbols
      exact absurd (by simp) (hrest.not_mem hsymbols)
    · rfl
  | present => rw [List.singleton_append, symbols_cons (by decide)]; rfl

theorem quantifier_of_unquantified {rest : List Char} (h : Unquantified rest) (maxRepeat : Nat) :
    quantifier maxRepeat (symbols rest) = .ok ((1, 1), symbols rest) := by
  unfold quantifier
  split
  case h_5 => rfl
  all_goals
    rename_i behind hsymbols
    exact absurd (by simp) (h.not_mem hsymbols)

theorem maxBound_le_countMax : maxBound ≤ countMax := by decide

theorem repetition_eq_ok {maxRepeat least most : Nat} {input beyond : List Symbol}
    {mark rest : List Char} (hnumber : number input = .ok (some least, beyond))
    (hupper : upperBound maxRepeat least beyond = .ok (most, symbols ('\x7d' :: (mark ++ rest))))
    (hle : least ≤ most) (hleast : least ≤ maxBound)
    (hmost : most ≤ min (maxBound + maxRepeat) countMax) (hmark : Lazy mark)
    (hrest : Unquantified rest) :
    repetition maxRepeat input = .ok ((least, most), symbols rest) := by
  have hbound : ¬ (most > min (maxBound + maxRepeat) countMax ∨ least > maxBound) := by omega
  rw [symbols_cons (by decide)] at hupper
  simp only [repetition, hnumber, ok_bind, hupper, if_neg (Nat.not_lt.mpr hle), if_neg hbound,
    skipLazy_complete hmark hrest]

theorem quantifier_complete {maxRepeat least most : Nat} {cs rest : List Char}
    (h : Quantifier maxRepeat cs least most) (hrest : Unquantified rest) :
    quantifier maxRepeat (symbols (cs ++ rest)) = .ok ((least, most), symbols rest) := by
  have hcount := maxBound_le_countMax
  cases h with
  | once => exact quantifier_of_unquantified hrest maxRepeat
  | optional hmark | star hmark | plus hmark =>
    rw [List.cons_append, symbols_cons (by decide)]
    simp only [quantifier, skipLazy_complete hmark hrest]
  | @exactly digits mark n hdigits hn hmark =>
    simp only [List.cons_append, List.append_assoc]
    rw [symbols_cons (by decide)]
    have hnumber := number_complete hdigits (by omega) (c := '\x7d') rfl (by decide) (mark ++ rest)
    exact repetition_eq_ok hnumber (by rw [symbols_cons (by decide)]; rfl) (by omega) hn (by omega)
      hmark hrest
  | @atLeast digits mark n hdigits hn hmark =>
    simp only [List.cons_append, List.append_assoc]
    rw [symbols_cons (by decide)]
    have hnumber := number_complete hdigits (by omega) (c := ',') rfl (by decide)
      ('\x7d' :: (mark ++ rest))
    refine repetition_eq_ok hnumber ?_ (by omega) hn (by omega) hmark hrest
    rw [symbols_cons (by decide)]
    simp only [upperBound, number_of_not_digit (c := '\x7d') rfl, ok_bind, Option.getD_none]
  | @between digits others mark least most hdigits hothers hle hleast hmost hmark =>
    simp only [List.cons_append, List.append_assoc]
    rw [symbols_cons (by decide)]
    have hnumber := number_complete hdigits (by omega) (c := ',') rfl (by decide)
      (others ++ '\x7d' :: (mark ++ rest))
    refine repetition_eq_ok hnumber ?_ hle hleast hmost hmark hrest
    rw [symbols_cons (by decide)]
    simp only [upperBound, number_complete hothers (by omega) (c := '\x7d') rfl (by decide),
      ok_bind, Option.getD_some]

end Pastiche.Pattern
