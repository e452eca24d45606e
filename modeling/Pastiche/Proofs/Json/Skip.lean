import Pastiche.Proofs.Json.Members

/-!
Values that are passed over. A reader of one kind takes off a text just what is passed over where
the value is not wanted, so the parts of a document are the same for both.
-/

namespace Pastiche.Json

open Scan

namespace Scan

theorem skipString_of_stringBody {cs content rest : List Char}
    (h : stringBody cs = .ok (content, rest)) : skipString cs = .ok rest := by
  have exists_more {c : Char} {outcome : Except Flaw (List Char × List Char)}
      {content rest : List Char} (h : push c outcome = .ok (content, rest)) :
      ∃ more, outcome = .ok (more, rest) := by
    cases outcome with
    | error flaw => cases h
    | ok found =>
      cases h
      exact ⟨found.1, rfl⟩
  fun_induction stringBody cs generalizing content
  case case2 =>
    cases h
    rfl
  case case9 unit hunit _ _ _ _ _ _ _ second hsecond _ ih =>
    obtain ⟨more, hmore⟩ := exists_more h
    rw [skipString, hunit]
    dsimp only
    rw [skipString, hsecond]
    exact ih hmore
  case case13 unit hunit _ _ ih =>
    obtain ⟨more, hmore⟩ := exists_more h
    rw [skipString, hunit]
    exact ih hmore
  case case15 e _ _ hname c hc ih =>
    obtain ⟨more, hmore⟩ := exists_more h
    rw [skipString, hc]
    · exact ih hmore
    all_goals assumption
  case case18 hcontrol ih =>
    obtain ⟨more, hmore⟩ := exists_more h
    rw [skipString, if_neg hcontrol]
    · exact ih hmore
    all_goals assumption
  all_goals cases h

variable {cs rest : List Char}

/-- Which flaw the end of the text is makes no difference to a number that is there. -/
theorem digitRun_of_ok {cut cut' : Flaw} {digits : List Char}
    (h : digitRun cut cs = .ok (digits, rest)) : digitRun cut' cs = .ok (digits, rest) := by
  cases cs with
  | nil => cases h
  | cons c cs => exact h

theorem wholePart_of_ok {cut cut' : Flaw} {digits : List Char}
    (h : wholePart cut cs = .ok (digits, rest)) : wholePart cut' cs = .ok (digits, rest) := by
  obtain ⟨found, hfound, h⟩ := bind_eq_ok h
  rw [wholePart, digitRun_of_ok hfound]
  exact h

theorem fractionPart_of_ok {cut cut' : Flaw} {fraction : Option (List Char)}
    (h : fractionPart cut cs = .ok (fraction, rest)) :
    fractionPart cut' cs = .ok (fraction, rest) := by
  unfold fractionPart at h ⊢
  split at h
  · obtain ⟨found, hfound, h⟩ := bind_eq_ok h
    dsimp only
    rw [digitRun_of_ok hfound]
    exact h
  · exact h

theorem exponentPart_of_ok {cut cut' : Flaw} {exponent : Option (Bool × List Char)}
    (h : exponentPart cut cs = .ok (exponent, rest)) :
    exponentPart cut' cs = .ok (exponent, rest) := by
  unfold exponentPart at h ⊢
  split at h
  · split at h
    · rename_i hmark
      obtain ⟨found, hfound, h⟩ := bind_eq_ok h
      dsimp only
      rw [if_pos hmark, digitRun_of_ok hfound]
      exact h
    · rename_i hmark
      dsimp only
      rw [if_neg hmark]
      exact h
  · exact h

theorem numeral_of_ok {cut cut' : Flaw} {parts : Numeral}
    (h : numeral cut cs = .ok (parts, rest)) : numeral cut' cs = .ok (parts, rest) := by
  obtain ⟨⟨whole, afterWhole⟩, hwhole, h⟩ := bind_eq_ok h
  obtain ⟨⟨fraction, afterFraction⟩, hfraction, h⟩ := bind_eq_ok h
  obtain ⟨⟨exponent, afterExponent⟩, hexponent, h⟩ := bind_eq_ok h
  unfold numeral
  dsimp only at *
  rw [wholePart_of_ok hwhole, ok_bind]
  dsimp only
  rw [fractionPart_of_ok hfraction, ok_bind]
  dsimp only
  rw [exponentPart_of_ok hexponent]
  exact h

theorem exists_numeral_of_number {value : Number} (h : number cs = .ok (value, rest)) :
    ∃ parts, numeral .truncated cs = .ok (parts, rest) := by
  obtain ⟨⟨parts, after⟩, hparts, h⟩ := bind_eq_ok h
  dsimp only at h
  split at h
  · cases h
    exact ⟨parts, hparts⟩
  · cases h

end Scan

namespace Reader

/-- A value of any kind at the front of a text, unread. -/
def Skips (cs : List Char) (_ : Unit) (rest : List Char) : Prop := skip (budget cs) cs = .ok rest

theorem skips_functional : Functional Skips :=
  fun _ _ _ _ _ h h' => ⟨rfl, Except.ok.inj (h.symm.trans h')⟩

variable {cs rest : List Char}

theorem skips_of_text {content : String} (h : text cs = .ok (content, rest)) :
    Skips cs () rest := by
  unfold text at h
  split at h
  · rename_i body hopen
    obtain ⟨found, hfound, h⟩ := bind_eq_ok h
    cases h
    have hskip := skipString_of_stringBody hfound
    rw [Skips, budget, skip, hopen]
    exact hskip
  · cases h

theorem skip_number {body : List Char} {c : Char} (hopen : skipSpace cs = c :: body)
    (hstarts : startsNumber c = true) (budget : Nat) :
    skip (budget + 1) cs = (do
      let (_, rest) ← numeral .malformed (c :: body)
      .ok rest) := by
  rw [skip, hopen]
  split
  any_goals (rename_i heq; cases heq <;> cases hstarts)
  rename_i heq
  cases heq
  exact if_pos hstarts

theorem skips_of_naturalUpTo {limit n : Nat} (h : naturalUpTo limit cs = .ok (n, rest)) :
    Skips cs () rest := by
  unfold naturalUpTo at h
  split at h
  · rename_i c body hopen
    split at h
    · rename_i hstarts
      obtain ⟨found, hnumber, h⟩ := bind_eq_ok h
      split at h
      · split at h
        · cases h
          obtain ⟨parts, hparts⟩ := exists_numeral_of_number hnumber
          rw [Skips, budget, skip_number hopen hstarts, numeral_of_ok hparts]
          rfl
        · cases h
      · cases h
    · cases h
  · cases h

theorem skips_of_nullable {α : Type} {reader : List Char → Except Flaw (α × List Char)}
    (hreader : ∀ {cs rest : List Char} {a : α}, reader cs = .ok (a, rest) → Skips cs () rest)
    {given : Option α} (h : nullable reader cs = .ok (given, rest)) : Skips cs () rest := by
  unfold nullable at h
  split at h
  · rename_i body hopen
    obtain ⟨after, hafter, h⟩ := bind_eq_ok h
    cases h
    rw [Skips, budget, skip, hopen]
    exact hafter
  · obtain ⟨⟨value, after⟩, hvalue, h⟩ := bind_eq_ok h
    cases h
    exact hreader hvalue

end Reader

end Pastiche.Json
