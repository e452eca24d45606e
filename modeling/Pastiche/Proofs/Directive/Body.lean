import Pastiche.Directive.Span

/-!
The grammar of the text between an opener and its closing brace: braces in pairs, and quotations in
which braces are free. The scan for the closing brace stops exactly behind such a text.
-/

namespace Pastiche.Directive

/-- Does a quotation begin with this character, after the one before it? -/
def BeginsQuotation (previous c : Char) : Prop :=
  isQuote c = true ∧ startsArgument previous = true

/-- The text between a quote and the next one that no backslash skips. -/
inductive Quotation (quote : Char) : List Char → Prop where
  | nil : Quotation quote []
  | plain {c : Char} {rest : List Char} (hquote : c ≠ quote) (hbackslash : c ≠ '\\')
      (hrest : Quotation quote rest) : Quotation quote (c :: rest)
  | skipped {c : Char} {rest : List Char} (hrest : Quotation quote rest) :
      Quotation quote ('\\' :: c :: rest)

/-- The text of a directive, after the character `previous`. -/
inductive Body : (previous : Char) → List Char → Prop where
  | nil {previous : Char} : Body previous []
  | plain {previous c : Char} {rest : List Char} (hopen : c ≠ '\x7b') (hclose : c ≠ '\x7d')
      (hquote : ¬ BeginsQuotation previous c) (hrest : Body c rest) : Body previous (c :: rest)
  | group {previous : Char} {inner rest : List Char} (hinner : Body '\x7b' inner)
      (hrest : Body '\x7d' rest) : Body previous ('\x7b' :: inner ++ '\x7d' :: rest)
  | quotation {previous quote : Char} {text rest : List Char}
      (hquote : BeginsQuotation previous quote) (htext : Quotation quote text)
      (hrest : Body quote rest) : Body previous (quote :: text ++ quote :: rest)

theorem isQuote_iff {c : Char} : isQuote c = true ↔ c = '\'' ∨ c = '"' := by
  simp [isQuote]

theorem ne_backslash_of_isQuote {c : Char} (h : isQuote c = true) : c ≠ '\\' := by
  rcases isQuote_iff.mp h with rfl | rfl <;> decide

theorem precede_precede (before more : List Char) (found : Option (List Char × List Char)) :
    precede before (precede more found) = precede (before ++ more) found := by
  cases found with
  | none => rfl
  | some parts => simp [precede]

section Step

variable {depth : Nat} {previous c : Char} {rest : List Char}

theorem closing_plain (hopen : c ≠ '\x7b') (hclose : c ≠ '\x7d')
    (hquote : ¬ BeginsQuotation previous c) :
    closing depth none previous (c :: rest) = precede [c] (closing depth none c rest) := by
  rw [closing.eq_def]
  simp only [BeginsQuotation, ← Bool.and_eq_true] at hquote
  simp [hopen, hclose, hquote]

theorem closing_open :
    closing depth none previous ('\x7b' :: rest) =
      precede ['\x7b'] (closing (depth + 1) none '\x7b' rest) := by
  rw [closing.eq_def]
  rfl

theorem closing_close_zero : closing 0 none previous ('\x7d' :: rest) = some ([], rest) := by
  rw [closing.eq_def]
  rfl

theorem closing_close_succ :
    closing (depth + 1) none previous ('\x7d' :: rest) =
      precede ['\x7d'] (closing depth none '\x7d' rest) := by
  rw [closing.eq_def]
  rfl

theorem closing_quote (hquote : BeginsQuotation previous c) :
    closing depth none previous (c :: rest) = precede [c] (closing depth (some c) c rest) := by
  rw [closing.eq_def]
  simp [hquote.1, hquote.2]

end Step

theorem Quotation.closing {quote : Char} {text : List Char} (h : Quotation quote text)
    (hquote : quote ≠ '\\') (depth : Nat) (previous : Char) (rest : List Char) :
    closing depth (some quote) previous (text ++ quote :: rest) =
      precede (text ++ [quote]) (Directive.closing depth none quote rest) := by
  induction h generalizing previous with
  | nil =>
    rw [List.nil_append, Directive.closing.eq_def]
    simp [hquote]
  | @plain c more hc hbackslash _ ih =>
    rw [List.cons_append, Directive.closing.eq_def]
    simp only [if_neg hbackslash, if_neg hc]
    rw [ih, precede_precede]
    rfl
  | @skipped c more _ ih =>
    rw [List.cons_append, List.cons_append, Directive.closing.eq_def]
    simp only [if_pos]
    rw [ih, precede_precede]
    rfl

/-- The scan takes a body as it is and comes to the brace behind it. What it makes of that brace
does not depend on the character before it. -/
theorem Body.closing {previous : Char} {body : List Char} (h : Body previous body) (depth : Nat)
    (rest : List Char) (last : Char) :
    closing depth none previous (body ++ '\x7d' :: rest) =
      precede body (Directive.closing depth none last ('\x7d' :: rest)) := by
  induction h generalizing depth rest with
  | nil =>
    cases depth with
    | zero => simp [closing_close_zero, precede]
    | succ depth => simp [closing_close_succ, precede_precede]
  | @plain previous c more hopen hclose hquote _ ih =>
    rw [List.cons_append, closing_plain hopen hclose hquote, ih, precede_precede]
    rfl
  | @group previous inner more _ _ ihinner ihmore =>
    rw [List.cons_append, List.cons_append, List.append_assoc, List.cons_append, closing_open,
      ihinner, closing_close_succ, ihmore]
    simp only [precede_precede]
    simp
  | @quotation previous quote text more hquote htext _ ih =>
    rw [List.cons_append, List.cons_append, List.append_assoc, List.cons_append,
      closing_quote hquote, htext.closing (ne_backslash_of_isQuote hquote.1), ih]
    simp only [precede_precede]
    simp

/-- Characters that are neither braces nor quotes may stand before a text that is a body after any
character. -/
theorem Body.after_plain {cs rest : List Char}
    (h : ∀ c ∈ cs, c ≠ '\x7b' ∧ c ≠ '\x7d' ∧ isQuote c = false)
    (hrest : ∀ previous, Body previous rest) (previous : Char) : Body previous (cs ++ rest) := by
  induction cs generalizing previous with
  | nil => exact hrest previous
  | cons c cs ih =>
    obtain ⟨hopen, hclose, hquote⟩ := h c (by simp)
    have hbegins : ¬ BeginsQuotation previous c := by simp [BeginsQuotation, hquote]
    exact (ih (fun d hd => h d (by simp [hd])) c).plain hopen hclose hbegins

/-- Bodies with a closing brace after each but the last, which close so many open braces. -/
def Closes : (depth : Nat) → (previous : Char) → List Char → Prop
  | 0, previous, cs => Body previous cs
  | depth + 1, previous, cs =>
    ∃ inner rest, cs = inner ++ '\x7d' :: rest ∧ Body previous inner ∧ Closes depth '\x7d' rest

namespace Closes

variable {depth : Nat} {previous : Char}

theorem plain {c : Char} {rest : List Char} (hopen : c ≠ '\x7b') (hclose : c ≠ '\x7d')
    (hquote : ¬ BeginsQuotation previous c) (h : Closes depth c rest) :
    Closes depth previous (c :: rest) := by
  cases depth with
  | zero => exact Body.plain hopen hclose hquote h
  | succ depth =>
    obtain ⟨inner, more, rfl, hinner, hmore⟩ := h
    exact ⟨c :: inner, more, rfl, hinner.plain hopen hclose hquote, hmore⟩

theorem group {rest : List Char} (h : Closes (depth + 1) '\x7b' rest) :
    Closes depth previous ('\x7b' :: rest) := by
  obtain ⟨inner, more, rfl, hinner, hmore⟩ := h
  cases depth with
  | zero => exact Body.group hinner hmore
  | succ depth =>
    obtain ⟨next, last, rfl, hnext, hlast⟩ := hmore
    exact ⟨'\x7b' :: inner ++ '\x7d' :: next, last, by simp, hinner.group hnext, hlast⟩

theorem quotation {quote : Char} {text rest : List Char} (hquote : BeginsQuotation previous quote)
    (htext : Quotation quote text) (h : Closes depth quote rest) :
    Closes depth previous (quote :: text ++ quote :: rest) := by
  cases depth with
  | zero => exact Body.quotation hquote htext h
  | succ depth =>
    obtain ⟨inner, more, rfl, hinner, hmore⟩ := h
    exact ⟨quote :: text ++ quote :: inner, more, by simp, hinner.quotation hquote htext, hmore⟩

end Closes

/-- What the scan has still to read where it stands: in a quotation its rest comes first. -/
def Remains (depth : Nat) (previous : Char) (cs : List Char) : Option Char → Prop
  | none => Closes depth previous cs
  | some quote => isQuote quote = true →
      ∃ text rest, cs = text ++ quote :: rest ∧ Quotation quote text ∧ Closes depth quote rest

theorem closing_sound {depth : Nat} {quote : Option Char} {previous : Char}
    {cs body rest : List Char} (h : closing depth quote previous cs = some (body, rest)) :
    Remains depth previous body quote := by
  fun_induction closing depth quote previous cs generalizing body rest with
  | case1 => simp at h
  | case2 => simp at h
  | case3 depth previous q skipped cs ih =>
    obtain ⟨inner, hinner, rfl⟩ := precede_eq_some h
    intro hquote
    obtain ⟨text, more, rfl, htext, hmore⟩ := ih hinner hquote
    exact ⟨'\\' :: skipped :: text, more, rfl, htext.skipped, hmore⟩
  | case4 depth previous c cs q hc ih =>
    obtain ⟨inner, hinner, rfl⟩ := precede_eq_some h
    intro hquote
    have hrest := ih hinner
    by_cases hcq : c = q
    · rw [if_pos hcq] at hrest
      subst hcq
      exact ⟨[], inner, rfl, .nil, hrest⟩
    · rw [if_neg hcq] at hrest
      obtain ⟨text, more, rfl, htext, hmore⟩ := hrest hquote
      exact ⟨c :: text, more, rfl, htext.plain hcq hc, hmore⟩
  | case5 depth previous c cs hc ih =>
    obtain ⟨inner, hinner, rfl⟩ := precede_eq_some h
    have hbegins : BeginsQuotation previous c := by simpa [BeginsQuotation] using hc
    obtain ⟨text, more, rfl, htext, hmore⟩ := ih hinner hbegins.1
    exact hmore.quotation hbegins htext
  | case6 depth previous cs hc ih =>
    obtain ⟨inner, hinner, rfl⟩ := precede_eq_some h
    exact (ih hinner).group
  | case7 =>
    obtain ⟨rfl, rfl⟩ := Prod.mk.inj (Option.some.inj h)
    exact Body.nil
  | case8 previous cs hc hne depth ih =>
    obtain ⟨inner, hinner, rfl⟩ := precede_eq_some h
    exact ⟨[], inner, rfl, .nil, ih hinner⟩
  | case9 depth previous c cs hc hopen hclose ih =>
    obtain ⟨inner, hinner, rfl⟩ := precede_eq_some h
    have hbegins : ¬ BeginsQuotation previous c := by simpa [BeginsQuotation] using hc
    exact (ih hinner).plain hopen hclose hbegins

/-- The scan cuts a text where a body and a closing brace end, and only there. -/
theorem closing_eq_some_iff {previous : Char} {cs body rest : List Char} :
    closing 0 none previous cs = some (body, rest) ↔
      cs = body ++ '\x7d' :: rest ∧ Body previous body := by
  constructor
  · intro h
    exact ⟨closing_split h, closing_sound h⟩
  · rintro ⟨rfl, hbody⟩
    rw [hbody.closing 0 rest '\x7b', closing_close_zero]
    simp [precede]

end Pastiche.Directive
