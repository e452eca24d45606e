import Pastiche.Proofs.Directive.Leftmost
import Pastiche.Proofs.Directive.Reference

/-!
Two readings of a quotation. For the scan a backslash skips whatever stands behind it, for the
parser it matters before the quote only. So they part where a quotation ends in backslashes that
skip one another: there the parser goes on behind the closing quote.
-/

namespace Pastiche.Directive

section Step

variable {quote c : Char} {rest : List Char}

theorem quoted_quote (hquote : quote ≠ '\\') : quoted quote (quote :: rest) = some ([], rest) := by
  rw [quoted]
  · simp
  · rintro d more rfl
    exact absurd rfl hquote

theorem quoted_plain (hc : c ≠ quote) (hbackslash : c ≠ '\\') :
    quoted quote (c :: rest) = cons c (quoted quote rest) := by
  rw [quoted]
  · simp [hc]
  · rintro d more rfl
    exact absurd rfl hbackslash

theorem quoted_escape : quoted quote ('\\' :: quote :: rest) = cons quote (quoted quote rest) := by
  simp [quoted]

theorem quoted_backslash (hc : c ≠ quote) :
    quoted quote ('\\' :: c :: rest) = cons '\\' (quoted quote (c :: rest)) := by
  simp [quoted, hc]

end Step

/-- What a quotation stands for: the backslashes before its quote are left out. -/
def unescaped (quote : Char) : List Char → List Char
  | [] => []
  | '\\' :: c :: rest =>
    if c = quote then quote :: unescaped quote rest else '\\' :: unescaped quote (c :: rest)
  | c :: rest => c :: unescaped quote rest

theorem unescaped_plain {quote c : Char} (hbackslash : c ≠ '\\') (rest : List Char) :
    unescaped quote (c :: rest) = c :: unescaped quote rest := by
  rw [unescaped]
  rintro d more rfl
  exact absurd rfl hbackslash

theorem Quotation.head_ne {quote c : Char} {rest : List Char} (h : Quotation quote (c :: rest))
    (hquote : quote ≠ '\\') : c ≠ quote := by
  cases h with
  | plain hc => exact hc
  | skipped => exact Ne.symm hquote

/-- The parser reads a quotation to the same quote as the scan, unless a backslash stands before
it. -/
theorem Quotation.quoted {quote : Char} {text : List Char} (h : Quotation quote text)
    (hquote : quote ≠ '\\') (hlast : text.getLast? ≠ some '\\') (rest : List Char) :
    quoted quote (text ++ quote :: rest) = some (unescaped quote text, rest) := by
  induction h with
  | nil => exact quoted_quote hquote
  | @plain c more hc hbackslash _ ih =>
    have hmore : more.getLast? ≠ some '\\' := by
      intro heq
      exact hlast (by simp [List.getLast?_cons, heq])
    rw [List.cons_append, quoted_plain hc hbackslash, ih hmore, unescaped_plain hbackslash]
    rfl
  | @skipped c more hrest ih =>
    have hmore : more.getLast? ≠ some '\\' := by
      intro heq
      exact hlast (by simp [List.getLast?_cons, heq])
    by_cases hc : c = quote
    · subst hc
      rw [List.cons_append, List.cons_append, quoted_escape, ih hmore, unescaped, if_pos rfl]
      rfl
    · rw [List.cons_append, List.cons_append, quoted_backslash hc, unescaped, if_neg hc]
      by_cases hbackslash : c = '\\'
      · -- The second backslash is not spent for the parser, but no quote stands behind it.
        subst hbackslash
        cases more with
        | nil => exact absurd rfl hlast
        | cons d more =>
          have hd := hrest.head_ne hquote
          rw [List.cons_append, quoted_backslash hd, ← List.cons_append, ih hmore, unescaped,
            if_neg hd]
          rfl
      · rw [quoted_plain hc hbackslash, ih hmore, unescaped_plain hbackslash]
        rfl

/-- After a backslash the parser takes the closing quote for a part of the argument. -/
theorem Quotation.quoted_eq_none {quote : Char} {text : List Char} (h : Quotation quote text)
    (hquote : quote ≠ '\\') (hlast : text.getLast? = some '\\') :
    Directive.quoted quote (text ++ [quote]) = none := by
  induction h with
  | nil => simp at hlast
  | @plain c more hc hbackslash _ ih =>
    cases more with
    | nil => simp [hbackslash] at hlast
    | cons d more =>
      have hmore : (d :: more).getLast? = some '\\' := by simpa using hlast
      rw [List.cons_append, quoted_plain hc hbackslash, ih hmore]
      rfl
  | @skipped c more hrest ih =>
    cases more with
    | nil =>
      obtain rfl : c = '\\' := by simpa using hlast
      rw [List.cons_append, List.cons_append, List.nil_append, quoted_backslash (Ne.symm hquote),
        quoted_escape]
      rfl
    | cons d more =>
      have hmore : (d :: more).getLast? = some '\\' := by simpa using hlast
      have hnone := ih hmore
      by_cases hc : c = quote
      · subst hc
        rw [List.cons_append, List.cons_append, quoted_escape, hnone]
        rfl
      · rw [List.cons_append, List.cons_append, quoted_backslash hc]
        by_cases hbackslash : c = '\\'
        · subst hbackslash
          rw [List.cons_append, quoted_backslash (hrest.head_ne hquote), ← List.cons_append, hnone]
          rfl
        · rw [quoted_plain hc hbackslash, hnone]
          rfl

theorem isBlank_of_isQuote {quote : Char} (h : isQuote quote = true) :
    Text.isBlank quote = false := by
  rcases isQuote_iff.mp h with rfl | rfl <;> decide

theorem argument_quote {quote : Char} (h : isQuote quote = true) (rest : List Char) :
    argument (quote :: rest) = quoted quote rest := by
  rcases isQuote_iff.mp h with rfl | rfl
  · rfl
  · rfl

theorem argumentsFrom_quotation {quote : Char} {text : List Char} (hquote : isQuote quote = true)
    (htext : Quotation quote text) :
    argumentsFrom (quote :: text ++ [quote]) =
      if text.getLast? = some '\\' then none else some [unescaped quote text] := by
  have hbackslash := ne_backslash_of_isQuote hquote
  have hstart : Text.trimStart (quote :: text ++ [quote]) = quote :: (text ++ [quote]) :=
    Text.trimStart_of_head (isBlank_of_isQuote hquote)
  rw [argumentsFrom_eq, hstart, argument_quote hquote]
  by_cases hlast : text.getLast? = some '\\'
  · rw [htext.quoted_eq_none hbackslash hlast, if_pos hlast]
    rfl
  · rw [htext.quoted hbackslash hlast [], if_neg hlast]
    rfl

def quotationToken (reference : List Char) (quote : Char) (text : List Char) : List Char :=
  opener ++ (reference ++ ' ' :: quote :: text ++ [quote]) ++ ['\x7d']

theorem parse?_quotationToken {reference text : List Char} {quote : Char}
    (hreference : IsPath reference) (hquote : isQuote quote = true)
    (htext : Quotation quote text) :
    parse? (String.ofList (quotationToken reference quote text)) =
      if text.getLast? = some '\\' then none
      else some ⟨String.ofList (quotationToken reference quote text), String.ofList reference,
        [String.ofList (unescaped quote text)]⟩ := by
  have hblank := isBlank_of_isQuote hquote
  have hspace : ∀ c ∈ [' '], Text.isBlank c = true := by simp [Text.isBlank]
  have hnone : ∀ c ∈ ([] : List Char), Text.isBlank c = true := by simp
  have hopen : quote ≠ '(' := by
    rcases isQuote_iff.mp hquote with rfl | rfl <;> decide
  have htoken : quotationToken reference quote text =
      opener ++ (reference ++ ([' '] ++ (quote :: text ++ [quote])) ++ []) ++ ['\x7d'] := by
    simp [quotationToken]
  rw [parse?_spaced htoken hreference hspace hblank hopen hblank hnone,
    argumentsFrom_quotation hquote htext]
  by_cases hend : text.getLast? = some '\\'
  · rw [if_pos hend, if_pos hend]
    rfl
  · rw [if_neg hend, if_neg hend]
    rfl

theorem IsPath.plain {reference : List Char} (h : IsPath reference) :
    ∀ c ∈ reference, c ≠ '\x7b' ∧ c ≠ '\x7d' ∧ isQuote c = false := by
  intro c hc
  have hchar := h.chars c hc
  refine ⟨?_, ?_, Bool.eq_false_iff.mpr fun hquote => ?_⟩
  · rintro rfl
    exact absurd hchar (by decide)
  · rintro rfl
    exact absurd hchar (by decide)
  · rcases isQuote_iff.mp hquote with rfl | rfl
    · exact absurd hchar (by decide)
    · exact absurd hchar (by decide)

/-- After a path every text that is a body makes a directive, unless the path begins with a
digit. -/
theorem IsPath.isDirective_iff {reference rest : List Char} (h : IsPath reference)
    (hrest : ∀ previous, Body previous rest) :
    IsDirective (opener ++ (reference ++ rest) ++ ['\x7d']) ↔
      ∀ c ∈ reference.head?, c.isDigit = false := by
  constructor
  · rintro ⟨body, hbody, -, hdigit⟩
    obtain rfl := List.append_cancel_left (List.append_cancel_right hbody)
    rwa [List.append_assoc, h.head?_append] at hdigit
  · intro hdigit
    refine ⟨reference ++ rest, rfl, Body.after_plain h.plain hrest _, ?_⟩
    rwa [List.append_assoc, h.head?_append]

theorem quotationToken_isDirective_iff {reference text : List Char} {quote : Char}
    (hreference : IsPath reference) (hquote : isQuote quote = true)
    (htext : Quotation quote text) :
    IsDirective (quotationToken reference quote text) ↔
      ∀ c ∈ reference.head?, c.isDigit = false := by
  have hrest (previous : Char) : Body previous (' ' :: (quote :: text ++ [quote])) := by
    have hquotation : Body ' ' (quote :: text ++ [quote]) := Body.nil.quotation ⟨hquote, rfl⟩ htext
    exact hquotation.plain (by decide) (by decide) (by simp [BeginsQuotation, isQuote])
  have htoken : quotationToken reference quote text =
      opener ++ (reference ++ ' ' :: (quote :: text ++ [quote])) ++ ['\x7d'] := by
    simp [quotationToken]
  rw [htoken]
  exact hreference.isDirective_iff hrest

/-- A directive with one quotation is found as a whole, and the parser gives its one argument,
unless the quotation ends in a backslash: then the parser refuses what the scan has found. -/
theorem quotation_found_and_parsed {reference text : List Char} {quote : Char}
    (hreference : IsPath reference) (hquote : isQuote quote = true)
    (htext : Quotation quote text) :
    let token := String.ofList (quotationToken reference quote text)
    (find? token = some ⟨0, token.utf8ByteSize⟩ ↔ ∀ c ∈ reference.head?, c.isDigit = false) ∧
      parse? token =
        if text.getLast? = some '\\' then none
        else some ⟨token, String.ofList reference, [String.ofList (unescaped quote text)]⟩ := by
  intro token
  have hdirective := quotationToken_isDirective_iff hreference hquote htext
  refine ⟨?_, parse?_quotationToken hreference hquote htext⟩
  rw [← Text.byteLength_eq_utf8ByteSize, ← hdirective]
  exact find?_whole_iff

theorem isPath_x : IsPath ['x'] := ⟨[['x']], by simp, rfl, by simp⟩

theorem quotation_found_and_parsed_backslashes :
    IsPath ['x'] ∧ isQuote '\'' = true ∧ Quotation '\'' ['a', '\\', '\\'] ∧
      find? "#\x7bx 'a\\\\'\x7d" = some ⟨0, 10⟩ ∧ parse? "#\x7bx 'a\\\\'\x7d" = none := by
  have htext : Quotation '\'' ['a', '\\', '\\'] := Quotation.nil.skipped.plain (by decide) (by decide)
  obtain ⟨hfound, hparsed⟩ := quotation_found_and_parsed isPath_x rfl htext
  exact ⟨isPath_x, rfl, htext, hfound.mpr (by simp), hparsed⟩

/-- Not every quotation that ends the directive for the scan ends the argument for the parser. -/
theorem quotation_not_always_parsed :
    ¬ ∀ (reference text : List Char) (quote : Char), IsPath reference → isQuote quote = true →
      Quotation quote text →
      find? (String.ofList (quotationToken reference quote text)) =
        some ⟨0, Text.byteLength (quotationToken reference quote text)⟩ →
      ∃ directive, parse? (String.ofList (quotationToken reference quote text)) = some directive ∧
        directive.arguments.length = 1 := by
  intro h
  have htext : Quotation '\'' ['a', '\\', '\\'] := Quotation.nil.skipped.plain (by decide) (by decide)
  have hquote : isQuote '\'' = true := rfl
  have hdirective := (quotationToken_isDirective_iff isPath_x hquote htext).mpr (by simp)
  obtain ⟨directive, hparsed, -⟩ := h _ _ _ isPath_x hquote htext (find?_whole_iff.mpr hdirective)
  rw [parse?_quotationToken isPath_x hquote htext, if_pos (by decide)] at hparsed
  cases hparsed

end Pastiche.Directive
