import Pastiche.Proofs.Directive.Quotation
import Pastiche.Proofs.Text.Padded

/-!
Blanks behind the arguments of a directive. Wherever the parser is in the arguments, what it reads
with the blanks is what it reads without them, and what it leaves differs by blanks at most.
-/

namespace Pastiche

namespace Directive

open Text (Padded)

/-- Nothing is read in either text, or the same, and what is left differs by blanks at most. -/
inductive ReadsAlike : Option (List Char × List Char) → Option (List Char × List Char) → Prop where
  | neither : ReadsAlike none none
  | both {text after padded : List Char} (h : Padded after padded) :
      ReadsAlike (some (text, after)) (some (text, padded))

namespace ReadsAlike

variable {found other : Option (List Char × List Char)}

theorem cons (h : ReadsAlike found other) (c : Char) :
    ReadsAlike (Directive.cons c found) (Directive.cons c other) := by
  cases h with
  | neither => exact .neither
  | both h => exact .both h

theorem of_none (h : ReadsAlike none other) : other = none := by
  cases h
  rfl

theorem of_some {text after : List Char} (h : ReadsAlike (some (text, after)) other) :
    ∃ padded, other = some (text, padded) ∧ Padded after padded := by
  cases h with
  | both h => exact ⟨_, rfl, h⟩

end ReadsAlike

variable {cs padded : List Char}

theorem quoted_of_blanks {quote : Char} (hquote : isQuote quote = true)
    (h : ∀ c ∈ cs, Text.isBlank c = true) : quoted quote cs = none := by
  induction cs with
  | nil => rfl
  | cons c cs ih =>
    obtain ⟨hc, hcs⟩ := List.forall_mem_cons.mp h
    have hne : c ≠ quote := Text.ne_of_isBlank hc (isBlank_of_isQuote hquote)
    have hbackslash : c ≠ '\\' := Text.ne_of_isBlank hc rfl
    rw [quoted_plain hne hbackslash, ih hcs]
    rfl

theorem quoted_backslash_of_blanks {quote : Char} (hquote : isQuote quote = true)
    (h : ∀ c ∈ cs, Text.isBlank c = true) : quoted quote ('\\' :: cs) = none := by
  cases cs with
  | nil =>
    have hbackslash := ne_backslash_of_isQuote hquote
    simp [quoted, Directive.cons, hbackslash.symm]
  | cons d more =>
    have hd : d ≠ quote := Text.ne_of_isBlank (h d List.mem_cons_self) (isBlank_of_isQuote hquote)
    rw [quoted_backslash hd, quoted_of_blanks hquote h]
    rfl

theorem quoted_padded {quote : Char} (hquote : isQuote quote = true) (h : Padded cs padded) :
    ReadsAlike (quoted quote cs) (quoted quote padded) := by
  induction cs using quoted.induct quote generalizing padded with
  | case1 =>
    rw [quoted_of_blanks hquote h.blank]
    exact .neither
  | case2 rest ih =>
    obtain ⟨tail, rfl, htail⟩ := h.exists_tail
    obtain ⟨more, rfl, hmore⟩ := htail.exists_tail
    rw [quoted_escape, quoted_escape]
    exact (ih hmore).cons quote
  | case3 d rest hd ih =>
    obtain ⟨tail, rfl, htail⟩ := h.exists_tail
    obtain ⟨more, rfl, -⟩ := htail.exists_tail
    rw [quoted_backslash hd, quoted_backslash hd]
    exact (ih htail).cons '\\'
  | case4 rest _ =>
    obtain ⟨tail, rfl, htail⟩ := h.exists_tail
    have hbackslash := ne_backslash_of_isQuote hquote
    rw [quoted_quote hbackslash, quoted_quote hbackslash]
    exact .both htail
  | case5 c rest hescape hc ih =>
    obtain ⟨tail, rfl, htail⟩ := h.exists_tail
    by_cases hbackslash : c = '\\'
    · -- a backslash at the very end, with nothing but blanks behind it
      subst hbackslash
      cases rest with
      | cons d more => exact (hescape d more rfl rfl).elim
      | nil =>
        have hnone : ∀ c ∈ ([] : List Char), Text.isBlank c = true := nofun
        rw [quoted_backslash_of_blanks hquote hnone, quoted_backslash_of_blanks hquote htail.blank]
        exact .neither
    · rw [quoted_plain hc hbackslash, quoted_plain hc hbackslash]
      exact (ih htail).cons c

theorem endsArgument_padded (h : Padded cs padded) : endsArgument padded = endsArgument cs := by
  rw [endsArgument, endsArgument]
  cases hcs : Text.trimStart cs with
  | nil => rw [h.trimStart_eq_nil hcs]
  | cons c rest =>
    obtain ⟨tail, htail, -⟩ := h.trimStart_eq_cons hcs
    rw [htail]

theorem slashed_of_blanks (h : ∀ c ∈ cs, Text.isBlank c = true) : slashed cs = none := by
  induction cs with
  | nil => rfl
  | cons c rest ih =>
    obtain ⟨hc, hrest⟩ := List.forall_mem_cons.mp h
    have hslash : c ≠ '/' := Text.ne_of_isBlank hc rfl
    rw [slashed, if_neg fun hboth => hslash hboth.1, ih hrest]
    rfl

theorem slashed_padded (h : Padded cs padded) : ReadsAlike (slashed cs) (slashed padded) := by
  induction cs generalizing padded with
  | nil =>
    rw [slashed_of_blanks h.blank]
    exact .neither
  | cons c rest ih =>
    obtain ⟨tail, rfl, htail⟩ := h.exists_tail
    rw [slashed, slashed, endsArgument_padded htail]
    by_cases hslash : c = '/' ∧ endsArgument rest = true
    · rw [if_pos hslash, if_pos hslash]
      exact .both htail
    · rw [if_neg hslash, if_neg hslash]
      exact (ih htail).cons c

theorem bareRun_of_blanks {depth : Nat} (h : ∀ c ∈ cs, Text.isBlank c = true) :
    bareRun depth cs = (cs, []) := by
  induction cs generalizing depth with
  | nil => rfl
  | cons c rest ih =>
    obtain ⟨hc, hrest⟩ := List.forall_mem_cons.mp h
    have hcomma : c ≠ ',' := Text.ne_of_isBlank hc rfl
    rw [bareRun, if_neg fun hboth => hcomma hboth.1]
    simp only [ih hrest]

/-- The blanks go to the text if no comma ends it, otherwise to the rest. -/
theorem bareRun_padded (h : Padded cs padded) (depth : Nat) :
    Padded (bareRun depth cs).1 (bareRun depth padded).1 ∧
      Padded (bareRun depth cs).2 (bareRun depth padded).2 := by
  induction cs generalizing padded depth with
  | nil =>
    rw [bareRun_of_blanks h.blank]
    exact ⟨h, .refl []⟩
  | cons c rest ih =>
    obtain ⟨tail, rfl, htail⟩ := h.exists_tail
    rw [bareRun, bareRun]
    by_cases hcomma : c = ',' ∧ depth = 0
    · rw [if_pos hcomma, if_pos hcomma]
      exact ⟨.refl [], h⟩
    · rw [if_neg hcomma, if_neg hcomma]
      obtain ⟨htext, hafter⟩ := ih htail _
      exact ⟨htext.cons c, hafter⟩

theorem bare_eq (cs : List Char) :
    bare cs =
      if (Text.trimEnd (bareRun 0 cs).1).isEmpty then none
      else some (Text.trimEnd (bareRun 0 cs).1, (bareRun 0 cs).2) := rfl

theorem bare_padded (h : Padded cs padded) : ReadsAlike (bare cs) (bare padded) := by
  obtain ⟨htext, hafter⟩ := bareRun_padded h 0
  rw [bare_eq, bare_eq, htext.trimEnd_eq]
  by_cases hempty : (Text.trimEnd (bareRun 0 cs).1).isEmpty = true
  · rw [if_pos hempty, if_pos hempty]
    exact .neither
  · rw [if_neg hempty, if_neg hempty]
    exact .both hafter

theorem argument_bare (h : ∀ c ∈ cs.head?, isQuote c = false ∧ c ≠ '/') :
    argument cs = bare cs := by
  apply argument.eq_4
  · rintro rest rfl
    exact absurd (h '\'' rfl).1 (by decide)
  · rintro rest rfl
    exact absurd (h '"' rfl).1 (by decide)
  · rintro rest rfl
    exact (h '/' rfl).2 rfl

theorem argument_padded (h : Padded cs padded) : ReadsAlike (argument cs) (argument padded) := by
  cases cs with
  | nil =>
    have hmarks : ∀ c ∈ padded.head?, isQuote c = false ∧ c ≠ '/' := by
      intro c hc
      have hblank := h.blank c (List.mem_of_mem_head? hc)
      have hquote : isQuote c = false :=
        Bool.eq_false_iff.mpr fun hquote => Text.ne_of_isBlank hblank (isBlank_of_isQuote hquote) rfl
      exact ⟨hquote, Text.ne_of_isBlank hblank rfl⟩
    rw [argument_bare hmarks]
    exact bare_padded h
  | cons c rest =>
    obtain ⟨tail, rfl, htail⟩ := h.exists_tail
    by_cases hquote : isQuote c = true
    · rw [argument_quote hquote, argument_quote hquote]
      exact quoted_padded hquote htail
    by_cases hslash : c = '/'
    · subst hslash
      exact slashed_padded htail
    · have hmarks (more : List Char) : ∀ d ∈ (c :: more).head?, isQuote d = false ∧ d ≠ '/' := by
        intro d hd
        obtain rfl : c = d := by simpa using hd
        exact ⟨Bool.eq_false_iff.mpr hquote, hslash⟩
      rw [argument_bare (hmarks rest), argument_bare (hmarks tail)]
      exact bare_padded h

theorem argumentsFrom_padded (h : Padded cs padded) : argumentsFrom padded = argumentsFrom cs := by
  have halike := argument_padded h.trimStart
  induction cs using argumentsFrom.induct generalizing padded with
  | case1 cs hnone =>
    rw [hnone] at halike
    rw [argumentsFrom_eq padded, argumentsFrom_eq cs, hnone, halike.of_none]
  | case2 cs text after hsome hend =>
    rw [hsome] at halike
    obtain ⟨later, hlater, hafter⟩ := halike.of_some
    rw [argumentsFrom_eq padded, argumentsFrom_eq cs, hsome, hlater]
    simp only [Option.bind_some, hend, hafter.trimStart_eq_nil hend]
  | case3 cs text after hsome rest hrest ih =>
    rw [hsome] at halike
    obtain ⟨later, hlater, hafter⟩ := halike.of_some
    obtain ⟨tail, htail, hpadded⟩ := hafter.trimStart_eq_cons hrest
    have hmore := ih hpadded (argument_padded hpadded.trimStart)
    rw [argumentsFrom_eq padded, argumentsFrom_eq cs, hsome, hlater]
    simp only [Option.bind_some, hrest, htail, hmore]
  | case4 cs text after hsome c rest hrest hcomma =>
    rw [hsome] at halike
    obtain ⟨later, hlater, hafter⟩ := halike.of_some
    obtain ⟨tail, htail, -⟩ := hafter.trimStart_eq_cons hrest
    rw [argumentsFrom_eq padded, argumentsFrom_eq cs, hsome, hlater]
    simp only [Option.bind_some, hrest, htail, if_neg hcomma]

theorem argumentList_padded (h : Padded cs padded) : argumentList padded = argumentList cs := by
  rw [argumentList, argumentList, argumentsFrom_padded h]
  cases hcs : Text.trimStart cs with
  | nil => rw [h.trimStart_eq_nil hcs]
  | cons c rest =>
    obtain ⟨tail, htail, -⟩ := h.trimStart_eq_cons hcs
    rw [htail]
    rfl

theorem argumentList_blank {c : Char} (hc : Text.isBlank c = true) (cs : List Char) :
    argumentList (c :: cs) = argumentList cs := by
  rw [argumentList, argumentList, argumentsFrom_eq (c :: cs), argumentsFrom_eq cs,
    Text.trimStart_of_blank hc]

theorem argumentList_trim (cs : List Char) : argumentList (Text.trim cs) = argumentList cs := by
  rw [Text.trim, ← argumentList_padded (.of_trimEnd (Text.trimStart cs))]
  induction cs with
  | nil => rfl
  | cons c cs ih =>
    by_cases hc : Text.isBlank c = true
    · rw [Text.trimStart_of_blank hc, argumentList_blank hc, ih]
    · rw [Text.trimStart_of_head (Bool.not_eq_true _ ▸ hc)]

theorem argumentPart_of_head (h : (Text.trim cs).head? ≠ some '(') :
    argumentPart cs = argumentList cs := by
  rw [← argumentList_trim, argumentPart]
  split
  · rename_i hnil
    rw [hnil]
    rfl
  · rename_i rest hparenthesis
    rw [hparenthesis] at h
    exact absurd rfl h
  · rfl

end Directive

end Pastiche
