import Pastiche.Proofs.Directive.Padding

/-!
Arguments stand in parentheses behind the reference, or behind a blank. The two forms are the same
directive, whatever the arguments are: the scan finds both or neither, and the parser reads the same
from both.
-/

namespace Pastiche.Directive

variable {reference arguments rest : List Char} {previous c : Char}

theorem body_iff_closing {body : List Char} :
    Body previous body ↔ closing 0 none previous (body ++ ['\x7d']) = some (body, []) := by
  rw [closing_eq_some_iff]
  exact ⟨fun h => ⟨rfl, h⟩, And.right⟩

theorem Body.plain_iff (hopen : c ≠ '\x7b') (hclose : c ≠ '\x7d')
    (hquote : ¬ BeginsQuotation previous c) : Body previous (c :: rest) ↔ Body c rest := by
  refine ⟨fun h => ?_, Body.plain hopen hclose hquote⟩
  rw [body_iff_closing, List.cons_append, closing_plain hopen hclose hquote] at h
  obtain ⟨inner, hinner, heq⟩ := precede_eq_some h
  obtain rfl : rest = inner := by simpa using heq
  exact body_iff_closing.mpr hinner

/-- What makes a body of a text is not the character before it, only whether an argument may begin
there. -/
theorem Body.of_startsArgument {other : Char} {body : List Char} (h : Body previous body)
    (hother : startsArgument other = startsArgument previous) : Body other body := by
  cases h with
  | nil => exact .nil
  | plain hopen hclose hquote hrest =>
    rw [BeginsQuotation, ← hother] at hquote
    exact hrest.plain hopen hclose hquote
  | group hinner hrest => exact hinner.group hrest
  | quotation hquote htext hrest =>
    rw [BeginsQuotation, ← hother] at hquote
    exact hrest.quotation hquote htext

theorem Body.behind_plain_iff (h : ∀ d ∈ reference, d ≠ '\x7b' ∧ d ≠ '\x7d' ∧ isQuote d = false)
    (hopen : c ≠ '\x7b') (hclose : c ≠ '\x7d') (hquote : isQuote c = false) :
    Body previous (reference ++ c :: rest) ↔ Body c rest := by
  induction reference generalizing previous with
  | nil => exact Body.plain_iff hopen hclose (by simp [BeginsQuotation, hquote])
  | cons d reference ih =>
    obtain ⟨⟨hopen', hclose', hquote'⟩, hreference⟩ := List.forall_mem_cons.mp h
    rw [List.cons_append, Body.plain_iff hopen' hclose' (by simp [BeginsQuotation, hquote']),
      ih hreference]

theorem exists_concat {before cs : List Char} {d : Char} (hne : d ≠ c)
    (h : before ++ d :: rest = cs ++ [c]) :
    ∃ more, rest = more ++ [c] ∧ cs = before ++ d :: more := by
  rcases List.eq_nil_or_concat rest with rfl | ⟨more, last, rfl⟩
  · obtain ⟨-, hlast⟩ := List.append_inj' h rfl
    exact absurd (List.cons.inj hlast).1 hne
  · have hsplit : (before ++ d :: more) ++ [last] = cs ++ [c] := by simpa using h
    obtain ⟨hcs, hlast⟩ := List.append_inj' hsplit rfl
    obtain rfl := (List.cons.inj hlast).1
    exact ⟨more, List.concat_eq_append, hcs.symm⟩

theorem Body.of_concat {cs : List Char} (hclose : c ≠ '\x7d') (hquote : isQuote c = false)
    (h : Body previous (cs ++ [c])) : Body previous cs := by
  generalize hbody : cs ++ [c] = body at h
  induction h generalizing cs with
  | nil => simp at hbody
  | @plain previous d more hopen' hclose' hquote' hmore ih =>
    cases cs with
    | nil => exact .nil
    | cons e cs =>
      obtain ⟨rfl, hrest⟩ := List.cons.inj hbody
      exact (ih hrest).plain hopen' hclose' hquote'
  | @group previous inner more hinner hmore _ ih =>
    obtain ⟨most, rfl, rfl⟩ := exists_concat hclose.symm hbody.symm
    exact hinner.group (ih rfl)
  | @quotation previous quote text more hquote' htext hmore ih =>
    have hne : quote ≠ c := by
      rintro rfl
      rw [hquote'.1] at hquote
      cases hquote
    obtain ⟨most, rfl, rfl⟩ := exists_concat hne hbody.symm
    exact (ih rfl).quotation hquote' htext

theorem Body.concat {cs : List Char} (hopen : c ≠ '\x7b') (hclose : c ≠ '\x7d')
    (hquote : isQuote c = false) (h : Body previous cs) : Body previous (cs ++ [c]) := by
  have hbegins (last : Char) : ¬ BeginsQuotation last c := by simp [BeginsQuotation, hquote]
  induction h with
  | nil => exact Body.nil.plain hopen hclose (hbegins _)
  | plain hopen' hclose' hquote' _ ih => exact ih.plain hopen' hclose' hquote'
  | @group previous inner more hinner _ _ ih =>
    have hgroup : Body previous ('\x7b' :: inner ++ '\x7d' :: (more ++ [c])) := hinner.group ih
    simpa using hgroup
  | quotation hquote' htext _ ih =>
    have hquotation := ih.quotation hquote' htext
    simpa using hquotation

theorem Body.concat_iff {cs : List Char} (hopen : c ≠ '\x7b') (hclose : c ≠ '\x7d')
    (hquote : isQuote c = false) : Body previous (cs ++ [c]) ↔ Body previous cs :=
  ⟨Body.of_concat hclose hquote, Body.concat hopen hclose hquote⟩

/-- A path with an opener before it, and some text and the closing brace behind it. -/
def tokenOf (reference rest : List Char) : List Char := opener ++ (reference ++ rest) ++ ['\x7d']

theorem IsPath.tokenOf_isDirective_iff (h : IsPath reference) (hopen : c ≠ '\x7b')
    (hclose : c ≠ '\x7d') (hquote : isQuote c = false) :
    IsDirective (tokenOf reference (c :: rest)) ↔
      Body c rest ∧ ∀ d ∈ reference.head?, d.isDigit = false := by
  have hhead : (reference ++ c :: rest ++ ['\x7d']).head? = reference.head? := by
    rw [List.append_assoc, h.head?_append]
  constructor
  · rintro ⟨body, htoken, hbody, hdigit⟩
    obtain rfl := List.append_cancel_left (List.append_cancel_right htoken)
    rw [hhead] at hdigit
    exact ⟨(Body.behind_plain_iff h.plain hopen hclose hquote).mp hbody, hdigit⟩
  · rintro ⟨hbody, hdigit⟩
    rw [← hhead] at hdigit
    exact ⟨_, rfl, (Body.behind_plain_iff h.plain hopen hclose hquote).mpr hbody, hdigit⟩

theorem argumentPart_congr {other : List Char} (h : Text.trim rest = Text.trim other) :
    argumentPart rest = argumentPart other := by
  rw [argumentPart, argumentPart, h]

theorem IsPath.parse?_tokenOf (h : IsPath reference)
    (hrest : ∀ d ∈ rest.head?, isReferenceChar d = false) :
    parse? (String.ofList (tokenOf reference rest)) = (argumentPart rest).map fun list =>
      ⟨String.ofList (tokenOf reference rest), String.ofList reference, list.map String.ofList⟩ := by
  have hpadded := Text.Padded.of_trimEnd rest
  have htrim : argumentPart rest = argumentPart (Text.trimEnd rest) :=
    argumentPart_congr hpadded.trim_eq
  obtain ⟨blanks, hsplit, hblanks⟩ := hpadded
  have htoken : tokenOf reference rest =
      opener ++ (reference ++ Text.trimEnd rest ++ blanks) ++ ['\x7d'] := by
    rw [List.append_assoc reference, ← hsplit, tokenOf]
  have hhead : ∀ d ∈ (Text.trimEnd rest).head?, isReferenceChar d = false := by
    intro d hd
    refine hrest d ?_
    rw [hsplit, List.head?_append, Option.mem_def.mp hd]
    rfl
  rw [parse?_token htoken h hhead (Text.getLast?_trimEnd rest) hblanks, htrim]

def calledToken (reference arguments : List Char) : List Char :=
  tokenOf reference ('(' :: arguments ++ [')'])

def spacedToken (reference arguments : List Char) : List Char := tokenOf reference (' ' :: arguments)

theorem calledToken_isDirective_iff (h : IsPath reference) :
    IsDirective (calledToken reference arguments) ↔ IsDirective (spacedToken reference arguments) := by
  have hcalled : IsDirective (calledToken reference arguments) ↔
      Body '(' (arguments ++ [')']) ∧ ∀ d ∈ reference.head?, d.isDigit = false :=
    h.tokenOf_isDirective_iff (by decide) (by decide) rfl
  have hspaced : IsDirective (spacedToken reference arguments) ↔
      Body ' ' arguments ∧ ∀ d ∈ reference.head?, d.isDigit = false :=
    h.tokenOf_isDirective_iff (by decide) (by decide) rfl
  have hparenthesis : Body '(' (arguments ++ [')']) ↔ Body '(' arguments :=
    Body.concat_iff (by decide) (by decide) rfl
  have hspace : Body '(' arguments ↔ Body ' ' arguments :=
    ⟨fun hbody => hbody.of_startsArgument rfl, fun hbody => hbody.of_startsArgument rfl⟩
  rw [hcalled, hspaced, hparenthesis, hspace]

theorem parse?_calledToken (h : IsPath reference) :
    parse? (String.ofList (calledToken reference arguments)) =
      (argumentList arguments).map fun list =>
        ⟨String.ofList (calledToken reference arguments), String.ofList reference,
          list.map String.ofList⟩ := by
  have hhead : ∀ d ∈ ('(' :: arguments ++ [')']).head?, isReferenceChar d = false := by
    intro d hd
    obtain rfl : '(' = d := by simpa using hd
    decide
  rw [calledToken, h.parse?_tokenOf hhead, argumentPart_parenthesised]

theorem parse?_spacedToken (h : IsPath reference)
    (harguments : (Text.trim arguments).head? ≠ some '(') :
    parse? (String.ofList (spacedToken reference arguments)) =
      (argumentList arguments).map fun list =>
        ⟨String.ofList (spacedToken reference arguments), String.ofList reference,
          list.map String.ofList⟩ := by
  have hhead : ∀ d ∈ (' ' :: arguments).head?, isReferenceChar d = false := by
    intro d hd
    obtain rfl : ' ' = d := by simpa using hd
    decide
  have hblank : Text.isBlank ' ' = true := by decide
  have htrim : Text.trim (' ' :: arguments) = Text.trim arguments := by
    rw [Text.trim, Text.trimStart_of_blank hblank, Text.trim]
  have hpart : argumentPart (' ' :: arguments) = argumentList arguments := by
    rw [argumentPart_congr htrim, argumentPart_of_head harguments]
  rw [spacedToken, h.parse?_tokenOf hhead, hpart]

/-- Arguments in parentheses and the same arguments behind a space make the same directive. Only an
argument text that has parentheses of its own is read in another way without them. -/
theorem parentheses_immaterial (h : IsPath reference)
    (harguments : (Text.trim arguments).head? ≠ some '(') :
    let inParentheses := String.ofList (calledToken reference arguments)
    let behindSpace := String.ofList (spacedToken reference arguments)
    (find? inParentheses = some ⟨0, inParentheses.utf8ByteSize⟩ ↔
      find? behindSpace = some ⟨0, behindSpace.utf8ByteSize⟩) ∧
    parse? behindSpace =
      (parse? inParentheses).map fun directive => { directive with token := behindSpace } := by
  intro inParentheses behindSpace
  refine ⟨?_, ?_⟩
  · rw [← Text.byteLength_eq_utf8ByteSize, ← Text.byteLength_eq_utf8ByteSize, find?_whole_iff,
      find?_whole_iff]
    exact calledToken_isDirective_iff h
  · rw [parse?_calledToken h, parse?_spacedToken h harguments, Option.map_map]
    rfl

theorem parentheses_immaterial_brace :
    let arguments := [' ', '\'', '\x7d', '\'', ' ']
    IsPath ['x'] ∧ (Text.trim arguments).head? ≠ some '(' ∧
      find? "#\x7bx  '\x7d' \x7d" = some ⟨0, 10⟩ ∧
      parse? "#\x7bx  '\x7d' \x7d" = some ⟨"#\x7bx  '\x7d' \x7d", "x", ["\x7d"]⟩ := by
  intro arguments
  have harguments : (Text.trim arguments).head? ≠ some '(' := by decide
  obtain ⟨hfound, hparsed⟩ := parentheses_immaterial isPath_x harguments
  have hcalled : find? "#\x7bx( '\x7d' )\x7d" = some ⟨0, 11⟩ := by decide +kernel
  have hdirective : parse? "#\x7bx( '\x7d' )\x7d" =
      some ⟨"#\x7bx( '\x7d' )\x7d", "x", ["\x7d"]⟩ := by decide +kernel
  refine ⟨isPath_x, harguments, hfound.mp hcalled, hparsed.trans ?_⟩
  exact congrArg _ hdirective

end Pastiche.Directive
