import Pastiche.Proofs.Directive.Concatenation
import Pastiche.Proofs.Directive.Quotation

/-!
Arguments that are written down. Between quotes an argument may hold anything but a backslash, with
one before each such quote in it; between slashes it must not disturb the scan. A directive that is
written so is found in a text and parsed to the same arguments.
-/

namespace Pastiche.Directive

/-- The text of an argument between quotes. -/
def escaped (quote : Char) : List Char → List Char
  | [] => []
  | c :: rest => if c = quote then '\\' :: c :: escaped quote rest else c :: escaped quote rest

/-- Braces in pairs. -/
inductive Nested : List Char → Prop where
  | nil : Nested []
  | plain {c : Char} {rest : List Char} (hopen : c ≠ '\x7b') (hclose : c ≠ '\x7d')
      (hrest : Nested rest) : Nested (c :: rest)
  | group {inner rest : List Char} (hinner : Nested inner) (hrest : Nested rest) :
      Nested ('\x7b' :: inner ++ '\x7d' :: rest)

/-- A text for an argument. -/
inductive Written : (text argument : List Char) → Prop where
  | quoted {quote : Char} {argument : List Char} (hquote : isQuote quote = true)
      (hbackslash : '\\' ∉ argument) : Written (quote :: escaped quote argument ++ [quote]) argument
  | slashed {argument : List Char} (hslash : '/' ∉ argument)
      (hquote : ∀ c ∈ argument, isQuote c = false) (hbraces : Nested argument) :
      Written ('/' :: argument ++ ['/']) argument

/-- White space of ASCII. -/
def IsGap (cs : List Char) : Prop := ∀ c ∈ cs, Text.isBlank c = true ∧ startsArgument c = true

/-- A text for one argument or more, with commas between them and gaps around them. -/
inductive Listed : List Char → List (List Char) → Prop where
  | last {before text argument after : List Char} (hbefore : IsGap before)
      (htext : Written text argument) (hafter : IsGap after) :
      Listed (before ++ text ++ after) [argument]
  | cons {before text argument after rest : List Char} {arguments : List (List Char)}
      (hbefore : IsGap before) (htext : Written text argument) (hafter : IsGap after)
      (hrest : Listed rest arguments) :
      Listed (before ++ text ++ after ++ ',' :: rest) (argument :: arguments)

/-- A text for any number of arguments. -/
inductive ListedAny : List Char → List (List Char) → Prop where
  | empty {gap : List Char} (hgap : IsGap gap) : ListedAny gap []
  | listed {list : List Char} {arguments : List (List Char)} (h : Listed list arguments) :
      ListedAny list arguments

/-- The directive with this reference and these arguments, after white space or in parentheses. -/
inductive WrittenDirective (reference : List Char) (arguments : List (List Char)) :
    List Char → Prop where
  | spaced {space : Char} {list : List Char} (hspace : IsGap [space])
      (hlist : ListedAny list arguments) :
      WrittenDirective reference arguments (opener ++ (reference ++ space :: list) ++ ['\x7d'])
  | parenthesised {list : List Char} (hlist : ListedAny list arguments) :
      WrittenDirective reference arguments
        (opener ++ (reference ++ '(' :: list ++ [')']) ++ ['\x7d'])

theorem quotation_escaped {quote : Char} {argument : List Char} (h : '\\' ∉ argument) :
    Quotation quote (escaped quote argument) := by
  induction argument with
  | nil => exact .nil
  | cons c rest ih =>
    rw [List.mem_cons, not_or] at h
    obtain ⟨hc, hrest⟩ := h
    rw [escaped]
    by_cases hquote : c = quote
    · rw [if_pos hquote]
      exact (ih hrest).skipped
    · rw [if_neg hquote]
      exact (ih hrest).plain hquote (Ne.symm hc)

theorem quoted_escaped {quote : Char} {argument : List Char} (h : '\\' ∉ argument)
    (hquote : quote ≠ '\\') (rest : List Char) :
    quoted quote (escaped quote argument ++ quote :: rest) = some (argument, rest) := by
  induction argument with
  | nil => exact quoted_quote hquote
  | cons c more ih =>
    rw [List.mem_cons, not_or] at h
    obtain ⟨hc, hmore⟩ := h
    rw [escaped]
    by_cases heq : c = quote
    · rw [if_pos heq, heq, List.cons_append, List.cons_append, quoted_escape, ih hmore]
      rfl
    · rw [if_neg heq, List.cons_append, quoted_plain heq (Ne.symm hc), ih hmore]
      rfl

theorem slashed_append {argument rest : List Char} (h : '/' ∉ argument)
    (hrest : endsArgument rest = true) :
    slashed (argument ++ '/' :: rest) = some (argument, rest) := by
  induction argument with
  | nil => simp [slashed, hrest]
  | cons c more ih =>
    rw [List.mem_cons, not_or] at h
    obtain ⟨hc, hmore⟩ := h
    rw [List.cons_append, slashed, if_neg fun heq => hc heq.1.symm, ih hmore]
    rfl

theorem Nested.body {cs : List Char} (h : Nested cs) (hquote : ∀ c ∈ cs, isQuote c = false)
    {rest : List Char} (hrest : ∀ previous, Body previous rest) (previous : Char) :
    Body previous (cs ++ rest) := by
  induction h generalizing previous rest with
  | nil => exact hrest previous
  | @plain c more hopen hclose _ ih =>
    have hmore := ih (fun d hd => hquote d (by simp [hd])) hrest c
    exact hmore.plain hopen hclose (by simp [BeginsQuotation, hquote c (by simp)])
  | @group inner more _ _ ihinner ihmore =>
    have hinner := ihinner (fun d hd => hquote d (by simp [hd])) (fun _ => .nil) '\x7b'
    have hmore := ihmore (fun d hd => hquote d (by simp [hd])) hrest '\x7d'
    rw [List.append_nil] at hinner
    simpa using hinner.group hmore

namespace Written

variable {text argument : List Char}

theorem body (h : Written text argument) {previous : Char} (hprevious : startsArgument previous = true)
    {rest : List Char} (hrest : ∀ last, Body last rest) : Body previous (text ++ rest) := by
  cases h with
  | @quoted quote _ hquote hbackslash =>
    have hbody := (hrest quote).quotation ⟨hquote, hprevious⟩ (quotation_escaped hbackslash)
    simpa using hbody
  | slashed hslash hquote hbraces =>
    have hlast (last : Char) : Body last ('/' :: rest) :=
      (hrest '/').plain (by decide) (by decide) (by simp [BeginsQuotation, isQuote])
    have hbegins : ¬ BeginsQuotation previous '/' := by simp [BeginsQuotation, isQuote]
    have hbody := (hbraces.body hquote hlast '/').plain (by decide) (by decide) hbegins
    simpa using hbody

theorem argument_eq (h : Written text argument) {rest : List Char}
    (hrest : endsArgument rest = true) :
    Directive.argument (text ++ rest) = some (argument, rest) := by
  cases h with
  | quoted hquote hbackslash =>
    rw [List.cons_append, List.cons_append, argument_quote hquote, List.append_assoc]
    exact quoted_escaped hbackslash (ne_backslash_of_isQuote hquote) rest
  | slashed hslash hquote hbraces =>
    rw [List.cons_append, List.cons_append, List.append_assoc]
    exact slashed_append hslash hrest

theorem ends (h : Written text argument) :
    ∃ c inner, text = c :: (inner ++ [c]) ∧ Text.isBlank c = false ∧ c ≠ '(' := by
  cases h with
  | @quoted quote _ hquote hbackslash =>
    refine ⟨quote, escaped quote argument, rfl, isBlank_of_isQuote hquote, ?_⟩
    rcases isQuote_iff.mp hquote with rfl | rfl <;> decide
  | slashed hslash hquote hbraces => exact ⟨'/', argument, rfl, by decide, by decide⟩

theorem trimStart_append (h : Written text argument) (rest : List Char) :
    Text.trimStart (text ++ rest) = text ++ rest := by
  obtain ⟨c, inner, rfl, hc, -⟩ := h.ends
  exact Text.trimStart_of_head hc

end Written

namespace IsGap

variable {gap : List Char}

theorem blank (h : IsGap gap) : ∀ c ∈ gap, Text.isBlank c = true := fun c hc => (h c hc).1

theorem plain (h : IsGap gap) : ∀ c ∈ gap, c ≠ '\x7b' ∧ c ≠ '\x7d' ∧ isQuote c = false := by
  intro c hc
  have hblank := h.blank c hc
  refine ⟨?_, ?_, Bool.eq_false_iff.mpr fun hquote => ?_⟩
  · rintro rfl
    exact absurd hblank (by decide)
  · rintro rfl
    exact absurd hblank (by decide)
  · rw [isBlank_of_isQuote hquote] at hblank
    cases hblank

theorem body (h : IsGap gap) {rest : List Char}
    (hrest : ∀ last, startsArgument last = true → Body last rest) {previous : Char}
    (hprevious : startsArgument previous = true) : Body previous (gap ++ rest) := by
  induction gap generalizing previous with
  | nil => exact hrest previous hprevious
  | cons c gap ih =>
    obtain ⟨hopen, hclose, hquote⟩ := h.plain c (by simp)
    have hgap := ih (fun d hd => h d (by simp [hd])) (h c (by simp)).2
    exact hgap.plain hopen hclose (by simp [BeginsQuotation, hquote])

theorem trimStart_append (h : IsGap gap) (rest : List Char) :
    Text.trimStart (gap ++ rest) = Text.trimStart rest := by
  rw [Text.trimStart, List.dropWhile_append_of_pos h.blank]
  rfl

theorem trimStart (h : IsGap gap) : Text.trimStart gap = [] := by
  have htrim := h.trimStart_append []
  rwa [List.append_nil] at htrim

end IsGap

namespace Listed

variable {list : List Char} {arguments : List (List Char)}

theorem body (h : Listed list arguments) {previous : Char} (hprevious : startsArgument previous = true)
    {rest : List Char} (hrest : ∀ last, Body last rest) : Body previous (list ++ rest) := by
  induction h generalizing previous with
  | @last before text argument after hbefore htext hafter =>
    rw [List.append_assoc, List.append_assoc]
    exact hbefore.body (fun last hlast => htext.body hlast (Body.after_plain hafter.plain hrest))
      hprevious
  | @cons before text argument after more arguments hbefore htext hafter _ ih =>
    have hmore (last : Char) : Body last (',' :: (more ++ rest)) :=
      (ih rfl).plain (by decide) (by decide) (by simp [BeginsQuotation, isQuote])
    rw [List.append_assoc, List.append_assoc, List.append_assoc, List.cons_append]
    exact hbefore.body (fun last hlast => htext.body hlast (Body.after_plain hafter.plain hmore))
      hprevious

theorem argumentsFrom_eq (h : Listed list arguments) : argumentsFrom list = some arguments := by
  induction h with
  | @last before text argument after hbefore htext hafter =>
    have hends : endsArgument after = true := by
      rw [endsArgument, hafter.trimStart]
    rw [Directive.argumentsFrom_eq, List.append_assoc, hbefore.trimStart_append,
      htext.trimStart_append, htext.argument_eq hends]
    simp [hafter.trimStart]
  | @cons before text argument after rest arguments hbefore htext hafter _ ih =>
    have hcomma : Text.trimStart (after ++ ',' :: rest) = ',' :: rest := by
      rw [hafter.trimStart_append]
      exact Text.trimStart_of_head rfl
    have hends : endsArgument (after ++ ',' :: rest) = true := by
      rw [endsArgument, hcomma]
      rfl
    rw [Directive.argumentsFrom_eq, List.append_assoc, List.append_assoc, hbefore.trimStart_append,
      htext.trimStart_append, htext.argument_eq hends]
    simp [hcomma, ih]

theorem gap_append (h : Listed list arguments) {gap : List Char} (hgap : IsGap gap) :
    Listed (gap ++ list) arguments := by
  have hboth {before : List Char} (hbefore : IsGap before) : IsGap (gap ++ before) := by
    intro c hc
    rcases List.mem_append.mp hc with hc | hc
    · exact hgap c hc
    · exact hbefore c hc
  cases h with
  | last hbefore htext hafter =>
    simpa using Listed.last (hboth hbefore) htext hafter
  | cons hbefore htext hafter hrest =>
    simpa using Listed.cons (hboth hbefore) htext hafter hrest

theorem exists_core (h : Listed list arguments) :
    ∃ before c inner d after, list = before ++ (c :: inner ++ [d]) ++ after ∧
      IsGap before ∧ IsGap after ∧ Listed (c :: inner ++ [d]) arguments ∧
      Text.isBlank c = false ∧ c ≠ '(' ∧ Text.isBlank d = false := by
  have hnil : IsGap [] := fun c hc => nomatch hc
  induction h with
  | @last before text argument after hbefore htext hafter =>
    obtain ⟨c, inner, rfl, hc, hopen⟩ := htext.ends
    have hcore : Listed (c :: inner ++ [c]) [argument] := by
      simpa using Listed.last hnil htext hnil
    exact ⟨before, c, inner, c, after, rfl, hbefore, hafter, hcore, hc, hopen, hc⟩
  | @cons before text argument after rest arguments hbefore htext hafter _ ih =>
    obtain ⟨first, c, inner, d, last, rfl, hfirst, hlast, hcore, -, -, hd⟩ := ih
    have hwhole := Listed.cons hnil htext hafter (hcore.gap_append hfirst)
    obtain ⟨e, more, rfl, he, hopen⟩ := htext.ends
    refine ⟨before, e, more ++ e :: (after ++ ',' :: (first ++ c :: inner)), d, last, ?_, hbefore,
      hlast, ?_, he, hopen, hd⟩
    · simp
    · simpa using hwhole

end Listed

theorem ListedAny.argumentList_eq {list : List Char} {arguments : List (List Char)}
    (h : ListedAny list arguments) : argumentList list = some arguments := by
  cases h with
  | empty hgap => rw [argumentList, hgap.trimStart, List.isEmpty_nil, if_pos rfl]
  | listed h =>
    obtain ⟨before, c, inner, d, after, rfl, hbefore, -, -, hc, -⟩ := h.exists_core
    have htrim : Text.trimStart (before ++ (c :: inner ++ [d]) ++ after) =
        c :: (inner ++ [d] ++ after) := by
      rw [List.append_assoc, hbefore.trimStart_append]
      exact Text.trimStart_of_head hc
    rw [argumentList, htrim, List.isEmpty_cons, if_neg (by decide), h.argumentsFrom_eq]

theorem ListedAny.body {list : List Char} {arguments : List (List Char)}
    (h : ListedAny list arguments) {previous : Char} (hprevious : startsArgument previous = true)
    {rest : List Char} (hrest : ∀ last, Body last rest) : Body previous (list ++ rest) := by
  cases h with
  | empty hgap => exact Body.after_plain hgap.plain hrest previous
  | listed h => exact h.body hprevious hrest

namespace WrittenDirective

variable {reference token : List Char} {arguments : List (List Char)}

theorem exists_body (h : WrittenDirective reference arguments token) :
    ∃ rest, token = opener ++ (reference ++ rest) ++ ['\x7d'] ∧
      ∀ previous, Body previous rest := by
  cases h with
  | @spaced space list hspace hlist =>
    refine ⟨space :: list, rfl, fun previous => ?_⟩
    obtain ⟨hopen, hclose, hquote⟩ := hspace.plain space (by simp)
    have hbody : Body space (list ++ []) :=
      hlist.body (hspace space (by simp)).2 fun _ => .nil
    rw [List.append_nil] at hbody
    exact hbody.plain hopen hclose (by simp [BeginsQuotation, hquote])
  | @parenthesised list hlist =>
    refine ⟨'(' :: list ++ [')'], by simp, fun previous => ?_⟩
    have hlast (last : Char) : Body last [')'] :=
      Body.nil.plain (by decide) (by decide) (by simp [BeginsQuotation, isQuote])
    have hbody : Body '(' (list ++ [')']) := hlist.body rfl hlast
    exact hbody.plain (by decide) (by decide) (by simp [BeginsQuotation, isQuote])

theorem isDirective (h : WrittenDirective reference arguments token) (hreference : IsPath reference)
    (hdigit : ∀ c ∈ reference.head?, c.isDigit = false) : IsDirective token := by
  obtain ⟨rest, rfl, hrest⟩ := h.exists_body
  exact (hreference.isDirective_iff hrest).mpr hdigit

theorem parse?_eq (h : WrittenDirective reference arguments token) (hreference : IsPath reference) :
    parse? (String.ofList token) = some
      ⟨String.ofList token, String.ofList reference, arguments.map String.ofList⟩ := by
  have hnone : ∀ c ∈ ([] : List Char), Text.isBlank c = true := by simp
  cases h with
  | @spaced space list hspace hlist =>
    have hblank {gap : List Char} (hgap : IsGap gap) :
        ∀ c ∈ space :: gap, Text.isBlank c = true := by
      intro c hc
      rcases List.mem_cons.mp hc with rfl | hc
      · exact hspace.blank c (by simp)
      · exact hgap.blank c hc
    cases hlist with
    | empty hgap =>
      have htoken : opener ++ (reference ++ space :: list) ++ ['\x7d'] =
          opener ++ (reference ++ [] ++ space :: list) ++ ['\x7d'] := by simp
      rw [parse?_token htoken hreference (by simp) (by simp) (hblank hgap)]
      rfl
    | listed hlist =>
      obtain ⟨before, c, inner, d, after, rfl, hbefore, hafter, hcore, hc, hopen, hd⟩ :=
        hlist.exists_core
      have htoken : opener ++ (reference ++ space :: (before ++ (c :: inner ++ [d]) ++ after)) ++
          ['\x7d'] = opener ++ (reference ++ (space :: before ++ (c :: inner ++ [d])) ++ after) ++
          ['\x7d'] := by simp
      rw [parse?_spaced htoken hreference (hblank hbefore) hc hopen hd hafter.blank,
        hcore.argumentsFrom_eq]
      rfl
  | @parenthesised list hlist =>
    have htoken : opener ++ (reference ++ '(' :: list ++ [')']) ++ ['\x7d'] =
        opener ++ (reference ++ ('(' :: list ++ [')']) ++ []) ++ ['\x7d'] := by simp
    have hfirst : ∀ c ∈ ('(' :: list ++ [')']).head?, isReferenceChar c = false := by
      intro c hc
      have hopen : c = '(' := by simpa using hc.symm
      rw [hopen]
      rfl
    have hlast : ∀ c ∈ ('(' :: list ++ [')']).getLast?, Text.isBlank c = false :=
      Text.getLast?_concat_not_blank (by decide)
    rw [parse?_token htoken hreference hfirst hlast hnone, argumentPart_parenthesised,
      hlist.argumentList_eq]
    rfl

end WrittenDirective

theorem Idle.of_not_infix {cs : List Char} (h : ¬ opener <:+: cs) : Idle cs := by
  rintro before after rfl
  exact absurd ⟨before, after, by simp⟩ h

/-- A directive that is written down is found where it stands, whatever follows it, and the parser
reads its reference and the arguments that were written. -/
theorem written_found_and_parsed {reference token before : List Char}
    {arguments : List (List Char)} (hreference : IsPath reference)
    (hdigit : ∀ c ∈ reference.head?, c.isDigit = false)
    (htoken : WrittenDirective reference arguments token) (hbefore : ¬ opener <:+: before)
    (after : List Char) :
    find? (String.ofList (before ++ token ++ after)) =
        some ⟨Text.byteLength before, Text.byteLength (before ++ token)⟩ ∧
      parse? (String.ofList token) = some
        ⟨String.ofList token, String.ofList reference, arguments.map String.ofList⟩ := by
  refine ⟨?_, htoken.parse?_eq hreference⟩
  have hcut := cut?_of_idle (Idle.of_not_infix hbefore) (htoken.isDirective hreference hdigit) after
  rw [find?, String.toList_ofList, List.append_assoc, hcut, Text.byteLength_append]
  rfl

theorem written_found_and_parsed_mixed :
    let token := ['#', '\x7b', 'x', '(', '\'', '\\', '\'', '\x7d', '#', '\x7b', '\'', ' ', ',', '/',
      '\x7b', ',', '\x7d', '/', ')', '\x7d']
    IsPath ['x'] ∧ (∀ c ∈ ['x'].head?, c.isDigit = false) ∧
      WrittenDirective ['x'] [['\'', '\x7d', '#', '\x7b'], ['\x7b', ',', '\x7d']] token ∧
      ¬ opener <:+: ['€', '#'] ∧
      find? "€##\x7bx('\\'\x7d#\x7b' ,/\x7b,\x7d/)\x7d\x7d" = some ⟨4, 24⟩ ∧
      parse? "#\x7bx('\\'\x7d#\x7b' ,/\x7b,\x7d/)\x7d" = some
        ⟨"#\x7bx('\\'\x7d#\x7b' ,/\x7b,\x7d/)\x7d", "x", ["'\x7d#\x7b", "\x7b,\x7d"]⟩ := by
  intro token
  have hnil : IsGap [] := by simp [IsGap]
  have hspace : IsGap [' '] := by simp [IsGap, Text.isBlank, startsArgument]
  have hbackslash : '\\' ∉ ['\'', '\x7d', '#', '\x7b'] := by decide
  have hquote : isQuote '\'' = true := rfl
  have hquoted := Written.quoted hquote hbackslash
  have hnested : Nested ['\x7b', ',', '\x7d'] :=
    .group (.plain (by decide) (by decide) .nil) .nil
  have hslashed : Written ['/', '\x7b', ',', '\x7d', '/'] ['\x7b', ',', '\x7d'] :=
    .slashed (by decide) (by simp [isQuote]) hnested
  have hlist := Listed.cons hnil hquoted hspace (.last hnil hslashed hnil)
  have htoken : WrittenDirective ['x'] [['\'', '\x7d', '#', '\x7b'], ['\x7b', ',', '\x7d']] token :=
    .parenthesised (.listed hlist)
  have hbefore : ¬ opener <:+: ['€', '#'] := by decide
  have hdigit : ∀ c ∈ ['x'].head?, c.isDigit = false := by simp
  have hstart : Text.byteLength ['€', '#'] = 4 := by decide
  have hstop : Text.byteLength (['€', '#'] ++ token) = 24 := by decide
  obtain ⟨hfound, hparsed⟩ :=
    written_found_and_parsed isPath_x hdigit htoken hbefore ['\x7d']
  rw [hstart, hstop] at hfound
  exact ⟨isPath_x, hdigit, htoken, hbefore, hfound, hparsed⟩

end Pastiche.Directive
