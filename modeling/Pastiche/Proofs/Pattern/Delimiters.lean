import Pastiche.Proofs.Pattern.Reading

/-!
Slashes and anchors around a pattern. They are taken off without a look at what they surround, so
that a dollar behind a backslash stays even where the backslash is escaped itself; and a dollar that
stays is refused.
-/

namespace Pastiche.Pattern

open Grammar

/-- A text without blanks or delimiters at its ends. -/
structure Undelimited (cs : List Char) : Prop where
  trimmed : Text.trim cs = cs
  slash : cs.head? ≠ some '/'
  caret : cs.head? ≠ some '^'
  dollar : cs.getLast? ≠ some '$'

section Strip

variable {cs : List Char}

theorem stripSlashes_of_head (h : cs.head? ≠ some '/') : stripSlashes cs = cs := by
  unfold stripSlashes
  split
  · exact absurd rfl h
  · rfl

theorem stripCaret_of_head (h : cs.head? ≠ some '^') : stripCaret cs = cs := by
  unfold stripCaret
  split
  · exact absurd rfl h
  · rfl

theorem concat_suffix_iff {c : Char} : [c] <:+ cs ↔ cs.getLast? = some c := by
  constructor
  · rintro ⟨front, rfl⟩
    exact List.getLast?_concat
  · intro h
    obtain ⟨front, rfl⟩ := List.getLast?_eq_some_iff.mp h
    exact List.suffix_append front [c]

theorem stripDollar_of_last (h : cs.getLast? ≠ some '$') : stripDollar cs = cs := by
  have hsuffix : ¬ ['$'] <:+ cs := fun hdollar => h (concat_suffix_iff.mp hdollar)
  exact if_neg fun hboth => hsuffix hboth.1

theorem stripDollar_concat (cs : List Char) :
    stripDollar (cs ++ ['$']) = if cs.getLast? = some '\\' then cs ++ ['$'] else cs := by
  have hdollar : ['$'] <:+ cs ++ ['$'] := List.suffix_append cs ['$']
  have hescaped : ['\\', '$'] <:+ cs ++ ['$'] ↔ cs.getLast? = some '\\' := by
    have hparts : ['\\'] ++ ['$'] <:+ cs ++ ['$'] ↔ ['\\'] <:+ cs ∧ ['$'] = ['$'] :=
      List.suffix_append_inj_of_length_eq rfl
    rw [← concat_suffix_iff]
    exact hparts.trans (and_iff_left rfl)
  by_cases hlast : cs.getLast? = some '\\'
  · rw [if_pos hlast, stripDollar, if_neg fun hboth => hboth.2 (hescaped.mpr hlast)]
  · rw [if_neg hlast, stripDollar, if_pos ⟨hdollar, fun h => hlast (hescaped.mp h)⟩,
      List.dropLast_concat]

theorem stripSlashes_between (cs : List Char) : stripSlashes ('/' :: (cs ++ ['/'])) = cs := by
  have hlast : (cs ++ ['/']).getLast? = some '/' := List.getLast?_concat
  change (if (cs ++ ['/']).getLast? = some '/' then (cs ++ ['/']).dropLast else _) = cs
  rw [if_pos hlast, List.dropLast_concat]

theorem trim_between_marks {first last : Char} (hfirst : Text.isBlank first = false)
    (hlast : Text.isBlank last = false) (cs : List Char) :
    Text.trim (first :: (cs ++ [last])) = first :: (cs ++ [last]) := by
  have hnone : ∀ c ∈ ([] : List Char), Text.isBlank c = true := by simp
  exact Text.trim_of_ends hnone hfirst hlast

theorem Undelimited.strip (h : Undelimited cs) : stripDelimiters cs = cs := by
  rw [stripDelimiters, h.trimmed, stripSlashes_of_head h.slash, stripCaret_of_head h.caret,
    stripDollar_of_last h.dollar]

theorem Undelimited.strip_slashes (h : Undelimited cs) :
    stripDelimiters ('/' :: (cs ++ ['/'])) = cs := by
  have htrim : Text.trim ('/' :: (cs ++ ['/'])) = '/' :: (cs ++ ['/']) :=
    trim_between_marks rfl rfl cs
  rw [stripDelimiters, htrim, stripSlashes_between, stripCaret_of_head h.caret,
    stripDollar_of_last h.dollar]

theorem strip_anchors (cs : List Char) :
    stripDelimiters ('^' :: (cs ++ ['$'])) = stripDollar (cs ++ ['$']) := by
  have htrim : Text.trim ('^' :: (cs ++ ['$'])) = '^' :: (cs ++ ['$']) :=
    trim_between_marks rfl rfl cs
  rw [stripDelimiters, htrim]
  rfl

theorem strip_slashed_anchors (cs : List Char) :
    stripDelimiters ('/' :: ('^' :: (cs ++ ['$']) ++ ['/'])) = stripDollar (cs ++ ['$']) := by
  have htrim : Text.trim ('/' :: ('^' :: (cs ++ ['$']) ++ ['/'])) =
      '/' :: ('^' :: (cs ++ ['$']) ++ ['/']) := trim_between_marks rfl rfl _
  rw [stripDelimiters, htrim, stripSlashes_between]
  rfl

end Strip

theorem parse_congr {pattern other : String}
    (h : stripDelimiters pattern.toList = stripDelimiters other.toList) (maxRepeat : Nat) :
    parse pattern maxRepeat = parse other maxRepeat := by
  rw [parse, parse, h]

/-- With any budget larger than the text, the branches that begin it have this flaw. -/
def Refuses (maxRepeat depth : Nat) (cs : List Char) (flaw : Flaw) : Prop :=
  ∀ budget, (symbols cs).length < budget →
    branches maxRepeat budget depth (symbols cs) = .error flaw

theorem refuses_dollar (maxRepeat depth : Nat) (rest : List Char) :
    Refuses maxRepeat depth ('$' :: rest) .innerAnchor := by
  intro budget hbudget
  have hsymbols : symbols ('$' :: rest) = .plain '$' :: symbols rest :=
    symbols_cons (by decide) rest
  rw [hsymbols] at hbudget ⊢
  cases budget with
  | zero => simp at hbudget
  | succ budget =>
    rw [branches_element (by decide) (by decide)]
    rfl

theorem Refuses.bar {maxRepeat depth : Nat} {rest : List Char} {flaw : Flaw}
    (h : Refuses maxRepeat depth rest flaw) :
    Refuses maxRepeat depth ('|' :: rest) flaw := by
  intro budget hbudget
  have hsymbols : symbols ('|' :: rest) = .plain '|' :: symbols rest :=
    symbols_cons (by decide) rest
  rw [hsymbols] at hbudget ⊢
  cases budget with
  | zero => simp at hbudget
  | succ budget =>
    have hrest := h budget (by simpa using hbudget)
    rw [branches_bar, hrest]
    rfl

theorem Refuses.item {maxRepeat depth least most : Nat} {text mark rest : List Char} {tree : Tree}
    {flaw : Flaw}
    (htext : ReadsElement maxRepeat depth text (mark ++ rest) tree)
    (hmark : Quantifier maxRepeat mark least most) (hrest : Unquantified rest)
    (h : Refuses maxRepeat depth rest flaw) :
    Refuses maxRepeat depth (text ++ (mark ++ rest)) flaw := by
  obtain ⟨symbol, input, hsymbols, hclose, hbar, htree⟩ := htext
  have hinput := plain_backslash_not_mem_symbols (text ++ (mark ++ rest))
  intro budget hbudget
  rw [hsymbols] at hbudget hinput ⊢
  simp only [List.length_cons] at hbudget
  cases budget with
  | zero => omega
  | succ budget =>
    have helement := htree budget (by omega)
    have hbounds := quantifier_complete hmark hrest
    obtain ⟨hlength, hbehind⟩ := element_length hclose hbar hinput helement
    obtain ⟨hlength', -⟩ := quantifier_length hbehind hbounds
    have hflaw := h budget (by omega)
    rw [branches_element hclose hbar]
    simp only [helement, hbounds, hflaw, ok_bind]
    rfl

theorem Grammar.Concatenation.refuses {maxRepeat depth : Nat} {cs rest : List Char} {flaw : Flaw}
    {items : List Item} (h : Concatenation maxRepeat depth cs items) (hrest : Unquantified rest)
    (hflaw : Refuses maxRepeat depth rest flaw) : Refuses maxRepeat depth (cs ++ rest) flaw := by
  induction items generalizing cs with
  | nil =>
    cases h
    exact hflaw
  | cons item items ih =>
    cases h with
    | cons htext hmark hmore =>
      rw [List.append_assoc, List.append_assoc]
      exact (ih hmore).item (htext.reads _) hmark (hmore.unquantified hrest)

theorem Grammar.Alternation.refuses {maxRepeat depth : Nat} {cs rest : List Char} {flaw : Flaw}
    {branches : List (List Item)} (h : Alternation maxRepeat depth cs branches)
    (hrest : Unquantified rest) (hflaw : Refuses maxRepeat depth rest flaw) :
    Refuses maxRepeat depth (cs ++ rest) flaw := by
  induction branches generalizing cs with
  | nil => cases h
  | cons items others ih =>
    cases h with
    | last hitems => exact hitems.refuses hrest hflaw
    | cons hitems hmore =>
      rw [List.append_assoc]
      exact hitems.refuses (unquantified_bar _) (ih hmore).bar

theorem parseTree_concat_dollar {maxRepeat : Nat} {cs : List Char} {tree : Tree}
    (h : Derives maxRepeat cs tree) :
    parseTree maxRepeat (cs ++ ['$']) = .error .innerAnchor := by
  cases h with
  | root hbranches =>
    have hdollar : Unquantified ['$'] := by
      intro c behind heq
      obtain rfl := (List.cons.inj heq).1
      decide
    have hrefused := hbranches.refuses hdollar (refuses_dollar maxRepeat maxNesting [])
    have hflaw := hrefused ((symbols (cs ++ ['$'])).length + 1) (by omega)
    simp only [parseTree, hflaw]
    rfl

/-- Slashes around a pattern change nothing, and neither do anchors, with slashes or without, unless
the pattern ends with a backslash: then the dollar is refused. -/
theorem delimiters_immaterial {pattern : String} {maxRepeat : Nat} {tree : Tree}
    (hparse : parse pattern maxRepeat = .ok tree) (hplain : Undelimited pattern.toList) :
    parse ("/" ++ pattern ++ "/") maxRepeat = .ok tree ∧
    (pattern.toList.getLast? ≠ some '\\' →
      parse ("^" ++ pattern ++ "$") maxRepeat = .ok tree ∧
        parse ("/^" ++ pattern ++ "$/") maxRepeat = .ok tree) ∧
    (pattern.toList.getLast? = some '\\' →
      parse ("^" ++ pattern ++ "$") maxRepeat = .error .innerAnchor ∧
        parse ("/^" ++ pattern ++ "$/") maxRepeat = .error .innerAnchor) := by
  have hslashes : ("/" ++ pattern ++ "/").toList = '/' :: (pattern.toList ++ ['/']) := by simp
  have hanchors : ("^" ++ pattern ++ "$").toList = '^' :: (pattern.toList ++ ['$']) := by simp
  have hboth : ("/^" ++ pattern ++ "$/").toList =
      '/' :: ('^' :: (pattern.toList ++ ['$']) ++ ['/']) := by simp
  have hstrip := hplain.strip
  refine ⟨?_, fun hlast => ?_, fun hlast => ?_⟩
  · have hsame : parse ("/" ++ pattern ++ "/") maxRepeat = parse pattern maxRepeat :=
      parse_congr (by rw [hslashes, hplain.strip_slashes, hstrip]) maxRepeat
    rw [hsame, hparse]
  · have hdollar := stripDollar_concat pattern.toList
    rw [if_neg hlast] at hdollar
    have hanchored : parse ("^" ++ pattern ++ "$") maxRepeat = parse pattern maxRepeat :=
      parse_congr (by rw [hanchors, strip_anchors, hdollar, hstrip]) maxRepeat
    have hwrapped : parse ("/^" ++ pattern ++ "$/") maxRepeat = parse pattern maxRepeat :=
      parse_congr (by rw [hboth, strip_slashed_anchors, hdollar, hstrip]) maxRepeat
    rw [hanchored, hwrapped, hparse]
    exact ⟨rfl, rfl⟩
  · have hdollar := stripDollar_concat pattern.toList
    rw [if_pos hlast] at hdollar
    have hderives := (parse_eq_ok_iff.mp hparse).1
    rw [hstrip] at hderives
    have hrefused := parseTree_concat_dollar hderives
    have hflaw (other : String) (hother : stripDelimiters other.toList = pattern.toList ++ ['$']) :
        parse other maxRepeat = .error .innerAnchor := by
      rw [parse, hother, hrefused]
      rfl
    exact ⟨hflaw _ (by rw [hanchors, strip_anchors, hdollar]),
      hflaw _ (by rw [hboth, strip_slashed_anchors, hdollar])⟩

/-- A letter and a backslash. -/
def backslashAtEnd : Tree := .choice [[.repeated (.literal 'a') 1 1, .repeated (.literal '\\') 1 1]]

theorem parse_backslashAtEnd : parse "a\\\\" 0 = .ok backslashAtEnd := by
  have hbody : stripDelimiters "a\\\\".toList = ['a', '\\', '\\'] := by decide
  have hparsed : parseTree 0 ['a', '\\', '\\'] = .ok backslashAtEnd := by rfl
  rw [← hbody] at hparsed
  exact parse_eq_ok_iff.mpr ⟨parseTree_eq_ok_iff.mp hparsed, by decide, by decide⟩

theorem undelimited_backslashAtEnd : Undelimited "a\\\\".toList :=
  ⟨by decide, by decide, by decide, by decide⟩

theorem delimiters_immaterial_backslash :
    parse "a\\\\" 0 = .ok backslashAtEnd ∧ Undelimited "a\\\\".toList ∧
      parse "/a\\\\/" 0 = .ok backslashAtEnd ∧
      parse "^a\\\\$" 0 = .error .innerAnchor ∧ parse "/^a\\\\$/" 0 = .error .innerAnchor := by
  obtain ⟨hslashes, -, hanchors⟩ :=
    delimiters_immaterial parse_backslashAtEnd undelimited_backslashAtEnd
  have hlast : "a\\\\".toList.getLast? = some '\\' := by decide
  exact ⟨parse_backslashAtEnd, undelimited_backslashAtEnd, hslashes, hanchors hlast⟩

/-- Anchors around a pattern that ends with an escaped backslash do change it. -/
theorem anchors_not_always_immaterial :
    ¬ ∀ (pattern : String) (maxRepeat : Nat) (tree : Tree), parse pattern maxRepeat = .ok tree →
      Undelimited pattern.toList → parse ("^" ++ pattern ++ "$") maxRepeat = .ok tree := by
  intro h
  have hanchored := h "a\\\\" 0 backslashAtEnd parse_backslashAtEnd undelimited_backslashAtEnd
  have hderives := (parse_eq_ok_iff.mp hanchored).1
  have hbody : stripDelimiters ("^" ++ "a\\\\" ++ "$").toList = ['a', '\\', '\\', '$'] := by decide
  have hrefused : parseTree 0 ['a', '\\', '\\', '$'] = .error .innerAnchor := by rfl
  rw [hbody, ← parseTree_eq_ok_iff, hrefused] at hderives
  cases hderives

end Pastiche.Pattern
