import Pastiche.Engine
import Pastiche.Proofs.Pattern.CharClass
import Pastiche.Proofs.Pattern.Quantifier

/-!
Reading a pattern. The reader accepts exactly the texts that the grammar derives and gives the tree
of the derivation; its budget never runs out.
-/

namespace Pastiche.Pattern

open Grammar

/-- The tree before a quantifier: a group or an atom. -/
def element (maxRepeat budget depth : Nat) (symbol : Symbol) (rest : List Symbol) :
    Except Flaw (Tree × List Symbol) :=
  if symbol = .plain '(' then do
    let content ← groupContent rest
    match depth with
    | 0 => .error .tooNested
    | depth + 1 => do
      let ((first, others), rest) ← branches maxRepeat budget depth content
      match rest with
      | .plain ')' :: rest => .ok (.choice (first :: others), rest)
      | _ => .error .unclosedGroup
  else atom symbol rest

theorem branches_close (maxRepeat budget depth : Nat) (rest : List Symbol) :
    branches maxRepeat (budget + 1) depth (.plain ')' :: rest) =
      .ok (([], []), .plain ')' :: rest) := rfl

theorem branches_bar (maxRepeat budget depth : Nat) (rest : List Symbol) :
    branches maxRepeat (budget + 1) depth (.plain '|' :: rest) =
      branches maxRepeat budget depth rest >>= fun found =>
        .ok (([], found.1.1 :: found.1.2), found.2) := rfl

theorem branches_element {maxRepeat budget depth : Nat} {symbol : Symbol} {rest : List Symbol}
    (hclose : symbol ≠ .plain ')') (hbar : symbol ≠ .plain '|') :
    branches maxRepeat (budget + 1) depth (symbol :: rest) =
      element maxRepeat budget depth symbol rest >>= fun found =>
        quantifier maxRepeat found.2 >>= fun bounds =>
          branches maxRepeat budget depth bounds.2 >>= fun more =>
            .ok ((.repeated found.1 bounds.1.1 bounds.1.2 :: more.1.1, more.1.2), more.2) := by
  simp only [branches, element, if_neg hclose, if_neg hbar]
  by_cases hopen : symbol = .plain '('
  · simp only [if_pos hopen]
    cases groupContent rest with
    | error flaw => rfl
    | ok content =>
      cases depth with
      | zero => rfl
      | succ depth =>
        simp only [ok_bind]
        cases branches maxRepeat budget depth content with
        | error flaw => rfl
        | ok found =>
          obtain ⟨⟨first, others⟩, behind⟩ := found
          simp only [ok_bind]
          split
          · rfl
          · simp only
  · simp only [if_neg hopen]

theorem atom_sound {maxRepeat depth : Nat} {symbol : Symbol} {input rest : List Symbol}
    {tree : Tree} (hsymbol : symbol ∉ [.plain '(', .plain ')', .plain '|'])
    (hinput : .plain '\\' ∉ symbol :: input) (h : atom symbol input = .ok (tree, rest)) :
    ∃ used, input = used ++ rest ∧ Atom maxRepeat depth (symbol.text ++ spell used) tree := by
  unfold atom at h
  split at h
  · simp at h
  · rename_i c
    obtain ⟨e, he, htree⟩ := bind_eq_ok h
    have hescaped := escape_eq_ok_iff.mp he
    cases e with
    | char d =>
      obtain ⟨rfl, rfl⟩ := Prod.mk.inj (Except.ok.inj htree)
      exact ⟨[], rfl, .escapedChar hescaped⟩
    | set members =>
      obtain ⟨rfl, rfl⟩ := Prod.mk.inj (Except.ok.inj htree)
      exact ⟨[], rfl, .escapedSet hescaped⟩
  · obtain ⟨⟨members, beyond⟩, hmembers, htree⟩ := bind_eq_ok h
    obtain ⟨rfl, rfl⟩ := Prod.mk.inj (Except.ok.inj htree)
    obtain ⟨used, rfl, hused⟩ := charClass_sound (fun hm => hinput (by simp [hm])) hmembers
    exact ⟨used, rfl, .charClass hused⟩
  · obtain ⟨rfl, rfl⟩ := Prod.mk.inj (Except.ok.inj h)
    exact ⟨[], rfl, .any⟩
  · rename_i c hbracket hdot
    split at h
    · simp at h
    · rename_i hquantifier
      split at h
      · simp at h
      · rename_i hanchor
        obtain ⟨rfl, rfl⟩ := Prod.mk.inj (Except.ok.inj h)
        refine ⟨[], rfl, .literal ?_⟩
        simp only [metacharacters, List.mem_cons, List.not_mem_nil, or_false] at hsymbol ⊢
        simp only [List.mem_cons] at hinput
        rintro (rfl | rfl | rfl | rfl | rfl | rfl | rfl | rfl | rfl | rfl | rfl | rfl) <;> simp_all

theorem groupContent_sound {input content : List Symbol} (h : groupContent input = .ok content) :
    input = content ∨ input = .plain '?' :: .plain ':' :: content := by
  unfold groupContent at h
  split at h
  · exact .inr (by rw [Except.ok.inj h])
  · simp at h
  · exact .inl (Except.ok.inj h)

theorem Grammar.Alternation.item {maxRepeat depth least most : Nat} {text mark rest : List Char}
    {tree : Tree} {first : List Item} {others : List (List Item)}
    (htext : Atom maxRepeat depth text tree) (hmark : Quantifier maxRepeat mark least most)
    (hrest : Alternation maxRepeat depth rest (first :: others)) :
    Alternation maxRepeat depth (text ++ (mark ++ rest))
      ((.repeated tree least most :: first) :: others) := by
  cases hrest with
  | last h => exact .last (.cons htext hmark h)
  | cons hcs hrest => simpa using Alternation.cons (Concatenation.cons htext hmark hcs) hrest

/-- What a reader of alternatives with this budget takes, the grammar derives. -/
def ReadsSoundly (maxRepeat budget : Nat) : Prop :=
  ∀ {depth : Nat} {input rest : List Symbol} {first : List Item} {others : List (List Item)},
    .plain '\\' ∉ input → branches maxRepeat budget depth input = .ok ((first, others), rest) →
    ∃ used, input = used ++ rest ∧ Alternation maxRepeat depth (spell used) (first :: others)

theorem element_sound {maxRepeat budget depth : Nat} {symbol : Symbol} {input rest : List Symbol}
    {tree : Tree} (hbranches : ReadsSoundly maxRepeat budget) (hclose : symbol ≠ .plain ')')
    (hbar : symbol ≠ .plain '|') (hinput : .plain '\\' ∉ symbol :: input)
    (h : element maxRepeat budget depth symbol input = .ok (tree, rest)) :
    ∃ used, input = used ++ rest ∧ Atom maxRepeat depth (symbol.text ++ spell used) tree := by
  unfold element at h
  split at h
  · rename_i hopen
    subst hopen
    obtain ⟨content, hcontent, hgroup⟩ := bind_eq_ok h
    cases depth with
    | zero => simp at hgroup
    | succ depth =>
      obtain ⟨⟨⟨first, others⟩, behind⟩, hfirst, htree⟩ := bind_eq_ok hgroup
      simp only at htree
      split at htree
      · obtain ⟨rfl, rfl⟩ := Prod.mk.inj (Except.ok.inj htree)
        rcases groupContent_sound hcontent with rfl | rfl
        · obtain ⟨used, rfl, hused⟩ := hbranches (fun hm => hinput (by simp [hm])) hfirst
          refine ⟨used ++ [.plain ')'], by simp, ?_⟩
          simpa [spell, Symbol.text] using Atom.group hused
        · obtain ⟨used, rfl, hused⟩ := hbranches (fun hm => hinput (by simp [hm])) hfirst
          refine ⟨.plain '?' :: .plain ':' :: used ++ [.plain ')'], by simp, ?_⟩
          simpa [spell, Symbol.text] using Atom.markedGroup hused
      · simp at htree
  · exact atom_sound (by simp_all) hinput h

theorem branches_sound (maxRepeat budget : Nat) : ReadsSoundly maxRepeat budget := by
  induction budget with
  | zero =>
    intro depth input rest first others _ h
    simp [branches] at h
  | succ budget ih =>
    intro depth input rest first others hinput h
    cases input with
    | nil =>
      simp only [branches, Except.ok.injEq, Prod.mk.injEq] at h
      obtain ⟨⟨rfl, rfl⟩, rfl⟩ := h
      exact ⟨[], rfl, .last .nil⟩
    | cons symbol input =>
      by_cases hclose : symbol = .plain ')'
      · subst hclose
        simp only [branches_close, Except.ok.injEq, Prod.mk.injEq] at h
        obtain ⟨⟨rfl, rfl⟩, rfl⟩ := h
        exact ⟨[], rfl, .last .nil⟩
      · by_cases hbar : symbol = .plain '|'
        · subst hbar
          rw [branches_bar] at h
          obtain ⟨⟨⟨first', others'⟩, behind⟩, hfound, hrest⟩ := bind_eq_ok h
          simp only [Except.ok.injEq, Prod.mk.injEq] at hrest
          obtain ⟨⟨rfl, rfl⟩, rfl⟩ := hrest
          obtain ⟨used, rfl, hused⟩ := ih (fun hm => hinput (by simp [hm])) hfound
          exact ⟨.plain '|' :: used, rfl, .cons .nil hused⟩
        · rw [branches_element hclose hbar] at h
          obtain ⟨⟨tree, beyond⟩, htree, h⟩ := bind_eq_ok h
          obtain ⟨⟨⟨least, most⟩, behind⟩, hbounds, h⟩ := bind_eq_ok h
          obtain ⟨⟨⟨first', others'⟩, end'⟩, hmore, h⟩ := bind_eq_ok h
          simp only [Except.ok.injEq, Prod.mk.injEq] at h
          obtain ⟨⟨rfl, rfl⟩, rfl⟩ := h
          obtain ⟨text, rfl, htext⟩ := element_sound ih hclose hbar hinput htree
          obtain ⟨mark, rfl, hmark⟩ := quantifier_sound hbounds
          obtain ⟨used, rfl, hused⟩ := ih (fun hm => hinput (by simp [hm])) hmore
          refine ⟨symbol :: text ++ mark ++ used, by simp, ?_⟩
          simpa [spell] using hused.item htext hmark

theorem element_length {maxRepeat budget depth : Nat} {symbol : Symbol} {input rest : List Symbol}
    {tree : Tree} (hclose : symbol ≠ .plain ')') (hbar : symbol ≠ .plain '|')
    (hinput : .plain '\\' ∉ symbol :: input)
    (h : element maxRepeat budget depth symbol input = .ok (tree, rest)) :
    rest.length ≤ input.length ∧ .plain '\\' ∉ rest := by
  obtain ⟨used, rfl, -⟩ := element_sound (branches_sound maxRepeat budget) hclose hbar hinput h
  exact ⟨by simp, fun hm => hinput (by simp [hm])⟩

theorem quantifier_length {maxRepeat : Nat} {input rest : List Symbol} {bounds : Nat × Nat}
    (hinput : .plain '\\' ∉ input) (h : quantifier maxRepeat input = .ok (bounds, rest)) :
    rest.length ≤ input.length ∧ .plain '\\' ∉ rest := by
  obtain ⟨used, rfl, -⟩ := quantifier_sound h
  exact ⟨by simp, fun hm => hinput (by simp [hm])⟩

theorem element_congr {maxRepeat budget budget' depth : Nat} {symbol : Symbol} {input : List Symbol}
    (hinput : .plain '\\' ∉ input)
    (h : ∀ depth content, .plain '\\' ∉ content → content.length ≤ input.length →
      branches maxRepeat budget depth content = branches maxRepeat budget' depth content) :
    element maxRepeat budget depth symbol input = element maxRepeat budget' depth symbol input := by
  unfold element
  cases hcontent : groupContent input with
  | error flaw => rfl
  | ok content =>
    have hagree : ∀ depth, branches maxRepeat budget depth content =
        branches maxRepeat budget' depth content := by
      intro depth
      rcases groupContent_sound hcontent with rfl | rfl
      · exact h depth input hinput (Nat.le_refl _)
      · exact h depth content (fun hm => hinput (by simp [hm]))
          (by simp only [List.length_cons]; omega)
    simp only [ok_bind, hagree]

/-- A budget that is larger than the text makes no difference. -/
theorem branches_budget {maxRepeat budget budget' depth : Nat} {input : List Symbol}
    (hinput : .plain '\\' ∉ input) (hbudget : input.length < budget)
    (hbudget' : input.length < budget') :
    branches maxRepeat budget depth input = branches maxRepeat budget' depth input := by
  induction budget generalizing budget' depth input with
  | zero => omega
  | succ budget ih =>
    cases budget' with
    | zero => omega
    | succ budget' =>
      cases input with
      | nil => rfl
      | cons symbol input =>
        simp only [List.length_cons] at hbudget hbudget'
        have htail : .plain '\\' ∉ input := fun hm => hinput (by simp [hm])
        by_cases hclose : symbol = .plain ')'
        · rw [hclose, branches_close, branches_close]
        · by_cases hbar : symbol = .plain '|'
          · have hmore : branches maxRepeat budget depth input =
                branches maxRepeat budget' depth input := ih htail (by omega) (by omega)
            rw [hbar, branches_bar, branches_bar, hmore]
          · have helement : element maxRepeat budget depth symbol input =
                element maxRepeat budget' depth symbol input :=
              element_congr htail fun depth content hcontent hlength =>
                ih hcontent (by omega) (by omega)
            rw [branches_element hclose hbar, branches_element hclose hbar, helement]
            cases htree : element maxRepeat budget' depth symbol input with
            | error flaw => rfl
            | ok found =>
              obtain ⟨hlength, hfound⟩ := element_length hclose hbar hinput htree
              simp only [ok_bind]
              cases hbounds : quantifier maxRepeat found.2 with
              | error flaw => rfl
              | ok bounds =>
                obtain ⟨hlength', hrest⟩ := quantifier_length hfound hbounds
                have hmore : branches maxRepeat budget depth bounds.2 =
                    branches maxRepeat budget' depth bounds.2 := ih hrest (by omega) (by omega)
                simp only [ok_bind, hmore]

theorem Grammar.Atom.unquantified {maxRepeat depth : Nat} {cs : List Char} {tree : Tree}
    (h : Atom maxRepeat depth cs tree) (rest : List Char) : Unquantified (cs ++ rest) := by
  intro c behind he
  cases h with
  | literal hc =>
    obtain rfl := (List.cons.inj he).1
    simp only [metacharacters, List.mem_cons, List.not_mem_nil, or_false, not_or] at hc ⊢
    simp [hc]
  | _ =>
    obtain rfl := (List.cons.inj he).1
    simp

theorem Grammar.Concatenation.unquantified {maxRepeat depth : Nat} {cs rest : List Char}
    {items : List Item} (h : Concatenation maxRepeat depth cs items) (hrest : Unquantified rest) :
    Unquantified (cs ++ rest) := by
  cases h with
  | nil => exact hrest
  | cons htext _ _ =>
    rw [List.append_assoc]
    exact htext.unquantified _

theorem unquantified_bar (rest : List Char) : Unquantified ('|' :: rest) := by
  intro c behind he
  obtain rfl := (List.cons.inj he).1
  simp

theorem Grammar.Alternation.unquantified {maxRepeat depth : Nat} {cs rest : List Char}
    {branches : List (List Item)} (h : Alternation maxRepeat depth cs branches)
    (hrest : Unquantified rest) : Unquantified (cs ++ rest) := by
  cases h with
  | last hitems => exact hitems.unquantified hrest
  | cons hitems _ =>
    rw [List.append_assoc]
    exact hitems.unquantified (unquantified_bar _)

theorem groupContent_of_unquantified {cs : List Char} (h : Unquantified cs) :
    groupContent (symbols cs) = .ok (symbols cs) := by
  unfold groupContent
  split
  · rename_i behind hsymbols
    exact absurd (by simp) (h.not_mem hsymbols)
  · rename_i behind _ hsymbols
    exact absurd (by simp) (h.not_mem hsymbols)
  · rfl

/-- With any budget larger than the text, these branches are read from it up to the rest. -/
def Reads (maxRepeat depth : Nat) (cs : List Char) (first : List Item) (others : List (List Item))
    (rest : List Symbol) : Prop :=
  ∀ budget, (symbols cs).length < budget →
    branches maxRepeat budget depth (symbols cs) = .ok ((first, others), rest)

def Ends (cs : List Char) : Prop := cs = [] ∨ ∃ rest, cs = ')' :: rest

theorem Ends.unquantified {cs : List Char} (h : Ends cs) : Unquantified cs := by
  intro c rest he
  rcases h with rfl | ⟨behind, rfl⟩
  · simp at he
  · obtain rfl := (List.cons.inj he).1
    simp

theorem Ends.reads {cs : List Char} (h : Ends cs) (maxRepeat depth : Nat) :
    Reads maxRepeat depth cs [] [] (symbols cs) := by
  intro budget hbudget
  cases budget with
  | zero => omega
  | succ budget =>
    rcases h with rfl | ⟨rest, rfl⟩
    · rfl
    · rw [symbols_cons (by decide), branches_close]

theorem Reads.bar {maxRepeat depth : Nat} {cs : List Char} {first : List Item}
    {others : List (List Item)} {rest : List Symbol}
    (h : Reads maxRepeat depth cs first others rest) :
    Reads maxRepeat depth ('|' :: cs) [] (first :: others) rest := by
  intro budget hbudget
  rw [symbols_cons (by decide)] at hbudget ⊢
  simp only [List.length_cons] at hbudget
  cases budget with
  | zero => omega
  | succ budget =>
    rw [branches_bar, h budget (by omega)]
    rfl

/-- How the text of a tree is read before a quantifier. -/
def ReadsElement (maxRepeat depth : Nat) (cs rest : List Char) (tree : Tree) : Prop :=
  ∃ symbol input, symbols (cs ++ rest) = symbol :: input ∧ symbol ≠ .plain ')' ∧
    symbol ≠ .plain '|' ∧ ∀ budget, input.length < budget →
      element maxRepeat budget depth symbol input = .ok (tree, symbols rest)

theorem Reads.item {maxRepeat depth least most : Nat} {text mark rest : List Char} {tree : Tree}
    {first : List Item} {others : List (List Item)} {out : List Symbol}
    (htext : ReadsElement maxRepeat depth text (mark ++ rest) tree)
    (hmark : Quantifier maxRepeat mark least most) (hrest : Unquantified rest)
    (h : Reads maxRepeat depth rest first others out) :
    Reads maxRepeat depth (text ++ (mark ++ rest)) (.repeated tree least most :: first) others
      out := by
  obtain ⟨symbol, input, hsymbols, hclose, hbar, htree⟩ := htext
  have hinput := plain_backslash_not_mem_symbols (text ++ (mark ++ rest))
  intro budget hbudget
  rw [hsymbols] at hbudget hinput ⊢
  simp only [List.length_cons] at hbudget
  cases budget with
  | zero => omega
  | succ budget =>
    have helement := htree budget (by omega)
    have hbounds := quantifier_complete hmark hrest
    obtain ⟨hlength, hbehind⟩ := element_length hclose hbar hinput helement
    obtain ⟨hlength', -⟩ := quantifier_length hbehind hbounds
    have hmore := h budget (by omega)
    rw [branches_element hclose hbar]
    simp only [helement, hbounds, hmore, ok_bind]

theorem atom_plain {c : Char} (h : c ∉ metacharacters) (input : List Symbol) :
    atom (.plain c) input = .ok (.literal c, input) := by
  simp only [metacharacters, List.mem_cons, List.not_mem_nil, or_false, not_or] at h
  simp [atom, h]

theorem readsElement_atom {maxRepeat depth : Nat} {cs rest : List Char} {tree : Tree}
    {symbol : Symbol} {input : List Symbol} (hsymbols : symbols (cs ++ rest) = symbol :: input)
    (hsymbol : symbol ∉ [.plain '(', .plain ')', .plain '|'])
    (h : atom symbol input = .ok (tree, symbols rest)) :
    ReadsElement maxRepeat depth cs rest tree := by
  simp only [List.mem_cons, List.not_mem_nil, or_false, not_or] at hsymbol
  refine ⟨symbol, input, hsymbols, hsymbol.2.1, hsymbol.2.2, ?_⟩
  intro budget _
  simp only [element, if_neg hsymbol.1, h]

theorem readsElement_group {maxRepeat depth : Nat} {cs content rest : List Char}
    {input : List Symbol} {first : List Item} {others : List (List Item)}
    (hsymbols : symbols (cs ++ rest) = .plain '(' :: input)
    (hcontent : groupContent input = .ok (symbols (content ++ ')' :: rest)))
    (h : Reads maxRepeat depth (content ++ ')' :: rest) first others (symbols (')' :: rest))) :
    ReadsElement maxRepeat (depth + 1) cs rest (.choice (first :: others)) := by
  refine ⟨.plain '(', input, hsymbols, by simp, by simp, ?_⟩
  intro budget hbudget
  have hlength : (symbols (content ++ ')' :: rest)).length < budget := by
    rcases groupContent_sound hcontent with rfl | rfl
    · exact hbudget
    · simp only [List.length_cons] at hbudget
      omega
  have hbranches := h budget hlength
  rw [symbols_cons (by decide)] at hbranches
  simp only [element, if_true, hcontent, hbranches, ok_bind]

mutual

theorem Grammar.Atom.reads {maxRepeat depth : Nat} {cs : List Char} {tree : Tree}
    (h : Atom maxRepeat depth cs tree) (rest : List Char) :
    ReadsElement maxRepeat depth cs rest tree := by
  cases h with
  | literal hc =>
    have hne := hc
    simp only [metacharacters, List.mem_cons, List.not_mem_nil, or_false, not_or] at hne
    exact readsElement_atom (symbols_cons hne.1 rest) (by simp [hne]) (atom_plain hc _)
  | any => exact readsElement_atom (symbols_cons (by decide) rest) (by simp) rfl
  | escapedChar hc =>
    exact readsElement_atom (symbols_backslash _ rest) (by simp)
      (by simp [atom, escape_eq_ok_iff.mpr hc])
  | escapedSet hc =>
    exact readsElement_atom (symbols_backslash _ rest) (by simp)
      (by simp [atom, escape_eq_ok_iff.mpr hc])
  | charClass hclass =>
    exact readsElement_atom (symbols_cons (by decide) _) (by simp)
      (by simp [atom, charClass_complete hclass])
  | @group depth content branches hbranches =>
    have hends : Ends (')' :: rest) := .inr ⟨rest, rfl⟩
    obtain ⟨first, others, rfl, hreads⟩ := hbranches.reads hends
    have hcontent := groupContent_of_unquantified (hbranches.unquantified hends.unquantified)
    refine readsElement_group ?_ hcontent hreads
    simpa using symbols_cons (by decide) (content ++ ')' :: rest)
  | @markedGroup depth content branches hbranches =>
    have hends : Ends (')' :: rest) := .inr ⟨rest, rfl⟩
    obtain ⟨first, others, rfl, hreads⟩ := hbranches.reads hends
    have hsymbols : symbols ('(' :: '?' :: ':' :: content ++ [')'] ++ rest) =
        .plain '(' :: .plain '?' :: .plain ':' :: symbols (content ++ ')' :: rest) := by
      simp [symbols_cons]
    exact readsElement_group hsymbols rfl hreads

theorem Grammar.Concatenation.reads {maxRepeat depth : Nat} {cs rest : List Char}
    {items first : List Item} {others : List (List Item)} {out : List Symbol}
    (h : Concatenation maxRepeat depth cs items) (hrest : Unquantified rest)
    (hreads : Reads maxRepeat depth rest first others out) :
    Reads maxRepeat depth (cs ++ rest) (items ++ first) others out := by
  cases h with
  | nil => exact hreads
  | cons htext hmark hmore =>
    rw [List.append_assoc, List.append_assoc]
    exact (hmore.reads hrest hreads).item (htext.reads _) hmark (hmore.unquantified hrest)

theorem Grammar.Alternation.reads {maxRepeat depth : Nat} {cs rest : List Char}
    {branches : List (List Item)} (h : Alternation maxRepeat depth cs branches)
    (hrest : Ends rest) :
    ∃ first others, branches = first :: others ∧
      Reads maxRepeat depth (cs ++ rest) first others (symbols rest) := by
  cases h with
  | last hitems =>
    refine ⟨_, [], rfl, ?_⟩
    simpa using hitems.reads hrest.unquantified (hrest.reads maxRepeat depth)
  | @cons _ cs more items others hitems hmore =>
    obtain ⟨first, others, rfl, hreads⟩ := hmore.reads hrest
    refine ⟨items, first :: others, rfl, ?_⟩
    simpa using hitems.reads (unquantified_bar _) hreads.bar

end

theorem parseTree_eq_ok_iff {maxRepeat : Nat} {body : List Char} {tree : Tree} :
    parseTree maxRepeat body = .ok tree ↔ Derives maxRepeat body tree := by
  constructor
  · intro h
    obtain ⟨⟨⟨first, others⟩, rest⟩, hbranches, htree⟩ := bind_eq_ok h
    obtain ⟨used, hused, hderives⟩ :=
      branches_sound maxRepeat _ (plain_backslash_not_mem_symbols body) hbranches
    cases rest with
    | nil =>
      obtain rfl := Except.ok.inj htree
      rw [List.append_nil] at hused
      rw [← hused, spell_symbols] at hderives
      exact .root hderives
    | cons symbol rest => simp at htree
  · intro h
    cases h with
    | root hbranches =>
      obtain ⟨first, others, rfl, hreads⟩ := hbranches.reads (.inl rfl)
      rw [List.append_nil] at hreads
      have hparsed := hreads ((symbols body).length + 1) (by omega)
      simp only [parseTree, hparsed, ok_bind, symbols]

theorem parse_eq_ok_iff {pattern : String} {maxRepeat : Nat} {tree : Tree} :
    parse pattern maxRepeat = .ok tree ↔
      Derives maxRepeat (stripDelimiters pattern.toList) tree ∧
        tree.maxLength ≤ maxOutput ∧ tree.maxVisits ≤ maxSteps := by
  constructor
  · intro h
    obtain ⟨found, hfound, htree⟩ := bind_eq_ok h
    split at htree
    · simp at htree
    · split at htree
      · simp at htree
      · obtain rfl := Except.ok.inj htree
        exact ⟨parseTree_eq_ok_iff.mp hfound, by omega, by omega⟩
  · rintro ⟨hderives, hlength, hvisits⟩
    simp only [parse, parseTree_eq_ok_iff.mpr hderives, ok_bind, if_neg (Nat.not_lt.mpr hlength),
      if_neg (Nat.not_lt.mpr hvisits)]

theorem Grammar.Derives.unique {maxRepeat : Nat} {body : List Char} {tree other : Tree}
    (h : Derives maxRepeat body tree) (h' : Derives maxRepeat body other) : tree = other :=
  Except.ok.inj ((parseTree_eq_ok_iff.mpr h).symm.trans (parseTree_eq_ok_iff.mpr h'))

theorem generate_of_flaw {σ : Type} [Source σ] {engine : Engine} {pattern : String} {flaw : Flaw}
    (h : parse pattern engine.config.maxRepeat = .error flaw) (session : Session σ) :
    engine.generate (.regexify pattern) session =
      (.error (.invalidPattern pattern flaw), session) := by
  simp only [Engine.generate, h]
  rfl

/-- The reader gives a tree exactly where the grammar derives it from the whole text between the
delimiters, and this is the only one. Any other text is an invalid pattern. However much larger
than the text the budget is, the outcome is the same. -/
theorem reading_follows_grammar (pattern : String) (maxRepeat : Nat) :
    (∀ tree, parseTree maxRepeat (stripDelimiters pattern.toList) = .ok tree ↔
      Derives maxRepeat (stripDelimiters pattern.toList) tree) ∧
    (∀ tree other, Derives maxRepeat (stripDelimiters pattern.toList) tree →
      Derives maxRepeat (stripDelimiters pattern.toList) other → tree = other) ∧
    (∀ tree, parse pattern maxRepeat = .ok tree ↔
      Derives maxRepeat (stripDelimiters pattern.toList) tree ∧
        tree.maxLength ≤ maxOutput ∧ tree.maxVisits ≤ maxSteps) ∧
    ((¬ ∃ tree, Derives maxRepeat (stripDelimiters pattern.toList) tree) →
      ∃ flaw, parseTree maxRepeat (stripDelimiters pattern.toList) = .error flaw ∧
        ∀ (σ : Type) [Source σ] (config : Config) (registry : Registry) (store : Store)
          (session : Session σ),
          (Engine.mk { config with maxRepeat } registry store).generate (.regexify pattern)
            session = (.error (.invalidPattern pattern flaw), session)) ∧
    ∀ budget, (symbols (stripDelimiters pattern.toList)).length < budget →
      branches maxRepeat budget maxNesting (symbols (stripDelimiters pattern.toList)) =
        branches maxRepeat ((symbols (stripDelimiters pattern.toList)).length + 1) maxNesting
          (symbols (stripDelimiters pattern.toList)) := by
  refine ⟨fun tree => parseTree_eq_ok_iff, fun tree other => Derives.unique,
    fun tree => parse_eq_ok_iff, ?_, ?_⟩
  · intro hnone
    cases hparsed : parseTree maxRepeat (stripDelimiters pattern.toList) with
    | ok tree => exact absurd ⟨tree, parseTree_eq_ok_iff.mp hparsed⟩ hnone
    | error flaw =>
      refine ⟨flaw, rfl, ?_⟩
      intro σ _ config registry store session
      have hflaw : parse pattern maxRepeat = .error flaw := by
        simp only [parse, hparsed]
        rfl
      let engine : Engine := ⟨{ config with maxRepeat }, registry, store⟩
      have hengine : parse pattern engine.config.maxRepeat = .error flaw := hflaw
      exact generate_of_flaw hengine session
  · intro budget hbudget
    exact branches_budget (plain_backslash_not_mem_symbols _) hbudget (by omega)

end Pastiche.Pattern
