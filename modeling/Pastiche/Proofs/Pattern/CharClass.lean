import Pastiche.Proofs.Pattern.Lexeme

/-! Reading a class: it takes a text that the grammar derives, whatever stands behind it. -/

namespace Pastiche.Pattern

open Grammar

theorem extend_eq_ok {members listed : List Char} {rest : List Symbol}
    {found : Except Flaw (List Char × List Symbol)}
    (h : extend members found = .ok (listed, rest)) :
    ∃ more, found = .ok (more, rest) ∧ listed = members ++ more := by
  cases found with
  | error flaw => simp [extend] at h
  | ok found =>
    obtain ⟨more, rest'⟩ := found
    obtain ⟨rfl, rfl⟩ := Prod.mk.inj (Except.ok.inj h)
    exact ⟨more, rfl, rfl⟩

theorem Symbol.eq_plain_of_text {symbol : Symbol} {c : Char} (hc : c ≠ '\\')
    (h : symbol.text = [c]) : symbol = .plain c := by
  have htext : symbol.text ++ [] = [c] := by rw [List.append_nil, h]
  exact (Symbol.eq_plain hc htext).1

theorem first_of_text {symbol : Symbol} {first : Bool}
    (hclosing : ¬ (symbol = .plain ']' ∧ first = false)) (h : symbol.text = [']']) :
    first = true := by
  have hsymbol : symbol = .plain ']' := Symbol.eq_plain_of_text (by decide) h
  simpa [hsymbol] using hclosing

theorem not_opensRange {used rest input : List Symbol}
    (hinput : input = used ++ .plain ']' :: rest)
    (hrange : ∀ last beyond, input = .plain '-' :: last :: beyond → last = .plain ']') :
    ¬ OpensRange (spell used ++ [']']) := by
  rintro ⟨c, cs, hcs, hc⟩
  have hspell : spell (used ++ [.plain ']']) = '-' :: c :: cs := by
    simpa [spell, Symbol.text] using hcs
  obtain ⟨tail, htail, hrest⟩ := spell_eq_cons (by decide) hspell
  cases tail with
  | nil => simp [spell] at hrest
  | cons last beyond =>
    have he : input = .plain '-' :: last :: (beyond ++ rest) := by
      rw [hinput, List.append_cons, htail]
      rfl
    have hlast := hrange last (beyond ++ rest) he
    subst hlast
    simp only [spell, Symbol.text, List.cons_append, List.nil_append, List.cons.injEq] at hrest
    exact hc hrest.1.symm

theorem listing_single {first : Bool} {symbol : Symbol} {c : Char} {input used rest : List Symbol}
    {more : List Char} (hsymbol : symbol ≠ .plain '\\')
    (hclosing : ¬ (symbol = .plain ']' ∧ first = false)) (hmember : symbol.member = .ok (.char c))
    (hused : input = used ++ .plain ']' :: rest)
    (hrange : ∀ last beyond, input = .plain '-' :: last :: beyond → last = .plain ']')
    (hlisting : Listing false (spell used) more) :
    Listing first (spell (symbol :: used)) (c :: more) := by
  have hpart := (member_eq_ok_iff hsymbol).mp hmember
  have halone := not_opensRange hused hrange
  exact .single hpart (first_of_text hclosing) halone hlisting

theorem classMembers_sound {first : Bool} {input rest : List Symbol} {listed : List Char}
    (hinput : .plain '\\' ∉ input) (h : classMembers first input = .ok (listed, rest)) :
    ∃ used, input = used ++ .plain ']' :: rest ∧ Listing first (spell used) listed := by
  fun_induction classMembers first input generalizing listed rest with
  | case1 | case3 | case6 | case7 | case8 => simp at h
  | case2 first symbol input hclosing =>
    obtain ⟨rfl, rfl⟩ := hclosing
    obtain ⟨rfl, rfl⟩ := Prod.mk.inj (Except.ok.inj h)
    exact ⟨[], rfl, .nil⟩
  | case4 first symbol input hclosing members hmember ih =>
    obtain ⟨more, hmore, rfl⟩ := extend_eq_ok h
    obtain ⟨used, rfl, hused⟩ := ih (fun hm => hinput (by simp [hm])) hmore
    have hpart := (member_eq_ok_iff fun he => hinput (by simp [he])).mp hmember
    exact ⟨symbol :: used, rfl, .set hpart hused⟩
  | case5 first symbol hclosing c hmember beyond ih =>
    obtain ⟨more, hmore, rfl⟩ := extend_eq_ok h
    obtain ⟨used, hused, hlisting⟩ := ih (fun hm => hinput (List.mem_cons_of_mem _ hm)) hmore
    exact ⟨symbol :: used, by simp [hused],
      listing_single (fun he => hinput (by simp [he])) hclosing hmember hused (by simp) hlisting⟩
  | case9 first symbol hclosing start hmember last beyond hlast stop hstop hle ih =>
    obtain ⟨more, hmore, rfl⟩ := extend_eq_ok h
    obtain ⟨used, rfl, hlisting⟩ := ih (fun hm => hinput (by simp [hm])) hmore
    have hpart := (member_eq_ok_iff fun he => hinput (by simp [he])).mp hmember
    have hend := (member_eq_ok_iff fun he => hinput (by simp [he])).mp hstop
    have hclose : last.text ≠ [']'] := fun he =>
      hlast (Symbol.eq_plain_of_text (by decide) he)
    refine ⟨symbol :: .plain '-' :: last :: used, rfl, ?_⟩
    simpa [spell, Symbol.text] using
      Listing.range hpart (first_of_text hclosing) hend hclose (by simpa using hle) hlisting
  | case10 first symbol hclosing c hmember input hrange ih =>
    obtain ⟨more, hmore, rfl⟩ := extend_eq_ok h
    obtain ⟨used, hused, hlisting⟩ := ih (fun hm => hinput (List.mem_cons_of_mem _ hm)) hmore
    exact ⟨symbol :: used, by simp [hused],
      listing_single (fun he => hinput (by simp [he])) hclosing hmember hused
        (fun last beyond he => (hrange last beyond he).elim) hlisting⟩

theorem opensRange_of_symbols {cs rest : List Char} {last : Symbol} {beyond : List Symbol}
    (h : symbols (cs ++ ']' :: rest) = .plain '-' :: last :: beyond) (hlast : last ≠ .plain ']') :
    OpensRange (cs ++ [']']) := by
  have hcs : cs ++ ']' :: rest = '-' :: (last.text ++ spell beyond) := by
    rw [← spell_symbols (cs ++ ']' :: rest), h]
    rfl
  cases cs with
  | nil => simp at hcs
  | cons c cs =>
    simp only [List.cons_append, List.cons.injEq] at hcs
    obtain ⟨rfl, hcs⟩ := hcs
    cases cs with
    | nil => exact absurd (Symbol.eq_plain (by decide) hcs.symm).1 hlast
    | cons d cs =>
      refine ⟨d, cs ++ [']'], rfl, ?_⟩
      rintro rfl
      exact hlast (Symbol.eq_plain (by decide) hcs.symm).1

theorem not_closing {symbol : Symbol} {first : Bool} (h : symbol.text = [']'] → first = true) :
    ¬ (symbol = .plain ']' ∧ first = false) := by
  rintro ⟨rfl, rfl⟩
  exact Bool.noConfusion (h rfl)

theorem classMembers_complete {first : Bool} {cs listed : List Char} (h : Listing first cs listed)
    (rest : List Char) :
    classMembers first (symbols (cs ++ ']' :: rest)) = .ok (listed, symbols rest) := by
  induction h with
  | nil =>
    rw [List.nil_append, symbols_cons (by decide)]
    simp [classMembers]
  | @set first part cs members more hpart _ ih =>
    obtain ⟨symbol, htext, hmember, hsymbols⟩ := hpart.exists_symbol
    have hclosing : ¬ (symbol = .plain ']' ∧ first = false) := by
      rintro ⟨rfl, rfl⟩
      simp [Symbol.member] at hmember
    rw [List.append_assoc, hsymbols]
    simp only [classMembers, if_neg hclosing, hmember, ih, extend]
  | @single first part cs more c hpart hfirst halone _ ih =>
    obtain ⟨symbol, htext, hmember, hsymbols⟩ := hpart.exists_symbol
    have hclosing : ¬ (symbol = .plain ']' ∧ first = false) :=
      not_closing fun he => hfirst (htext.symm.trans he)
    rw [List.append_assoc, hsymbols]
    unfold classMembers
    simp only [if_neg hclosing, hmember]
    split
    · rename_i last beyond he
      have hlast : last = .plain ']' :=
        Classical.byContradiction fun hne => halone (opensRange_of_symbols he hne)
      rw [if_pos hlast, ← he, ih]
      rfl
    · rw [ih]
      rfl
  | @range first part last cs more start stop hpart hfirst hlast hclose hle _ ih =>
    obtain ⟨symbol, htext, hmember, hsymbols⟩ := hpart.exists_symbol
    obtain ⟨closing, hctext, hcmember, hcsymbols⟩ := hlast.exists_symbol
    have hclosing : ¬ (symbol = .plain ']' ∧ first = false) :=
      not_closing fun he => hfirst (htext.symm.trans he)
    have hne : closing ≠ .plain ']' := by
      rintro rfl
      exact hclose hctext.symm
    rw [List.append_assoc, List.append_assoc, List.cons_append, hsymbols,
      symbols_cons (by decide), hcsymbols]
    unfold classMembers
    simp only [if_neg hclosing, hmember, if_neg hne, hcmember, if_neg (Char.not_lt.mpr hle), ih,
      extend]

theorem charClass_caret (input : List Symbol) :
    charClass (.plain '^' :: input) = classMembers true input >>= fun found =>
      if complement found.1 = [] then .error .emptyClass
      else .ok (complement found.1, found.2) := by
  simp [charClass]

theorem charClass_of_no_caret {input : List Symbol} (h : input.head? ≠ some (.plain '^')) :
    charClass input = classMembers true input >>= fun found =>
      if normalize found.1 = [] then .error .emptyClass
      else .ok (normalize found.1, found.2) := by
  cases input with
  | nil => simp [charClass]
  | cons symbol input =>
    have hne : symbol ≠ .plain '^' := by simpa using h
    simp [charClass, hne]

theorem charClass_sound {input rest : List Symbol} {members : List Char}
    (hinput : .plain '\\' ∉ input) (h : charClass input = .ok (members, rest)) :
    ∃ used, input = used ++ rest ∧ Class (spell used) members := by
  by_cases hcaret : input.head? = some (.plain '^')
  · obtain ⟨input, rfl⟩ := List.head?_eq_some_iff.mp hcaret
    rw [charClass_caret] at h
    obtain ⟨⟨listed, beyond⟩, hlisted, hmembers⟩ := bind_eq_ok h
    obtain ⟨used, rfl, hused⟩ := classMembers_sound (fun hm => hinput (by simp [hm])) hlisted
    by_cases hempty : complement listed = []
    · simp [hempty] at hmembers
    · simp only [if_neg hempty, Except.ok.injEq, Prod.mk.injEq] at hmembers
      obtain ⟨rfl, rfl⟩ := hmembers
      refine ⟨.plain '^' :: used ++ [.plain ']'], by simp, ?_⟩
      simpa [spell, Symbol.text] using Class.negative hused hempty
  · rw [charClass_of_no_caret hcaret] at h
    obtain ⟨⟨listed, beyond⟩, hlisted, hmembers⟩ := bind_eq_ok h
    obtain ⟨used, rfl, hused⟩ := classMembers_sound hinput hlisted
    by_cases hempty : normalize listed = []
    · simp [hempty] at hmembers
    · simp only [if_neg hempty, Except.ok.injEq, Prod.mk.injEq] at hmembers
      obtain ⟨rfl, rfl⟩ := hmembers
      have hhead : (spell used).head? ≠ some '^' := by
        intro hspell
        obtain ⟨cs, hcs⟩ := List.head?_eq_some_iff.mp hspell
        obtain ⟨tail, rfl, -⟩ := spell_eq_cons (by decide) hcs
        exact hcaret rfl
      refine ⟨used ++ [.plain ']'], by simp, ?_⟩
      simpa [spell, Symbol.text] using Class.positive hhead hused hempty

theorem charClass_complete {cs members : List Char} (h : Class cs members) (rest : List Char) :
    charClass (symbols (cs ++ rest)) = .ok (members, symbols rest) := by
  cases h with
  | @positive cs listed hcaret hcs hmembers =>
    have hhead : (symbols (cs ++ ']' :: rest)).head? ≠ some (.plain '^') := by
      intro hsymbols
      obtain ⟨tail, htail⟩ := List.head?_eq_some_iff.mp hsymbols
      have hspell := spell_symbols (cs ++ ']' :: rest)
      rw [htail] at hspell
      cases cs with
      | nil => simp [spell, Symbol.text] at hspell
      | cons c cs =>
        simp only [spell, Symbol.text, List.cons_append, List.nil_append,
          List.cons.injEq] at hspell
        exact hcaret (by rw [← hspell.1]; rfl)
    rw [List.append_assoc, List.singleton_append, charClass_of_no_caret hhead,
      classMembers_complete hcs]
    simp [hmembers]
  | @negative cs listed hcs hmembers =>
    rw [List.append_assoc, List.cons_append, symbols_cons (by decide), charClass_caret,
      List.singleton_append, classMembers_complete hcs]
    simp [hmembers]

end Pastiche.Pattern
