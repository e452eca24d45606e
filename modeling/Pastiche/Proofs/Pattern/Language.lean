import Mathlib.Computability.Language
import Pastiche.Proofs.Engine.Run
import Pastiche.Proofs.Pattern.WellFormed

/-!
The texts of a tree as a language, and generation against it: whatever the source gives, the text is
in the language, and every text of the language comes from some list of draws.
-/

namespace Pastiche.Pattern

/-- So many texts of a language one after the other, at least and at most. -/
def repetitions (language : Language Char) (least most : Nat) : Language Char :=
  {text | ∃ count, least ≤ count ∧ count ≤ most ∧ text ∈ language ^ count}

mutual

/-- The usual meaning of a tree. -/
def Tree.language : Tree → Language Char
  | .literal c => {[c]}
  | .oneOf members => {text | ∃ c ∈ members, text = [c]}
  | .choice branches => branchesLanguage branches

def branchesLanguage : List (List Item) → Language Char
  | [] => 0
  | branch :: others => itemsLanguage branch + branchesLanguage others

def itemsLanguage : List Item → Language Char
  | [] => 1
  | .repeated tree least most :: rest =>
    repetitions tree.language least most * itemsLanguage rest

end

section Soundness

variable {σ : Type}

theorem passes_mem {pass : StateM σ (List Char)} {language : Language Char}
    (h : ∀ source, (pass source).1 ∈ language) (count : Nat) (source : σ) :
    (passes pass count source).1 ∈ language ^ count := by
  induction count generalizing source with
  | zero => exact Language.nil_mem_one
  | succ count ih =>
    rw [pow_succ']
    exact Language.append_mem_mul (h source) (ih (pass source).2)

variable [Source σ]

theorem choose_lt {bound : Nat} (h : 0 < bound) (source : σ) : (choose bound source).1 < bound := by
  unfold choose
  split
  · exact h
  · exact pick_lt h source

mutual

theorem Tree.generate_mem {tree : Tree} (h : tree.WellFormed) (source : σ) :
    (tree.generate source).1 ∈ tree.language := by
  cases tree with
  | literal c => rfl
  | oneOf members =>
    have hlt := choose_lt (List.length_pos_iff.mpr h.1) source
    refine ⟨members[(choose members.length source).1], List.getElem_mem hlt, ?_⟩
    simp only [Tree.generate, bind_state, List.getElem?_eq_getElem hlt]
    rfl
  | choice branches =>
    exact generateBranch_mem h.2 (choose_lt (List.length_pos_iff.mpr h.1) source) _

theorem generateBranch_mem {branches : List (List Item)} (h : BranchesWellFormed branches)
    {index : Nat} (hindex : index < branches.length) (source : σ) :
    (generateBranch branches index source).1 ∈ branchesLanguage branches := by
  cases branches with
  | nil => simp at hindex
  | cons branch others =>
    cases index with
    | zero => exact .inl (generateItems_mem h.1 source)
    | succ index => exact .inr (generateBranch_mem h.2 (by simpa using hindex) source)

theorem generateItems_mem {items : List Item} (h : ItemsWellFormed items) (source : σ) :
    (generateItems items source).1 ∈ itemsLanguage items := by
  cases items with
  | nil => exact Language.nil_mem_one
  | cons item rest =>
    cases item with
    | repeated tree least most =>
      obtain ⟨htree, hle, hrest⟩ := h
      have hextra : (choose (most - least + 1) source).1 < most - least + 1 :=
        choose_lt (by omega) source
      have hpasses := passes_mem (fun s => tree.generate_mem htree s)
        (least + (choose (most - least + 1) source).1) (choose (most - least + 1) source).2
      exact Language.append_mem_mul ⟨_, by omega, by omega, hpasses⟩ (generateItems_mem hrest _)

end

end Soundness

section Completeness

variable {α β : Type}

/-- Some draws lead the step to a result, wherever in a longer list they stand. -/
def Yields (step : StateM RandomSource α) (result : α) : Prop :=
  ∃ values, ∀ before after, step (.cycle (before ++ values ++ after) before.length) =
    (result, .cycle (before ++ values ++ after) (before.length + values.length))

theorem Yields.pure (result : α) : Yields (pure result) result := ⟨[], fun _ _ => rfl⟩

theorem Yields.bind {step : StateM RandomSource α} {next : α → StateM RandomSource β} {a : α}
    {result : β} (h : Yields step a) (hnext : Yields (next a) result) :
    Yields (step >>= next) result := by
  obtain ⟨values, hvalues⟩ := h
  obtain ⟨more, hmore⟩ := hnext
  refine ⟨values ++ more, fun before after => ?_⟩
  have hfirst := hvalues before (more ++ after)
  have hsecond := hmore (before ++ values) after
  simp only [List.append_assoc, List.length_append] at hfirst hsecond ⊢
  rw [bind_state, hfirst, hsecond, Nat.add_assoc]

/-- A choice that there is asks for one draw, and one that there is not asks for none. -/
theorem yields_choose {bound index : Nat} (h : index < bound) : Yields (choose bound) index := by
  by_cases hbound : bound ≤ 1
  · have hindex : index = 0 := by omega
    have hchoose : choose bound = (pure 0 : StateM RandomSource Nat) := if_pos hbound
    rw [hindex, hchoose]
    exact Yields.pure 0
  · refine ⟨[index], fun before after => ?_⟩
    have hchoose : choose bound = (pick bound : StateM RandomSource Nat) := if_neg hbound
    have hlt : before.length < (before ++ [index] ++ after).length := by simp
    have hvalue : (before ++ [index] ++ after)[before.length]? = some index := by simp
    rw [hchoose]
    simp only [pick, Source.draw, RandomSource.drawFrom, if_neg hbound, Nat.mod_eq_of_lt hlt,
      hvalue, Option.getD_some, Nat.mod_eq_of_lt h, List.length_singleton]
    rw [Nat.min_eq_left (by omega)]

theorem yields_passes {pass : StateM RandomSource (List Char)} {language : Language Char}
    (h : ∀ text ∈ language, Yields pass text) {count : Nat} {text : List Char}
    (htext : text ∈ language ^ count) : Yields (passes pass count) text := by
  induction count generalizing text with
  | zero =>
    have hnil : text = [] := htext
    rw [hnil]
    exact Yields.pure []
  | succ count ih =>
    rw [pow_succ'] at htext
    obtain ⟨start, hstart, more, hmore, rfl⟩ := Language.mem_mul.mp htext
    exact (h start hstart).bind ((ih hmore).bind (Yields.pure _))

mutual

theorem Tree.yields_generate {tree : Tree} {text : List Char} (h : text ∈ tree.language) :
    Yields tree.generate text := by
  cases tree with
  | literal c =>
    have htext : text = [c] := h
    rw [htext]
    exact Yields.pure [c]
  | oneOf members =>
    obtain ⟨c, hc, rfl⟩ := h
    obtain ⟨index, hindex, rfl⟩ := List.mem_iff_getElem.mp hc
    refine (yields_choose hindex).bind ?_
    rw [List.getElem?_eq_getElem hindex]
    exact Yields.pure _
  | choice branches =>
    obtain ⟨index, hindex, hbranch⟩ := yields_generateBranch h
    exact (yields_choose hindex).bind hbranch

theorem yields_generateBranch {branches : List (List Item)} {text : List Char}
    (h : text ∈ branchesLanguage branches) :
    ∃ index < branches.length, Yields (generateBranch branches index) text := by
  cases branches with
  | nil => exact absurd h (Language.notMem_zero text)
  | cons branch others =>
    rcases h with hbranch | hothers
    · exact ⟨0, by simp, yields_generateItems hbranch⟩
    · obtain ⟨index, hindex, hyields⟩ := yields_generateBranch hothers
      exact ⟨index + 1, by simpa using hindex, hyields⟩

theorem yields_generateItems {items : List Item} {text : List Char}
    (h : text ∈ itemsLanguage items) : Yields (generateItems items) text := by
  cases items with
  | nil =>
    have htext : text = [] := h
    rw [htext]
    exact Yields.pure []
  | cons item rest =>
    cases item with
    | repeated tree least most =>
      obtain ⟨start, ⟨count, hleast, hmost, hstart⟩, more, hmore, rfl⟩ := Language.mem_mul.mp h
      have hextra : count - least < most - least + 1 := by omega
      have hcount : least + (count - least) = count := by omega
      refine (yields_choose hextra).bind ?_
      rw [hcount]
      have hpasses := yields_passes (fun _ htext => tree.yields_generate htext) hstart
      exact hpasses.bind ((yields_generateItems hmore).bind (Yields.pure _))

end

end Completeness

theorem sample_state {σ : Type} [Source σ] (tree : Tree) (source : σ) :
    tree.sample source = (String.ofList (tree.generate source).1, (tree.generate source).2) := rfl

/-- Whatever source is given, a tree that was read gives a text of its language, and each text of
its language comes from some list of draws, all of which it takes. -/
theorem sample_sound_complete {pattern : String} {maxRepeat : Nat} {tree : Tree}
    (h : parse pattern maxRepeat = .ok tree) :
    (∀ (σ : Type) [Source σ] (source : σ), (tree.sample source).1.toList ∈ tree.language) ∧
      ∀ text ∈ tree.language, ∃ values,
        tree.sample (RandomSource.cycle values 0) =
          (String.ofList text, .cycle values values.length) := by
  refine ⟨fun σ _ source => ?_, fun text htext => ?_⟩
  · rw [sample_state, String.toList_ofList]
    exact tree.generate_mem (wellFormed_of_parse h) source
  · obtain ⟨values, hvalues⟩ := tree.yields_generate htext
    have hrun := hvalues [] []
    simp only [List.nil_append, List.append_nil, List.length_nil, Nat.zero_add] at hrun
    exact ⟨values, by rw [sample_state, hrun]⟩

/-- A group that may be left out, and a letter once or twice. -/
def optionalGroup : Tree :=
  .choice [[
    .repeated (.choice [[.repeated (.literal 'a') 1 1], [.repeated (.literal 'b') 1 1]]) 0 1,
    .repeated (.literal 'c') 1 2]]

theorem parse_optionalGroup : parse "(a|b)?c+" 1 = .ok optionalGroup := by
  have hbody : stripDelimiters "(a|b)?c+".toList = ['(', 'a', '|', 'b', ')', '?', 'c', '+'] := by
    decide
  have hparsed : parseTree 1 ['(', 'a', '|', 'b', ')', '?', 'c', '+'] = .ok optionalGroup := by rfl
  rw [← hbody] at hparsed
  exact parse_eq_ok_iff.mpr ⟨parseTree_eq_ok_iff.mp hparsed, by decide, by decide⟩

theorem sample_sound_complete_optionalGroup :
    parse "(a|b)?c+" 1 = .ok optionalGroup ∧
      (∀ (σ : Type) [Source σ] (source : σ),
        (optionalGroup.sample source).1.toList ∈ optionalGroup.language) ∧
      ∀ text ∈ optionalGroup.language, ∃ values,
        optionalGroup.sample (RandomSource.cycle values 0) =
          (String.ofList text, .cycle values values.length) :=
  ⟨parse_optionalGroup, sample_sound_complete parse_optionalGroup⟩

end Pastiche.Pattern
