import Pastiche.Proofs.Pattern.Language
import Pastiche.Proofs.Pattern.Part

/-!
Generation with guards: it stops where an index has nothing behind it, or where a larger number
would be taken from a smaller one. From a tree that was read, no source makes it stop, and it does
the same as generation without guards.
-/

namespace Pastiche.Pattern

inductive Mishap where
  | noMember
  | noBranch
  | negativeSpan
deriving DecidableEq

section Guarded

variable {σ : Type}

def guardedPasses (pass : ExceptT Mishap (StateM σ) (List Char)) :
    Nat → ExceptT Mishap (StateM σ) (List Char)
  | 0 => pure []
  | count + 1 => do
    let text ← pass
    let more ← guardedPasses pass count
    pure (text ++ more)

variable [Source σ]

mutual

/-- A text of the tree, if no guard stops its generation. -/
def Tree.guarded : Tree → ExceptT Mishap (StateM σ) (List Char)
  | .literal c => pure [c]
  | .oneOf members => do
    let index ← ExceptT.lift (choose members.length)
    match members[index]? with
    | some c => pure [c]
    | none => throw .noMember
  | .choice branches => do
    let index ← ExceptT.lift (choose branches.length)
    guardedBranch branches index

def guardedBranch : List (List Item) → Nat → ExceptT Mishap (StateM σ) (List Char)
  | [], _ => throw .noBranch
  | branch :: _, 0 => guardedItems branch
  | _ :: others, index + 1 => guardedBranch others index

def guardedItems : List Item → ExceptT Mishap (StateM σ) (List Char)
  | [] => pure []
  | .repeated tree least most :: rest =>
    if most < least then throw .negativeSpan
    else do
      let extra ← ExceptT.lift (choose (most - least + 1))
      let text ← guardedPasses tree.guarded (least + extra)
      let more ← guardedItems rest
      pure (text ++ more)

end

variable {α β : Type}

/-- The guarded step never stops and does the same as the plain one. -/
def Unstopped (guarded : ExceptT Mishap (StateM σ) α) (plain : StateM σ α) : Prop :=
  ∀ source, guarded source = (.ok (plain source).1, (plain source).2)

omit [Source σ] in
theorem Unstopped.pure (a : α) : Unstopped (σ := σ) (pure a) (pure a) := fun _ => rfl

omit [Source σ] in
theorem Unstopped.bind {guarded : ExceptT Mishap (StateM σ) α} {plain : StateM σ α}
    {next : α → ExceptT Mishap (StateM σ) β} {plainNext : α → StateM σ β}
    (h : Unstopped guarded plain) (hnext : ∀ a, Unstopped (next a) (plainNext a)) :
    Unstopped (guarded >>= next) (plain >>= plainNext) := by
  intro source
  have hrun : (guarded >>= next) source = next (plain source).1 (plain source).2 := by
    change ExceptT.bindCont next (guarded source).1 (guarded source).2 = _
    rw [h source]
    rfl
  rw [hrun, hnext]
  rfl

omit [Source σ] in
theorem Unstopped.passes {guarded : ExceptT Mishap (StateM σ) (List Char)}
    {plain : StateM σ (List Char)} (h : Unstopped guarded plain) (count : Nat) :
    Unstopped (guardedPasses guarded count) (passes plain count) := by
  induction count with
  | zero => exact Unstopped.pure []
  | succ count ih => exact h.bind fun text => ih.bind fun more => Unstopped.pure (text ++ more)

/-- Whatever the source gives, what follows a choice is asked only for what there is to choose. -/
theorem Unstopped.choose_bind {bound : Nat} (hbound : 0 < bound)
    {next : Nat → ExceptT Mishap (StateM σ) α} {plain : Nat → StateM σ α}
    (h : ∀ index < bound, Unstopped (next index) (plain index)) :
    Unstopped (ExceptT.lift (choose bound) >>= next) (choose bound >>= plain) :=
  fun source => h _ (choose_lt hbound source) _

mutual

theorem Tree.WellFormed.unstopped {tree : Tree} (h : tree.WellFormed) :
    Unstopped (σ := σ) tree.guarded tree.generate := by
  cases tree with
  | literal c => exact .pure [c]
  | oneOf members =>
    refine Unstopped.choose_bind (List.length_pos_iff.mpr h.1) fun index hindex => ?_
    rw [List.getElem?_eq_getElem hindex]
    exact .pure _
  | choice branches =>
    exact Unstopped.choose_bind (List.length_pos_iff.mpr h.1) fun index hindex =>
      BranchesWellFormed.unstopped h.2 hindex

theorem BranchesWellFormed.unstopped {branches : List (List Item)} (h : BranchesWellFormed branches)
    {index : Nat} (hindex : index < branches.length) :
    Unstopped (σ := σ) (guardedBranch branches index) (generateBranch branches index) := by
  cases branches with
  | nil => simp at hindex
  | cons branch others =>
    cases index with
    | zero => exact ItemsWellFormed.unstopped h.1
    | succ index => exact BranchesWellFormed.unstopped h.2 (by simpa using hindex)

theorem ItemsWellFormed.unstopped {items : List Item} (h : ItemsWellFormed items) :
    Unstopped (σ := σ) (guardedItems items) (generateItems items) := by
  cases items with
  | nil => exact .pure []
  | cons item rest =>
    obtain ⟨tree, least, most⟩ := item
    obtain ⟨htree, hle, hrest⟩ := h
    rw [guardedItems, if_neg (Nat.not_lt.mpr hle)]
    refine Unstopped.choose_bind (Nat.succ_pos _) fun extra _ => ?_
    exact (htree.unstopped.passes (least + extra)).bind fun text =>
      (ItemsWellFormed.unstopped hrest).bind fun more => Unstopped.pure (text ++ more)

end

end Guarded

/-- A class without members and a repetition that ends before it begins are stopped. -/
example : (Tree.guarded (.oneOf []) (RandomSource.fixed 0)).1 = .error .noMember ∧
    (Tree.guarded (.choice [[.repeated (.literal 'a') 2 1]]) (RandomSource.fixed 0)).1 =
      .error .negativeSpan := ⟨rfl, rfl⟩

/-- Each member of a class is what exactly one pick gives, so that no member is given more often
than another if no pick is made more often than another. -/
theorem exists_pick {members : List Char} (h : (Tree.oneOf members).Sound) {c : Char}
    (hc : c ∈ members) :
    ∃ index < members.length, ∀ (σ : Type) [Source σ] (source : σ),
      ((Tree.oneOf members).generate source).1 = [c] ↔
        (choose members.length source).1 = index := by
  have hnodup : members.Nodup := h.2.imp fun hlt => Char.ne_of_lt hlt
  obtain ⟨index, hindex, rfl⟩ := List.mem_iff_getElem.mp hc
  refine ⟨index, hindex, fun σ _ source => ?_⟩
  have hlt := choose_lt (List.length_pos_iff.mpr h.1) source
  have htext : ((Tree.oneOf members).generate source).1 =
      [members[(choose members.length source).1]] := by
    simp only [Tree.generate, bind_state, List.getElem?_eq_getElem hlt]
    rfl
  rw [htext, List.singleton_inj, hnodup.getElem_inj_iff]

open Grammar

/-- Every node of a tree that was read is sound, and each member of a class is given by one pick.
Every node below the tree comes from a part of the text. Where this part is a dot, a class with a
caret or the complement of a shorthand, the node is the class of all printable characters but those
that it names; where it is any other class or shorthand, the class of those that it lists. No source
makes a guarded generation stop. -/
theorem tree_sound_of_parse {pattern : String} {maxRepeat : Nat} {tree : Tree}
    (h : parse pattern maxRepeat = .ok tree) :
    (∀ node : Tree, node.Within tree → node.Sound) ∧
      (∀ members, (Tree.oneOf members).Within tree → ∀ c ∈ members, ∃ index < members.length,
        ∀ (σ : Type) [Source σ] (source : σ), ((Tree.oneOf members).generate source).1 = [c] ↔
          (choose members.length source).1 = index) ∧
      (∀ node : Tree, node.Within tree → node = tree ∨
        ∃ part, Part maxRepeat part node (stripDelimiters pattern.toList) tree) ∧
      (∀ part node, Part maxRepeat part node (stripDelimiters pattern.toList) tree →
        part <:+: stripDelimiters pattern.toList ∧
        (['[', '^'] <+: part → ∃ excluded, Negates part excluded) ∧
        (∀ members, node = .oneOf members →
          (∃ excluded, Negates part excluded) ∨ ∃ listed, Lists part listed) ∧
        (∀ excluded, Negates part excluded → ∃ members, node = .oneOf members ∧
          ∀ c, c ∈ members ↔ (' ' ≤ c ∧ c ≤ '~') ∧ c ∉ excluded) ∧
        ∀ listed, Lists part listed → ∃ members, node = .oneOf members ∧
          ∀ c, c ∈ members ↔ c ∈ listed) ∧
      ∀ (σ : Type) [Source σ] (source : σ),
        tree.guarded source = (.ok (tree.generate source).1, (tree.generate source).2) := by
  have hwell := wellFormed_of_parse h
  have hsound : ∀ node : Tree, node.Within tree → node.Sound :=
    fun node hnode => (hwell.within hnode).sound
  refine ⟨hsound, fun members hnode c hc => exists_pick (hsound _ hnode) hc,
    fun node hnode => (parse_eq_ok_iff.mp h).1.exists_part hnode, ?_, fun σ _ => hwell.unstopped⟩
  intro part node hpart
  obtain ⟨hstands, depth, hatom⟩ := hpart.origin
  refine ⟨hstands, hatom.exists_negates, ?_, fun excluded hnegates => ?_,
    fun listed hlists => hlists.exists_oneOf hatom⟩
  · rintro members rfl
    exact hatom.negates_or_lists
  · exact ⟨complement excluded, hnegates.eq_oneOf hatom, fun c => mem_complement⟩

/-- At most one character that is neither a digit nor a hyphen, or any character. -/
def undigit : Tree :=
  .choice [[.repeated (.oneOf (complement (digitChars ++ ['-']))) 0 1],
    [.repeated (.oneOf printable) 1 1]]

theorem parse_undigit : parse "[^\\d-]?|." 10 = .ok undigit := by
  have hbody : stripDelimiters "[^\\d-]?|.".toList =
      ['[', '^', '\\', 'd', '-', ']', '?', '|', '.'] := by decide
  have hparsed : parseTree 10 ['[', '^', '\\', 'd', '-', ']', '?', '|', '.'] = .ok undigit := by rfl
  rw [← hbody] at hparsed
  exact parse_eq_ok_iff.mpr ⟨parseTree_eq_ok_iff.mp hparsed, by decide, by decide⟩

theorem listing_undigit : Listing true ['\\', 'd', '-'] (digitChars ++ ['-']) := by
  have halone : ¬ OpensRange ([] ++ [']']) := by
    rintro ⟨c, rest, hrange, -⟩
    cases hrange
  have hhyphen : Listing false (['-'] ++ []) ['-'] :=
    .single (.plain (by decide)) (by decide) halone .nil
  exact .set (.escaped .digit) hhyphen

theorem part_undigit : Part 10 ['[', '^', '\\', 'd', '-', ']']
    (.oneOf (complement (digitChars ++ ['-']))) (stripDelimiters "[^\\d-]?|.".toList) undigit := by
  have hbody : stripDelimiters "[^\\d-]?|.".toList =
      ['[', '^', '\\', 'd', '-', ']'] ++ (['?'] ++ []) ++ '|' :: (['.'] ++ ([] ++ [])) := by decide
  have hclass : Class ['^', '\\', 'd', '-', ']'] (complement (digitChars ++ ['-'])) :=
    .negative listing_undigit (by decide)
  rw [hbody]
  exact .inside (.first (.first (.whole (.charClass hclass)) (.optional .absent) .nil)
    (.last (.cons .any .once .nil)))

theorem tree_sound_of_parse_undigit :
    parse "[^\\d-]?|." 10 = .ok undigit ∧
      (∀ node : Tree, node.Within undigit → node.Sound) ∧
      Part 10 ['[', '^', '\\', 'd', '-', ']'] (.oneOf (complement (digitChars ++ ['-'])))
        (stripDelimiters "[^\\d-]?|.".toList) undigit ∧
      Negates ['[', '^', '\\', 'd', '-', ']'] (digitChars ++ ['-']) ∧
      (∃ members, Tree.oneOf (complement (digitChars ++ ['-'])) = .oneOf members ∧
        ∀ c, c ∈ members ↔ (' ' ≤ c ∧ c ≤ '~') ∧ c ∉ digitChars ++ ['-']) ∧
      ∀ (σ : Type) [Source σ] (source : σ), undigit.guarded source =
        (.ok (undigit.generate source).1, (undigit.generate source).2) := by
  obtain ⟨hnodes, -, -, hparts, hguarded⟩ := tree_sound_of_parse parse_undigit
  have hnegates : Negates ['[', '^', '\\', 'd', '-', ']'] (digitChars ++ ['-']) :=
    .charClass listing_undigit
  obtain ⟨-, -, -, hmembers, -⟩ := hparts _ _ part_undigit
  exact ⟨parse_undigit, hnodes, part_undigit, hnegates, hmembers _ hnegates, hguarded⟩

end Pastiche.Pattern
