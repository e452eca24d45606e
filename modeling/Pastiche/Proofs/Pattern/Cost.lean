import Pastiche.Pattern.Budget
import Pastiche.Proofs.Pattern.Language

/-!
What a generation costs. A leaf costs 1 and a choice a toll, so that without a toll the cost is the
length of the text, and with a toll of 1 it is the number of trees that are visited. The limits of
the parser are these costs at their most, up to the largest number of 64 bits.
-/

namespace Pastiche.Pattern

mutual

/-- The cost of the dearest generation. -/
def Tree.cost (toll : Nat) : Tree → Nat
  | .literal _ => 1
  | .oneOf _ => 1
  | .choice branches => branchesCost toll branches + toll

def branchesCost (toll : Nat) : List (List Item) → Nat
  | [] => 0
  | branch :: others => max (itemsCost toll branch) (branchesCost toll others)

def itemsCost (toll : Nat) : List Item → Nat
  | [] => 0
  | .repeated tree _ most :: rest => tree.cost toll * most + itemsCost toll rest

end

theorem Tree.cost_pos (tree : Tree) : 0 < tree.cost 1 := by
  cases tree with
  | literal c => exact Nat.one_pos
  | oneOf members => exact Nat.one_pos
  | choice branches => exact Nat.succ_pos _

section Capped

theorem cappedMul_min (a b : Nat) : cappedMul (min a wordMax) b = min (a * b) wordMax := by
  unfold cappedMul
  rcases Nat.le_total a wordMax with hle | hle
  · rw [Nat.min_eq_left hle]
  · rw [Nat.min_eq_right hle]
    cases b with
    | zero => rfl
    | succ b =>
      have hword : wordMax ≤ wordMax * (b + 1) := Nat.le_mul_of_pos_right _ b.succ_pos
      have hproduct : wordMax * (b + 1) ≤ a * (b + 1) := Nat.mul_le_mul_right _ hle
      rw [Nat.min_eq_right hword, Nat.min_eq_right (hword.trans hproduct)]

theorem cappedAdd_min (a b : Nat) :
    cappedAdd (min a wordMax) (min b wordMax) = min (a + b) wordMax := by
  unfold cappedAdd
  omega

mutual

/-- What is cut off on the way makes no other difference than cutting off at the end. -/
theorem Tree.maxLength_eq (tree : Tree) : tree.maxLength = min (tree.cost 0) wordMax := by
  cases tree with
  | literal c => rfl
  | oneOf members => rfl
  | choice branches => exact longestBranch_eq branches

theorem longestBranch_eq (branches : List (List Item)) :
    longestBranch branches = min (branchesCost 0 branches) wordMax := by
  cases branches with
  | nil => rfl
  | cons branch others =>
    have hbranch : sequenceLength (min 0 wordMax) branch = min (0 + itemsCost 0 branch) wordMax :=
      sequenceLength_eq 0 branch
    rw [Nat.zero_min, Nat.zero_add] at hbranch
    rw [longestBranch, branchesCost, hbranch, longestBranch_eq others]
    omega

theorem sequenceLength_eq (before : Nat) (items : List Item) :
    sequenceLength (min before wordMax) items = min (before + itemsCost 0 items) wordMax := by
  cases items with
  | nil => rfl
  | cons item rest =>
    obtain ⟨tree, least, most⟩ := item
    rw [sequenceLength, tree.maxLength_eq, cappedMul_min, cappedAdd_min,
      sequenceLength_eq _ rest, itemsCost, Nat.add_assoc]

end

mutual

theorem Tree.maxVisits_eq (tree : Tree) : tree.maxVisits = min (tree.cost 1) wordMax := by
  cases tree with
  | literal c => rfl
  | oneOf members => rfl
  | choice branches =>
    have hone : 1 = min 1 wordMax := by decide
    rw [Tree.maxVisits, busiestBranch_eq branches, hone, cappedAdd_min]
    rfl

theorem busiestBranch_eq (branches : List (List Item)) :
    busiestBranch branches = min (branchesCost 1 branches) wordMax := by
  cases branches with
  | nil => rfl
  | cons branch others =>
    have hbranch : sequenceVisits (min 0 wordMax) branch = min (0 + itemsCost 1 branch) wordMax :=
      sequenceVisits_eq 0 branch
    rw [Nat.zero_min, Nat.zero_add] at hbranch
    rw [busiestBranch, branchesCost, hbranch, busiestBranch_eq others]
    omega

theorem sequenceVisits_eq (before : Nat) (items : List Item) :
    sequenceVisits (min before wordMax) items = min (before + itemsCost 1 items) wordMax := by
  cases items with
  | nil => rfl
  | cons item rest =>
    obtain ⟨tree, least, most⟩ := item
    rw [sequenceVisits, tree.maxVisits_eq, cappedMul_min, cappedAdd_min,
      sequenceVisits_eq _ rest, itemsCost, Nat.add_assoc]

end

end Capped

section Metered

variable {σ : Type} [Source σ]

def meteredPasses (pass : StateM σ (List Char × Nat)) : Nat → StateM σ (List Char × Nat)
  | 0 => pure ([], 0)
  | count + 1 => do
    let first ← pass
    let others ← meteredPasses pass count
    pure (first.1 ++ others.1, first.2 + others.2)

mutual

/-- A text of the tree together with what its generation costs. -/
def Tree.metered (toll : Nat) : Tree → StateM σ (List Char × Nat)
  | .literal c => pure ([c], 1)
  | .oneOf members => do
    let index ← choose members.length
    pure (members[index]?.toList, 1)
  | .choice branches => do
    let index ← choose branches.length
    let inner ← meteredBranch toll branches index
    pure (inner.1, inner.2 + toll)

def meteredBranch (toll : Nat) : List (List Item) → Nat → StateM σ (List Char × Nat)
  | [], _ => pure ([], 0)
  | branch :: _, 0 => meteredItems toll branch
  | _ :: others, index + 1 => meteredBranch toll others index

def meteredItems (toll : Nat) : List Item → StateM σ (List Char × Nat)
  | [] => pure ([], 0)
  | .repeated tree least most :: rest => do
    let extra ← choose (most - least + 1)
    let first ← meteredPasses (tree.metered toll) (least + extra)
    let others ← meteredItems toll rest
    pure (first.1 ++ others.1, first.2 + others.2)

end

/-- The first step does what the second one does and tells its cost, at most so much, and the length
of the text if there is no toll. -/
def Meters (toll most : Nat) (metered : StateM σ (List Char × Nat)) (plain : StateM σ (List Char)) :
    Prop :=
  ∀ source, ∃ cost, metered source = (((plain source).1, cost), (plain source).2) ∧
    cost ≤ most ∧ (toll = 0 → cost = (plain source).1.length)

omit [Source σ] in
theorem Meters.append {toll most mostOthers : Nat} {metered others : StateM σ (List Char × Nat)}
    {plain rest : StateM σ (List Char)} (h : Meters toll most metered plain)
    (hothers : Meters toll mostOthers others rest) :
    Meters toll (most + mostOthers)
      (do let a ← metered; let b ← others; pure (a.1 ++ b.1, a.2 + b.2))
      (do let a ← plain; let b ← rest; pure (a ++ b)) := by
  intro source
  obtain ⟨cost, hrun, hcost, hlength⟩ := h source
  obtain ⟨more, hmore, hmoreCost, hmoreLength⟩ := hothers (plain source).2
  refine ⟨cost + more, ?_, Nat.add_le_add hcost hmoreCost, fun htoll => ?_⟩
  · rw [bind_state, hrun, bind_state, hmore]
    rfl
  · rw [hlength htoll, hmoreLength htoll]
    exact List.length_append.symm

omit [Source σ] in
theorem Meters.mono {toll most larger : Nat} {metered : StateM σ (List Char × Nat)}
    {plain : StateM σ (List Char)} (h : Meters toll most metered plain) (hle : most ≤ larger) :
    Meters toll larger metered plain := by
  intro source
  obtain ⟨cost, hrun, hcost, hlength⟩ := h source
  exact ⟨cost, hrun, hcost.trans hle, hlength⟩

omit [Source σ] in
theorem Meters.passes {toll most : Nat} {metered : StateM σ (List Char × Nat)}
    {plain : StateM σ (List Char)} (h : Meters toll most metered plain) (count : Nat) :
    Meters toll (most * count) (meteredPasses metered count) (passes plain count) := by
  induction count with
  | zero => exact fun source => ⟨0, rfl, Nat.zero_le _, fun _ => rfl⟩
  | succ count ih =>
    rw [Nat.mul_succ, Nat.add_comm]
    exact h.append ih

theorem Meters.choose_bind {toll most bound : Nat} (hbound : 0 < bound)
    {next : Nat → StateM σ (List Char × Nat)} {plain : Nat → StateM σ (List Char)}
    (h : ∀ index < bound, Meters toll most (next index) (plain index)) :
    Meters toll most (choose bound >>= next) (choose bound >>= plain) :=
  fun source => h _ (choose_lt hbound source) _

mutual

theorem Tree.meters_generate {tree : Tree} (h : tree.WellFormed) (toll : Nat) :
    Meters toll (tree.cost toll) (tree.metered toll) (tree.generate (σ := σ)) := by
  cases tree with
  | literal c => exact fun source => ⟨1, rfl, le_rfl, fun _ => rfl⟩
  | oneOf members =>
    refine Meters.choose_bind (List.length_pos_iff.mpr h.1) fun index hindex source => ?_
    rw [List.getElem?_eq_getElem hindex]
    exact ⟨1, rfl, le_rfl, fun _ => rfl⟩
  | choice branches =>
    refine Meters.choose_bind (List.length_pos_iff.mpr h.1) fun index _ source => ?_
    obtain ⟨cost, hrun, hcost, hlength⟩ := meters_generateBranch h.2 toll index source
    refine ⟨cost + toll, ?_, Nat.add_le_add_right hcost toll, fun htoll => ?_⟩
    · rw [bind_state, hrun]
      rfl
    · rw [htoll, Nat.add_zero, hlength htoll]

theorem meters_generateBranch {branches : List (List Item)} (h : BranchesWellFormed branches)
    (toll index : Nat) :
    Meters toll (branchesCost toll branches) (meteredBranch toll branches index)
      (generateBranch (σ := σ) branches index) := by
  cases branches with
  | nil => exact fun source => ⟨0, rfl, le_rfl, fun _ => rfl⟩
  | cons branch others =>
    cases index with
    | zero => exact (meters_generateItems h.1 toll).mono (Nat.le_max_left _ _)
    | succ index => exact (meters_generateBranch h.2 toll index).mono (Nat.le_max_right _ _)

theorem meters_generateItems {items : List Item} (h : ItemsWellFormed items) (toll : Nat) :
    Meters toll (itemsCost toll items) (meteredItems toll items)
      (generateItems (σ := σ) items) := by
  cases items with
  | nil => exact fun source => ⟨0, rfl, le_rfl, fun _ => rfl⟩
  | cons item rest =>
    obtain ⟨tree, least, most⟩ := item
    obtain ⟨htree, hle, hrest⟩ := h
    refine Meters.choose_bind (Nat.succ_pos _) fun extra hextra => ?_
    have hpasses := (tree.meters_generate htree toll).passes (least + extra)
    have hcount : tree.cost toll * (least + extra) ≤ tree.cost toll * most :=
      Nat.mul_le_mul_left _ (by omega)
    exact (hpasses.mono hcount).append (meters_generateItems hrest toll)

end

end Metered

section Counted

/-- A source that counts how often it is asked. -/
structure Counted (σ : Type) where
  source : σ
  draws : Nat

variable {σ α β : Type} [Source σ]

instance : Source (Counted σ) where
  draw bound counted :=
    ((Source.draw bound counted.source).1, ⟨(Source.draw bound counted.source).2, counted.draws + 1⟩)

/-- With a counting source the first step does what the second one does without, and asks so many
times at most. -/
def Counts (most : Nat) (counted : StateM (Counted σ) α) (plain : StateM σ α) : Prop :=
  ∀ source draws, ∃ asked ≤ most,
    counted ⟨source, draws⟩ = ((plain source).1, ⟨(plain source).2, draws + asked⟩)

omit [Source σ] in
theorem Counts.pure (a : α) : Counts (σ := σ) 0 (pure a) (pure a) :=
  fun _ _ => ⟨0, le_rfl, rfl⟩

omit [Source σ] in
theorem Counts.mono {most larger : Nat} {counted : StateM (Counted σ) α} {plain : StateM σ α}
    (h : Counts most counted plain) (hle : most ≤ larger) : Counts larger counted plain := by
  intro source draws
  obtain ⟨asked, hasked, hrun⟩ := h source draws
  exact ⟨asked, hasked.trans hle, hrun⟩

omit [Source σ] in
theorem Counts.bind {most mostNext : Nat} {counted : StateM (Counted σ) α} {plain : StateM σ α}
    {next : α → StateM (Counted σ) β} {plainNext : α → StateM σ β} (h : Counts most counted plain)
    (hnext : ∀ a, Counts mostNext (next a) (plainNext a)) :
    Counts (most + mostNext) (counted >>= next) (plain >>= plainNext) := by
  intro source draws
  obtain ⟨asked, hasked, hrun⟩ := h source draws
  obtain ⟨more, hmore, hrest⟩ := hnext (plain source).1 (plain source).2 (draws + asked)
  refine ⟨asked + more, Nat.add_le_add hasked hmore, ?_⟩
  rw [bind_state, hrun, bind_state, hrest, Nat.add_assoc]

omit [Source σ] in
theorem Counts.passes {most : Nat} {counted : StateM (Counted σ) (List Char)}
    {plain : StateM σ (List Char)} (h : Counts most counted plain) (count : Nat) :
    Counts (most * count) (passes counted count) (passes plain count) := by
  induction count with
  | zero => exact Counts.pure []
  | succ count ih =>
    rw [Nat.mul_succ, Nat.add_comm]
    exact h.bind fun text => ih.bind fun more => Counts.pure (text ++ more)

theorem Counts.choose_bind {most bound : Nat} (hbound : 0 < bound)
    {next : Nat → StateM (Counted σ) α} {plain : Nat → StateM σ α}
    (h : ∀ index < bound, Counts most (next index) (plain index)) :
    Counts ((if bound ≤ 1 then 0 else 1) + most) (choose bound >>= next)
      (choose bound >>= plain) := by
  intro source draws
  obtain ⟨asked, hasked, hrun⟩ := h _ (choose_lt hbound source) (choose bound source).2
    (draws + if bound ≤ 1 then 0 else 1)
  refine ⟨(if bound ≤ 1 then 0 else 1) + asked, Nat.add_le_add_left hasked _, ?_⟩
  rw [← Nat.add_assoc, bind_state, bind_state, ← hrun]
  unfold choose
  split <;> rfl

theorem draws_of_item {cost : Nat} (hcost : 0 < cost) (least most : Nat) :
    (if most - least + 1 ≤ 1 then 0 else 1) + (2 * cost - 1) * most ≤ 2 * (cost * most) := by
  cases most with
  | zero => simp
  | succ most =>
    -- each pass has one draw to spare, and the first of them pays for the draw of the count
    have hdouble : (2 * cost - 1) * (most + 1) + (most + 1) = 2 * (cost * (most + 1)) := by
      rw [← Nat.succ_mul, ← Nat.mul_assoc]
      congr 1
      omega
    split <;> omega

mutual

theorem Tree.counts_generate {tree : Tree} (h : tree.WellFormed) :
    Counts (σ := σ) (2 * tree.cost 1 - 1) tree.generate tree.generate := by
  cases tree with
  | literal c => exact (Counts.pure [c]).mono (Nat.zero_le _)
  | oneOf members =>
    have hdraw := Counts.choose_bind (List.length_pos_iff.mpr h.1)
      fun index _ => Counts.pure (σ := σ) members[index]?.toList
    refine hdraw.mono ?_
    rw [Tree.cost]
    split <;> omega
  | choice branches =>
    have hdraw := Counts.choose_bind (List.length_pos_iff.mpr h.1)
      fun index _ => counts_generateBranch h.2 index
    refine hdraw.mono ?_
    rw [Tree.cost]
    split <;> omega

theorem counts_generateBranch {branches : List (List Item)} (h : BranchesWellFormed branches)
    (index : Nat) :
    Counts (σ := σ) (2 * branchesCost 1 branches) (generateBranch branches index)
      (generateBranch branches index) := by
  cases branches with
  | nil => exact Counts.pure []
  | cons branch others =>
    cases index with
    | zero => exact (counts_generateItems h.1).mono (by rw [branchesCost]; omega)
    | succ index => exact (counts_generateBranch h.2 index).mono (by rw [branchesCost]; omega)

theorem counts_generateItems {items : List Item} (h : ItemsWellFormed items) :
    Counts (σ := σ) (2 * itemsCost 1 items) (generateItems items) (generateItems items) := by
  cases items with
  | nil => exact Counts.pure []
  | cons item rest =>
    obtain ⟨tree, least, most⟩ := item
    obtain ⟨htree, hle, hrest⟩ := h
    have hpasses : ∀ extra < most - least + 1,
        Counts (σ := σ) ((2 * tree.cost 1 - 1) * most) (passes tree.generate (least + extra))
          (passes tree.generate (least + extra)) := by
      intro extra hextra
      refine ((tree.counts_generate htree).passes (least + extra)).mono ?_
      exact Nat.mul_le_mul_left _ (by omega)
    have hitems := fun extra hextra => (hpasses extra hextra).bind fun text =>
      (counts_generateItems hrest).bind fun more => Counts.pure (σ := σ) (text ++ more)
    have hspan : 0 < most - least + 1 := Nat.succ_pos _
    refine (Counts.choose_bind hspan hitems).mono ?_
    have hdraws := draws_of_item tree.cost_pos least most
    rw [itemsCost]
    omega

end

end Counted

end Pastiche.Pattern
