import Pastiche.Proofs.Pattern.Cost

/-!
The limits of the parser are exact. The dearest generation of a tree can be had by some draws, so a
pattern is turned away for its length or its visits only if it can exceed them.
-/

namespace Pastiche.Pattern

section Attained

theorem yields_meteredPasses {pass : StateM RandomSource (List Char × Nat)} {text : List Char}
    {cost : Nat} (h : Yields pass (text, cost)) (count : Nat) :
    ∃ texts, Yields (meteredPasses pass count) (texts, cost * count) := by
  induction count with
  | zero => exact ⟨[], Yields.pure _⟩
  | succ count ih =>
    obtain ⟨more, hmore⟩ := ih
    have hcost : cost * (count + 1) = cost + cost * count := by rw [Nat.mul_succ, Nat.add_comm]
    refine ⟨text ++ more, ?_⟩
    rw [hcost]
    exact Yields.bind h (Yields.bind hmore (Yields.pure _))

mutual

/-- Some draws make a generation as dear as it can be. -/
theorem Tree.yields_metered {tree : Tree} (h : tree.WellFormed) (toll : Nat) :
    ∃ text, Yields (tree.metered toll) (text, tree.cost toll) := by
  cases tree with
  | literal c => exact ⟨[c], Yields.pure _⟩
  | oneOf members =>
    have hfirst := yields_choose (List.length_pos_iff.mpr h.1)
    exact ⟨_, hfirst.bind (Yields.pure _)⟩
  | choice branches =>
    obtain ⟨index, hindex, text, htext⟩ := yields_meteredBranch h.1 h.2 toll
    exact ⟨text, (yields_choose hindex).bind (htext.bind (Yields.pure _))⟩

theorem yields_meteredBranch {branches : List (List Item)} (hne : branches ≠ [])
    (h : BranchesWellFormed branches) (toll : Nat) :
    ∃ index < branches.length, ∃ text,
      Yields (meteredBranch toll branches index) (text, branchesCost toll branches) := by
  cases branches with
  | nil => exact absurd rfl hne
  | cons branch others =>
    obtain ⟨text, htext⟩ := yields_meteredItems h.1 toll
    by_cases hothers : branchesCost toll others ≤ itemsCost toll branch
    · rw [branchesCost, Nat.max_eq_left hothers]
      exact ⟨0, by simp, text, htext⟩
    · have hrest : others ≠ [] := by
        rintro rfl
        exact hothers (Nat.zero_le _)
      obtain ⟨index, hindex, more, hmore⟩ := yields_meteredBranch hrest h.2 toll
      rw [branchesCost, Nat.max_eq_right (by omega)]
      exact ⟨index + 1, by simpa using hindex, more, hmore⟩

theorem yields_meteredItems {items : List Item} (h : ItemsWellFormed items) (toll : Nat) :
    ∃ text, Yields (meteredItems toll items) (text, itemsCost toll items) := by
  cases items with
  | nil => exact ⟨[], Yields.pure _⟩
  | cons item rest =>
    obtain ⟨tree, least, most⟩ := item
    obtain ⟨htree, hle, hrest⟩ := h
    obtain ⟨text, htext⟩ := tree.yields_metered htree toll
    obtain ⟨texts, htexts⟩ := yields_meteredPasses htext most
    obtain ⟨more, hmore⟩ := yields_meteredItems hrest toll
    have hextra : most - least < most - least + 1 := Nat.lt_succ_self _
    refine ⟨texts ++ more, (yields_choose hextra).bind ?_⟩
    rw [Nat.add_sub_cancel' hle]
    exact htexts.bind (hmore.bind (Yields.pure _))

end

theorem Tree.exists_metered {tree : Tree} (h : tree.WellFormed) (toll : Nat) :
    ∃ values, (tree.metered toll (RandomSource.cycle values 0)).1.2 = tree.cost toll := by
  obtain ⟨text, values, hvalues⟩ := tree.yields_metered h toll
  have hrun := hvalues [] []
  rw [List.nil_append, List.append_nil, List.length_nil] at hrun
  exact ⟨values, by rw [hrun]⟩

end Attained

section Bounds

variable {σ : Type} [Source σ] {tree : Tree}

/-- How many trees a generation visits, each pass of a repetition included. -/
def Tree.visits (tree : Tree) (source : σ) : Nat := (tree.metered 1 source).1.2

def Tree.draws (tree : Tree) (source : σ) : Nat := (tree.generate (Counted.mk source 0)).2.draws

theorem Tree.metered_eq (h : tree.WellFormed) (source : σ) :
    tree.metered 1 source =
      (((tree.generate source).1, tree.visits source), (tree.generate source).2) := by
  obtain ⟨visits, hrun, -⟩ := tree.meters_generate h 1 source
  rw [Tree.visits, hrun]

theorem Tree.visits_le (h : tree.WellFormed) (source : σ) : tree.visits source ≤ tree.cost 1 := by
  obtain ⟨visits, hrun, hmost, -⟩ := tree.meters_generate h 1 source
  rw [Tree.visits, hrun]
  exact hmost

theorem Tree.counted_eq (h : tree.WellFormed) (source : σ) :
    tree.generate (Counted.mk source 0) =
      ((tree.generate source).1, ⟨(tree.generate source).2, tree.draws source⟩) := by
  obtain ⟨asked, -, hrun⟩ := tree.counts_generate h source 0
  rw [Tree.draws, hrun]

theorem Tree.draws_lt (h : tree.WellFormed) (source : σ) : tree.draws source < 2 * tree.cost 1 := by
  obtain ⟨asked, hmost, hrun⟩ := tree.counts_generate h source 0
  have hpos := tree.cost_pos
  rw [Tree.draws, hrun]
  dsimp only
  omega

theorem Tree.exists_visits (h : tree.WellFormed) :
    ∃ values, tree.visits (RandomSource.cycle values 0) = tree.cost 1 :=
  tree.exists_metered h 1

theorem sample_length (tree : Tree) (source : σ) :
    (tree.sample source).1.length = (tree.generate source).1.length := by
  rw [sample_state, String.length_ofList]

theorem Tree.sample_length_le (h : tree.WellFormed) (source : σ) :
    (tree.sample source).1.length ≤ tree.cost 0 := by
  obtain ⟨cost, -, hcost, hlength⟩ := tree.meters_generate h 0 source
  rw [sample_length, ← hlength rfl]
  exact hcost

theorem Tree.exists_sample_length (h : tree.WellFormed) :
    ∃ values, (tree.sample (RandomSource.cycle values 0)).1.length = tree.cost 0 := by
  obtain ⟨values, hvalues⟩ := tree.exists_metered h 0
  obtain ⟨cost, hrun, -, hlength⟩ := tree.meters_generate h 0 (RandomSource.cycle values 0)
  refine ⟨values, ?_⟩
  rw [sample_length, ← hlength rfl, ← hvalues, hrun]

end Bounds

section Limits

theorem Tree.lt_maxLength_iff (tree : Tree) :
    maxOutput < tree.maxLength ↔ maxOutput < tree.cost 0 := by
  -- the limit is far below the number at which the sums stop
  have hword : maxOutput < wordMax := by decide
  rw [tree.maxLength_eq]
  omega

theorem Tree.lt_maxVisits_iff (tree : Tree) :
    maxSteps < tree.maxVisits ↔ maxSteps < tree.cost 1 := by
  have hword : maxSteps < wordMax := by decide
  rw [tree.maxVisits_eq]
  omega

variable {pattern : String} {maxRepeat : Nat} {tree : Tree}

theorem parse_of_parseTree
    (h : parseTree maxRepeat (stripDelimiters pattern.toList) = .ok tree) :
    parse pattern maxRepeat =
      if maxOutput < tree.cost 0 then .error .tooLong
      else if maxSteps < tree.cost 1 then .error .tooManySteps
      else .ok tree := by
  rw [parse, h, ok_bind]
  simp only [gt_iff_lt, tree.lt_maxLength_iff, tree.lt_maxVisits_iff]

theorem wellFormed_of_parseTree {body : List Char} (h : parseTree maxRepeat body = .ok tree) :
    tree.WellFormed := by
  cases parseTree_eq_ok_iff.mp h with
  | root hbranches => exact hbranches.wellFormed

/-- A tree is accepted if and only if no draws exceed the limits. What is accepted stays within them
with any source, also in its draws, and what is refused for its length or its visits exceeds that
limit with some draws. To meter and to count changes neither the text nor the source. -/
theorem limits_exact (h : parseTree maxRepeat (stripDelimiters pattern.toList) = .ok tree) :
    (∀ (σ : Type) [Source σ] (source : σ),
      tree.metered 1 source =
        (((tree.generate source).1, tree.visits source), (tree.generate source).2) ∧
      tree.generate (Counted.mk source 0) =
        ((tree.generate source).1, ⟨(tree.generate source).2, tree.draws source⟩)) ∧
      (parse pattern maxRepeat = .ok tree ↔ ∀ values,
        (tree.sample (RandomSource.cycle values 0)).1.length ≤ maxOutput ∧
          tree.visits (RandomSource.cycle values 0) ≤ maxSteps) ∧
      (parse pattern maxRepeat = .ok tree → ∀ (σ : Type) [Source σ] (source : σ),
        (tree.sample source).1.length ≤ maxOutput ∧ tree.visits source ≤ maxSteps ∧
          tree.draws source < 2 * maxSteps) ∧
      (parse pattern maxRepeat = .ok tree ∨ parse pattern maxRepeat = .error .tooLong ∨
        parse pattern maxRepeat = .error .tooManySteps) ∧
      (parse pattern maxRepeat = .error .tooLong → ∃ values,
        maxOutput < (tree.sample (RandomSource.cycle values 0)).1.length) ∧
      (parse pattern maxRepeat = .error .tooManySteps → ∃ values,
        maxSteps < tree.visits (RandomSource.cycle values 0)) := by
  have htree := wellFormed_of_parseTree h
  obtain ⟨longest, hlongest⟩ := Tree.exists_sample_length htree
  obtain ⟨busiest, hbusiest⟩ := tree.exists_visits htree
  refine ⟨fun σ _ source => ⟨tree.metered_eq htree source, tree.counted_eq htree source⟩, ?_⟩
  rw [parse_of_parseTree h]
  by_cases hlength : maxOutput < tree.cost 0
  · -- too long: the longest text shows it
    rw [if_pos hlength]
    refine ⟨⟨nofun, fun hall => ?_⟩, nofun, .inr (.inl rfl), fun _ => ⟨longest, ?_⟩, nofun⟩
    · have hle := (hall longest).1
      omega
    · rw [hlongest]
      exact hlength
  · rw [if_neg hlength]
    by_cases hvisits : maxSteps < tree.cost 1
    · -- too many steps: the busiest generation shows it
      rw [if_pos hvisits]
      refine ⟨⟨nofun, fun hall => ?_⟩, nofun, .inr (.inr rfl), nofun, fun _ => ⟨busiest, ?_⟩⟩
      · have hle := (hall busiest).2
        omega
      · rw [hbusiest]
        exact hvisits
    · rw [if_neg hvisits]
      have hwithin : ∀ (σ : Type) [Source σ] (source : σ),
          (tree.sample source).1.length ≤ maxOutput ∧ tree.visits source ≤ maxSteps ∧
            tree.draws source < 2 * maxSteps := by
        intro σ _ source
        have hsample := tree.sample_length_le htree source
        have hsteps := tree.visits_le htree source
        have hdraws := tree.draws_lt htree source
        omega
      exact ⟨⟨fun _ values => ⟨(hwithin _ _).1, (hwithin _ _).2.1⟩, fun _ => rfl⟩,
        fun _ => hwithin, .inl rfl, nofun, nofun⟩

end Limits

/-- An empty group a thousand times a thousand times. -/
def emptyGroups : Tree :=
  .choice [[.repeated (.choice [[.repeated (.choice [[]]) 1000 1000]]) 1000 1000]]

theorem parseTree_emptyGroups :
    parseTree 1 (stripDelimiters "(()\x7b1000\x7d)\x7b1000\x7d".toList) = .ok emptyGroups := by
  have hbody : stripDelimiters "(()\x7b1000\x7d)\x7b1000\x7d".toList =
      "(()\x7b1000\x7d)\x7b1000\x7d".toList := by decide
  rw [hbody]
  rfl

theorem limits_exact_emptyGroups :
    parseTree 1 (stripDelimiters "(()\x7b1000\x7d)\x7b1000\x7d".toList) = .ok emptyGroups ∧
      parse "(()\x7b1000\x7d)\x7b1000\x7d" 1 = .error .tooManySteps ∧
      ∃ values, maxSteps < emptyGroups.visits (RandomSource.cycle values 0) := by
  have hrefused : parse "(()\x7b1000\x7d)\x7b1000\x7d" 1 = .error .tooManySteps := by
    rw [parse_of_parseTree parseTree_emptyGroups, if_neg (by decide), if_pos (by decide)]
  exact ⟨parseTree_emptyGroups, hrefused,
    (limits_exact parseTree_emptyGroups).2.2.2.2.2 hrefused⟩

end Pastiche.Pattern
