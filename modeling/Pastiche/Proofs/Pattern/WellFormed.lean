import Pastiche.Proofs.Pattern.Reading

/-!
Trees that can always be generated from: there is something to choose wherever a choice is made, and
no repetition ends before it begins. Every tree that is read from a pattern is one of them.
-/

namespace Pastiche.Pattern

open Grammar

mutual

/-- Every class is an increasing list with a member, every choice has a branch, and every repetition
has an order of its bounds. -/
def Tree.WellFormed : Tree → Prop
  | .literal _ => True
  | .oneOf members => members ≠ [] ∧ members.Pairwise (· < ·)
  | .choice branches => branches ≠ [] ∧ BranchesWellFormed branches

def BranchesWellFormed : List (List Item) → Prop
  | [] => True
  | branch :: others => ItemsWellFormed branch ∧ BranchesWellFormed others

def ItemsWellFormed : List Item → Prop
  | [] => True
  | .repeated tree least most :: rest => tree.WellFormed ∧ least ≤ most ∧ ItemsWellFormed rest

end

theorem charRange_pairwise (first last : Char) : (charRange first last).Pairwise (· < ·) := by
  refine List.Pairwise.filterMap _ ?_ List.pairwise_lt_range'
  intro m n hmn c hc d hd
  by_cases hm : m.isValidChar
  · by_cases hn : n.isValidChar
    · rw [dif_pos hm] at hc
      rw [dif_pos hn] at hd
      obtain rfl := Option.some.inj hc
      obtain rfl := Option.some.inj hd
      exact Char.lt_def.mpr (UInt32.lt_iff_toNat_lt.mpr hmn)
    · rw [dif_neg hn] at hd
      cases hd
  · rw [dif_neg hm] at hc
    cases hc

theorem mem_charRange {first last c : Char} : c ∈ charRange first last ↔ first ≤ c ∧ c ≤ last := by
  simp only [Char.le_def, UInt32.le_iff_toNat_le]
  constructor
  · intro h
    obtain ⟨n, hn, hc⟩ := List.mem_filterMap.mp h
    have hbounds := List.mem_range'_1.mp hn
    by_cases hvalid : n.isValidChar
    · rw [dif_pos hvalid] at hc
      obtain rfl := Option.some.inj hc
      have hnumber : (Char.ofNatAux n hvalid).val.toNat = n := rfl
      have hfirst : first.val.toNat ≤ n := hbounds.1
      have hlast : n < first.val.toNat + (last.val.toNat + 1 - first.val.toNat) := hbounds.2
      omega
    · rw [dif_neg hvalid] at hc
      cases hc
  · rintro ⟨hfirst, hlast⟩
    refine List.mem_filterMap.mpr ⟨c.toNat, List.mem_range'_1.mpr ⟨hfirst, ?_⟩, ?_⟩
    · have hnumber : c.toNat = c.val.toNat := rfl
      have hstart : first.toNat = first.val.toNat := rfl
      have hstop : last.toNat = last.val.toNat := rfl
      omega
    · exact dif_pos c.valid

theorem complement_pairwise (excluded : List Char) : (complement excluded).Pairwise (· < ·) :=
  (charRange_pairwise _ _).filter _

theorem mem_complement {excluded : List Char} {c : Char} :
    c ∈ complement excluded ↔ (' ' ≤ c ∧ c ≤ '~') ∧ c ∉ excluded := by
  rw [complement, printable, List.mem_filter, mem_charRange]
  simp

theorem mem_dropRepeats {c : Char} {cs : List Char} : c ∈ dropRepeats cs ↔ c ∈ cs := by
  fun_induction dropRepeats cs with
  | case1 => rfl
  | case2 => rfl
  | case3 d rest ih => simp [ih]
  | case4 d e rest hne ih => simp [ih]

theorem mem_normalize {members : List Char} {c : Char} : c ∈ normalize members ↔ c ∈ members := by
  rw [normalize, mem_dropRepeats, List.mem_mergeSort]

theorem dropRepeats_pairwise {cs : List Char} (h : cs.Pairwise (· ≤ ·)) :
    (dropRepeats cs).Pairwise (· < ·) := by
  fun_induction dropRepeats cs with
  | case1 => exact .nil
  | case2 => simp
  | case3 d rest ih => exact ih (List.pairwise_cons.mp h).2
  | case4 c d rest hne ih =>
    have hc := (List.pairwise_cons.mp h).1
    have hd := (List.pairwise_cons.mp (List.pairwise_cons.mp h).2).1
    refine List.pairwise_cons.mpr ⟨?_, ih (List.pairwise_cons.mp h).2⟩
    intro e he
    have hde : d ≤ e := by
      rcases List.mem_cons.mp (mem_dropRepeats.mp he) with rfl | he
      · exact Char.le_refl _
      · exact hd e he
    exact Char.not_le.mp fun hec =>
      hne (Char.le_antisymm (hc d (by simp)) (Char.le_trans hde hec))

theorem normalize_pairwise (members : List Char) : (normalize members).Pairwise (· < ·) := by
  have hsorted : (members.mergeSort fun a b : Char => decide (a ≤ b)).Pairwise
      fun a b => decide (a ≤ b) = true :=
    List.pairwise_mergeSort (fun a b c => by simpa using Char.le_trans)
      (fun a b => by simpa using Char.le_total a b) members
  exact dropRepeats_pairwise (hsorted.imp fun hle => by simpa using hle)

theorem Grammar.Escaped.wellFormed {c : Char} {members : List Char} (h : Escaped c (.set members)) :
    (Tree.oneOf members).WellFormed := by
  cases h with
  | digit => exact ⟨by decide, charRange_pairwise _ _⟩
  | word => exact ⟨by decide, by decide⟩
  | space => exact ⟨by decide, by simp⟩
  | notDigit => exact ⟨by decide, complement_pairwise _⟩
  | notWord => exact ⟨by decide, complement_pairwise _⟩
  | notSpace => exact ⟨by decide, complement_pairwise _⟩

theorem Grammar.Class.wellFormed {cs members : List Char} (h : Class cs members) :
    (Tree.oneOf members).WellFormed := by
  cases h with
  | positive _ _ hmembers => exact ⟨hmembers, normalize_pairwise _⟩
  | negative _ hmembers => exact ⟨hmembers, complement_pairwise _⟩

theorem Grammar.Quantifier.le {maxRepeat least most : Nat} {cs : List Char}
    (h : Quantifier maxRepeat cs least most) : least ≤ most := by
  have hcount := maxBound_le_countMax
  have hone : 1 ≤ maxBound := by decide
  cases h <;> omega

mutual

theorem Grammar.Atom.wellFormed {maxRepeat depth : Nat} {cs : List Char} {tree : Tree}
    (h : Atom maxRepeat depth cs tree) : tree.WellFormed := by
  cases h with
  | literal => trivial
  | any => exact ⟨by decide, charRange_pairwise _ _⟩
  | escapedChar => trivial
  | escapedSet hc => exact hc.wellFormed
  | charClass hclass => exact hclass.wellFormed
  | group hbranches => exact hbranches.wellFormed
  | markedGroup hbranches => exact hbranches.wellFormed

theorem Grammar.Concatenation.wellFormed {maxRepeat depth : Nat} {cs : List Char}
    {items : List Item} (h : Concatenation maxRepeat depth cs items) : ItemsWellFormed items := by
  cases h with
  | nil => trivial
  | cons htext hmark hrest => exact ⟨htext.wellFormed, hmark.le, hrest.wellFormed⟩

theorem Grammar.Alternation.wellFormed {maxRepeat depth : Nat} {cs : List Char}
    {branches : List (List Item)} (h : Alternation maxRepeat depth cs branches) :
    branches ≠ [] ∧ BranchesWellFormed branches := by
  cases h with
  | last hitems => exact ⟨by simp, hitems.wellFormed, trivial⟩
  | cons hitems hrest => exact ⟨by simp, hitems.wellFormed, hrest.wellFormed.2⟩

end

theorem wellFormed_of_parse {pattern : String} {maxRepeat : Nat} {tree : Tree}
    (h : parse pattern maxRepeat = .ok tree) : tree.WellFormed := by
  cases (parse_eq_ok_iff.mp h).1 with
  | root hbranches => exact hbranches.wellFormed

end Pastiche.Pattern
