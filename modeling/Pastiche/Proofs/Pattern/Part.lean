import Pastiche.Proofs.Pattern.WellFormed

/-!
The nodes of a tree, and the parts of a text that they are read from. Every node of a well-formed
tree is sound. Every node of a tree that is read, apart from the tree itself, has a part of the text
that derives it. Where this part lists characters, the node is the class of these; where it names what to
leave out, the class of all other printable characters.
-/

namespace Pastiche.Pattern

/-- The trees that a tree consists of, itself included. -/
inductive Tree.Within (node : Tree) : Tree → Prop where
  | root : Within node node
  | deeper {branches : List (List Item)} {branch : List Item} {tree : Tree} {least most : Nat}
      (hbranch : branch ∈ branches) (hitem : .repeated tree least most ∈ branch)
      (h : Within node tree) : Within node (.choice branches)

/-- At the node itself there is something to choose wherever a choice is made, the members of a
class increase, and no repetition ends before it begins. -/
def Tree.Sound : Tree → Prop
  | .literal _ => True
  | .oneOf members => members ≠ [] ∧ members.Pairwise (· < ·)
  | .choice branches => branches ≠ [] ∧ ∀ branch ∈ branches, ∀ tree least most,
      Item.repeated tree least most ∈ branch → least ≤ most

theorem BranchesWellFormed.branch {branches : List (List Item)} (h : BranchesWellFormed branches)
    {branch : List Item} (hbranch : branch ∈ branches) : ItemsWellFormed branch := by
  induction branches with
  | nil => cases hbranch
  | cons first others ih =>
    rcases List.mem_cons.mp hbranch with rfl | hothers
    · exact h.1
    · exact ih h.2 hothers

theorem ItemsWellFormed.item {items : List Item} (h : ItemsWellFormed items) {tree : Tree}
    {least most : Nat} (hitem : .repeated tree least most ∈ items) :
    tree.WellFormed ∧ least ≤ most := by
  induction items with
  | nil => cases hitem
  | cons item rest ih =>
    obtain ⟨first, fewest, largest⟩ := item
    obtain ⟨hfirst, hle, hrest⟩ := h
    rcases List.mem_cons.mp hitem with heq | hmem
    · cases heq
      exact ⟨hfirst, hle⟩
    · exact ih hrest hmem

theorem Tree.WellFormed.within {node tree : Tree} (h : tree.WellFormed) (hnode : node.Within tree) :
    node.WellFormed := by
  induction hnode with
  | root => exact h
  | deeper hbranch hitem _ ih => exact ih ((h.2.branch hbranch).item hitem).1

theorem Tree.WellFormed.sound {tree : Tree} (h : tree.WellFormed) : tree.Sound := by
  cases tree with
  | literal c => trivial
  | oneOf members => exact h
  | choice branches =>
    exact ⟨h.1, fun branch hbranch tree least most hitem => ((h.2.branch hbranch).item hitem).2⟩

namespace Grammar

mutual

/-- In the derivation of a tree, the part of the text that derives a node of it. -/
inductive AtomPart (maxRepeat : Nat) (part : List Char) (node : Tree) :
    (depth : Nat) → List Char → Tree → Prop where
  | whole {depth : Nat} (h : Atom maxRepeat depth part node) :
      AtomPart maxRepeat part node depth part node
  | group {depth : Nat} {cs : List Char} {branches : List (List Item)}
      (h : AlternationPart maxRepeat part node depth cs branches) :
      AtomPart maxRepeat part node (depth + 1) ('(' :: cs ++ [')']) (.choice branches)
  | markedGroup {depth : Nat} {cs : List Char} {branches : List (List Item)}
      (h : AlternationPart maxRepeat part node depth cs branches) :
      AtomPart maxRepeat part node (depth + 1) ('(' :: '?' :: ':' :: cs ++ [')']) (.choice branches)

inductive ConcatenationPart (maxRepeat : Nat) (part : List Char) (node : Tree) :
    (depth : Nat) → List Char → List Item → Prop where
  | first {depth least most : Nat} {text mark rest : List Char} {tree : Tree} {items : List Item}
      (htext : AtomPart maxRepeat part node depth text tree)
      (hmark : Quantifier maxRepeat mark least most)
      (hrest : Concatenation maxRepeat depth rest items) :
      ConcatenationPart maxRepeat part node depth (text ++ (mark ++ rest))
        (.repeated tree least most :: items)
  | later {depth least most : Nat} {text mark rest : List Char} {tree : Tree} {items : List Item}
      (htext : Atom maxRepeat depth text tree) (hmark : Quantifier maxRepeat mark least most)
      (hrest : ConcatenationPart maxRepeat part node depth rest items) :
      ConcatenationPart maxRepeat part node depth (text ++ (mark ++ rest))
        (.repeated tree least most :: items)

inductive AlternationPart (maxRepeat : Nat) (part : List Char) (node : Tree) :
    (depth : Nat) → List Char → List (List Item) → Prop where
  | last {depth : Nat} {cs : List Char} {items : List Item}
      (h : ConcatenationPart maxRepeat part node depth cs items) :
      AlternationPart maxRepeat part node depth cs [items]
  | first {depth : Nat} {cs rest : List Char} {items : List Item} {others : List (List Item)}
      (hcs : ConcatenationPart maxRepeat part node depth cs items)
      (hrest : Alternation maxRepeat depth rest others) :
      AlternationPart maxRepeat part node depth (cs ++ '|' :: rest) (items :: others)
  | later {depth : Nat} {cs rest : List Char} {items : List Item} {others : List (List Item)}
      (hcs : Concatenation maxRepeat depth cs items)
      (hrest : AlternationPart maxRepeat part node depth rest others) :
      AlternationPart maxRepeat part node depth (cs ++ '|' :: rest) (items :: others)

end

/-- The part of a whole text that derives a node below its tree. -/
inductive Part (maxRepeat : Nat) (part : List Char) (node : Tree) : List Char → Tree → Prop where
  | inside {cs : List Char} {branches : List (List Item)}
      (h : AlternationPart maxRepeat part node maxNesting cs branches) :
      Part maxRepeat part node cs (.choice branches)

/-- A part that stands for all printable characters but those that it names. -/
inductive Negates : (part excluded : List Char) → Prop where
  | any : Negates ['.'] []
  | notDigit : Negates ['\\', 'D'] digitChars
  | notWord : Negates ['\\', 'W'] wordChars
  | notSpace : Negates ['\\', 'S'] [' ']
  | charClass {cs listed : List Char} (h : Listing true cs listed) :
      Negates ('[' :: '^' :: cs ++ [']']) listed

/-- A part that stands for the characters that it lists. -/
inductive Lists : (part listed : List Char) → Prop where
  | digit : Lists ['\\', 'd'] digitChars
  | word : Lists ['\\', 'w'] wordChars
  | space : Lists ['\\', 's'] [' ']
  | charClass {cs listed : List Char} (hcaret : cs.head? ≠ some '^') (h : Listing true cs listed) :
      Lists ('[' :: cs ++ [']']) listed

end Grammar

open Grammar

-- a derivation has no size, so these are recursive on what is derived
mutual

theorem Grammar.Atom.exists_part {maxRepeat depth : Nat} {cs : List Char} {node tree : Tree}
    (h : Atom maxRepeat depth cs tree) (hnode : node.Within tree) :
    ∃ part, AtomPart maxRepeat part node depth cs tree := by
  cases hnode with
  | root => exact ⟨cs, .whole h⟩
  | deeper hbranch hitem hbelow =>
    cases h with
    | group hbranches =>
      obtain ⟨part, hpart⟩ := hbranches.exists_part hbranch hitem hbelow
      exact ⟨part, .group hpart⟩
    | markedGroup hbranches =>
      obtain ⟨part, hpart⟩ := hbranches.exists_part hbranch hitem hbelow
      exact ⟨part, .markedGroup hpart⟩
termination_by sizeOf tree

theorem Grammar.Concatenation.exists_part {maxRepeat depth least most : Nat} {cs : List Char}
    {items : List Item} {node tree : Tree} (h : Concatenation maxRepeat depth cs items)
    (hitem : .repeated tree least most ∈ items) (hnode : node.Within tree) :
    ∃ part, ConcatenationPart maxRepeat part node depth cs items := by
  cases h with
  | nil => cases hitem
  | cons htext hmark hrest =>
    rcases List.mem_cons.mp hitem with heq | hmem
    · cases heq
      obtain ⟨part, hpart⟩ := htext.exists_part hnode
      exact ⟨part, .first hpart hmark hrest⟩
    · obtain ⟨part, hpart⟩ := hrest.exists_part hmem hnode
      exact ⟨part, .later htext hmark hpart⟩
termination_by sizeOf items

theorem Grammar.Alternation.exists_part {maxRepeat depth least most : Nat} {cs : List Char}
    {branches : List (List Item)} {branch : List Item} {node tree : Tree}
    (h : Alternation maxRepeat depth cs branches) (hbranch : branch ∈ branches)
    (hitem : .repeated tree least most ∈ branch) (hnode : node.Within tree) :
    ∃ part, AlternationPart maxRepeat part node depth cs branches := by
  cases h with
  | last hitems =>
    obtain rfl := List.mem_singleton.mp hbranch
    obtain ⟨part, hpart⟩ := hitems.exists_part hitem hnode
    exact ⟨part, .last hpart⟩
  | cons hitems hrest =>
    rcases List.mem_cons.mp hbranch with rfl | hmem
    · obtain ⟨part, hpart⟩ := hitems.exists_part hitem hnode
      exact ⟨part, .first hpart hrest⟩
    · obtain ⟨part, hpart⟩ := hrest.exists_part hmem hitem hnode
      exact ⟨part, .later hitems hpart⟩
termination_by sizeOf branches

end

theorem Grammar.Derives.exists_part {maxRepeat : Nat} {cs : List Char} {node tree : Tree}
    (h : Derives maxRepeat cs tree) (hnode : node.Within tree) :
    node = tree ∨ ∃ part, Part maxRepeat part node cs tree := by
  cases hnode with
  | root => exact .inl rfl
  | deeper hbranch hitem hbelow =>
    cases h with
    | root hbranches =>
      obtain ⟨part, hpart⟩ := hbranches.exists_part hbranch hitem hbelow
      exact .inr ⟨part, .inside hpart⟩

theorem Grammar.Listing.unique {first : Bool} {cs listed other : List Char}
    (h : Listing first cs listed) (h' : Listing first cs other) : listed = other := by
  have hread := classMembers_complete h []
  rw [classMembers_complete h' []] at hread
  exact (Prod.mk.inj (Except.ok.inj hread)).1.symm

theorem Grammar.Class.of_caret {cs members : List Char} (h : Class ('^' :: cs) members) :
    ∃ inner listed, cs = inner ++ [']'] ∧ Listing true inner listed ∧
      members = complement listed := by
  generalize htext : '^' :: cs = text at h
  cases h with
  | @positive inner listed hcaret =>
    cases inner with
    | nil => simp at htext
    | cons c inner =>
      obtain ⟨rfl, -⟩ := List.cons.inj htext
      exact absurd rfl hcaret
  | negative hlisted => exact ⟨_, _, (List.cons.inj htext).2, hlisted, rfl⟩

theorem Grammar.Class.of_no_caret {cs listed members : List Char} (h : Class (cs ++ [']']) members)
    (hcaret : cs.head? ≠ some '^') (hlisted : Listing true cs listed) :
    members = normalize listed := by
  generalize htext : cs ++ [']'] = text at h
  cases h with
  | positive _ hinner =>
    obtain rfl := List.append_cancel_right htext
    rw [hinner.unique hlisted]
  | negative =>
    obtain rfl := List.append_cancel_right htext
    exact absurd rfl hcaret

theorem Grammar.Atom.of_bracket {maxRepeat depth : Nat} {cs : List Char} {node : Tree}
    (h : Atom maxRepeat depth ('[' :: cs) node) :
    ∃ members, Class cs members ∧ node = .oneOf members := by
  generalize htext : '[' :: cs = text at h
  cases h with
  | literal hc =>
    obtain ⟨rfl, -⟩ := List.cons.inj htext
    exact absurd (by decide) hc
  | charClass hclass =>
    obtain ⟨-, rfl⟩ := List.cons.inj htext
    exact ⟨_, hclass, rfl⟩
  | _ => simp at htext

theorem Grammar.Atom.of_dot {maxRepeat depth : Nat} {node : Tree}
    (h : Atom maxRepeat depth ['.'] node) : node = .oneOf printable := by
  generalize htext : ['.'] = text at h
  cases h with
  | literal hc =>
    obtain ⟨rfl, -⟩ := List.cons.inj htext
    exact absurd (by decide) hc
  | any => rfl
  | _ => simp at htext

theorem Grammar.Atom.of_set {maxRepeat depth : Nat} {c : Char} {members : List Char} {node : Tree}
    (h : Atom maxRepeat depth ['\\', c] node) (hc : Escaped c (.set members)) :
    node = .oneOf members := by
  have hset := escape_eq_ok_iff.mpr hc
  generalize htext : ['\\', c] = text at h
  cases h with
  | escapedChar hd =>
    obtain ⟨-, hrest⟩ := List.cons.inj htext
    obtain rfl := List.singleton_inj.mp hrest
    rw [escape_eq_ok_iff.mpr hd] at hset
    cases hset
  | escapedSet hd =>
    obtain ⟨-, hrest⟩ := List.cons.inj htext
    obtain rfl := List.singleton_inj.mp hrest
    rw [escape_eq_ok_iff.mpr hd] at hset
    cases hset
    rfl
  | _ => simp at htext

theorem Grammar.Negates.eq_oneOf {maxRepeat depth : Nat} {part excluded : List Char} {node : Tree}
    (h : Negates part excluded) (hnode : Atom maxRepeat depth part node) :
    node = .oneOf (complement excluded) := by
  cases h with
  | any =>
    have hall : complement [] = printable := by simp [complement]
    rw [hall]
    exact hnode.of_dot
  | notDigit => exact hnode.of_set .notDigit
  | notWord => exact hnode.of_set .notWord
  | notSpace => exact hnode.of_set .notSpace
  | charClass hlisted =>
    obtain ⟨members, hclass, rfl⟩ := hnode.of_bracket
    obtain ⟨inner, listed, hinner, hlisting, rfl⟩ := hclass.of_caret
    obtain rfl := List.append_cancel_right hinner
    rw [hlisting.unique hlisted]

theorem Grammar.Atom.exists_negates {maxRepeat depth : Nat} {part : List Char} {node : Tree}
    (h : Atom maxRepeat depth part node) (hcaret : ['[', '^'] <+: part) :
    ∃ excluded, Negates part excluded := by
  obtain ⟨cs, rfl⟩ := hcaret
  obtain ⟨members, hclass, -⟩ := h.of_bracket
  obtain ⟨inner, listed, rfl, hlisting, -⟩ := hclass.of_caret
  exact ⟨listed, .charClass hlisting⟩

theorem Grammar.Lists.exists_oneOf {maxRepeat depth : Nat} {part listed : List Char} {node : Tree}
    (h : Lists part listed) (hnode : Atom maxRepeat depth part node) :
    ∃ members, node = .oneOf members ∧ ∀ c, c ∈ members ↔ c ∈ listed := by
  cases h with
  | digit => exact ⟨_, hnode.of_set .digit, fun _ => Iff.rfl⟩
  | word => exact ⟨_, hnode.of_set .word, fun _ => Iff.rfl⟩
  | space => exact ⟨_, hnode.of_set .space, fun _ => Iff.rfl⟩
  | charClass hcaret hlisted =>
    obtain ⟨members, hclass, rfl⟩ := hnode.of_bracket
    obtain rfl := hclass.of_no_caret hcaret hlisted
    exact ⟨_, rfl, fun _ => mem_normalize⟩

theorem Grammar.Atom.negates_or_lists {maxRepeat depth : Nat} {part members : List Char}
    (h : Atom maxRepeat depth part (.oneOf members)) :
    (∃ excluded, Negates part excluded) ∨ ∃ listed, Lists part listed := by
  cases h with
  | any => exact .inl ⟨_, .any⟩
  | escapedSet hc =>
    cases hc with
    | digit => exact .inr ⟨_, .digit⟩
    | word => exact .inr ⟨_, .word⟩
    | space => exact .inr ⟨_, .space⟩
    | notDigit => exact .inl ⟨_, .notDigit⟩
    | notWord => exact .inl ⟨_, .notWord⟩
    | notSpace => exact .inl ⟨_, .notSpace⟩
  | charClass hclass =>
    cases hclass with
    | positive hcaret hlisted => exact .inr ⟨_, .charClass hcaret hlisted⟩
    | negative hlisted => exact .inl ⟨_, .charClass hlisted⟩

/-- The part stands in the text and derives the node. -/
structure Origin (maxRepeat : Nat) (cs part : List Char) (node : Tree) : Prop where
  stands : part <:+: cs
  derives : ∃ depth, Atom maxRepeat depth part node

theorem Origin.between {maxRepeat : Nat} {cs part : List Char} {node : Tree}
    (h : Origin maxRepeat cs part node) (before after : List Char) :
    Origin maxRepeat (before ++ cs ++ after) part node :=
  ⟨h.stands.trans (List.infix_append before cs after), h.derives⟩

theorem Origin.append_left {maxRepeat : Nat} {cs part : List Char} {node : Tree}
    (h : Origin maxRepeat cs part node) (before : List Char) :
    Origin maxRepeat (before ++ cs) part node := by
  simpa using h.between before []

theorem Origin.append_right {maxRepeat : Nat} {cs part : List Char} {node : Tree}
    (h : Origin maxRepeat cs part node) (after : List Char) :
    Origin maxRepeat (cs ++ after) part node :=
  h.between [] after

mutual

theorem Grammar.AtomPart.origin {maxRepeat depth : Nat} {cs part : List Char} {node tree : Tree}
    (h : AtomPart maxRepeat part node depth cs tree) :
    Origin maxRepeat cs part node := by
  cases h with
  | whole hatom => exact ⟨List.infix_rfl, _, hatom⟩
  | group hpart => exact hpart.origin.between ['('] [')']
  | markedGroup hpart => exact hpart.origin.between ['(', '?', ':'] [')']

theorem Grammar.ConcatenationPart.origin {maxRepeat depth : Nat} {cs part : List Char}
    {node : Tree} {items : List Item}
    (h : ConcatenationPart maxRepeat part node depth cs items) :
    Origin maxRepeat cs part node := by
  cases h with
  | first hpart => exact hpart.origin.append_right _
  | later _ _ hpart => exact (hpart.origin.append_left _).append_left _

theorem Grammar.AlternationPart.origin {maxRepeat depth : Nat} {cs part : List Char}
    {node : Tree} {branches : List (List Item)}
    (h : AlternationPart maxRepeat part node depth cs branches) :
    Origin maxRepeat cs part node := by
  cases h with
  | last hpart => exact hpart.origin
  | first hpart => exact hpart.origin.append_right _
  | later _ hpart =>
    rw [List.append_cons]
    exact hpart.origin.append_left _

end

theorem Grammar.Part.origin {maxRepeat : Nat} {cs part : List Char} {node tree : Tree}
    (h : Part maxRepeat part node cs tree) : Origin maxRepeat cs part node := by
  cases h with
  | inside hpart => exact hpart.origin

end Pastiche.Pattern
