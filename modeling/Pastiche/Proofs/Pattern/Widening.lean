import Mathlib.Algebra.Order.Monoid.Unbundled.Pow
import Mathlib.Order.CompletePartialOrder
import Pastiche.Proofs.Pattern.Language

/-!
One pattern under two limits for the repetitions that it leaves open. The trees that are read from
it are the same but for the upper bounds of those repetitions, which grow with the limit, and so
nothing that can be generated under the lower limit is lost under the higher one.
-/

namespace Pastiche.Pattern

namespace Grammar

/-- A quantifier that names no upper bound: `*`, `+` or `{n,}`. -/
inductive OpenEnded : List Char → Prop where
  | star {mark : List Char} (hmark : Lazy mark) : OpenEnded ('*' :: mark)
  | plus {mark : List Char} (hmark : Lazy mark) : OpenEnded ('+' :: mark)
  | atLeast {digits mark : List Char} {n : Nat} (hdigits : Number digits n) (hmark : Lazy mark) :
      OpenEnded ('\x7b' :: digits ++ ',' :: '\x7d' :: mark)

end Grammar

open Grammar

/-! Each of these relations is about one text and what it is read as under either limit. -/

namespace Twin

variable (limit higher : Nat)

/-- The least number of repetitions is the same, and the largest differs only where the quantifier
does not name it. -/
inductive Bounds : List Char → (least most more : Nat) → Prop where
  | named {mark : List Char} {least most : Nat} (h : Quantifier limit mark least most)
      (h' : Quantifier higher mark least most) : Bounds mark least most most
  | openEnded {mark : List Char} {least most more : Nat} (hmark : OpenEnded mark)
      (h : Quantifier limit mark least most) (h' : Quantifier higher mark least more)
      (hle : most ≤ more) : Bounds mark least most more

mutual

inductive Atom : (depth : Nat) → List Char → Tree → Tree → Prop where
  | same {depth : Nat} {cs : List Char} {tree : Tree} (h : Grammar.Atom limit depth cs tree)
      (h' : Grammar.Atom higher depth cs tree) : Atom depth cs tree tree
  | group {depth : Nat} {cs : List Char} {branches others : List (List Item)}
      (h : Alternation depth cs branches others) :
      Atom (depth + 1) ('(' :: cs ++ [')']) (.choice branches) (.choice others)
  | markedGroup {depth : Nat} {cs : List Char} {branches others : List (List Item)}
      (h : Alternation depth cs branches others) :
      Atom (depth + 1) ('(' :: '?' :: ':' :: cs ++ [')']) (.choice branches) (.choice others)

inductive Concatenation : (depth : Nat) → List Char → List Item → List Item → Prop where
  | nil {depth : Nat} : Concatenation depth [] [] []
  | cons {depth least most more : Nat} {text mark rest : List Char} {tree other : Tree}
      {items others : List Item} (htext : Atom depth text tree other)
      (hmark : Bounds limit higher mark least most more)
      (hrest : Concatenation depth rest items others) :
      Concatenation depth (text ++ (mark ++ rest)) (.repeated tree least most :: items)
        (.repeated other least more :: others)

inductive Alternation : (depth : Nat) → List Char → List (List Item) → List (List Item) → Prop where
  | last {depth : Nat} {cs : List Char} {items others : List Item}
      (h : Concatenation depth cs items others) : Alternation depth cs [items] [others]
  | cons {depth : Nat} {cs rest : List Char} {items items' : List Item}
      {branches branches' : List (List Item)} (hcs : Concatenation depth cs items items')
      (hrest : Alternation depth rest branches branches') :
      Alternation depth (cs ++ '|' :: rest) (items :: branches) (items' :: branches')

end

/-- The trees of a whole text. -/
inductive Derives : List Char → Tree → Tree → Prop where
  | root {cs : List Char} {branches others : List (List Item)}
      (h : Alternation limit higher maxNesting cs branches others) :
      Derives cs (.choice branches) (.choice others)

end Twin

section Higher

variable {limit higher : Nat}

theorem Grammar.Quantifier.twin {mark : List Char} {least most : Nat} (hle : limit ≤ higher)
    (h : Quantifier limit mark least most) : ∃ more, Twin.Bounds limit higher mark least most more := by
  cases h with
  | once => exact ⟨1, .named .once .once⟩
  | optional hmark => exact ⟨1, .named (.optional hmark) (.optional hmark)⟩
  | star hmark => exact ⟨higher, .openEnded (.star hmark) (.star hmark) (.star hmark) hle⟩
  | plus hmark =>
    refine ⟨_, .openEnded (.plus hmark) (.plus hmark) (.plus hmark) ?_⟩
    omega
  | exactly hdigits hn hmark =>
    exact ⟨_, .named (.exactly hdigits hn hmark) (.exactly hdigits hn hmark)⟩
  | @atLeast digits mark n hdigits hn hmark =>
    refine ⟨_, .openEnded (.atLeast hdigits hmark) (.atLeast hdigits hn hmark)
      (.atLeast hdigits hn hmark) ?_⟩
    omega
  | between hdigits hothers hbounds hleast hmost hmark =>
    exact ⟨most, .named (.between hdigits hothers hbounds hleast hmost hmark)
      (.between hdigits hothers hbounds hleast (by omega) hmark)⟩

mutual

theorem Grammar.Atom.twin {depth : Nat} {cs : List Char} {tree : Tree} (hle : limit ≤ higher)
    (h : Atom limit depth cs tree) : ∃ other, Twin.Atom limit higher depth cs tree other := by
  cases h with
  | literal hc => exact ⟨_, .same (.literal hc) (.literal hc)⟩
  | any => exact ⟨_, .same .any .any⟩
  | escapedChar hc => exact ⟨_, .same (.escapedChar hc) (.escapedChar hc)⟩
  | escapedSet hc => exact ⟨_, .same (.escapedSet hc) (.escapedSet hc)⟩
  | charClass hclass => exact ⟨_, .same (.charClass hclass) (.charClass hclass)⟩
  | group hbranches =>
    obtain ⟨others, hothers⟩ := hbranches.twin hle
    exact ⟨.choice others, .group hothers⟩
  | markedGroup hbranches =>
    obtain ⟨others, hothers⟩ := hbranches.twin hle
    exact ⟨.choice others, .markedGroup hothers⟩

theorem Grammar.Concatenation.twin {depth : Nat} {cs : List Char} {items : List Item}
    (hle : limit ≤ higher) (h : Concatenation limit depth cs items) :
    ∃ others, Twin.Concatenation limit higher depth cs items others := by
  cases h with
  | nil => exact ⟨[], .nil⟩
  | cons htext hmark hrest =>
    obtain ⟨other, hother⟩ := htext.twin hle
    obtain ⟨more, hmore⟩ := hmark.twin hle
    obtain ⟨others, hothers⟩ := hrest.twin hle
    exact ⟨_ :: others, .cons hother hmore hothers⟩

theorem Grammar.Alternation.twin {depth : Nat} {cs : List Char} {branches : List (List Item)}
    (hle : limit ≤ higher) (h : Alternation limit depth cs branches) :
    ∃ others, Twin.Alternation limit higher depth cs branches others := by
  cases h with
  | last hitems =>
    obtain ⟨others, hothers⟩ := hitems.twin hle
    exact ⟨[others], .last hothers⟩
  | cons hitems hrest =>
    obtain ⟨items, hitems'⟩ := hitems.twin hle
    obtain ⟨others, hothers⟩ := hrest.twin hle
    exact ⟨items :: others, .cons hitems' hothers⟩

end

theorem Twin.Bounds.quantifier {mark : List Char} {least most more : Nat}
    (h : Twin.Bounds limit higher mark least most more) : Quantifier higher mark least more := by
  cases h with
  | named _ h' => exact h'
  | openEnded _ _ h' _ => exact h'

mutual

theorem Twin.Atom.derives {depth : Nat} {cs : List Char} {tree other : Tree}
    (h : Twin.Atom limit higher depth cs tree other) : Grammar.Atom higher depth cs other := by
  cases h with
  | same _ h' => exact h'
  | group hbranches => exact .group hbranches.derives
  | markedGroup hbranches => exact .markedGroup hbranches.derives

theorem Twin.Concatenation.derives {depth : Nat} {cs : List Char} {items others : List Item}
    (h : Twin.Concatenation limit higher depth cs items others) :
    Grammar.Concatenation higher depth cs others := by
  cases h with
  | nil => exact .nil
  | cons htext hmark hrest => exact .cons htext.derives hmark.quantifier hrest.derives

theorem Twin.Alternation.derives {depth : Nat} {cs : List Char} {branches others : List (List Item)}
    (h : Twin.Alternation limit higher depth cs branches others) :
    Grammar.Alternation higher depth cs others := by
  cases h with
  | last hitems => exact .last hitems.derives
  | cons hitems hrest => exact .cons hitems.derives hrest.derives

end

/-- The tree under the higher limit is the twin of the tree under the lower one: a text has no other
tree. -/
theorem Grammar.Derives.twin {cs : List Char} {tree other : Tree} (hle : limit ≤ higher)
    (h : Derives limit cs tree) (h' : Derives higher cs other) :
    Twin.Derives limit higher cs tree other := by
  cases h with
  | root hbranches =>
    obtain ⟨others, hothers⟩ := hbranches.twin hle
    obtain rfl : .choice others = other := Derives.unique (.root hothers.derives) h'
    exact .root hothers

end Higher

section Language

variable {limit higher : Nat}

theorem repetitions_mono {language wider : Language Char} (h : language ≤ wider)
    {most more : Nat} (hle : most ≤ more) (least : Nat) :
    repetitions language least most ≤ repetitions wider least more := by
  rintro text ⟨count, hleast, hmost, htext⟩
  exact ⟨count, hleast, hmost.trans hle, pow_le_pow_left' h count htext⟩

theorem Twin.Bounds.le {mark : List Char} {least most more : Nat}
    (h : Twin.Bounds limit higher mark least most more) : most ≤ more := by
  cases h with
  | named => exact Nat.le_refl most
  | openEnded _ _ _ hle => exact hle

mutual

theorem Twin.Atom.language_le {depth : Nat} {cs : List Char} {tree other : Tree}
    (h : Twin.Atom limit higher depth cs tree other) : tree.language ≤ other.language := by
  cases h with
  | same => exact le_refl _
  | group hbranches => exact hbranches.language_le
  | markedGroup hbranches => exact hbranches.language_le

theorem Twin.Concatenation.language_le {depth : Nat} {cs : List Char} {items others : List Item}
    (h : Twin.Concatenation limit higher depth cs items others) :
    itemsLanguage items ≤ itemsLanguage others := by
  cases h with
  | nil => exact le_refl _
  | cons htext hmark hrest =>
    exact mul_le_mul' (repetitions_mono htext.language_le hmark.le _) hrest.language_le

theorem Twin.Alternation.language_le {depth : Nat} {cs : List Char}
    {branches others : List (List Item)}
    (h : Twin.Alternation limit higher depth cs branches others) :
    branchesLanguage branches ≤ branchesLanguage others := by
  cases h with
  | last hitems => exact add_le_add_left hitems.language_le _
  | cons hitems hrest => exact add_le_add hitems.language_le hrest.language_le

end

end Language

theorem Twin.Derives.language_le {limit higher : Nat} {cs : List Char} {tree other : Tree}
    (h : Twin.Derives limit higher cs tree other) : tree.language ≤ other.language := by
  cases h with
  | root hbranches => exact hbranches.language_le

/-- Under a higher limit a pattern is read as the same tree, but for the upper bounds of the
repetitions that it leaves open, and every text that some source gave under the lower limit can be
had by some draws. -/
theorem texts_of_higher_limit {pattern : String} {limit higher : Nat} (hle : limit ≤ higher)
    {tree other : Tree} (h : parse pattern limit = .ok tree)
    (h' : parse pattern higher = .ok other) :
    Twin.Derives limit higher (stripDelimiters pattern.toList) tree other ∧
      ∀ (σ : Type) [Source σ] (source : σ), ∃ values,
        other.sample (RandomSource.cycle values 0) =
          ((tree.sample source).1, .cycle values values.length) := by
  have htwin := (parse_eq_ok_iff.mp h).1.twin hle (parse_eq_ok_iff.mp h').1
  refine ⟨htwin, fun σ _ source => ?_⟩
  have htext := htwin.language_le (tree.generate_mem (wellFormed_of_parse h) source)
  obtain ⟨values, hvalues⟩ := other.yields_generate htext
  have hrun := hvalues [] []
  rw [List.nil_append, List.append_nil, List.length_nil, Nat.zero_add] at hrun
  exact ⟨values, by rw [sample_state, sample_state, hrun]⟩

/-- A group with a repetition in it, repeated at least once itself. -/
def openGroup (inner outer : Nat) : Tree :=
  .choice [[.repeated (.choice [[.repeated (.literal 'a') 0 inner],
    [.repeated (.literal 'b') 2 3]]) 1 outer]]

theorem texts_of_higher_limit_openGroup :
    1 ≤ 2 ∧ parse "(a*|b\x7b2,3\x7d)\x7b1,\x7d" 1 = .ok (openGroup 1 2) ∧
      parse "(a*|b\x7b2,3\x7d)\x7b1,\x7d" 2 = .ok (openGroup 2 3) ∧
      ∃ values, (openGroup 2 3).sample (RandomSource.cycle values 0) =
        (((openGroup 1 2).sample (RandomSource.fixed 0)).1, .cycle values values.length) := by
  have hbody : stripDelimiters "(a*|b\x7b2,3\x7d)\x7b1,\x7d".toList =
      ['(', 'a', '*', '|', 'b', '\x7b', '2', ',', '3', '\x7d', ')', '\x7b', '1', ',', '\x7d'] := by
    decide
  have hread (limit : Nat) (tree : Tree)
      (htree : parseTree limit
        ['(', 'a', '*', '|', 'b', '\x7b', '2', ',', '3', '\x7d', ')', '\x7b', '1', ',', '\x7d'] =
          .ok tree)
      (hlength : tree.maxLength ≤ maxOutput) (hvisits : tree.maxVisits ≤ maxSteps) :
      parse "(a*|b\x7b2,3\x7d)\x7b1,\x7d" limit = .ok tree := by
    rw [← hbody] at htree
    exact parse_eq_ok_iff.mpr ⟨parseTree_eq_ok_iff.mp htree, hlength, hvisits⟩
  have hlower := hread 1 (openGroup 1 2) rfl (by decide) (by decide)
  have hhigher := hread 2 (openGroup 2 3) rfl (by decide) (by decide)
  have hle : 1 ≤ 2 := by decide
  exact ⟨hle, hlower, hhigher, (texts_of_higher_limit hle hlower hhigher).2 _ (RandomSource.fixed 0)⟩

end Pastiche.Pattern
