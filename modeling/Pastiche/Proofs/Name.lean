import Pastiche.Name
import Pastiche.Proofs.Text.Casing
import Pastiche.Proofs.Text.Split

/-! Names of ASCII characters. The usual form of one has no capitals and is its own usual form. -/

namespace Pastiche

namespace Text

def IsAscii (cs : List Char) : Prop := ∀ c ∈ cs, c.toNat < 0x80

instance (cs : List Char) : Decidable (IsAscii cs) :=
  List.decidableBAll (fun c : Char => c.toNat < 0x80) cs

theorem clustersAfter_flatten (pending : Pending) (previous : Joining) (cs : List Char) :
    (clustersAfter pending previous cs).1 ++ (clustersAfter pending previous cs).2.flatten =
      cs := by
  induction cs generalizing pending previous with
  | nil => rfl
  | cons c rest ih =>
    simp only [clustersAfter]
    split
    · exact congrArg (c :: ·) (ih _ _)
    · exact congrArg (c :: ·) (ih _ _)

theorem clusters_flatten (cs : List Char) : (clusters cs).flatten = cs := by
  have hall := clustersAfter_flatten .nothing .control cs
  have hown : (clustersAfter .nothing .control cs).1 = [] := by
    cases cs with
    | nil => rfl
    | cons c rest =>
      have hjoined : joins .nothing .control (joining c) = false := by
        simp [joins, Joining.isControl]
      simp [clustersAfter, hjoined]
  rwa [hown, List.nil_append] at hall

theorem toLower_ascii {c : Char} (hc : c.toNat < 0x80) :
    c.toLower.toNat < 0x80 ∧ c.toLower.toLower = c.toLower :=
  of_ascii (P := fun c => c.toLower.toNat < 0x80 ∧ c.toLower.toLower = c.toLower)
    (by decide +kernel) hc

theorem eq_dot_of_toLower {c : Char} (hc : c.toNat < 0x80) (h : c.toLower = '.') : c = '.' :=
  of_ascii (P := fun c => c.toLower = '.' → c = '.') (by decide +kernel) hc h

theorem lowerAfter_of_ascii {before cs : List Char} (h : IsAscii cs) :
    lowerAfter before cs = cs.map Char.toLower := by
  induction cs generalizing before with
  | nil => rfl
  | cons c rest ih =>
    obtain ⟨hc, hrest⟩ := List.forall_mem_cons.mp h
    have hsigma : c ≠ 'Σ' := by
      rintro rfl
      exact absurd hc (by decide)
    have hlater : lowerAfter (c :: before) rest = rest.map Char.toLower := ih hrest
    simp only [lowerAfter, if_neg hsigma, lowerChar, if_pos hc, hlater]
    rfl

theorem lower_of_ascii {cs : List Char} (h : IsAscii cs) : lower cs = cs.map Char.toLower :=
  lowerAfter_of_ascii h

/-- A text of ASCII characters that are no capitals. -/
def IsSmall (cs : List Char) : Prop := ∀ c ∈ cs, c.toNat < 0x80 ∧ c.toLower = c

theorem IsSmall.lower {cs : List Char} (h : IsSmall cs) : Text.lower cs = cs := by
  have hsame : cs.map Char.toLower = cs.map id := List.map_congr_left fun c hc => (h c hc).2
  have hmap : cs.map Char.toLower = cs := by rw [hsame, List.map_id]
  rw [lower_of_ascii fun c hc => (h c hc).1, hmap]

end Text

namespace Name

open Text

theorem not_isUpper_of_small {cluster : List Char} (h : IsSmall cluster) :
    isUpper cluster = false := by
  refine Bool.eq_false_iff.mpr fun hupper => ?_
  simp only [isUpper, Bool.and_eq_true, bne_iff_ne, beq_iff_eq] at hupper
  obtain ⟨hcased, heq⟩ := hupper
  exact hcased (heq.symm.trans h.lower.symm)

theorem words_of_not_isUpper {first : List Char} {others : List (List Char)}
    (h : ∀ cluster ∈ others, isUpper cluster = false) :
    words (first :: others) = [first :: others] := by
  induction others generalizing first with
  | nil => rfl
  | cons second rest ih =>
    have hrest : words (second :: rest) = [second :: rest] :=
      ih fun cluster hcluster => h cluster (List.mem_cons_of_mem _ hcluster)
    have hends : endsBetween first second rest.head? = false := by
      simp [endsBetween, h second List.mem_cons_self]
    simp [words, hrest, hends]

theorem words_flatten (clusters : List (List Char)) : (words clusters).flatten = clusters := by
  fun_induction words clusters with
  | case1 => rfl
  | case2 cluster => rfl
  | case3 first second rest hnone ih =>
    rw [hnone] at ih
    cases ih
  | case4 first second rest word more hwords hends ih =>
    rw [hwords] at ih
    simpa using ih
  | case5 first second rest word more hwords hends ih =>
    rw [hwords] at ih
    simpa using ih

theorem snakeSegment_of_small {cs : List Char} (h : IsSmall cs) : snakeSegment cs = cs := by
  have hflatten := clusters_flatten cs
  cases hclusters : clusters cs with
  | nil =>
    rw [hclusters] at hflatten
    rw [← hflatten]
    rfl
  | cons first others =>
    rw [hclusters] at hflatten
    have hsmall : ∀ cluster ∈ others, isUpper cluster = false := by
      intro cluster hcluster
      refine not_isUpper_of_small fun c hc => h c ?_
      rw [← hflatten]
      exact List.mem_flatten.mpr ⟨cluster, List.mem_cons_of_mem _ hcluster, hc⟩
    rw [snakeSegment, hclusters, words_of_not_isUpper hsmall, List.map_singleton, hflatten, h.lower,
      List.intercalate_singleton]

theorem mem_snakeSegment {cs : List Char} (h : IsAscii cs) {c : Char} (hc : c ∈ snakeSegment cs) :
    c = '_' ∨ ∃ d ∈ cs, c = d.toLower := by
  rcases mem_intercalate hc with heq | ⟨part, hpart, hmem⟩
  · exact .inl heq
  · obtain ⟨word, hword, rfl⟩ := List.mem_map.mp hpart
    have hchars : ∀ d ∈ word.flatten, d ∈ cs := by
      intro d hd
      obtain ⟨cluster, hcluster, hin⟩ := List.mem_flatten.mp hd
      have hall : cluster ∈ (words (clusters cs)).flatten :=
        List.mem_flatten.mpr ⟨word, hword, hcluster⟩
      rw [words_flatten] at hall
      rw [← clusters_flatten cs]
      exact List.mem_flatten.mpr ⟨cluster, hall, hin⟩
    rw [lower_of_ascii fun d hd => h d (hchars d hd)] at hmem
    obtain ⟨d, hd, rfl⟩ := List.mem_map.mp hmem
    exact .inr ⟨d, hchars d hd, rfl⟩

theorem small_snakeSegment {cs : List Char} (h : IsAscii cs) : IsSmall (snakeSegment cs) := by
  intro c hc
  rcases mem_snakeSegment h hc with rfl | ⟨d, hd, rfl⟩
  · decide
  · exact toLower_ascii (h d hd)

theorem dot_not_mem_snakeSegment {cs : List Char} (h : IsAscii cs) (hdot : '.' ∉ cs) :
    '.' ∉ snakeSegment cs := by
  intro hmem
  rcases mem_snakeSegment h hmem with heq | ⟨d, hd, heq⟩
  · exact absurd heq (by decide)
  · exact hdot (eq_dot_of_toLower (h d hd) heq.symm ▸ hd)

theorem splitOn_snakeChars {cs : List Char} (h : IsAscii cs) :
    (snakeChars cs).splitOn '.' = (cs.splitOn '.').map snakeSegment := by
  have hdots : ∀ part ∈ (cs.splitOn '.').map snakeSegment, '.' ∉ part := by
    intro part hpart
    obtain ⟨segment, hsegment, rfl⟩ := List.mem_map.mp hpart
    exact dot_not_mem_snakeSegment (fun c hc => h c (mem_of_mem_splitOn hsegment hc))
      (not_mem_of_mem_splitOn hsegment)
  have hne : (cs.splitOn '.').map snakeSegment ≠ [] := by simp [List.splitOn_ne_nil]
  exact List.splitOn_intercalate '.' hdots hne

theorem snakeChars_idem {cs : List Char} (h : IsAscii cs) :
    snakeChars (snakeChars cs) = snakeChars cs := by
  have hsegments : ((cs.splitOn '.').map snakeSegment).map snakeSegment =
      (cs.splitOn '.').map snakeSegment := by
    rw [List.map_map]
    refine List.map_congr_left fun segment hsegment => ?_
    have hascii : IsAscii segment := fun c hc => h c (mem_of_mem_splitOn hsegment hc)
    exact snakeSegment_of_small (small_snakeSegment hascii)
  rw [snakeChars, splitOn_snakeChars h, hsegments]
  rfl

theorem snake_of_small {name : String} (h : IsSmall name.toList) : snake name = name := by
  have hsegments : (name.toList.splitOn '.').map snakeSegment = name.toList.splitOn '.' := by
    refine (List.map_congr_left fun segment hsegment => ?_).trans (List.map_id _)
    exact snakeSegment_of_small fun c hc => h c (mem_of_mem_splitOn hsegment hc)
  rw [snake, snakeChars, hsegments, List.intercalate_splitOn, String.ofList_toList]

theorem snake_idem {name : String} (h : IsAscii name.toList) : snake (snake name) = snake name := by
  rw [snake, snake, String.toList_ofList, snakeChars_idem h]

end Name

end Pastiche
