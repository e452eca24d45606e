import Pastiche.Proofs.Directive.Reference
import Pastiche.Proofs.Name

/-!
Names of several words. Their words may stand apart, as in `id_number`, or be told apart by capitals,
as in `idNumber` and `IdNumber`; the usual form is the first of these.
-/

namespace Pastiche

namespace Text

theorem clustersAfter_of_other {previous : Joining} {cs : List Char}
    (hprevious : previous = .control ∨ previous = .other) (h : ∀ c ∈ cs, joining c = .other) :
    clustersAfter .nothing previous cs = ([], cs.map fun c => [c]) := by
  induction cs generalizing previous with
  | nil => rfl
  | cons c rest ih =>
    obtain ⟨hc, hrest⟩ := List.forall_mem_cons.mp h
    have hjoins : joins .nothing previous .other = false := by
      rcases hprevious with rfl | rfl <;> decide
    have hlater := ih (.inr rfl) hrest
    simp only [clustersAfter, hc, hjoins, Bool.false_eq_true, if_false, List.map_cons]
    change ([], (c :: (clustersAfter .nothing .other rest).1) ::
      (clustersAfter .nothing .other rest).2) = _
    rw [hlater]

theorem clusters_of_other {cs : List Char} (h : ∀ c ∈ cs, joining c = .other) :
    clusters cs = cs.map fun c => [c] := by
  rw [clusters, clustersAfter_of_other (.inl rfl) h]

end Text

namespace Name

open Text

/-- Small letters and digits, at least one. -/
def IsRest (cs : List Char) : Prop :=
  cs ≠ [] ∧ ∀ c ∈ cs, c.isLower = true ∨ c.isDigit = true

/-- A small letter with more of them or digits behind it. -/
def IsWord : List Char → Prop
  | [] => False
  | c :: rest => c.isLower = true ∧ IsRest rest

def capitalize : List Char → List Char
  | [] => []
  | c :: rest => c.toUpper :: rest

/-- The ways to write several words as one name. -/
inductive Style where
  | snake
  | camel
  | pascal
deriving DecidableEq

def Style.join : Style → List (List Char) → List Char
  | .snake, words => ['_'].intercalate words
  | .camel, [] => []
  | .camel, word :: rest => word ++ rest.flatMap capitalize
  | .pascal, words => words.flatMap capitalize

def IsNameChar (c : Char) : Prop := c.isAlphanum = true ∨ c = '_'

instance (c : Char) : Decidable (IsNameChar c) :=
  inferInstanceAs (Decidable (c.isAlphanum = true ∨ c = '_'))

section Characters

variable {c : Char}

theorem IsNameChar.toNat_lt (h : IsNameChar c) : c.toNat < 0x80 := by
  have hreference : Directive.isReferenceChar c = true := by
    rcases h with halnum | rfl
    · simp [Directive.isReferenceChar, halnum]
    · rfl
  exact Nat.lt_of_le_of_lt (Directive.isReferenceChar_bounds hreference).2 (by decide)

theorem IsNameChar.joining (h : IsNameChar c) : joining c = .other :=
  of_ascii (P := fun c => IsNameChar c → Text.joining c = .other) (by decide +kernel)
    h.toNat_lt h

theorem isNameChar_of_isLower (h : c.isLower = true) : IsNameChar c :=
  .inl (by unfold Char.isAlphanum Char.isAlpha; simp [h])

theorem isNameChar_of_rest (h : c.isLower = true ∨ c.isDigit = true) : IsNameChar c := by
  rcases h with hlower | hdigit
  · exact isNameChar_of_isLower hlower
  · exact .inl (by simp [Char.isAlphanum, hdigit])

theorem toLower_of_rest (h : c.isLower = true ∨ c.isDigit = true) : c.toLower = c :=
  of_ascii (P := fun c => c.isLower = true ∨ c.isDigit = true → c.toLower = c)
    (by decide +kernel) (isNameChar_of_rest h).toNat_lt h

theorem not_isUpper_of_rest (h : c.isLower = true ∨ c.isDigit = true) : isUpper [c] = false := by
  refine not_isUpper_of_small fun d hd => ?_
  obtain rfl := List.mem_singleton.mp hd
  exact ⟨(isNameChar_of_rest h).toNat_lt, toLower_of_rest h⟩

theorem isLower_or_isDigit_of_rest (h : c.isLower = true ∨ c.isDigit = true) :
    isLower [c] = true ∨ isDigit [c] = true :=
  of_ascii (P := fun c => c.isLower = true ∨ c.isDigit = true →
    isLower [c] = true ∨ isDigit [c] = true) (by decide +kernel) (isNameChar_of_rest h).toNat_lt h

theorem toUpper_of_isLower (h : c.isLower = true) :
    IsNameChar c.toUpper ∧ isUpper [c.toUpper] = true ∧ c.toUpper.toLower = c :=
  of_ascii (P := fun c => c.isLower = true →
    IsNameChar c.toUpper ∧ isUpper [c.toUpper] = true ∧ c.toUpper.toLower = c) (by decide +kernel)
    (isNameChar_of_isLower h).toNat_lt h

end Characters

theorem words_ne_nil (cluster : List Char) (rest : List (List Char)) :
    ∃ word more, words (cluster :: rest) = word :: more := by
  cases hwords : words (cluster :: rest) with
  | nil =>
    have hflatten := words_flatten (cluster :: rest)
    rw [hwords] at hflatten
    cases hflatten
  | cons word more => exact ⟨word, more, rfl⟩

/-- A word without capitals behind its first cluster ends before a capital that follows its last
cluster, a small letter or a digit. -/
theorem words_append {first capital : List Char} {others : List (List Char)}
    (rest : List (List Char))
    (hothers : ∀ cluster ∈ others, isUpper cluster = false)
    (hlast : isLower (others.getLastD first) = true ∨ isDigit (others.getLastD first) = true)
    (hcapital : isUpper capital = true) :
    words (first :: (others ++ capital :: rest)) = (first :: others) :: words (capital :: rest) := by
  induction others generalizing first with
  | nil =>
    obtain ⟨word, more, hwords⟩ := words_ne_nil capital rest
    have hends : endsBetween first capital rest.head? = true := by
      rcases hlast with hlower | hdigit
      · have hfirst : isLower first = true := hlower
        simp [endsBetween, hcapital, hfirst]
      · have hfirst : isDigit first = true := hdigit
        simp [endsBetween, hcapital, hfirst]
    simp [words, hwords, hends]
  | cons second others ih =>
    obtain ⟨hsecond, hrest⟩ := List.forall_mem_cons.mp hothers
    rw [List.getLastD_cons] at hlast
    have hwords := ih hrest hlast
    have hends (third : Option (List Char)) : endsBetween first second third = false := by
      simp [endsBetween, hsecond]
    simp [words, hwords, hends]

namespace IsRest

variable {rest : List Char}

theorem not_isUpper (h : IsRest rest) :
    ∀ cluster ∈ rest.map fun c => [c], isUpper cluster = false := by
  intro cluster hcluster
  obtain ⟨c, hc, rfl⟩ := List.mem_map.mp hcluster
  exact not_isUpper_of_rest (h.2 c hc)

theorem getLastD (h : IsRest rest) (first : List Char) :
    isLower ((rest.map fun c => [c]).getLastD first) = true ∨
      isDigit ((rest.map fun c => [c]).getLastD first) = true := by
  obtain ⟨front, last, rfl⟩ := (List.eq_nil_or_concat rest).resolve_left h.1
  simpa using isLower_or_isDigit_of_rest (h.2 last (by simp))

end IsRest

theorem words_capitals {c : Char} {rest : List Char} {others : List (List Char)}
    (hrest : IsRest rest) (hothers : ∀ word ∈ others, IsWord word) :
    words ((c :: rest ++ others.flatMap capitalize).map fun c => [c]) =
      (c :: rest).map (fun c => [c]) ::
        others.map fun word => (capitalize word).map fun c => [c] := by
  induction others generalizing c rest with
  | nil => simpa using words_of_not_isUpper hrest.not_isUpper
  | cons word others ih =>
    obtain ⟨hword, hmore⟩ := List.forall_mem_cons.mp hothers
    cases word with
    | nil => exact hword.elim
    | cons d more =>
      obtain ⟨hd, hrestOfWord⟩ := hword
      have hcapital := (toUpper_of_isLower hd).2.1
      have hwords := ih (c := d.toUpper) hrestOfWord hmore
      have hseam := words_append ((more ++ others.flatMap capitalize).map fun c => [c])
        hrest.not_isUpper (hrest.getLastD [c]) hcapital
      simp only [List.map_cons, List.map_append, List.cons_append, List.flatMap_cons,
        capitalize] at hseam hwords ⊢
      rw [hseam, hwords]

namespace IsWord

variable {word : List Char}

theorem chars (h : IsWord word) : ∀ c ∈ word, c.isLower = true ∨ c.isDigit = true := by
  cases word with
  | nil => exact h.elim
  | cons first rest => exact List.forall_mem_cons.mpr ⟨.inl h.1, h.2.2⟩

theorem isSmall (h : IsWord word) : IsSmall word := fun c hc =>
  ⟨(isNameChar_of_rest (h.chars c hc)).toNat_lt, toLower_of_rest (h.chars c hc)⟩

theorem capitalize_chars (h : IsWord word) : ∀ c ∈ capitalize word, IsNameChar c := by
  cases word with
  | nil => exact h.elim
  | cons first rest =>
    refine List.forall_mem_cons.mpr ⟨(toUpper_of_isLower h.1).1, fun c hc => ?_⟩
    exact isNameChar_of_rest (h.2.2 c hc)

theorem lower_capitalize (h : IsWord word) : lower (capitalize word) = word := by
  rw [lower_of_ascii fun c hc => (h.capitalize_chars c hc).toNat_lt]
  cases word with
  | nil => exact h.elim
  | cons first rest =>
    have hrest : rest.map Char.toLower = rest.map id :=
      List.map_congr_left fun c hc => toLower_of_rest (h.2.2 c hc)
    rw [capitalize, List.map_cons, (toUpper_of_isLower h.1).2.2, hrest, List.map_id]

end IsWord

section Join

variable {words : List (List Char)}

theorem flatMap_capitalize_chars (h : ∀ word ∈ words, IsWord word) :
    ∀ c ∈ words.flatMap capitalize, IsNameChar c := by
  intro c hc
  obtain ⟨word, hword, hmem⟩ := List.mem_flatMap.mp hc
  exact (h word hword).capitalize_chars c hmem

theorem join_chars (style : Style) (h : ∀ word ∈ words, IsWord word) :
    ∀ c ∈ style.join words, IsNameChar c := by
  intro c hc
  cases style with
  | snake =>
    rcases mem_intercalate hc with rfl | ⟨word, hword, hmem⟩
    · exact .inr rfl
    · exact isNameChar_of_rest ((h word hword).chars c hmem)
  | pascal => exact flatMap_capitalize_chars h c hc
  | camel =>
    cases words with
    | nil => cases hc
    | cons word others =>
      obtain ⟨hword, hothers⟩ := List.forall_mem_cons.mp h
      rcases List.mem_append.mp hc with hfirst | hrest
      · exact isNameChar_of_rest (hword.chars c hfirst)
      · exact flatMap_capitalize_chars hothers c hrest

theorem snakeSegment_capitals {c : Char} {rest word : List Char} (hc : IsNameChar c)
    (hrest : IsRest rest) (hword : lower (c :: rest) = word) (h : ∀ word ∈ words, IsWord word) :
    snakeSegment (c :: rest ++ words.flatMap capitalize) = ['_'].intercalate (word :: words) := by
  have hchars : ∀ d ∈ c :: rest ++ words.flatMap capitalize, joining d = .other := by
    intro d hd
    rcases List.mem_append.mp hd with hfirst | hothers
    · rcases List.mem_cons.mp hfirst with rfl | hmem
      · exact hc.joining
      · exact (isNameChar_of_rest (hrest.2 d hmem)).joining
    · exact (flatMap_capitalize_chars h d hothers).joining
  have hflatten (cs : List Char) : (cs.map fun c => [c]).flatten = cs := by
    rw [← List.flatMap_def, List.flatMap_singleton']
  have hlower : words.map (fun word => lower ((capitalize word).map fun c => [c]).flatten) =
      words.map id := by
    refine List.map_congr_left fun word hmem => ?_
    rw [hflatten, (h word hmem).lower_capitalize, id]
  rw [List.map_id] at hlower
  rw [snakeSegment, clusters_of_other hchars, words_capitals hrest h, List.map_cons, List.map_map,
    hflatten, hword]
  exact congrArg (['_'].intercalate <| word :: ·) hlower

/-- Whatever its style, the usual form of a name has its words apart. -/
theorem snakeSegment_join (style : Style) (h : ∀ word ∈ words, IsWord word) :
    snakeSegment (style.join words) = ['_'].intercalate words := by
  cases style with
  | snake =>
    refine snakeSegment_of_small fun c hc => ?_
    rcases mem_intercalate hc with rfl | ⟨word, hword, hmem⟩
    · decide
    · exact (h word hword).isSmall c hmem
  | pascal =>
    cases words with
    | nil => rfl
    | cons word others =>
      obtain ⟨hword, hothers⟩ := List.forall_mem_cons.mp h
      cases word with
      | nil => exact hword.elim
      | cons first rest =>
        exact snakeSegment_capitals (toUpper_of_isLower hword.1).1 hword.2 hword.lower_capitalize
          hothers
  | camel =>
    cases words with
    | nil => rfl
    | cons word others =>
      obtain ⟨hword, hothers⟩ := List.forall_mem_cons.mp h
      cases word with
      | nil => exact hword.elim
      | cons first rest =>
        exact snakeSegment_capitals (isNameChar_of_isLower hword.1) hword.2 hword.isSmall.lower
          hothers

end Join

theorem snakeChars_intercalate {parts : List (List Char)} (h : ∀ part ∈ parts, '.' ∉ part) :
    snakeChars (['.'].intercalate parts) = ['.'].intercalate (parts.map snakeSegment) := by
  by_cases hparts : parts = []
  · subst hparts
    rfl
  · rw [snakeChars, List.splitOn_intercalate '.' h hparts]

theorem snakeChars_joined {names : List (Style × List (List Char))}
    (h : ∀ name ∈ names, ∀ word ∈ name.2, IsWord word) :
    snakeChars (['.'].intercalate (names.map fun name => name.1.join name.2)) =
      ['.'].intercalate (names.map fun name => ['_'].intercalate name.2) := by
  have hdots : ∀ part ∈ names.map fun name => name.1.join name.2, '.' ∉ part := by
    intro part hpart hdot
    obtain ⟨name, hname, rfl⟩ := List.mem_map.mp hpart
    rcases join_chars name.1 (h name hname) '.' hdot with halnum | heq
    · exact absurd halnum (by decide)
    · exact absurd heq (by decide)
  rw [snakeChars_intercalate hdots, List.map_map]
  refine congrArg ['.'].intercalate (List.map_congr_left fun name hname => ?_)
  exact snakeSegment_join name.1 (h name hname)

/-- The usual form of a name does not depend on how its words are told apart, and the usual form of
a name with dots is made of those of its parts, each of them written in any style. -/
theorem snake_of_styles :
    (∀ (style : Style) (words : List (List Char)), (∀ word ∈ words, IsWord word) →
      snake (String.ofList (style.join words)) = String.ofList (['_'].intercalate words)) ∧
    ∀ names : List (Style × List (List Char)),
      (∀ name ∈ names, ∀ word ∈ name.2, IsWord word) →
        snake (String.ofList (['.'].intercalate (names.map fun name => name.1.join name.2))) =
          String.ofList (['.'].intercalate (names.map fun name => ['_'].intercalate name.2)) := by
  constructor
  · intro style words h
    have hnames : ∀ name ∈ [(style, words)], ∀ word ∈ name.2, IsWord word := by simpa using h
    have hjoined := snakeChars_joined hnames
    rw [List.map_singleton, List.map_singleton, List.intercalate_singleton,
      List.intercalate_singleton] at hjoined
    rw [snake, String.toList_ofList, hjoined]
  · intro names h
    rw [snake, String.toList_ofList, snakeChars_joined h]

theorem snake_of_styles_address :
    let address := ["street".toList, "line2".toList, "x9a".toList]
    let names := [(Style.pascal, address), (Style.camel, address), (Style.snake, ["id".toList])]
    (∀ name ∈ names, ∀ word ∈ name.2, IsWord word) ∧
      snake "StreetLine2X9a.streetLine2X9a.id" = "street_line2_x9a.street_line2_x9a.id" ∧
      snake "streetLine2X9a" = "street_line2_x9a" := by
  intro address names
  have hwords : ∀ name ∈ names, ∀ word ∈ name.2, IsWord word := by
    simp [names, address, IsWord, IsRest]
  obtain ⟨hname, hnames⟩ := snake_of_styles
  have hcamel : ∀ word ∈ address, IsWord word := hwords _ (.tail _ (.head _))
  exact ⟨hwords, hnames names hwords, hname .camel address hcamel⟩

end Name

end Pastiche
