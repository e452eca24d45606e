import Pastiche.Proofs.Directive.Leftmost

/-!
The directives of two texts one after the other. If every opener of the first is in one of its
directives or stands before a digit, and none comes about where the texts meet, then each text keeps
its own directives.
-/

namespace Pastiche.Directive

open Text (byteLength byteLength_append)

/-- A digit follows every opener in the text. -/
def Idle (cs : List Char) : Prop :=
  ∀ before after, cs = before ++ (opener ++ after) → ∃ c ∈ after.head?, c.isDigit = true

/-- No opener comes about where the texts meet. -/
def Apart (first second : List Char) : Prop :=
  ¬ (first.getLast? = some '#' ∧ second.head? = some '\x7b')

instance (first second : List Char) : Decidable (Apart first second) :=
  inferInstanceAs (Decidable (¬ (_ ∧ _)))

theorem Idle.tail {c : Char} {cs : List Char} (h : Idle (c :: cs)) : Idle cs := by
  intro before after hsplit
  exact h (c :: before) after (by rw [hsplit]; rfl)

theorem Apart.tail {c : Char} {first second : List Char} (h : Apart (c :: first) second) :
    Apart first second := by
  rintro ⟨hlast, hhead⟩
  exact h ⟨by simp [List.getLast?_cons, hlast], hhead⟩

theorem Opens.opener {cs : List Char} (h : Opens cs) :
    ∃ rest, cs = Directive.opener ++ rest ∧ ∀ c ∈ rest.head?, c.isDigit = false := by
  obtain ⟨token, after, rfl, body, rfl, -, hdigit⟩ := h
  refine ⟨body ++ '\x7d' :: after, by simp, ?_⟩
  rwa [head?_append_cons]

theorem IsDirective.head {token : List Char} (h : IsDirective token) (after : List Char) :
    (token ++ after).head? = some '#' := by
  obtain ⟨body, rfl, -⟩ := h
  rfl

theorem Idle.not_opens {c : Char} {cs more : List Char} (h : Idle (c :: cs))
    (hapart : Apart (c :: cs) more) : ¬ Opens (c :: (cs ++ more)) := by
  intro hopens
  obtain ⟨rest, hrest, hdigit⟩ := hopens.opener
  obtain ⟨rfl, htail⟩ := List.cons.inj hrest
  cases cs with
  | nil => exact hapart ⟨rfl, by rw [show more = _ from htail]; rfl⟩
  | cons d cs =>
    obtain ⟨rfl, rfl⟩ := List.cons.inj htail
    obtain ⟨digit, hmem, htrue⟩ := h [] cs rfl
    have hfalse : digit.isDigit = false := by
      refine hdigit digit ?_
      cases cs with
      | nil => cases hmem
      | cons e cs => exact hmem
    rw [hfalse] at htrue
    cases htrue

theorem cut?_append {cs more : List Char} (h : Idle cs) (hapart : Apart cs more) :
    cut? (cs ++ more) = (cut? more).map fun cut => { cut with before := cs ++ cut.before } := by
  induction cs with
  | nil =>
    rw [List.nil_append]
    cases cut? more with
    | none => rfl
    | some cut => rfl
  | cons c cs ih =>
    rw [List.cons_append, cut?_of_not_opens (h.not_opens hapart), ih h.tail hapart.tail]
    cases cut? more with
    | none => rfl
    | some cut => rfl

/-- A directive after an idle text is found, and what follows it does not matter. -/
theorem cut?_of_idle {before token : List Char} (hbefore : Idle before)
    (htoken : IsDirective token) (after : List Char) :
    cut? (before ++ (token ++ after)) = some ⟨before, token, after⟩ := by
  have hapart : Apart before (token ++ after) := by
    rintro ⟨-, hhead⟩
    rw [htoken.head] at hhead
    cases hhead
  rw [cut?_append hbefore hapart, htoken.cut?_eq, Option.map_some, List.append_nil]

/-- Each part of the text that is no directive is idle. -/
def Settled (cs : List Char) : Prop := ∀ content, .text content ∈ segments cs → Idle content

theorem placed_start_le {start : Nat} {parts : List Segment} {found : Span × List Char}
    (h : found ∈ placed start parts) : start ≤ found.1.start := by
  induction parts generalizing start with
  | nil => cases h
  | cons part parts ih =>
    cases part with
    | text content =>
      have hle := ih h
      omega
    | directive token =>
      rcases List.mem_cons.mp h with rfl | hrest
      · exact Nat.le_refl _
      · have hle := ih hrest
        omega

/-- Every opener of the text is in one of these places or stands before a digit. -/
def Covered (start : Nat) (places : List (Span × List Char)) (cs : List Char) : Prop :=
  ∀ before after, cs = before ++ (opener ++ after) →
    (∃ found ∈ places, found.1.start ≤ start + byteLength before ∧
      start + byteLength (before ++ opener) ≤ found.1.stop) ∨
    ∃ c ∈ after.head?, c.isDigit = true

/-- Tells whether the opener after so many characters, if there is one, is covered. -/
def coveredAt (start : Nat) (places : List (Span × List Char)) (cs : List Char) (n : Nat) : Bool :=
  (cs.drop n).take 2 != opener ||
    places.any (fun found => found.1.start ≤ start + byteLength (cs.take n) &&
      start + byteLength (cs.take n ++ opener) ≤ found.1.stop) ||
    (cs.drop (n + 2)).head?.any Char.isDigit

theorem coveredAt_iff {start n : Nat} {places : List (Span × List Char)} {cs : List Char} :
    coveredAt start places cs n = true ↔ ((cs.drop n).take 2 = opener →
      (∃ found ∈ places, found.1.start ≤ start + byteLength (cs.take n) ∧
        start + byteLength (cs.take n ++ opener) ≤ found.1.stop) ∨
      ∃ c ∈ (cs.drop (n + 2)).head?, c.isDigit = true) := by
  simp only [coveredAt, Bool.or_eq_true, bne_iff_ne, ne_eq, List.any_eq_true, Bool.and_eq_true,
    decide_eq_true_eq, Option.any_eq_true]
  by_cases h : (cs.drop n).take 2 = opener
  · simp [h]
  · simp [h]

theorem covered_iff {start : Nat} {places : List (Span × List Char)} {cs : List Char} :
    Covered start places cs ↔ (List.range cs.length).all (coveredAt start places cs) = true := by
  simp only [List.all_eq_true, List.mem_range, coveredAt_iff]
  constructor
  · intro h n _ hopener
    have hsplit : cs = cs.take n ++ (opener ++ cs.drop (n + 2)) := by
      rw [← hopener, ← List.drop_drop, List.take_append_drop, List.take_append_drop]
    exact h _ _ hsplit
  · rintro h before after rfl
    have hn : before.length < (before ++ (opener ++ after)).length := by simp [opener]
    simpa [opener] using h before.length hn (by simp [opener])

instance (start : Nat) (places : List (Span × List Char)) (cs : List Char) :
    Decidable (Covered start places cs) :=
  decidable_of_iff ((List.range cs.length).all (coveredAt start places cs) = true) covered_iff.symm

/-- The text before a directive is idle if its openers are covered: no place begins before the
directive, and the directive does not begin with a digit. -/
theorem Covered.idle {start : Nat} {parts : List Segment} {content token after : List Char}
    (h : Covered start (placed (start + byteLength content) parts) (content ++ (token ++ after)))
    (htoken : IsDirective token) : Idle content := by
  rintro before rest rfl
  rcases h before (rest ++ (token ++ after)) (by simp) with ⟨found, hfound, hstart, -⟩ | hdigit
  · have hle := placed_start_le hfound
    rw [byteLength_append, byteLength_append, show byteLength opener = 2 from rfl] at hle
    omega
  · cases rest with
    | nil =>
      rw [List.nil_append, htoken.head] at hdigit
      obtain ⟨c, hc, htrue⟩ := hdigit
      obtain rfl : '#' = c := by simpa using hc
      exact absurd htrue (by decide)
    | cons c rest => exact hdigit

theorem Covered.after {start : Nat} {parts : List Segment} {content token after : List Char}
    (h : Covered start (placed start (.text content :: .directive token :: parts))
      (content ++ (token ++ after))) :
    Covered (start + byteLength content + byteLength token)
      (placed (start + byteLength content + byteLength token) parts) after := by
  rintro before rest rfl
  rcases h (content ++ (token ++ before)) rest (by simp) with ⟨found, hfound, hstart, hstop⟩ | hdigit
  · simp only [byteLength_append] at hstart hstop
    rcases List.mem_cons.mp hfound with rfl | hrest
    · dsimp only at hstop
      rw [show byteLength opener = 2 from rfl] at hstop
      omega
    · refine .inl ⟨found, hrest, by omega, ?_⟩
      rw [byteLength_append]
      omega
  · exact .inr hdigit

theorem settled_of_covered {cs : List Char} {start : Nat}
    (h : Covered start (placed start (segments cs)) cs) : Settled cs := by
  induction cs using segments.induct generalizing start with
  | case1 cs hcut =>
    rw [segments_of_none hcut] at h
    intro content hcontent
    rw [segments_of_none hcut, List.mem_singleton] at hcontent
    cases hcontent
    intro before after hsplit
    rcases h before after hsplit with ⟨found, hfound, -⟩ | hdigit
    · cases hfound
    · exact hdigit
  | case2 cs cut hcut ih =>
    obtain ⟨hsplit, htoken, -⟩ := cut?_sound hcut
    rw [segments_of_some hcut, hsplit] at h
    intro content hcontent
    rw [segments_of_some hcut] at hcontent
    rcases List.mem_cons.mp hcontent with heq | hrest
    · cases heq
      have hplaces : Covered start (placed (start + byteLength cut.before)
          (.directive cut.token :: segments cut.after))
          (cut.before ++ (cut.token ++ cut.after)) := h
      exact hplaces.idle htoken
    · rcases List.mem_cons.mp hrest with heq | hrest
      · cases heq
      · exact ih h.after content hrest

/-- Two lists of segments one after the other. Where texts meet they become one. -/
def glue : List Segment → List Segment → List Segment
  | [], others => others
  | [.text content], .text more :: others => .text (content ++ more) :: others
  | segment :: rest, others => segment :: glue rest others

theorem exists_text_segments (cs : List Char) : ∃ content rest, segments cs = .text content :: rest := by
  cases hcut : cut? cs with
  | none => exact ⟨cs, [], segments_of_none hcut⟩
  | some cut => exact ⟨cut.before, _, segments_of_some hcut⟩

theorem segments_append {first second : List Char} (h : Settled first)
    (hapart : Apart first second) :
    segments (first ++ second) = glue (segments first) (segments second) := by
  induction first using segments.induct with
  | case1 first hcut =>
    have hidle : Idle first := h first (by simp [segments_of_none hcut])
    have happend := cut?_append hidle hapart
    rw [segments_of_none hcut]
    cases hmore : cut? second with
    | none =>
      rw [hmore] at happend
      rw [segments_of_none happend, segments_of_none hmore]
      rfl
    | some cut =>
      rw [hmore] at happend
      rw [segments_of_some happend, segments_of_some hmore]
      rfl
  | case2 first cut hcut ih =>
    obtain ⟨hsplit, htoken, -⟩ := cut?_sound hcut
    have hidle : Idle cut.before := h cut.before (by simp [segments_of_some hcut])
    have hafter : Settled cut.after := by
      intro content hcontent
      exact h content (by simp [segments_of_some hcut, hcontent])
    have happart : Apart cut.after second := by
      rintro ⟨hlast, hhead⟩
      refine hapart ⟨?_, hhead⟩
      rw [hsplit]
      simp [List.getLast?_append, hlast]
    have happend : cut? (first ++ second) = some ⟨cut.before, cut.token, cut.after ++ second⟩ := by
      rw [hsplit, List.append_assoc, List.append_assoc]
      exact cut?_of_idle hidle htoken _
    obtain ⟨content, rest, hrest⟩ := exists_text_segments cut.after
    rw [segments_of_some happend, segments_of_some hcut, ih hafter happart, hrest]
    rfl

end Pastiche.Directive
