import Pastiche.Proofs.Directive.Body

/-!
The scan of a text finds the leftmost directive: of all openers that a body and a closing brace
follow, the first one.
-/

namespace Pastiche.Directive

open Text (byteLength byteLength_append byteLength_eq_zero_iff)

/-- A whole directive: an opener that no digit follows, a body and the closing brace. -/
def IsDirective (token : List Char) : Prop :=
  ∃ body, token = opener ++ body ++ ['\x7d'] ∧ Body '\x7b' body ∧
    ∀ c ∈ (body ++ ['\x7d']).head?, c.isDigit = false

def Opens (cs : List Char) : Prop := ∃ token after, cs = token ++ after ∧ IsDirective token

theorem head?_append_cons {body after : List Char} {c : Char} :
    (body ++ c :: after).head? = (body ++ [c]).head? := by
  cases body with
  | nil => rfl
  | cons d body => rfl

theorem body?_eq_some_iff {cs body after : List Char} :
    body? cs = some (body, after) ↔
      cs = body ++ '\x7d' :: after ∧ Body '\x7b' body ∧
        ∀ c ∈ (body ++ ['\x7d']).head?, c.isDigit = false := by
  have hdigit : (cs.head?.map Char.isDigit).getD false = true ↔ ∃ c ∈ cs.head?, c.isDigit = true := by
    cases cs with
    | nil => simp
    | cons c cs => simp
  unfold body?
  split
  · rename_i hhead
    obtain ⟨c, hc, hc'⟩ := hdigit.mp hhead
    constructor
    · intro h
      cases h
    · rintro ⟨rfl, -, hnot⟩
      rw [head?_append_cons] at hc
      rw [hnot c hc] at hc'
      cases hc'
  · rename_i hhead
    rw [closing_eq_some_iff]
    constructor
    · rintro ⟨rfl, hbody⟩
      refine ⟨rfl, hbody, fun c hc => Bool.eq_false_iff.mpr fun hc' => ?_⟩
      exact hhead (hdigit.mpr ⟨c, by rwa [head?_append_cons], hc'⟩)
    · rintro ⟨rfl, hbody, -⟩
      exact ⟨rfl, hbody⟩

theorem opened?_eq_some_iff {cs : List Char} {cut : Cut} :
    opened? cs = some cut ↔
      cut.before = [] ∧ cs = cut.token ++ cut.after ∧ IsDirective cut.token := by
  constructor
  · intro h
    unfold opened? at h
    split at h
    · obtain ⟨⟨body, after⟩, hbody, rfl⟩ := Option.map_eq_some_iff.mp h
      obtain ⟨rfl, hbody, hdigit⟩ := body?_eq_some_iff.mp hbody
      exact ⟨rfl, by simp [opener], body, rfl, hbody, hdigit⟩
    · cases h
  · obtain ⟨before, token, after⟩ := cut
    rintro ⟨rfl, rfl, body, rfl, hbody, hdigit⟩
    have hfound : body? (body ++ '\x7d' :: after) = some (body, after) :=
      body?_eq_some_iff.mpr ⟨rfl, hbody, hdigit⟩
    simp [opener, opened?, hfound]

theorem opened?_eq_none_iff {cs : List Char} : opened? cs = none ↔ ¬ Opens cs := by
  rw [Option.eq_none_iff_forall_ne_some]
  constructor
  · rintro h ⟨token, after, rfl, htoken⟩
    exact h ⟨[], token, after⟩ (opened?_eq_some_iff.mpr ⟨rfl, rfl, htoken⟩)
  · intro h cut hcut
    obtain ⟨-, hsplit, htoken⟩ := opened?_eq_some_iff.mp hcut
    exact h ⟨cut.token, cut.after, hsplit, htoken⟩

theorem cut?_of_opened {cs : List Char} {cut : Cut} (h : opened? cs = some cut) :
    cut? cs = some cut := by
  cases cs with
  | nil => cases h
  | cons c cs => rw [cut?, h]

theorem cut?_of_not_opens {c : Char} {cs : List Char} (h : ¬ Opens (c :: cs)) :
    cut? (c :: cs) = (cut? cs).map fun cut => { cut with before := c :: cut.before } := by
  rw [cut?, opened?_eq_none_iff.mpr h]

theorem cut?_eq_none_iff {cs : List Char} :
    cut? cs = none ↔ ∀ earlier later, cs = earlier ++ later → ¬ Opens later := by
  induction cs with
  | nil =>
    refine ⟨fun _ earlier later h => ?_, fun _ => rfl⟩
    obtain ⟨rfl, rfl⟩ := List.append_eq_nil_iff.mp h.symm
    rintro ⟨token, after, htoken, body, rfl, -⟩
    simp [opener] at htoken
  | cons c cs ih =>
    by_cases hopens : Opens (c :: cs)
    · obtain ⟨token, after, hsplit, htoken⟩ := hopens
      have hopened : opened? (c :: cs) = some ⟨[], token, after⟩ :=
        opened?_eq_some_iff.mpr ⟨rfl, hsplit, htoken⟩
      rw [cut?_of_opened hopened]
      constructor
      · intro h
        cases h
      · intro h
        exact absurd ⟨token, after, hsplit, htoken⟩ (h [] _ rfl)
    · rw [cut?_of_not_opens hopens, Option.map_eq_none_iff, ih]
      constructor
      · intro h earlier later hsplit
        cases earlier with
        | nil =>
          rw [List.nil_append] at hsplit
          rwa [← hsplit]
        | cons d earlier => exact h earlier later (List.cons.inj hsplit).2
      · intro h earlier later hsplit
        exact h (c :: earlier) later (by rw [hsplit, List.cons_append])

theorem cut?_sound {cs : List Char} {cut : Cut} (h : cut? cs = some cut) :
    cs = cut.before ++ (cut.token ++ cut.after) ∧ IsDirective cut.token ∧
      ∀ earlier later, cs = earlier ++ later → Opens later →
        cut.before.length ≤ earlier.length := by
  induction cs generalizing cut with
  | nil => cases h
  | cons c cs ih =>
    by_cases hopens : Opens (c :: cs)
    · obtain ⟨token, after, hsplit, htoken⟩ := hopens
      have hopened : opened? (c :: cs) = some ⟨[], token, after⟩ :=
        opened?_eq_some_iff.mpr ⟨rfl, hsplit, htoken⟩
      rw [cut?_of_opened hopened] at h
      obtain rfl := Option.some.inj h
      exact ⟨hsplit, htoken, fun earlier later _ _ => Nat.zero_le _⟩
    · rw [cut?_of_not_opens hopens] at h
      obtain ⟨found, hfound, rfl⟩ := Option.map_eq_some_iff.mp h
      obtain ⟨hsplit, htoken, hleast⟩ := ih hfound
      refine ⟨by rw [hsplit]; rfl, htoken, fun earlier later hsplit' hlater => ?_⟩
      cases earlier with
      | nil =>
        rw [List.nil_append] at hsplit'
        exact absurd (hsplit' ▸ hlater) hopens
      | cons d earlier =>
        have hle := hleast earlier later (List.cons.inj hsplit').2 hlater
        simp only [List.length_cons]
        omega

theorem IsDirective.unique {token token' after after' : List Char} (h : IsDirective token)
    (h' : IsDirective token') (heq : token ++ after = token' ++ after') :
    token = token' ∧ after = after' := by
  have hopened : opened? (token ++ after) = some ⟨[], token, after⟩ :=
    opened?_eq_some_iff.mpr ⟨rfl, rfl, h⟩
  have hopened' : opened? (token ++ after) = some ⟨[], token', after'⟩ :=
    opened?_eq_some_iff.mpr ⟨rfl, heq, h'⟩
  rw [hopened] at hopened'
  simpa using hopened'

theorem cut?_complete {before token after : List Char} (htoken : IsDirective token)
    (hleast : ∀ earlier later, before ++ (token ++ after) = earlier ++ later → Opens later →
      before.length ≤ earlier.length) :
    cut? (before ++ (token ++ after)) = some ⟨before, token, after⟩ := by
  cases hcut : cut? (before ++ (token ++ after)) with
  | none => exact absurd ⟨token, after, rfl, htoken⟩ (cut?_eq_none_iff.mp hcut before _ rfl)
  | some cut =>
    obtain ⟨hsplit, hfound, hleast'⟩ := cut?_sound hcut
    have hle := hleast cut.before _ hsplit ⟨cut.token, cut.after, rfl, hfound⟩
    have hge := hleast' before _ rfl ⟨token, after, rfl, htoken⟩
    obtain ⟨hbefore, hrest⟩ := List.append_inj hsplit (Nat.le_antisymm hle hge)
    obtain ⟨htoken', hafter⟩ := htoken.unique hfound hrest
    rw [hbefore, htoken', hafter]

theorem IsDirective.cut?_eq {token : List Char} (h : IsDirective token) (after : List Char) :
    cut? (token ++ after) = some ⟨[], token, after⟩ := by
  have hcut : cut? ([] ++ (token ++ after)) = some ⟨[], token, after⟩ :=
    cut?_complete h fun _ _ _ _ => Nat.zero_le _
  exact hcut

/-- What stands first in characters stands first in bytes, and the other way round. -/
theorem length_le_iff {before after earlier later : List Char}
    (hsplit : before ++ after = earlier ++ later) :
    before.length ≤ earlier.length ↔ byteLength before ≤ byteLength earlier := by
  constructor
  · intro hle
    have hprefix : before <+: earlier :=
      List.prefix_of_prefix_length_le ⟨after, rfl⟩ ⟨later, hsplit.symm⟩ hle
    obtain ⟨rest, rfl⟩ := hprefix
    rw [byteLength_append]
    omega
  · intro hle
    refine Nat.le_of_not_lt fun hlt => ?_
    have hprefix : earlier <+: before :=
      List.prefix_of_prefix_length_le ⟨later, hsplit.symm⟩ ⟨after, rfl⟩ (by omega)
    obtain ⟨rest, rfl⟩ := hprefix
    cases rest with
    | nil => simp at hlt
    | cons c rest =>
      have hsize := Char.utf8Size_pos c
      rw [byteLength_append, byteLength] at hle
      omega

/-- A directive stands there in the text, in bytes. -/
def StandsAt (text : String) (span : Span) : Prop :=
  ∃ cut : Cut, text.toList = cut.before ++ (cut.token ++ cut.after) ∧ IsDirective cut.token ∧
    span = cut.span

theorem find?_eq_some_iff {text : String} {span : Span} :
    find? text = some span ↔
      StandsAt text span ∧ ∀ other, StandsAt text other → span.start ≤ other.start := by
  constructor
  · intro h
    obtain ⟨cut, hcut, rfl⟩ := Option.map_eq_some_iff.mp h
    obtain ⟨hsplit, htoken, hleast⟩ := cut?_sound hcut
    refine ⟨⟨cut, hsplit, htoken, rfl⟩, ?_⟩
    rintro _ ⟨other, hsplit', hother, rfl⟩
    have hle := hleast other.before _ hsplit' ⟨other.token, other.after, rfl, hother⟩
    exact (length_le_iff (hsplit.symm.trans hsplit')).mp hle
  · rintro ⟨⟨cut, hsplit, htoken, rfl⟩, hleast⟩
    have hcut : cut? (cut.before ++ (cut.token ++ cut.after)) = some cut := by
      refine cut?_complete htoken fun earlier later hsplit' hlater => ?_
      obtain ⟨token, after, rfl, hother⟩ := hlater
      have hle := hleast _ ⟨⟨earlier, token, after⟩, hsplit.trans hsplit', hother, rfl⟩
      exact (length_le_iff hsplit').mpr hle
    rw [find?, hsplit, hcut]
    rfl

theorem find?_eq_none_iff {text : String} :
    find? text = none ↔ ¬ ∃ span, StandsAt text span := by
  rw [find?, Option.map_eq_none_iff, cut?_eq_none_iff]
  constructor
  · rintro h ⟨_, cut, hsplit, htoken, -⟩
    exact h cut.before _ hsplit ⟨cut.token, cut.after, rfl, htoken⟩
  · rintro h earlier later hsplit ⟨token, after, rfl, htoken⟩
    exact h ⟨_, ⟨earlier, token, after⟩, hsplit, htoken, rfl⟩

theorem isValid_byteLength {before after : List Char} :
    String.Pos.Raw.IsValid (String.ofList (before ++ after)) ⟨byteLength before⟩ := by
  rw [String.Pos.Raw.isValid_iff_exists_append]
  refine ⟨String.ofList before, String.ofList after, String.ofList_append, ?_⟩
  rw [Text.byteLength_eq_utf8ByteSize]
  rfl

/-- What is found as a whole is a directive, and every directive that stands alone is found so. -/
theorem find?_whole_iff {token : List Char} :
    find? (String.ofList token) = some ⟨0, byteLength token⟩ ↔ IsDirective token := by
  constructor
  · intro h
    obtain ⟨⟨⟨before, found, after⟩, hsplit, hfound, hspan⟩, -⟩ := find?_eq_some_iff.mp h
    simp only [String.toList_ofList, Cut.span, Span.mk.injEq] at hsplit hfound hspan
    obtain ⟨hstart, hstop⟩ := hspan
    obtain rfl := byteLength_eq_zero_iff.mp hstart.symm
    rw [hsplit, List.nil_append, byteLength_append, ← hstart] at hstop
    obtain rfl := byteLength_eq_zero_iff.mp (show byteLength after = 0 by omega)
    rw [List.nil_append, List.append_nil] at hsplit
    rwa [hsplit]
  · intro h
    have hcut := h.cut?_eq []
    rw [List.append_nil] at hcut
    rw [find?, String.toList_ofList, hcut]
    simp [Cut.span, byteLength]

/-- The scan finds the leftmost directive of a text, from its opener to its closing brace, if the
text has one. What is found begins and ends between two characters, and on its own it is found as a
whole. -/
theorem find?_leftmost (text : String) :
    (∀ span, find? text = some span ↔
      StandsAt text span ∧ ∀ other, StandsAt text other → span.start ≤ other.start) ∧
    (find? text = none ↔ ¬ ∃ span, StandsAt text span) ∧
    ∀ span, find? text = some span →
      String.Pos.Raw.IsValid text ⟨span.start⟩ ∧ String.Pos.Raw.IsValid text ⟨span.stop⟩ ∧
      ∃ before token after : String, text = before ++ token ++ after ∧
        span = ⟨before.utf8ByteSize, (before ++ token).utf8ByteSize⟩ ∧
        opener <+: token.toList ∧ ['\x7d'] <:+ token.toList ∧
        find? token = some ⟨0, token.utf8ByteSize⟩ := by
  refine ⟨fun span => find?_eq_some_iff, find?_eq_none_iff, fun span h => ?_⟩
  obtain ⟨⟨⟨before, token, after⟩, hsplit, htoken, rfl⟩, -⟩ := find?_eq_some_iff.mp h
  have htext : text = String.ofList (before ++ token ++ after) := by
    rw [List.append_assoc, ← hsplit, String.ofList_toList]
  have hspan : Cut.span ⟨before, token, after⟩ = ⟨byteLength before, byteLength (before ++ token)⟩ := by
    rw [Cut.span, byteLength_append]
  rw [hspan, htext]
  refine ⟨?_, isValid_byteLength, String.ofList before, String.ofList token, String.ofList after,
    ?_, ?_, ?_⟩
  · rw [List.append_assoc]
    exact isValid_byteLength
  · rw [String.ofList_append, String.ofList_append]
  · rw [← String.ofList_append, Text.byteLength_eq_utf8ByteSize, Text.byteLength_eq_utf8ByteSize]
  · rw [← Text.byteLength_eq_utf8ByteSize, String.toList_ofList]
    have hwhole := find?_whole_iff.mpr htoken
    obtain ⟨body, rfl, -, -⟩ := htoken
    exact ⟨⟨body ++ ['\x7d'], by simp⟩, ⟨opener ++ body, rfl⟩, hwhole⟩

-- The first opener stands before a digit, and nothing closes the second.
example : find? "#\x7b2\x7d #\x7ba #\x7bb\x7d" = some ⟨9, 13⟩ := by decide +kernel

end Pastiche.Directive
