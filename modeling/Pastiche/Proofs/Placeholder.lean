import Pastiche.Placeholder
import Pastiche.Proofs.Pattern.Language
import Pastiche.Proofs.Text.Casing

/-!
Filled placeholders. Whatever the source gives, each placeholder costs one draw and becomes a digit
or a letter; the rest of the pattern stays what it is, its case apart. Every text of that shape comes
from some draws.
-/

namespace Pastiche

namespace LetterCase

def IsLetter : LetterCase → Char → Prop
  | .upper, c => c.isUpper = true
  | .lower, c => c.isLower = true

def other : LetterCase → LetterCase
  | .upper => .lower
  | .lower => .upper

theorem isLetter_iff {case : LetterCase} {c : Char} :
    case.IsLetter c ↔ case.first.toNat ≤ c.toNat ∧ c.toNat < case.first.toNat + 26 := by
  cases case with
  | upper =>
    rw [IsLetter, Text.isUpper_iff, first, show 'A'.toNat = 65 from rfl]
    omega
  | lower =>
    rw [IsLetter, Text.isLower_iff, first, show 'a'.toNat = 97 from rfl]
    omega

theorem not_isLetter_apply (case : LetterCase) (c : Char) :
    ¬ case.other.IsLetter (case.apply c) := by
  cases case with
  | upper => exact ne_true_of_eq_false (Text.isLower_toUpper c)
  | lower => exact ne_true_of_eq_false (Text.isUpper_toLower c)

theorem IsLetter.not_other {case : LetterCase} {c : Char} (h : case.IsLetter c) :
    ¬ case.other.IsLetter c := by
  intro hother
  rw [isLetter_iff] at h hother
  cases case with
  | upper =>
    simp only [other, first, show 'A'.toNat = 65 from rfl, show 'a'.toNat = 97 from rfl] at h hother
    omega
  | lower =>
    simp only [other, first, show 'A'.toNat = 65 from rfl, show 'a'.toNat = 97 from rfl] at h hother
    omega

theorem not_isLetter_of_isDigit {case : LetterCase} {c : Char} (h : c.isDigit = true) :
    ¬ case.IsLetter c := by
  intro hletter
  rw [Char.isDigit_iff_toNat, show '0'.toNat = 48 from rfl, show '9'.toNat = 57 from rfl] at h
  rw [isLetter_iff] at hletter
  cases case with
  | upper =>
    rw [first, show 'A'.toNat = 65 from rfl] at hletter
    omega
  | lower =>
    rw [first, show 'a'.toNat = 97 from rfl] at hletter
    omega

end LetterCase

namespace Placeholder

theorem nth_sub {first c : Char} (h : first.toNat ≤ c.toNat) :
    nth first (c.toNat - first.toNat) = c := by
  rw [nth, Nat.add_sub_cancel' h, Char.ofNat_toNat]

theorem isDigit_nth {n : Nat} (h : n < 10) : (nth '0' n).isDigit = true := by
  have hall : ∀ n < 10, (nth '0' n).isDigit = true := by decide
  exact hall n h

theorem isLetter_nth {n : Nat} (case : LetterCase) (h : n < 26) :
    case.IsLetter (nth case.first n) := by
  have hupper : ∀ n < 26, (nth 'A' n).isUpper = true := by decide
  have hlower : ∀ n < 26, (nth 'a' n).isLower = true := by decide
  cases case with
  | upper => exact hupper n h
  | lower => exact hlower n h

/-- What may stand where a character of the pattern was: a digit or a letter for a placeholder that
is filled, otherwise the character itself in the case of the text. -/
inductive Filling.Fits (filling : Filling) : Char → Char → Prop where
  | digit {d : Char} (hfilled : filling.digits = true) (hdigit : d.isDigit = true) :
      Fits filling '#' d
  | letter {case : LetterCase} {d : Char} (hfilled : filling.letters = some case)
      (hletter : case.IsLetter d) : Fits filling '?' d
  | literal {c : Char} (hdigit : c = '#' → filling.digits = false)
      (hletter : c = '?' → filling.letters = none) : Fits filling c (filling.literal c)

variable {σ : Type} [Source σ] {filling : Filling}

/-- The characters that come of a pattern, from left to right, and the source that is left. A
placeholder that is filled is one draw, and nothing else is. -/
inductive Filling.Fills (filling : Filling) : List Char → σ → List Char → σ → Prop where
  | nil {source : σ} : Fills filling [] source [] source
  | digit {n : Nat} {cs ds : List Char} {source middle after : σ}
      (hfilled : filling.digits = true) (hdraw : pick 10 source = (n, middle))
      (hrest : Fills filling cs middle ds after) :
      Fills filling ('#' :: cs) source (nth '0' n :: ds) after
  | letter {case : LetterCase} {n : Nat} {cs ds : List Char} {source middle after : σ}
      (hfilled : filling.letters = some case) (hdraw : pick 26 source = (n, middle))
      (hrest : Fills filling cs middle ds after) :
      Fills filling ('?' :: cs) source (nth case.first n :: ds) after
  | literal {c : Char} {cs ds : List Char} {source after : σ}
      (hdigit : c = '#' → filling.digits = false) (hletter : c = '?' → filling.letters = none)
      (hrest : Fills filling cs source ds after) :
      Fills filling (c :: cs) source (filling.literal c :: ds) after

section Char

variable {c : Char}

theorem fillChar_digit (h : filling.digits = true) :
    (fillChar filling '#' : StateM σ Char) = randomDigit := by
  rw [fillChar, if_pos ⟨rfl, h⟩]

theorem fillChar_letter {case : LetterCase} (h : filling.letters = some case) :
    (fillChar filling '?' : StateM σ Char) = randomLetter case := by
  have hdigit : ¬ ('?' = digit ∧ filling.digits = true) := fun hboth => absurd hboth.1 (by decide)
  rw [fillChar, if_neg hdigit, if_pos (by rfl), h]

theorem fillChar_literal (hdigit : c = '#' → filling.digits = false)
    (hletter : c = '?' → filling.letters = none) :
    (fillChar filling c : StateM σ Char) = pure (filling.literal c) := by
  have hnot : ¬ (c = digit ∧ filling.digits = true) := by
    rintro ⟨hc, hfilled⟩
    rw [hdigit hc] at hfilled
    cases hfilled
  rw [fillChar, if_neg hnot]
  by_cases hc : c = letter
  · rw [if_pos hc, hletter hc]
  · rw [if_neg hc]

theorem char_cases (filling : Filling) (c : Char) :
    (c = '#' ∧ filling.digits = true) ∨ (∃ case, c = '?' ∧ filling.letters = some case) ∨
      ((c = '#' → filling.digits = false) ∧ (c = '?' → filling.letters = none)) := by
  by_cases hdigit : c = '#' ∧ filling.digits = true
  · exact .inl hdigit
  · have hnot : c = '#' → filling.digits = false := fun hc => by simpa [hc] using hdigit
    cases hletters : filling.letters with
    | none => exact .inr (.inr ⟨hnot, fun _ => rfl⟩)
    | some case =>
      by_cases hc : c = '?'
      · exact .inr (.inl ⟨case, hc, rfl⟩)
      · exact .inr (.inr ⟨hnot, fun heq => absurd heq hc⟩)

end Char

theorem fill_eq (filling : Filling) (pattern : String) (source : σ) :
    fill filling pattern source =
      (String.ofList (pattern.toList.mapM (fillChar filling) source).1,
        (pattern.toList.mapM (fillChar filling) source).2) := rfl

theorem mapM_fillChar_cons (filling : Filling) (c : Char) (cs : List Char) (source : σ) :
    (c :: cs).mapM (fillChar filling) source =
      ((fillChar filling c source).1 ::
          (cs.mapM (fillChar filling) (fillChar filling c source).2).1,
        (cs.mapM (fillChar filling) (fillChar filling c source).2).2) := by
  rw [List.mapM_cons]
  rfl

theorem fills_mapM (filling : Filling) (cs : List Char) (source : σ) :
    filling.Fills cs source (cs.mapM (fillChar filling) source).1
      (cs.mapM (fillChar filling) source).2 := by
  induction cs generalizing source with
  | nil => exact .nil
  | cons c cs ih =>
    rw [mapM_fillChar_cons]
    rcases char_cases filling c with ⟨rfl, hfilled⟩ | ⟨case, rfl, hfilled⟩ | ⟨hdigit, hletter⟩
    · rw [fillChar_digit hfilled]
      exact .digit hfilled rfl (ih _)
    · rw [fillChar_letter hfilled]
      exact .letter hfilled rfl (ih _)
    · rw [fillChar_literal hdigit hletter]
      exact .literal hdigit hletter (ih _)

/-- Draws are kept in their range, so what is filled has the shape of the pattern. -/
theorem Filling.Fills.fits {cs ds : List Char} {source after : σ}
    (h : filling.Fills cs source ds after) : List.Forall₂ filling.Fits cs ds := by
  induction h with
  | nil => exact .nil
  | @digit n cs ds source middle after hfilled hdraw hrest ih =>
    have hlt : n < 10 := by
      have hpick := pick_lt (by decide : 0 < 10) source
      rwa [hdraw] at hpick
    exact .cons (.digit hfilled (isDigit_nth hlt)) ih
  | @letter case n cs ds source middle after hfilled hdraw hrest ih =>
    have hlt : n < 26 := by
      have hpick := pick_lt (by decide : 0 < 26) source
      rwa [hdraw] at hpick
    exact .cons (.letter hfilled (isLetter_nth case hlt)) ih
  | literal hdigit hletter hrest ih => exact .cons (.literal hdigit hletter) ih

section Attained

open Pattern (Yields)

theorem yields_pick {bound index : Nat} (hbound : 1 < bound) (h : index < bound) :
    Yields (pick bound) index := by
  have hchoose : choose bound = (pick bound : StateM RandomSource Nat) := if_neg (by omega)
  rw [← hchoose]
  exact Pattern.yields_choose h

theorem yields_map {α β : Type} {step : StateM RandomSource α} {a : α} (f : α → β)
    (h : Yields step a) : Yields (f <$> step) (f a) := by
  obtain ⟨values, hvalues⟩ := h
  refine ⟨values, fun before after => ?_⟩
  change (f (step _).1, (step _).2) = _
  rw [hvalues]

theorem yields_nth {first d : Char} {size : Nat} (hsize : 1 < size)
    (hlow : first.toNat ≤ d.toNat) (hhigh : d.toNat < first.toNat + size) :
    Yields (nth first <$> pick size) d := by
  have hdraw : Yields (pick size) (d.toNat - first.toNat) := yields_pick hsize (by omega)
  have hchar := yields_map (nth first) hdraw
  rwa [nth_sub hlow] at hchar

theorem Filling.Fits.yields {c d : Char} (h : filling.Fits c d) :
    Yields (fillChar filling c) d := by
  cases h with
  | digit hfilled hdigit =>
    rw [Char.isDigit_iff_toNat] at hdigit
    rw [fillChar_digit hfilled]
    exact yields_nth (by decide) hdigit.1 (Nat.lt_succ_of_le hdigit.2)
  | letter hfilled hletter =>
    obtain ⟨hlow, hhigh⟩ := LetterCase.isLetter_iff.mp hletter
    rw [fillChar_letter hfilled]
    exact yields_nth (by decide) hlow hhigh
  | literal hdigit hletter =>
    rw [fillChar_literal hdigit hletter]
    exact .pure _

theorem yields_mapM {cs ds : List Char} (h : List.Forall₂ filling.Fits cs ds) :
    Yields (cs.mapM (fillChar filling)) ds := by
  induction h with
  | nil => exact .pure _
  | cons hfirst hrest ih =>
    rw [List.mapM_cons]
    exact hfirst.yields.bind (ih.bind (.pure _))

end Attained

end Placeholder

/-- From here on, what is drawn depends on the bound only. -/
def Steady {σ : Type} [Source σ] (value : Nat → Nat) (source : σ) : Prop :=
  ∀ later, Relation.ReflTransGen (fun s t : σ => ∃ bound, (Source.draw bound s).2 = t) source later →
    ∀ bound, (Source.draw bound later).1 = value bound

theorem Steady.pick {σ : Type} [Source σ] {value : Nat → Nat} {source : σ}
    (h : Steady value source) (bound : Nat) :
    (Pastiche.pick bound source).1 = min (value bound) (bound - 1) ∧
      Steady value (Pastiche.pick bound source).2 := by
  constructor
  · have hdraw := h source .refl bound
    simp only [Pastiche.pick, hdraw]
  · intro later hlater
    exact h later (.head ⟨bound, rfl⟩ hlater)

namespace Placeholder

variable {σ : Type} [Source σ] {filling : Filling} {value : Nat → Nat} {source : σ}

/-- What becomes of a character where draws depend on the bound only. -/
def Filling.settle (filling : Filling) (value : Nat → Nat) (c : Char) : Char :=
  if c = digit ∧ filling.digits = true then nth '0' (min (value 10) 9)
  else if c = letter then
    match filling.letters with
    | some case => nth case.first (min (value 26) 25)
    | none => filling.literal c
  else filling.literal c

theorem fillChar_steady (h : Steady value source) (filling : Filling) (c : Char) :
    (fillChar filling c source).1 = filling.settle value c ∧
      Steady value (fillChar filling c source).2 := by
  unfold fillChar Filling.settle
  split
  · obtain ⟨hvalue, hsteady⟩ := h.pick 10
    exact ⟨congrArg (nth '0') hvalue, hsteady⟩
  · split
    · cases filling.letters with
      | none => exact ⟨rfl, h⟩
      | some case =>
        obtain ⟨hvalue, hsteady⟩ := h.pick 26
        exact ⟨congrArg (nth case.first) hvalue, hsteady⟩
    · exact ⟨rfl, h⟩

theorem fill_steady (h : Steady value source) (filling : Filling) (pattern : String) :
    (fill filling pattern source).1 =
        String.ofList (pattern.toList.map (filling.settle value)) ∧
      Steady value (fill filling pattern source).2 := by
  have hall (cs : List Char) (source : σ) (h : Steady value source) :
      (cs.mapM (fillChar filling) source).1 = cs.map (filling.settle value) ∧
        Steady value (cs.mapM (fillChar filling) source).2 := by
    induction cs generalizing source with
    | nil => exact ⟨rfl, h⟩
    | cons c cs ih =>
      obtain ⟨hchar, hmiddle⟩ := fillChar_steady h filling c
      obtain ⟨hrest, hafter⟩ := ih _ hmiddle
      rw [mapM_fillChar_cons, hchar, hrest]
      exact ⟨rfl, hafter⟩
  obtain ⟨hchars, hafter⟩ := hall pattern.toList source h
  rw [fill_eq, hchars]
  exact ⟨rfl, hafter⟩

omit [Source σ] in
theorem settle_of_ne {c : Char} (hliterals : filling.literals = none) (hdigit : c ≠ '#')
    (hletter : c ≠ '?') : filling.settle value c = c := by
  have hnot : ¬ (c = digit ∧ filling.digits = true) := fun h => hdigit h.1
  have hliteral : filling.literal c = c := by rw [Filling.literal, hliterals]
  rw [Filling.settle, if_neg hnot, if_neg (show c ≠ letter from hletter), hliteral]

theorem settle_digits_letters (value : Nat → Nat) (c : Char) :
    (Filling.mk false (some .upper) none).settle value
        ((Filling.mk true none none).settle value c) =
      (Filling.mk true (some .upper) none).settle value c := by
  by_cases hdigit : c = '#'
  · subst hdigit
    have hchar : (nth '0' (min (value 10) 9)).isDigit = true := isDigit_nth (by omega)
    have hfirst : nth '0' (min (value 10) 9) ≠ '#' := fun heq => by simp [heq] at hchar
    have hsecond : nth '0' (min (value 10) 9) ≠ '?' := fun heq => by simp [heq] at hchar
    exact settle_of_ne rfl hfirst hsecond
  · by_cases hletter : c = '?'
    · subst hletter
      rfl
    · have hplain (filling : Filling) (h : filling.literals = none) :
          filling.settle value c = c := settle_of_ne h hdigit hletter
      rw [hplain ⟨true, none, none⟩ rfl, hplain ⟨false, some .upper, none⟩ rfl,
        hplain ⟨true, some .upper, none⟩ rfl]

theorem settle_letters_digits (value : Nat → Nat) (c : Char) :
    (Filling.mk true none none).settle value
        ((Filling.mk false (some .upper) none).settle value c) =
      (Filling.mk true (some .upper) none).settle value c := by
  by_cases hletter : c = '?'
  · subst hletter
    have hchar : (nth 'A' (min (value 26) 25)).isUpper = true := isLetter_nth .upper (by omega)
    have hfirst : nth 'A' (min (value 26) 25) ≠ '#' := fun heq => by simp [heq] at hchar
    have hsecond : nth 'A' (min (value 26) 25) ≠ '?' := fun heq => by simp [heq] at hchar
    exact settle_of_ne rfl hfirst hsecond
  · by_cases hdigit : c = '#'
    · subst hdigit
      rfl
    · have hplain (filling : Filling) (h : filling.literals = none) :
          filling.settle value c = c := settle_of_ne h hdigit hletter
      rw [hplain ⟨false, some .upper, none⟩ rfl, hplain ⟨true, none, none⟩ rfl,
        hplain ⟨true, some .upper, none⟩ rfl]

theorem fill_twice {first second both : Filling}
    (hchars : ∀ c, second.settle value (first.settle value c) = both.settle value c)
    (h : Steady value source) (pattern : String) :
    (fill both pattern source).1 =
      ((do fill second (← fill first pattern) : StateM σ String) source).1 := by
  obtain ⟨hfirst, hmiddle⟩ := fill_steady h first pattern
  rw [bind_state, (fill_steady hmiddle second _).1, hfirst, String.toList_ofList, List.map_map,
    (fill_steady h both pattern).1]
  exact congrArg String.ofList (List.map_congr_left fun c _ => (hchars c).symm)

/-- What filling a pattern means: the text has the length of the pattern and, character for
character, its shape; each placeholder that is filled is one draw, from left to right; and every
text of the shape comes from some list of draws, all of which are made. -/
structure Expands (filling : Filling) (pattern : String)
    (run : ∀ {σ : Type} [Source σ], StateM σ String) : Prop where
  length : ∀ {σ : Type} [Source σ] (source : σ), (run source).1.length = pattern.length
  shape : ∀ {σ : Type} [Source σ] (source : σ),
    List.Forall₂ filling.Fits pattern.toList (run source).1.toList
  draws : ∀ {σ : Type} [Source σ] (source : σ),
    filling.Fills pattern.toList source (run source).1.toList (run source).2
  attained : ∀ text : String, List.Forall₂ filling.Fits pattern.toList text.toList →
    ∃ values, run (RandomSource.cycle values 0) = (text, .cycle values values.length)

theorem expands_fill (filling : Filling) (pattern : String) :
    Expands filling pattern (fill filling pattern) := by
  have hdraws {σ : Type} [Source σ] (source : σ) : filling.Fills pattern.toList source
      (fill filling pattern source).1.toList (fill filling pattern source).2 := by
    rw [fill_eq, String.toList_ofList]
    exact fills_mapM filling pattern.toList source
  constructor
  · intro σ _ source
    rw [← String.length_toList, ← String.length_toList]
    exact (hdraws source).fits.length_eq.symm
  · exact fun source => (hdraws source).fits
  · exact hdraws
  · intro text htext
    obtain ⟨values, hvalues⟩ := yields_mapM htext
    have hrun := hvalues [] []
    simp only [List.nil_append, List.append_nil, List.length_nil, Nat.zero_add] at hrun
    exact ⟨values, by rw [fill_eq, hrun, String.ofList_toList]⟩

theorem not_other_of_fits {case : LetterCase} {cs ds : List Char}
    (h : List.Forall₂ (Filling.mk true (some case) (some case)).Fits cs ds) :
    ∀ d ∈ ds, ¬ case.other.IsLetter d := by
  induction h with
  | nil => exact nofun
  | cons hfirst hrest ih =>
    refine List.forall_mem_cons.mpr ⟨?_, ih⟩
    cases hfirst with
    | digit hfilled hdigit => exact LetterCase.not_isLetter_of_isDigit hdigit
    | letter hfilled hletter =>
      obtain rfl := Option.some.inj hfilled
      exact hletter.not_other
    | literal hdigit hletter => exact case.not_isLetter_apply _

/-- Each expander gives exactly the texts of the shape of its pattern, at one draw for each of its
placeholders. Where draws depend on the bound only, digits and letters may be filled together or one
kind after the other. -/
theorem placeholders_filled (pattern : String) (case : LetterCase) :
    Expands ⟨true, none, none⟩ pattern (numerify pattern) ∧
      Expands ⟨false, some case, none⟩ pattern (letterify pattern case) ∧
      Expands ⟨true, some .upper, none⟩ pattern (bothify pattern) ∧
      Expands ⟨true, some case, some case⟩ pattern (bothifyWith pattern case) ∧
      (∀ {σ : Type} [Source σ] (source : σ), ∀ c ∈ (bothifyWith pattern case source).1.toList,
        ¬ case.other.IsLetter c) ∧
      ∀ {σ : Type} [Source σ] (value : Nat → Nat) (source : σ), Steady value source →
        (bothify pattern source).1 =
            ((do letterify (← numerify pattern) .upper : StateM σ String) source).1 ∧
          (bothify pattern source).1 =
            ((do numerify (← letterify pattern .upper) : StateM σ String) source).1 := by
  refine ⟨expands_fill _ pattern, expands_fill _ pattern, expands_fill _ pattern,
    expands_fill _ pattern, ?_, ?_⟩
  · intro σ _ source
    exact not_other_of_fits ((expands_fill ⟨true, some case, some case⟩ pattern).shape source)
  · intro σ _ value source h
    exact ⟨fill_twice (settle_digits_letters value) h pattern,
      fill_twice (settle_letters_digits value) h pattern⟩

theorem steady_beyond (excess : Nat) :
    Steady (fun bound => min (bound + excess) wordMax) (RandomSource.beyond excess) := by
  intro later hlater bound
  have hsame : later = .beyond excess := by
    induction hlater with
    | refl => rfl
    | tail _ hstep ih =>
      obtain ⟨_, rfl⟩ := hstep
      rw [ih]
      rfl
  rw [hsame]
  rfl

/-- A source that is always out of range, and one that gives the draws for a text of the shape. -/
theorem placeholders_filled_plate :
    let pattern := "?#-é?x"
    let source := RandomSource.beyond 100
    let shaped : List Char → Prop :=
      List.Forall₂ (Filling.mk true (some .lower) (some .lower)).Fits pattern.toList
    Steady (fun bound => min (bound + 100) wordMax) source ∧
      (bothify pattern source).1 = "Z9-éZx" ∧
      ((do letterify (← numerify pattern) .upper : StateM RandomSource String) source).1 =
        "Z9-éZx" ∧
      shaped "k7-éqx".toList ∧
      ∃ values, bothifyWith pattern .lower (RandomSource.cycle values 0) =
        ("k7-éqx", .cycle values values.length) := by
  intro pattern source shaped
  obtain ⟨-, -, -, hexpands, -, htwice⟩ := placeholders_filled pattern .lower
  have hsteady := steady_beyond 100
  have hboth : (bothify pattern source).1 = "Z9-éZx" := by decide +kernel
  have hshaped : shaped "k7-éqx".toList := by
    have hpattern : pattern.toList = ['?', '#', '-', 'é', '?', 'x'] := by decide
    have htext : "k7-éqx".toList = ['k', '7', '-', 'é', 'q', 'x'] := by decide
    simp only [shaped, hpattern, htext]
    exact .cons (.letter rfl rfl) <| .cons (.digit rfl rfl) <| .cons (.literal nofun nofun) <|
      .cons (.literal nofun nofun) <| .cons (.letter rfl rfl) <| .cons (.literal nofun nofun) .nil
  exact ⟨hsteady, hboth, (htwice _ source hsteady).1.symm.trans hboth, hshaped,
    hexpands.attained _ hshaped⟩

end Placeholder

end Pastiche
