import Pastiche.Config.Json
import Pastiche.Proofs.Locale.Tag

/-!
What every loader of settings has in common. A document or an environment is read into a draft;
what it does not give is filled in, and what an engine cannot run with is refused.
-/

namespace Pastiche.Config

/-- The settings, in the order in which an array has them. -/
inductive Setting where
  | locale
  | maxDepth
  | maxRepeat
  | seed
deriving DecidableEq

namespace Setting

def all : List Setting := [.locale, .maxDepth, .maxRepeat, .seed]

def key : Setting → String
  | .locale => "locale"
  | .maxDepth => "max_depth"
  | .maxRepeat => "max_repeat"
  | .seed => "seed"

def Agrees (a b : Config) : Setting → Prop
  | .locale => a.locale = b.locale
  | .maxDepth => a.maxDepth = b.maxDepth
  | .maxRepeat => a.maxRepeat = b.maxRepeat
  | .seed => a.seed = b.seed

def Value : Setting → Type
  | .locale => Locale
  | .maxDepth => Nat
  | .maxRepeat => Nat
  | .seed => Option Nat

/-- The value that a document has given for the setting so far. -/
def given? (draft : Draft) : (setting : Setting) → Option setting.Value
  | .locale => draft.locale
  | .maxDepth => draft.maxDepth
  | .maxRepeat => draft.maxRepeat
  | .seed => draft.seed

def put (draft : Draft) : (setting : Setting) → setting.Value → Draft
  | .locale, value => { draft with locale := some value }
  | .maxDepth, value => { draft with maxDepth := some value }
  | .maxRepeat, value => { draft with maxRepeat := some value }
  | .seed, value => { draft with seed := some value }

def Missing (draft : Draft) (setting : Setting) : Prop := setting.given? draft = none

theorem Missing.put {draft : Draft} {setting other : Setting} (h : setting.Missing draft)
    (hother : setting ≠ other) (value : other.Value) : setting.Missing (other.put draft value) := by
  cases setting <;> cases other <;> first | exact h | exact (hother rfl).elim

theorem Missing.agrees {draft : Draft} {setting : Setting} (h : setting.Missing draft) :
    setting.Agrees draft.complete .default := by
  cases setting <;> exact congrArg (Option.getD · _) h

theorem missing_empty (setting : Setting) : setting.Missing .empty := by
  cases setting <;> rfl

end Setting

/-- A configuration that a loader may give: an engine runs with it, its locale can be read, and its
numbers have 64 bits. -/
structure Loadable (config : Config) : Prop where
  valid : config.flaw? = none
  locale : ∃ tag, Locale.read tag = .ok config.locale
  maxDepth : config.maxDepth ≤ Word.largest 64
  seed : ∀ seed ∈ config.seed, seed ≤ Word.largest 64

theorem flaw?_eq_none_iff {config : Config} :
    config.flaw? = none ↔ 1 ≤ config.maxDepth ∧ config.maxRepeat ≤ Pattern.maxBound := by
  rw [flaw?]
  split
  · simp [*]
  · split
    · simp only [reduceCtorEq, false_iff]
      omega
    · simp only [true_iff]
      omega

theorem checked_eq_ok_iff {config result : Config} :
    checked config = .ok result ↔ config.flaw? = none ∧ config = result := by
  rw [checked]
  cases config.flaw? with
  | none => simp
  | some flaw => simp

/-- The values that a draft has are those that a loader may give. -/
structure Draft.Sound (draft : Draft) : Prop where
  locale : ∀ locale ∈ draft.locale, ∃ tag, Locale.read tag = .ok locale
  maxDepth : ∀ maxDepth ∈ draft.maxDepth, maxDepth ≤ Word.largest 64
  seed : ∀ given ∈ draft.seed, ∀ seed ∈ given, seed ≤ Word.largest 64

theorem Draft.Sound.empty : Draft.empty.Sound := ⟨nofun, nofun, nofun⟩

/-- The values that a loader may give for the setting. Repetitions are limited by the check. -/
def Setting.Fits : (setting : Setting) → setting.Value → Prop
  | .locale => fun value => ∃ tag, Locale.read tag = .ok value
  | .maxDepth => fun value : Nat => value ≤ Word.largest 64
  | .maxRepeat => fun _ => True
  | .seed => fun value : Option Nat => ∀ n ∈ value, n ≤ Word.largest 64

theorem Draft.Sound.put {draft : Draft} (h : draft.Sound) {setting : Setting}
    {value : setting.Value} (hvalue : setting.Fits value) : (setting.put draft value).Sound := by
  cases setting with
  | locale => exact { h with locale := by rintro _ ⟨⟩; exact hvalue }
  | maxDepth => exact { h with maxDepth := by rintro _ ⟨⟩; exact hvalue }
  | maxRepeat => exact { h with }
  | seed => exact { h with seed := by rintro _ ⟨⟩; exact hvalue }

theorem getD_of_forall {α : Type} {P : α → Prop} {given : Option α} {usual : α}
    (h : ∀ a ∈ given, P a) (husual : P usual) : P (given.getD usual) := by
  cases given with
  | none => exact husual
  | some a => exact h a rfl

theorem Draft.Sound.loadable {draft : Draft} {config : Config} (h : draft.Sound)
    (hchecked : checked draft.complete = .ok config) : config.Loadable := by
  obtain ⟨hvalid, rfl⟩ := checked_eq_ok_iff.mp hchecked
  have husual : ∃ tag, Locale.read tag = .ok default.locale := ⟨_, Locale.read_tag_en⟩
  exact ⟨hvalid, getD_of_forall (P := fun locale => ∃ tag, Locale.read tag = .ok locale)
    h.locale husual, getD_of_forall (P := (· ≤ Word.largest 64)) h.maxDepth (by decide),
    getD_of_forall (P := fun given => ∀ seed ∈ given, seed ≤ Word.largest 64) h.seed nofun⟩

theorem Draft.agrees_of_checked {draft : Draft} {config : Config} {setting : Setting}
    (hchecked : checked draft.complete = .ok config) (h : setting.Missing draft) :
    setting.Agrees config .default := by
  obtain ⟨-, rfl⟩ := checked_eq_ok_iff.mp hchecked
  exact h.agrees

end Pastiche.Config
