import Mathlib.Logic.Basic
import Pastiche.Log.Line

/-!
The filter of log records, as its history determines it. The threshold is the level that was set
last, or the one that logging started with, and is lowered to debug where debugging was switched on
since then. The switch stands where it was put last. Nothing is ever written at `off`. The byte that
is stored for the threshold goes through the same changes.
-/

namespace Pastiche.Log

inductive Change where
  | setLevel (level : Level)
  | setDebug (isOn : Bool)
deriving DecidableEq

namespace Change

def level? : Change → Option Level
  | .setLevel level => some level
  | .setDebug _ => none

def switch? : Change → Option Bool
  | .setLevel _ => none
  | .setDebug isOn => some isOn

end Change

/-- The value that the last of some calls set, and the calls behind that one. Where none of the
calls sets a value, it is the initial one, and all of them are behind it. -/
inductive Latest {α : Type} (set? : Change → Option α) (initial : α) :
    List Change → α → List Change → Prop where
  | unset {changes : List Change} (h : ∀ change ∈ changes, set? change = none) :
      Latest set? initial changes initial changes
  | set {before since : List Change} {change : Change} {value : α}
      (hchange : set? change = some value) (h : ∀ later ∈ since, set? later = none) :
      Latest set? initial (before ++ change :: since) value since

theorem exists_latest {α : Type} (set? : Change → Option α) (initial : α)
    (changes : List Change) : ∃ value since, Latest set? initial changes value since := by
  induction changes with
  | nil => exact ⟨initial, [], .unset nofun⟩
  | cons change changes ih =>
    obtain ⟨value, since, hlatest⟩ := ih
    cases hlatest with
    | @set before _ later _ hlater hsince =>
      have hmore : Latest set? initial ((change :: before) ++ later :: since) value since :=
        .set hlater hsince
      exact ⟨value, since, hmore⟩
    | unset hnone =>
      cases hchange : set? change with
      | some value =>
        have hfirst : Latest set? initial ([] ++ change :: changes) value changes :=
          .set hchange hnone
        exact ⟨value, changes, hfirst⟩
      | none => exact ⟨initial, change :: changes, .unset (by simpa [hchange] using hnone)⟩

theorem Level.min_debug (level : Level) :
    level.min .debug = if Level.debug.rank < level.rank then .debug else level := by
  cases level <;> rfl

theorem Level.min_debug_idem (level : Level) :
    (level.min .debug).min .debug = level.min .debug := by
  cases level <;> rfl

namespace Filter

def change (filter : Filter) : Change → Filter
  | .setLevel level => filter.setLevel level
  | .setDebug isOn => filter.setDebug isOn

/-- The filter after some calls, the first one first. -/
def changed (filter : Filter) (changes : List Change) : Filter := changes.foldl change filter

def after (settings : Settings) (changes : List Change) : Filter :=
  (ofSettings settings).changed changes

variable {filter other : Filter} {changes since : List Change} {settings : Settings}

theorem changed_cons (filter : Filter) (change : Change) (changes : List Change) :
    filter.changed (change :: changes) = (filter.change change).changed changes := rfl

theorem changed_append (filter : Filter) (before since : List Change) :
    filter.changed (before ++ since) = (filter.changed before).changed since := List.foldl_append

theorem threshold_changed (h : ∀ change ∈ changes, change.level? = none) :
    (filter.changed changes).threshold =
      if .setDebug true ∈ changes then filter.threshold.min .debug else filter.threshold := by
  induction changes generalizing filter with
  | nil => rfl
  | cons change changes ih =>
    have hrest : ∀ later ∈ changes, later.level? = none := fun later hlater =>
      h later (List.mem_cons_of_mem _ hlater)
    rw [changed_cons, ih hrest]
    cases change with
    | setLevel level => cases h (.setLevel level) List.mem_cons_self
    | setDebug isOn =>
      cases isOn with
      | false => simp [Filter.change, setDebug]
      | true => simp [Filter.change, setDebug, Level.min_debug_idem]

theorem debug_changed (h : ∀ change ∈ changes, change.switch? = none) :
    (filter.changed changes).debug = filter.debug := by
  induction changes generalizing filter with
  | nil => rfl
  | cons change changes ih =>
    rw [changed_cons, ih fun later hlater => h later (List.mem_cons_of_mem _ hlater)]
    cases change with
    | setLevel level => rfl
    | setDebug isOn => cases h (.setDebug isOn) List.mem_cons_self

/-- The switch has no part in how the threshold changes. -/
theorem threshold_changed_congr (h : filter.threshold = other.threshold) (changes : List Change) :
    (filter.changed changes).threshold = (other.changed changes).threshold := by
  induction changes generalizing filter other with
  | nil => exact h
  | cons change changes ih =>
    refine ih ?_
    cases change with
    | setLevel level => rfl
    | setDebug isOn => simp only [Filter.change, setDebug, h]

theorem threshold_of_latest {level : Level}
    (h : Latest Change.level? settings.effectiveLevel changes level since) :
    (after settings changes).threshold =
      if .setDebug true ∈ since then level.min .debug else level := by
  cases h with
  | unset hnone => exact threshold_changed hnone
  | @set before _ change _ hchange hsince =>
    cases change with
    | setLevel given =>
      cases hchange
      rw [after, changed_append, changed_cons, threshold_changed hsince]
      rfl
    | setDebug isOn => cases hchange

theorem debug_of_latest {isOn : Bool}
    (h : Latest Change.switch? settings.debug changes isOn since) :
    (after settings changes).debug = isOn := by
  cases h with
  | unset hnone => exact debug_changed hnone
  | @set before _ change _ hchange hsince =>
    cases change with
    | setLevel level => cases hchange
    | setDebug given =>
      cases hchange
      rw [after, changed_append, changed_cons, debug_changed hsince]
      rfl

theorem threshold_setDebug_false (settings : Settings) (before since : List Change) :
    (after settings (before ++ .setDebug false :: since)).threshold =
      (after settings (before ++ since)).threshold := by
  have hoff : ((ofSettings settings).changed before).threshold =
      (((ofSettings settings).changed before).change (.setDebug false)).threshold := rfl
  rw [after, after, changed_append, changed_append, changed_cons]
  exact (threshold_changed_congr hoff since).symm

theorem allows_iff {level : Level} :
    filter.allows level = true ↔ level ≠ .off ∧ filter.threshold.rank ≤ level.rank := by
  simp [allows]

theorem written_eq_empty_iff {clock : Clock} {record : Record} :
    written settings filter clock record = "" ↔
      record.level = .off ∨ record.level.rank < filter.threshold.rank := by
  have hallows : ¬ filter.allows record.level = true ↔
      record.level = .off ∨ record.level.rank < filter.threshold.rank := by
    rw [allows_iff, not_and_or, not_not, Nat.not_le]
  rw [← hallows]
  by_cases hallowed : filter.allows record.level = true
  · have hline : written settings filter clock record = line settings clock record ++ "\n" :=
      if_pos hallowed
    simp [hline, hallowed]
  · exact iff_of_true (if_neg hallowed) hallowed

/-- After any calls, the threshold is the level that was set last, or the one of the settings where
none was set, lowered to debug if it was above it and debugging was switched on since. Switching
debugging off makes no difference to it at any place. The switch stands as the last call for it put
it, or as the settings have it. A level is let through if it is not `off` and at least as high as
the threshold; so with a level all higher ones are, and at `off` nothing is ever written. -/
theorem settled_by_history (settings : Settings) (changes : List Change) :
    ((∃ level since, Latest Change.level? settings.effectiveLevel changes level since) ∧
      ∀ level since, Latest Change.level? settings.effectiveLevel changes level since →
        (after settings changes).threshold =
          if .setDebug true ∈ since ∧ Level.debug.rank < level.rank then .debug else level) ∧
    (∀ before since, changes = before ++ .setDebug false :: since →
      (after settings changes).threshold = (after settings (before ++ since)).threshold) ∧
    ((∃ isOn since, Latest Change.switch? settings.debug changes isOn since) ∧
      ∀ isOn since, Latest Change.switch? settings.debug changes isOn since →
        (after settings changes).debug = isOn) ∧
    (∀ level, (after settings changes).allows level = true ↔
      level ≠ .off ∧ (after settings changes).threshold.rank ≤ level.rank) ∧
    (∀ level higher : Level, (after settings changes).allows level = true →
      level.rank ≤ higher.rank → higher ≠ .off → (after settings changes).allows higher = true) ∧
    ∀ clock record, written settings (after settings changes) clock record = "" ↔
      record.level = .off ∨ record.level.rank < (after settings changes).threshold.rank := by
  refine ⟨⟨exists_latest _ _ _, fun level since hlatest => ?_⟩, fun before since hchanges => ?_,
    ⟨exists_latest _ _ _, fun isOn since => debug_of_latest⟩, fun level => allows_iff,
    fun level higher hallowed hle hoff => ?_, fun clock record => written_eq_empty_iff⟩
  · rw [threshold_of_latest hlatest, Level.min_debug, ite_and]
  · rw [hchanges]
    exact threshold_setDebug_false settings before since
  · have hthreshold := (allows_iff.mp hallowed).2
    exact allows_iff.mpr ⟨hoff, Nat.le_trans hthreshold hle⟩

/-- Debugging is switched on before and after a level is set, and off again at the end. -/
def switchings : List Change :=
  [.setDebug true, .setLevel .error, .setDebug true, .setDebug false]

theorem settled_by_history_switchings :
    Latest Change.level? (Settings.effectiveLevel default) switchings .error
        [.setDebug true, .setDebug false] ∧
      (after default switchings).threshold = .debug ∧
      Latest Change.switch? (Settings.debug default) switchings false [] ∧
      (after default switchings).debug = false := by
  have hlevel : Latest Change.level? (Settings.effectiveLevel default)
      ([.setDebug true] ++ .setLevel .error :: [.setDebug true, .setDebug false]) .error
      [.setDebug true, .setDebug false] := .set rfl (by decide)
  have hswitch : Latest Change.switch? (Settings.debug default)
      ([.setDebug true, .setLevel .error, .setDebug true] ++ .setDebug false :: []) false [] :=
    .set rfl nofun
  have hfilter := settled_by_history default switchings
  exact ⟨hlevel, hfilter.1.2 _ _ hlevel, hswitch, hfilter.2.2.1.2 _ _ hswitch⟩

end Filter

theorem Level.ofByte_byte (level : Level) : ofByte level.byte = level := by cases level <;> rfl

theorem Level.byte_le_byte_iff (a b : Level) : a.byte ≤ b.byte ↔ a.rank ≤ b.rank := by
  cases a <;> cases b <;> decide

theorem Level.byte_min (a b : Level) : (a.min b).byte = Min.min a.byte b.byte := by
  cases a <;> cases b <;> rfl

namespace Stored

def ofFilter (filter : Filter) : Stored := ⟨filter.threshold.byte, filter.debug⟩

def change (stored : Stored) : Change → Stored
  | .setLevel level => stored.setLevel level
  | .setDebug isOn => stored.setDebug isOn

theorem ofFilter_change (filter : Filter) (change : Change) :
    ofFilter (filter.change change) = (ofFilter filter).change change := by
  cases change with
  | setLevel level => rfl
  | setDebug isOn =>
    cases isOn with
    | false => rfl
    | true =>
      have hlowered := Level.byte_min filter.threshold .debug
      simp [Filter.change, Filter.setDebug, ofFilter, Stored.change, Stored.setDebug, hlowered]

theorem ofFilter_changed (filter : Filter) (changes : List Change) :
    ofFilter (filter.changed changes) = changes.foldl change (ofFilter filter) := by
  induction changes generalizing filter with
  | nil => rfl
  | cons change changes ih => rw [Filter.changed_cons, ih, ofFilter_change, List.foldl_cons]

theorem allows_ofFilter (filter : Filter) (level : Level) :
    (ofFilter filter).allows level = filter.allows level := by
  simp only [allows, Filter.allows, ofFilter, Level.byte_le_byte_iff]

/-- What is stored after any calls shows the level and lets through the records that the filter
after these calls does. -/
theorem stored_by_history (settings : Settings) (changes : List Change) :
    (changes.foldl change (ofSettings settings)).currentLevel =
        (Filter.after settings changes).threshold ∧
      (changes.foldl change (ofSettings settings)).debug = (Filter.after settings changes).debug ∧
      ∀ level, (changes.foldl change (ofSettings settings)).allows level =
        (Filter.after settings changes).allows level := by
  have hstored : changes.foldl change (ofSettings settings) =
      ofFilter (Filter.after settings changes) :=
    (ofFilter_changed (.ofSettings settings) changes).symm
  rw [hstored]
  exact ⟨Level.ofByte_byte _, rfl, allows_ofFilter _⟩

end Stored

end Pastiche.Log
