import Pastiche.Config.Toml
import Pastiche.Proofs.Config.Environment
import Pastiche.Proofs.Config.Json
import Pastiche.Proofs.Json.Ordered

/-!
Loading settings from an environment, from JSON and from TOML. What is loaded can be run with, and
what is rendered is loaded again.
-/

namespace Pastiche.Config

theorem entry_eq_some {α : Type} {name : String} {read : Toml → Option α} {entries : Toml.Entries}
    {given : Option α} (h : entry name read entries = some given) :
    (name ∉ Dictionary.keys entries → given = none) ∧
      ∀ a ∈ given, ∃ value, read value = some a := by
  unfold entry at h
  split at h
  · cases h
    exact ⟨fun _ => rfl, nofun⟩
  · rename_i value hvalue
    obtain ⟨a, ha, rfl⟩ := Option.map_eq_some_iff.mp h
    refine ⟨fun hkey => ?_, ?_⟩
    · rw [Dictionary.find?_eq_none_iff.mpr hkey] at hvalue
      cases hvalue
    · rintro b ⟨⟩
      exact ⟨value, ha⟩

theorem exists_tag_of_tomlLocale {value : Toml} {locale : Locale}
    (h : tomlLocale value = some locale) : ∃ tag, Locale.read tag = .ok locale := by
  unfold tomlLocale at h
  split at h
  · exact ⟨_, Locale.read_eq_ok_iff.mpr h⟩
  · cases h

theorem le_of_tomlNatural {limit n : Nat} {value : Toml} (h : tomlNatural limit value = some n) :
    n ≤ limit := by
  unfold tomlNatural at h
  split at h
  · split at h
    · cases h
      omega
    · cases h
  · cases h

theorem exists_draft_of_ofToml {document : String} {config : Config}
    (h : ofToml document = .ok config) :
    ∃ draft : Draft, draft.Sound ∧ checked draft.complete = .ok config ∧
      ∃ entries, Toml.read? document = some entries ∧ ∀ setting : Setting,
        setting.key ∉ Dictionary.keys entries → setting.Missing draft := by
  unfold ofToml at h
  split at h
  · rename_i draft hdraft
    obtain ⟨entries, hentries, hdraft⟩ := Option.bind_eq_some_iff.mp hdraft
    obtain ⟨locale, hlocale, hdraft⟩ := Option.bind_eq_some_iff.mp hdraft
    obtain ⟨maxDepth, hdepth, hdraft⟩ := Option.bind_eq_some_iff.mp hdraft
    obtain ⟨maxRepeat, hrepeat, hdraft⟩ := Option.bind_eq_some_iff.mp hdraft
    obtain ⟨seed, hseed, hdraft⟩ := Option.bind_eq_some_iff.mp hdraft
    cases hdraft
    refine ⟨_, ⟨fun l hl => ?_, fun n hn => ?_, fun given hgiven n hn => ?_⟩, h, entries,
      hentries, ?_⟩
    · obtain ⟨value, hvalue⟩ := (entry_eq_some hlocale).2 l hl
      exact exists_tag_of_tomlLocale hvalue
    · obtain ⟨value, hvalue⟩ := (entry_eq_some hdepth).2 n hn
      exact le_of_tomlNatural hvalue
    · obtain ⟨m, hm, rfl⟩ := Option.map_eq_some_iff.mp hgiven
      cases hn
      obtain ⟨value, hvalue⟩ := (entry_eq_some hseed).2 n hm
      exact le_of_tomlNatural hvalue
    · intro setting hkey
      cases setting with
      | locale => exact (entry_eq_some hlocale).1 hkey
      | maxDepth => exact (entry_eq_some hdepth).1 hkey
      | maxRepeat => exact (entry_eq_some hrepeat).1 hkey
      | seed => exact congrArg (Option.map some) ((entry_eq_some hseed).1 hkey)
  · cases h

/-- A configuration that an engine can run with, with a locale that can be read and numbers of 64
bits, is loaded again from the variables that hold it, whatever blanks stand around their texts, and
from its JSON. And whatever any loader gives is such a configuration, in which every setting that is
not given has its usual value; a variable with nothing but blanks counts as not given. -/
theorem loaders_invert_rendering :
    (∀ config : Config, config.flaw? = none ↔
      1 ≤ config.maxDepth ∧ config.maxRepeat ≤ Pattern.maxBound) ∧
    (∀ config : Config, config.Loadable →
      (∀ env, config.ShownBy env → ofEnvironment env = .ok config) ∧
        ofJson config.toJson.render = .ok config) ∧
    (∀ env config, ofEnvironment env = .ok config → config.Loadable ∧
      ∀ setting : Setting, NotGiven env setting.variableName → setting.Agrees config .default) ∧
    (∀ env other : Environment, (∀ name, other.find? name =
        (env.find? name).filter fun written => !(Text.trim written.toList).isEmpty) →
      ofEnvironment other = ofEnvironment env) ∧
    (∀ document config, ofJson document = .ok config → config.Loadable ∧
      ∃ names, Gives document names ∧ (∀ others, Gives document others → others = names) ∧
        ∀ setting : Setting, setting.key ∉ names → setting.Agrees config .default) ∧
    ∀ document config, ofToml document = .ok config → config.Loadable ∧
      ∃ entries, Toml.read? document = some entries ∧ ∀ setting : Setting,
        setting.key ∉ Dictionary.keys entries → setting.Agrees config .default := by
  refine ⟨fun config => flaw?_eq_none_iff, fun config hloadable => ⟨fun env hshown => ?_, ?_⟩,
    fun env config h => ?_, fun env other h => ofEnvironment_congr h, fun document config h => ?_,
    fun document config h => ?_⟩
  · exact ofEnvironment_of_shownBy hloadable hshown
  · exact ofJson_render hloadable
  · obtain ⟨draft, hsound, hchecked, hmissing⟩ := exists_draft_of_ofEnvironment h
    exact ⟨hsound.loadable hchecked,
      fun setting hgiven => Draft.agrees_of_checked hchecked (hmissing setting hgiven)⟩
  · obtain ⟨draft, hsound, hchecked, names, hnames, hmissing⟩ := exists_draft_of_ofJson h
    exact ⟨hsound.loadable hchecked, names, hnames, fun others hothers => hothers.unique hnames,
      fun setting hkey => Draft.agrees_of_checked hchecked (hmissing setting hkey)⟩
  · obtain ⟨draft, hsound, hchecked, entries, hentries, hmissing⟩ := exists_draft_of_ofToml h
    exact ⟨hsound.loadable hchecked, entries, hentries,
      fun setting hkey => Draft.agrees_of_checked hchecked (hmissing setting hkey)⟩

/-- The greatest numbers that can be loaded. -/
def largest : Config :=
  ⟨.ofCountry "zh" "CN", Word.largest 64, Pattern.maxBound, some (Word.largest 64)⟩

theorem largest_loadable : largest.Loadable where
  valid := by decide
  locale := ⟨"zh-CN", rfl⟩
  maxDepth := by decide
  seed := by decide

def largestEnvironment : Environment :=
  [("FORGERY_LOCALE", "zh_CN"), ("FORGERY_MAX_DEPTH", " 18446744073709551615\n"),
    ("FORGERY_MAX_REPEAT", "1000\u3000"), ("FORGERY_SEED", "\t18446744073709551615")]

theorem largest_shownBy : largest.ShownBy largestEnvironment where
  locale := ⟨[], [], nofun, nofun, by decide +kernel⟩
  maxDepth := ⟨[' '], ['\n'], List.forall_mem_singleton.mpr rfl, List.forall_mem_singleton.mpr rfl,
    by decide +kernel⟩
  maxRepeat := ⟨[], ['\u3000'], nofun, List.forall_mem_singleton.mpr rfl, by decide +kernel⟩
  seed := ⟨['\t'], [], List.forall_mem_singleton.mpr rfl, nofun, by decide +kernel⟩

theorem loaders_invert_rendering_largest :
    largest.Loadable ∧ largest.ShownBy largestEnvironment ∧
      ofEnvironment largestEnvironment = .ok largest ∧ ofJson largest.toJson.render = .ok largest ∧
      ofEnvironment [("FORGERY_SEED", " ")] = ofEnvironment [] ∧
      (∃ config, ofEnvironment [] = .ok config ∧
        ∀ setting : Setting, setting.Agrees config .default) ∧
      (∃ config, ofJson "[\"de\",8]" = .ok config ∧ config.Loadable ∧ config.maxRepeat = 10) ∧
      ∃ config, ofToml "seed = 7" = .ok config ∧ config.Loadable ∧ config.maxDepth = 64 := by
  obtain ⟨-, hload, henv, hblank, hjson, htoml⟩ := loaders_invert_rendering
  obtain ⟨hshown, hrendered⟩ := hload largest largest_loadable
  have hdocument : ofJson "[\"de\",8]" = .ok ⟨.ofLanguage "de", 8, 10, none⟩ := by decide +kernel
  have htable : ofToml "seed = 7" = .ok ⟨.en, 64, 10, some 7⟩ := by decide +kernel
  have hnone : ofEnvironment [] = .ok .default := by decide +kernel
  refine ⟨largest_loadable, largest_shownBy, hshown _ largest_shownBy, hrendered, ?_,
    ⟨_, hnone, fun setting => ?_⟩, ⟨_, hdocument, (hjson _ _ hdocument).1, rfl⟩,
    ⟨_, htable, (htoml _ _ htable).1, rfl⟩⟩
  · refine (hblank [("FORGERY_SEED", " ")] [] fun name => ?_).symm
    by_cases hname : name = "FORGERY_SEED"
    · subst hname
      rfl
    · simp [Environment.find?, Dictionary.find?, hname]
  · refine (henv _ _ hnone).2 setting fun written hwritten => ?_
    cases hwritten

end Pastiche.Config
