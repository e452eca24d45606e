import Pastiche.Config.Environment
import Pastiche.Proofs.Config.Setting
import Pastiche.Proofs.Decimal.Digits
import Pastiche.Proofs.Text.Padded

/-!
Settings from environment variables. What is shown in the variables is read back whatever blanks
stand around it, and a blank variable is the same as none.
-/

namespace Pastiche

namespace Text

theorem trim_eq_nil_iff {cs : List Char} : trim cs = [] ↔ ∀ c ∈ cs, isBlank c = true := by
  constructor
  · intro h c hc
    obtain ⟨before, after, hcs, hbefore, hafter⟩ := exists_trim cs
    rw [h, List.append_nil] at hcs
    rw [hcs] at hc
    exact (List.mem_append.mp hc).elim (hbefore c) (hafter c)
  · intro h
    rw [trim, trimStart_eq_nil_iff.mpr h]
    rfl

end Text

namespace Config

def Setting.variableName : Setting → String
  | .locale => "FORGERY_LOCALE"
  | .maxDepth => "FORGERY_MAX_DEPTH"
  | .maxRepeat => "FORGERY_MAX_REPEAT"
  | .seed => "FORGERY_SEED"

/-- A variable is unset, or holds nothing but blanks. -/
def NotGiven (env : Environment) (name : String) : Prop :=
  ∀ written, env.find? name = some written → ∀ c ∈ written.toList, Text.isBlank c = true

/-- A variable holds a text, with any blanks around it. -/
def Holds (env : Environment) (name content : String) : Prop :=
  ∃ before after, (∀ c ∈ before, Text.isBlank c = true) ∧ (∀ c ∈ after, Text.isBlank c = true) ∧
    env.find? name = some (String.ofList (before ++ content.toList ++ after))

structure ShownBy (config : Config) (env : Environment) : Prop where
  locale : Holds env "FORGERY_LOCALE" config.locale.tag
  maxDepth : Holds env "FORGERY_MAX_DEPTH" config.maxDepth.repr
  maxRepeat : Holds env "FORGERY_MAX_REPEAT" config.maxRepeat.repr
  seed : match config.seed with
    | some seed => Holds env "FORGERY_SEED" seed.repr
    | none => NotGiven env "FORGERY_SEED"

variable {env : Environment}

theorem setting?_of_notGiven (name : String) (h : NotGiven env (variableName name)) :
    setting? env name = none := by
  rw [setting?, Option.filter_eq_none_iff]
  intro written hwritten
  simp [Text.trim_eq_nil_iff.mpr (h written hwritten)]

theorem exists_setting?_of_holds (name : String) {content : String}
    (h : Holds env (variableName name) content) (hne : content.toList ≠ [])
    (hcontent : ∀ c ∈ content.toList, Text.isBlank c = false) :
    ∃ written, setting? env name = some written ∧
      Text.trim written.toList = content.toList := by
  obtain ⟨before, after, hbefore, hafter, hfound⟩ := h
  have htrim : Text.trim (before ++ content.toList ++ after) = content.toList :=
    Text.trim_between hbefore hafter (fun c hc => hcontent c (List.mem_of_mem_head? hc))
      (fun c hc => hcontent c (List.mem_of_mem_getLast? hc))
  refine ⟨_, ?_, (congrArg Text.trim String.toList_ofList).trans htrim⟩
  rw [setting?, hfound, Option.filter_some, String.toList_ofList, htrim]
  simp [hne]

theorem locale?_of_notGiven (h : NotGiven env "FORGERY_LOCALE") : locale? env = .ok none := by
  rw [locale?, setting?_of_notGiven _ h]

theorem locale?_of_holds {locale : Locale} {tag : String} (hread : Locale.read tag = .ok locale)
    (h : Holds env "FORGERY_LOCALE" locale.tag) : locale? env = .ok (some locale) := by
  obtain ⟨language, country, hparts⟩ := Locale.isTag_tag_of_read hread
  obtain ⟨written, hwritten, htrim⟩ :=
    exists_setting?_of_holds "LOCALE" h hparts.ne_nil hparts.not_blank
  have hsame : Locale.ofTag? written = Locale.ofTag? locale.tag :=
    Locale.ofTag?_eq_of_trim_eq (by rw [htrim, hparts.trim_eq])
  have hagain : Locale.read written = .ok locale := by
    rw [Locale.read_eq_ok_iff, hsame, ← Locale.read_eq_ok_iff]
    exact Locale.read_tag_of_read hread
  rw [locale?, hwritten]
  dsimp only
  rw [hagain, ok_bind]

theorem natural?_of_notGiven (name : String) (limit : Nat)
    (h : NotGiven env (variableName name)) :
    natural? env name limit = .ok none := by
  rw [natural?, setting?_of_notGiven _ h]

theorem natural?_of_holds (name : String) {n limit : Nat} (hn : n ≤ limit)
    (h : Holds env (variableName name) n.repr) : natural? env name limit = .ok (some n) := by
  have hdigits : ∀ c ∈ n.repr.toList, Text.isBlank c = false := by
    intro c hc
    rw [Nat.toList_repr] at hc
    exact Locale.IsPartChar.not_blank (.inr (Decimal.isDigit_of_mem_toDigits hc))
  obtain ⟨written, hwritten, htrim⟩ :=
    exists_setting?_of_holds name h (by rw [Nat.toList_repr]; exact Nat.toDigits_ne_nil) hdigits
  rw [natural?, hwritten]
  dsimp only
  rw [htrim, Nat.toList_repr, Decimal.readInteger_toDigits hn]
  rfl

theorem complete_of_given (config : Config) :
    Draft.complete ⟨some config.locale, some config.maxDepth, some config.maxRepeat,
      config.seed.map some⟩ = config := by
  obtain ⟨locale, maxDepth, maxRepeat, seed⟩ := config
  cases seed <;> rfl

theorem ofEnvironment_of_shownBy {config : Config} (hloadable : config.Loadable)
    (h : config.ShownBy env) : ofEnvironment env = .ok config := by
  obtain ⟨tag, htag⟩ := hloadable.locale
  have hlocale := locale?_of_holds htag h.locale
  have hdepth := natural?_of_holds "MAX_DEPTH" hloadable.maxDepth h.maxDepth
  have hbound : config.maxRepeat ≤ Word.largest 32 :=
    (flaw?_eq_none_iff.mp hloadable.valid).2.trans (by decide)
  have hrepeat := natural?_of_holds "MAX_REPEAT" hbound h.maxRepeat
  have hseed : natural? env "SEED" (Word.largest 64) = .ok config.seed := by
    have hshown := h.seed
    cases hgiven : config.seed with
    | none =>
      rw [hgiven] at hshown
      exact natural?_of_notGiven "SEED" _ hshown
    | some seed =>
      rw [hgiven] at hshown
      exact natural?_of_holds "SEED" (hloadable.seed seed hgiven) hshown
  rw [ofEnvironment, hlocale, hdepth, hrepeat, hseed]
  exact checked_eq_ok_iff.mpr ⟨(complete_of_given config).symm ▸ hloadable.valid,
    complete_of_given config⟩

theorem exists_tag_of_locale? {locale : Locale} (h : locale? env = .ok (some locale)) :
    ∃ tag, Locale.read tag = .ok locale := by
  unfold locale? at h
  split at h
  · cases h
  · rename_i tag htag
    obtain ⟨found, hfound, heq⟩ := bind_eq_ok h
    cases heq
    exact ⟨tag, hfound⟩

theorem le_of_natural? {name : String} {n limit : Nat}
    (h : natural? env name limit = .ok (some n)) : n ≤ limit := by
  unfold natural? at h
  split at h
  · cases h
  · split at h
    · rename_i value hvalue
      cases h
      have hmost := (Decimal.le_of_readInteger hvalue).2
      omega
    · cases h

/-- What an environment is read into: a draft without the settings that are not given. -/
theorem exists_draft_of_ofEnvironment {config : Config} (h : ofEnvironment env = .ok config) :
    ∃ draft : Draft, draft.Sound ∧ checked draft.complete = .ok config ∧
      ∀ setting : Setting, NotGiven env setting.variableName → setting.Missing draft := by
  obtain ⟨locale, hlocale, h⟩ := bind_eq_ok h
  obtain ⟨maxDepth, hdepth, h⟩ := bind_eq_ok h
  obtain ⟨maxRepeat, hrepeat, h⟩ := bind_eq_ok h
  obtain ⟨seed, hseed, h⟩ := bind_eq_ok h
  refine ⟨_, ⟨fun l hl => ?_, fun n hn => ?_, fun given hgiven n hn => ?_⟩, h, ?_⟩
  · obtain rfl : locale = some l := hl
    exact exists_tag_of_locale? hlocale
  · obtain rfl : maxDepth = some n := hn
    exact le_of_natural? hdepth
  · obtain rfl : given = some n := hn
    cases seed with
    | none => cases hgiven
    | some found =>
      cases hgiven
      exact le_of_natural? hseed
  · intro setting hsetting
    cases setting with
    | locale => exact Except.ok.inj (hlocale.symm.trans (locale?_of_notGiven hsetting))
    | maxDepth =>
      exact Except.ok.inj (hdepth.symm.trans (natural?_of_notGiven "MAX_DEPTH" _ hsetting))
    | maxRepeat =>
      exact Except.ok.inj (hrepeat.symm.trans (natural?_of_notGiven "MAX_REPEAT" _ hsetting))
    | seed =>
      have hnone := Except.ok.inj (hseed.symm.trans (natural?_of_notGiven "SEED" _ hsetting))
      exact congrArg (Option.map some) hnone

/-- Two environments in which the same variables hold the same texts, blank ones apart, are read in
the same way. -/
theorem ofEnvironment_congr {other : Environment}
    (h : ∀ name, other.find? name =
      (env.find? name).filter fun written => !(Text.trim written.toList).isEmpty) :
    ofEnvironment other = ofEnvironment env := by
  have hsetting (name : String) : setting? other name = setting? env name := by
    rw [setting?, setting?, h, Option.filter_filter]
    simp
  simp only [ofEnvironment, locale?, natural?, hsetting]

end Config

end Pastiche
