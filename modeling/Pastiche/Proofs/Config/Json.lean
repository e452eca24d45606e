import Pastiche.Proofs.Config.Setting
import Pastiche.Proofs.Decimal.Digits
import Pastiche.Proofs.Json.Skip

/-!
Settings as JSON. A document gives the settings whose names are those of its members, or, as an
array, as many as it has items; whatever it gives, the values that are taken are those of a
configuration. The JSON of a configuration is read back as the configuration.
-/

namespace Pastiche.Config

open Json Json.Scan Json.Reader

/-- How many settings an array gives before this one. -/
def Setting.position : Setting → Nat
  | .locale => 0
  | .maxDepth => 1
  | .maxRepeat => 2
  | .seed => 3

theorem Setting.le_position {setting : Setting} {n : Nat}
    (h : setting.key ∉ (all.map key).take n) : n ≤ setting.position := by
  by_contra hlt
  have hget : (all.map key)[setting.position]? = some setting.key := by
    cases setting <;> rfl
  rw [← List.getElem?_take_of_lt (Nat.lt_of_not_le hlt)] at hget
  exact h (List.mem_of_getElem? hget)

/-- The names of the settings that a document gives, whether or not their values can be read. -/
inductive Gives (document : String) : List String → Prop where
  | object {members : List (String × Unit)} (h : HasMembers Skips document.toList members) :
      Gives document (members.map Prod.fst)
  | array {items : List Unit} (h : HasItems Skips document.toList items) :
      Gives document ((Setting.all.map Setting.key).take items.length)

theorem Gives.unique {document : String} {names names' : List String} (h : Gives document names)
    (h' : Gives document names') : names = names' := by
  cases h with
  | object h =>
    cases h' with
    | object h' => rw [h.unique skips_functional h']
    | array h' => exact absurd h' h.not_hasItems
  | array h =>
    cases h' with
    | object h' => exact absurd h h'.not_hasItems
    | array h' => rw [h.unique skips_functional h']

section Values

variable {cs rest : List Char}

theorem readJson_eq_ok {locale : Locale} (h : Locale.readJson cs = .ok (locale, rest)) :
    Skips cs () rest ∧ ∃ tag, Locale.read tag = .ok locale := by
  obtain ⟨⟨tag, after⟩, htag, h⟩ := bind_eq_ok h
  dsimp only at h
  split at h
  · rename_i found hfound
    cases h
    exact ⟨skips_of_text htag, tag, Locale.read_eq_ok_iff.mpr hfound⟩
  · cases h

theorem le_of_naturalUpTo {limit n : Nat} (h : naturalUpTo limit cs = .ok (n, rest)) :
    n ≤ limit := by
  unfold naturalUpTo at h
  split at h
  · split at h
    · obtain ⟨found, -, h⟩ := bind_eq_ok h
      split at h
      · split at h
        · rename_i hle
          cases h
          exact hle
        · cases h
      · cases h
    · cases h
  · cases h

theorem readSeed_eq_ok {seed : Option Nat} (h : readSeed cs = .ok (seed, rest)) :
    Skips cs () rest ∧ ∀ n ∈ seed, n ≤ Word.largest 64 := by
  refine ⟨skips_of_nullable skips_of_naturalUpTo h, ?_⟩
  unfold readSeed nullable at h
  split at h
  · obtain ⟨after, -, h⟩ := bind_eq_ok h
    cases h
    exact nofun
  · obtain ⟨⟨n, after⟩, hn, h⟩ := bind_eq_ok h
    cases h
    rintro m ⟨⟩
    exact le_of_naturalUpTo hn

def Setting.reader :
    (setting : Setting) → List Char → Except Json.Flaw (setting.Value × List Char)
  | .locale => Locale.readJson
  | .maxDepth => readDepth
  | .maxRepeat => readRepeat
  | .seed => readSeed

theorem Setting.reader_eq_ok {setting : Setting} {value : setting.Value}
    (h : setting.reader cs = .ok (value, rest)) : Skips cs () rest ∧ setting.Fits value := by
  cases setting with
  | locale => exact readJson_eq_ok h
  | maxDepth => exact ⟨skips_of_naturalUpTo h, le_of_naturalUpTo h⟩
  | maxRepeat => exact ⟨skips_of_naturalUpTo h, trivial⟩
  | seed => exact readSeed_eq_ok h

end Values

section Members

variable {draft next : Draft} {cs rest : List Char}

theorem colon_eq_ok (h : colon cs = .ok rest) : skipSpace cs = ':' :: rest := by
  unfold colon at h
  split at h
  · cases h
  · cases h
    assumption
  · cases h

theorem setting_eq_ok {α : Type} {given : Option α} {value : α}
    {reader : List Char → Except Json.Flaw (α × List Char)}
    (h : setting given reader cs = .ok (value, rest)) :
    ∃ body, skipSpace cs = ':' :: body ∧ reader body = .ok (value, rest) := by
  unfold setting at h
  split at h
  · cases h
  · obtain ⟨body, hbody, h⟩ := bind_eq_ok h
    exact ⟨body, colon_eq_ok hbody, h⟩

theorem member_key (draft : Draft) (setting : Setting) (cs : List Char) :
    draft.member setting.key.toList cs = (do
      let (value, rest) ← Config.setting (setting.given? draft) setting.reader cs
      .ok (setting.put draft value, rest)) := by
  cases setting <;> simp [Draft.member, Setting.key] <;> rfl

theorem member_other {name : List Char} (h : ∀ setting : Setting, setting.key ≠ String.ofList name)
    (draft : Draft) (cs : List Char) :
    draft.member name cs = (do
      let rest ← colon cs
      .ok (draft, ← skip (budget rest) rest)) := by
  unfold Draft.member
  split
  · exact absurd (Eq.symm ‹_›) (h .locale)
  · exact absurd (Eq.symm ‹_›) (h .maxDepth)
  · exact absurd (Eq.symm ‹_›) (h .maxRepeat)
  · exact absurd (Eq.symm ‹_›) (h .seed)
  · rfl

/-- A step keeps what a draft has to keep: its values are those of a configuration, and a setting
of another name is not touched. -/
structure Step (name : String) (draft next : Draft) : Prop where
  sound : draft.Sound → next.Sound
  missing : ∀ setting : Setting, setting.key ≠ name → setting.Missing draft → setting.Missing next

theorem member_eq_ok {name : List Char} (h : draft.member name cs = .ok (next, rest)) :
    Step (String.ofList name) draft next ∧
      ∃ body, skipSpace cs = ':' :: body ∧ Skips body () rest := by
  by_cases hkey : ∃ setting : Setting, setting.key = String.ofList name
  · obtain ⟨setting, hkey⟩ := hkey
    obtain rfl : name = setting.key.toList := by rw [hkey, String.toList_ofList]
    rw [member_key] at h
    obtain ⟨⟨value, after⟩, hvalue, h⟩ := bind_eq_ok h
    cases h
    obtain ⟨body, hbody, hread⟩ := setting_eq_ok hvalue
    obtain ⟨hskips, hfits⟩ := Setting.reader_eq_ok hread
    refine ⟨⟨fun hsound => hsound.put hfits, fun other hother hmissing => ?_⟩, body, hbody, hskips⟩
    rw [String.ofList_toList] at hother
    exact hmissing.put (fun hsame => hother (congrArg Setting.key hsame)) value
  · rw [member_other (not_exists.mp hkey)] at h
    obtain ⟨body, hbody, h⟩ := bind_eq_ok h
    obtain ⟨after, hafter, h⟩ := bind_eq_ok h
    cases h
    exact ⟨⟨id, fun _ _ => id⟩, body, colon_eq_ok hbody, hafter⟩

theorem members_eq_ok {budget : Nat} (h : Draft.members budget draft cs = .ok (next, rest))
    (hsound : draft.Sound) :
    next.Sound ∧ ∃ members, MembersAt Skips cs members rest ∧
      ∀ setting : Setting, setting.key ∉ members.map Prod.fst → setting.Missing draft →
        setting.Missing next := by
  induction budget generalizing draft cs with
  | zero => cases h
  | succ budget ih =>
    unfold Draft.members at h
    split at h
    · cases h
    · rename_i body hopen
      obtain ⟨⟨name, after⟩, hname, h⟩ := bind_eq_ok h
      obtain ⟨⟨middle, beyond⟩, hmember, h⟩ := bind_eq_ok h
      obtain ⟨hstep, value, hcolon, hskips⟩ := member_eq_ok hmember
      have hfirst : MemberAt Skips cs (String.ofList name, ()) beyond :=
        ⟨body, after, value, hopen, by rw [String.toList_ofList]; exact hname, hcolon, hskips⟩
      dsimp only at h
      split at h
      · cases h
      · rename_i hclose
        cases h
        refine ⟨hstep.sound hsound, _, .last hfirst hclose, fun setting hkey => ?_⟩
        exact hstep.missing setting (by simpa using hkey)
      · rename_i hcomma
        obtain ⟨hnext, members, hmembers, hmissing⟩ := ih h (hstep.sound hsound)
        refine ⟨hnext, _, .more hfirst hcomma hmembers, fun setting hkey hdraft => ?_⟩
        rw [List.map_cons, List.mem_cons, not_or] at hkey
        exact hmissing setting hkey.2 (hstep.missing setting hkey.1 hdraft)
      · cases h
    · cases h

end Members

section Items

variable {cs rest : List Char} {α : Type}

/-- A value was read from the next item, or there was no item any more. -/
def Taken (reader : List Char → Except Json.Flaw (α × List Char)) (given : Option α)
    (items others : List Unit) : Prop :=
  (given = none ∧ items = [] ∧ others = []) ∨
    ∃ value body after, given = some value ∧ reader body = .ok (value, after) ∧ items = () :: others

namespace Taken

variable {reader : List Char → Except Json.Flaw (α × List Char)} {given : Option α}
  {items others : List Unit}

theorem exists_read (h : Taken reader given items others) {value : α} (hvalue : value ∈ given) :
    ∃ body after, reader body = .ok (value, after) := by
  rcases h with ⟨rfl, -⟩ | ⟨_, body, after, rfl, hread, -⟩
  · cases hvalue
  · cases hvalue
    exact ⟨body, after, hread⟩

theorem eq_none (h : Taken reader given items others) (hlength : items.length ≤ 0) :
    given = none := by
  rcases h with ⟨hnone, -⟩ | ⟨_, _, _, -, -, rfl⟩
  · exact hnone
  · cases hlength

theorem length_le (h : Taken reader given items others) {n : Nat} (hlength : items.length ≤ n + 1) :
    others.length ≤ n := by
  rcases h with ⟨-, -, rfl⟩ | ⟨_, _, _, -, -, rfl⟩
  · exact Nat.zero_le n
  · exact Nat.le_of_succ_le_succ hlength

end Taken

theorem first_item_eq_ok {reader : List Char → Except Json.Flaw (α × List Char)}
    {given : Option α} (hreader : ∀ {cs a rest}, reader cs = .ok (a, rest) → Skips cs () rest)
    (h : item true reader cs = .ok (given, rest)) {others : List Unit} {fin : List Char}
    (hothers : ItemsAfter Skips rest others fin) :
    ∃ items, ItemsAt Skips cs items fin ∧ Taken reader given items others := by
  unfold item at h
  split at h
  · cases h
  · rename_i body hclose
    cases h
    cases hothers with
    | close close =>
      cases close
      exact ⟨[], .none hclose, .inl ⟨rfl, rfl, rfl⟩⟩
    | comma comma => cases comma
  · rename_i c body hnot hopen
    rw [if_pos rfl] at h
    obtain ⟨⟨value, after⟩, hvalue, h⟩ := bind_eq_ok h
    cases h
    refine ⟨_, .some (fun next hclose => ?_) (hopen ▸ hreader hvalue) hothers,
      .inr ⟨_, _, _, rfl, hvalue, rfl⟩⟩
    rw [hopen] at hclose
    exact hnot (List.head_eq_of_cons_eq hclose)

theorem item_eq_ok {reader : List Char → Except Json.Flaw (α × List Char)} {given : Option α}
    (hreader : ∀ {cs a rest}, reader cs = .ok (a, rest) → Skips cs () rest)
    (h : item false reader cs = .ok (given, rest)) {others : List Unit} {fin : List Char}
    (hothers : ItemsAfter Skips rest others fin) :
    ∃ items, ItemsAfter Skips cs items fin ∧ Taken reader given items others := by
  unfold item at h
  split at h
  · cases h
  · rename_i body hclose
    cases h
    cases hothers with
    | close close =>
      cases close
      exact ⟨[], .close hclose, .inl ⟨rfl, rfl, rfl⟩⟩
    | comma comma => cases comma
  · rename_i c body hopen
    rw [if_neg (by decide)] at h
    split at h
    · rename_i hcomma
      subst hcomma
      split at h
      · cases h
      · cases h
      · obtain ⟨⟨value, after⟩, hvalue, h⟩ := bind_eq_ok h
        cases h
        exact ⟨_, .comma hopen (hreader hvalue) hothers, .inr ⟨_, _, _, rfl, hvalue, rfl⟩⟩
    · cases h

theorem arrayEnd_eq_ok (h : arrayEnd cs = .ok rest) : skipSpace cs = ']' :: rest := by
  unfold arrayEnd at h
  split at h
  · cases h
  · cases h
    assumption
  · cases h

theorem items_eq_ok {draft : Draft} (h : Draft.items cs = .ok (draft, rest)) :
    draft.Sound ∧ ∃ items, ItemsAt Skips cs items rest ∧
      ∀ setting : Setting, setting.key ∉ (Setting.all.map Setting.key).take items.length →
        setting.Missing draft := by
  obtain ⟨⟨locale, afterLocale⟩, hlocale, h⟩ := bind_eq_ok h
  obtain ⟨⟨maxDepth, afterDepth⟩, hdepth, h⟩ := bind_eq_ok h
  obtain ⟨⟨maxRepeat, afterRepeat⟩, hrepeat, h⟩ := bind_eq_ok h
  obtain ⟨⟨seed, afterSeed⟩, hseed, h⟩ := bind_eq_ok h
  obtain ⟨beyond, hend, h⟩ := bind_eq_ok h
  cases h
  -- from the last item to the first, as each one needs what is left behind it
  obtain ⟨seeds, hseeds, tseed⟩ :=
    item_eq_ok (fun h => (readSeed_eq_ok h).1) hseed (.close (arrayEnd_eq_ok hend))
  obtain ⟨repeats, hrepeats, trepeat⟩ := item_eq_ok skips_of_naturalUpTo hrepeat hseeds
  obtain ⟨depths, hdepths, tdepth⟩ := item_eq_ok skips_of_naturalUpTo hdepth hrepeats
  obtain ⟨locales, hlocales, tlocale⟩ :=
    first_item_eq_ok (fun h => (readJson_eq_ok h).1) hlocale hdepths
  refine ⟨⟨fun l hl => ?_, fun n hn => ?_, fun given hgiven => ?_⟩, locales, hlocales, ?_⟩
  · obtain ⟨body, after, hread⟩ := tlocale.exists_read hl
    exact (readJson_eq_ok hread).2
  · obtain ⟨body, after, hread⟩ := tdepth.exists_read hn
    exact le_of_naturalUpTo hread
  · obtain ⟨body, after, hread⟩ := tseed.exists_read hgiven
    exact (readSeed_eq_ok hread).2
  · intro setting hkey
    have hlength := Setting.le_position hkey
    cases setting with
    | locale => exact tlocale.eq_none hlength
    | maxDepth => exact tdepth.eq_none (tlocale.length_le hlength)
    | maxRepeat => exact trepeat.eq_none (tdepth.length_le (tlocale.length_le hlength))
    | seed =>
      exact tseed.eq_none (trepeat.length_le (tdepth.length_le (tlocale.length_le hlength)))

end Items

theorem exists_draft_of_ofJson {document : String} {config : Config}
    (h : ofJson document = .ok config) :
    ∃ draft : Draft, draft.Sound ∧ checked draft.complete = .ok config ∧
      ∃ names, Gives document names ∧ ∀ setting : Setting, setting.key ∉ names →
        setting.Missing draft := by
  unfold ofJson at h
  split at h
  · rename_i draft hfinish
    unfold finish at hfinish
    split at hfinish
    · rename_i found rest hread
      split at hfinish
      · rename_i hrest
        cases hfinish
        rw [List.isEmpty_iff] at hrest
        unfold Draft.read at hread
        split at hread
        · cases hread
        · rename_i body hopen
          obtain ⟨hsound, items, hitems, hmissing⟩ := items_eq_ok hread
          exact ⟨draft, hsound, h, _, .array ⟨body, rest, hopen, hrest, hitems⟩, hmissing⟩
        · rename_i body hopen
          split at hread
          · rename_i hclose
            cases hread
            exact ⟨_, .empty, h, _, .object ⟨body, rest, hopen, hrest, .inl ⟨hclose, rfl⟩⟩,
              fun setting _ => setting.missing_empty⟩
          · obtain ⟨hsound, members, hmembers, hmissing⟩ := members_eq_ok hread .empty
            exact ⟨draft, hsound, h, _, .object ⟨body, rest, hopen, hrest, .inr hmembers⟩,
              fun setting hkey => hmissing setting hkey setting.missing_empty⟩
        · cases hread
      · cases hfinish
    · cases hfinish
  · cases h

section Rendered

variable {rest : List Char}

theorem endsNumber_of_endsMember (h : EndsMember rest) : EndsNumber rest := by
  obtain ⟨c, more, rfl, rfl | rfl⟩ := h <;> rintro d ⟨⟩ <;> decide

theorem skipSpace_toDigits (n : Nat) (rest : List Char) :
    skipSpace (Nat.toDigits 10 n ++ rest) = Nat.toDigits 10 n ++ rest := by
  obtain ⟨c, more, hdigits, hc⟩ := Decimal.exists_toDigits_eq_cons n
  have hspace : ¬ isSpace c = true := by
    intro hspace
    simp only [isSpace, Bool.or_eq_true, beq_iff_eq] at hspace
    rcases hspace with ((rfl | rfl) | rfl) | rfl <;> cases hc
  rw [hdigits]
  exact List.dropWhile_cons_of_neg hspace

theorem naturalUpTo_toDigits {n limit : Nat} (hlimit : n ≤ limit) (h : n < Word.count 64)
    (hrest : EndsMember rest) :
    naturalUpTo limit (Nat.toDigits 10 n ++ rest) = .ok (n, rest) := by
  have hnumber := number_toDigits h (endsNumber_of_endsMember hrest)
  have hspace := skipSpace_toDigits n rest
  obtain ⟨c, more, hdigits, hc⟩ := Decimal.exists_toDigits_eq_cons n
  have hstarts : startsNumber c = true := by simp [startsNumber, hc]
  rw [hdigits, List.cons_append] at hnumber hspace ⊢
  rw [naturalUpTo, hspace]
  dsimp only
  rw [if_pos hstarts, hnumber, ok_bind]
  exact if_pos hlimit

theorem lt_count_of_le_largest {n : Nat} (h : n ≤ Word.largest 64) : n < Word.count 64 :=
  Nat.lt_of_le_of_lt h (by decide)

theorem readSeed_write {seed : Option Nat} (h : ∀ n ∈ seed, n ≤ Word.largest 64)
    (hrest : EndsMember rest) :
    readSeed (write ((seed.map Json.natural).getD .null) ++ rest) = .ok (seed, rest) := by
  cases seed with
  | none => rfl
  | some n =>
    have hn := h n rfl
    have hnatural := naturalUpTo_toDigits hn (lt_count_of_le_largest hn) hrest
    change nullable _ (Nat.toDigits 10 n ++ rest) = _
    unfold nullable
    split
    · rename_i body hnull
      obtain ⟨c, more, hdigits, hc⟩ := Decimal.exists_toDigits_eq_cons n
      rw [skipSpace_toDigits, hdigits] at hnull
      rw [List.head_eq_of_cons_eq hnull] at hc
      cases hc
    · rw [hnatural, ok_bind]

theorem text_string (cs : List Char) :
    text ('"' :: cs) = (do
      let (content, rest) ← stringBody cs
      .ok (String.ofList content, rest)) := rfl

theorem text_quote (content : String) (rest : List Char) :
    text (quote content.toList ++ rest) = .ok (content, rest) := by
  simp [quote_append, text_string, stringBody_escaped]

theorem readJson_write {locale : Locale} (h : ∃ tag, Locale.read tag = .ok locale) :
    Locale.readJson (write locale.toJson ++ rest) = .ok (locale, rest) := by
  obtain ⟨tag, htag⟩ := h
  have hagain := Locale.read_eq_ok_iff.mp (Locale.read_tag_of_read htag)
  rw [Locale.toJson, write, Locale.readJson, text_quote, ok_bind]
  dsimp only
  rw [hagain]

def Setting.value (config : Config) : (setting : Setting) → setting.Value
  | .locale => config.locale
  | .maxDepth => config.maxDepth
  | .maxRepeat => config.maxRepeat
  | .seed => config.seed

def Setting.json (config : Config) : Setting → Json
  | .locale => config.locale.toJson
  | .maxDepth => .natural config.maxDepth
  | .maxRepeat => .natural config.maxRepeat
  | .seed => (config.seed.map Json.natural).getD .null

theorem Setting.reader_json {config : Config} (h : config.Loadable) (setting : Setting)
    (hrest : EndsMember rest) :
    setting.reader (write (setting.json config) ++ rest) = .ok (setting.value config, rest) := by
  cases setting with
  | locale => exact readJson_write h.locale
  | maxDepth => exact naturalUpTo_toDigits h.maxDepth (lt_count_of_le_largest h.maxDepth) hrest
  | maxRepeat =>
    have hbound : config.maxRepeat ≤ Word.largest 32 :=
      (flaw?_eq_none_iff.mp h.valid).2.trans (by decide)
    exact naturalUpTo_toDigits hbound (Nat.lt_of_le_of_lt hbound (by decide)) hrest
  | seed => exact readSeed_write h.seed hrest

def memberText (config : Config) (setting : Setting) : List Char :=
  quote setting.key.toList ++ ':' :: write (setting.json config)

variable {config : Config} {draft : Draft} {setting : Setting}

theorem members_string (budget : Nat) (draft : Draft) (cs : List Char) :
    Draft.members (budget + 1) draft ('"' :: cs) = (do
      let (name, rest) ← stringBody cs
      let (draft, rest) ← draft.member name rest
      match skipSpace rest with
      | [] => .error .truncated
      | '\x7d' :: rest => .ok (draft, rest)
      | ',' :: rest => Draft.members budget draft rest
      | _ => .error .malformed) := rfl

theorem members_step (h : config.Loadable) (hmissing : setting.Missing draft)
    (hrest : EndsMember rest) (budget : Nat) :
    Draft.members (budget + 1) draft (memberText config setting ++ rest) =
      match skipSpace rest with
      | [] => .error .truncated
      | '\x7d' :: rest => .ok (setting.put draft (setting.value config), rest)
      | ',' :: rest => Draft.members budget (setting.put draft (setting.value config)) rest
      | _ => .error .malformed := by
  have hvalue : Config.setting (setting.given? draft) setting.reader
      (':' :: (write (setting.json config) ++ rest)) = .ok (setting.value config, rest) := by
    rw [show setting.given? draft = none from hmissing]
    exact setting.reader_json h hrest
  rw [memberText, List.append_assoc, quote_append, members_string, stringBody_escaped, ok_bind]
  dsimp only [List.cons_append]
  rw [member_key, hvalue, ok_bind, ok_bind]

/-- Members of different settings that a draft has no values for are read one after another. -/
theorem members_written (h : config.Loadable) {settings : List Setting} (hne : settings ≠ [])
    (hnodup : settings.Nodup) (hmissing : ∀ setting ∈ settings, setting.Missing draft)
    (spare : Nat) :
    Draft.members (settings.length + spare) draft
        (separated (settings.map (memberText config)) ++ '\x7d' :: rest) =
      .ok (settings.foldl (fun draft setting => setting.put draft (setting.value config)) draft,
        rest) := by
  induction settings generalizing draft with
  | nil => exact absurd rfl hne
  | cons setting settings ih =>
    have hfirst := hmissing setting List.mem_cons_self
    rw [List.length_cons, Nat.add_right_comm]
    by_cases hsettings : settings = []
    · subst hsettings
      rw [List.map_singleton, separated, List.intercalate_singleton,
        members_step h hfirst ⟨_, _, rfl, .inr rfl⟩]
      rfl
    · have hothers : ∀ other ∈ settings,
          other.Missing (setting.put draft (setting.value config)) := by
        intro other hother
        refine (hmissing other (List.mem_cons_of_mem _ hother)).put ?_ _
        rintro rfl
        exact (List.nodup_cons.mp hnodup).1 hother
      rw [List.map_cons, separated, List.intercalate_cons_of_ne_nil (by simpa using hsettings),
        List.append_assoc, List.append_assoc, List.singleton_append,
        members_step h hfirst ⟨_, _, rfl, .inl rfl⟩]
      exact ih hsettings (List.nodup_cons.mp hnodup).2 hothers

/-- The JSON of a configuration behind its opening brace. -/
def membersText (config : Config) : List Char :=
  separated (Setting.all.map (memberText config)) ++ ['\x7d']

theorem toList_render (config : Config) :
    config.toJson.render.toList = '\x7b' :: membersText config := by
  have hmembers : config.toJson =
      .object (Setting.all.map fun setting => (setting.key, setting.json config)) := rfl
  rw [hmembers, render, String.toList_ofList]
  rfl

theorem length_membersText (config : Config) :
    Setting.all.length ≤ (membersText config).length + 1 := by
  have hlength := length_le_separated (Setting.all.map (memberText config))
  rw [List.length_map] at hlength
  rw [membersText, List.length_append]
  omega

theorem read_toJson (h : config.Loadable) :
    Draft.read config.toJson.render.toList = .ok (⟨some config.locale, some config.maxDepth,
      some config.maxRepeat, some config.seed⟩, []) := by
  have hread : Draft.read ('\x7b' :: membersText config) =
      Draft.members ((membersText config).length + 1) .empty (membersText config) := rfl
  obtain ⟨spare, hspare⟩ := Nat.exists_eq_add_of_le (length_membersText config)
  rw [toList_render, hread, hspare, membersText, members_written h (by decide) (by decide)
    fun setting _ => setting.missing_empty]
  rfl

theorem ofJson_render {config : Config} (h : config.Loadable) :
    ofJson config.toJson.render = .ok config := by
  rw [ofJson, read_toJson h]
  exact checked_eq_ok_iff.mpr ⟨h.valid, rfl⟩

end Rendered

end Pastiche.Config
