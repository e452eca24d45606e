import Pastiche.Proofs.Engine.Run
import Pastiche.Proofs.Fetcher
import Pastiche.Proofs.Store.History

/-!
Engines for locales that have data. An engine is built where the locale or its language is known to
the store; where both were supplied, it can fetch some key through one of them. A locale can also be
known without any data.
-/

namespace Pastiche

variable {σ : Type}

namespace Fetcher

theorem exists_decides {fetcher : Fetcher} {key : String} {entry : Entry} {locale : Locale}
    (hlocale : locale = fetcher.locale ∨ locale = fetcher.locale.withoutCountry)
    (h : fetcher.store.lookup locale key = some entry) :
    ∃ first leaf, (first = fetcher.locale ∨ first = fetcher.locale.withoutCountry) ∧
      fetcher.Decides key first leaf := by
  cases hown : fetcher.store.lookup fetcher.locale key with
  | some leaf =>
    obtain ⟨rest, hchain⟩ := fetcher.locale.exists_chain_eq_cons
    refine ⟨_, leaf, .inl rfl, Store.lookup_eq_some_iff.mp hown, [], rest, hchain, ?_⟩
    exact fun other hother => by cases hother
  | none =>
    have hne : locale ≠ fetcher.locale := by
      rintro rfl
      rw [hown] at h
      cases h
    obtain rfl := hlocale.resolve_left hne
    obtain ⟨rest, hchain⟩ := Locale.exists_chain_eq_cons_cons hne
    refine ⟨_, entry, .inr rfl, Store.lookup_eq_some_iff.mp h, [fetcher.locale], rest, hchain, ?_⟩
    intro other hother
    rw [List.mem_singleton.mp hother]
    exact Store.lookup_eq_none_iff.mp hown

theorem exists_fetch_of_decides [Source σ] {fetcher : Fetcher} {key : String}
    {locale : Locale} {entry : Entry} (h : fetcher.Decides key locale entry)
    (session : Session σ) : ∃ text, (fetcher.fetch key session).1 = .ok text := by
  obtain ⟨-, -, -, hne⟩ := h.holds
  obtain ⟨text, source, hselects⟩ := Entry.exists_selects hne session.source
  have hfinds := finds_of_leaf (leaf?_eq_some_iff.mpr ⟨locale, h⟩) hselects
  exact ⟨text, by rw [hfinds.fetch]⟩

end Fetcher

theorem Engine.build_eq_ok_iff {config : Config} {registry : Registry} {store : Store}
    {session : Session σ} {engine : Engine} :
    (build config registry (some store) session).1 = .ok engine ↔ config.flaw? = none ∧
      (store.hasLocale config.locale = true ∨
        store.hasLocale config.locale.withoutCountry = true) ∧
      engine = ⟨config, registry, store⟩ := by
  unfold build
  cases hflaw : config.flaw? with
  | some flaw => exact iff_of_false nofun nofun
  | none =>
    dsimp only
    by_cases hknown :
      (store.hasLocale config.locale || store.hasLocale config.locale.withoutCountry) = true
    · rw [if_pos hknown, Run.lift_bind]
      rw [Bool.or_eq_true] at hknown
      constructor
      · intro h
        cases h
        exact ⟨rfl, hknown, rfl⟩
      · rintro ⟨-, -, rfl⟩
        rfl
    · rw [if_neg hknown, Run.lift_bind]
      rw [Bool.or_eq_true] at hknown
      exact iff_of_false nofun fun h => hknown h.2.1

namespace Store

/-- Where the last call that was accepted for the locale or for its language carries data, the
engine that is built finds some key in one of the two. -/
theorem exists_decides_of_build {calls : List Call} {config : Config} {registry : Registry}
    {session : Session σ} {engine : Engine} (hordered : ∀ call ∈ calls, call.Ordered)
    (hown : Supplied calls config.locale) (hlanguage : Supplied calls config.locale.withoutCountry)
    (h : (Engine.build config registry (some (filled calls)) session).1 = .ok engine) :
    ∃ key locale entry, (locale = config.locale ∨ locale = config.locale.withoutCountry) ∧
      engine.fetcher.Decides key locale entry := by
  obtain ⟨-, hknown, rfl⟩ := Engine.build_eq_ok_iff.mp h
  have hfound : ∃ locale, (locale = config.locale ∨ locale = config.locale.withoutCountry) ∧
      ∃ key entry, (filled calls).lookup locale key = some entry := by
    rcases hknown with hlocale | hlocale
    · exact ⟨_, .inl rfl, exists_lookup_of_supplied hordered hown hlocale⟩
    · exact ⟨_, .inr rfl, exists_lookup_of_supplied hordered hlanguage hlocale⟩
  obtain ⟨locale, hlocale, key, entry, hlookup⟩ := hfound
  have hfetcher : (Engine.fetcher ⟨config, registry, filled calls⟩).store.lookup locale key =
      some entry := hlookup
  obtain ⟨first, leaf, hfirst, hdecides⟩ := Fetcher.exists_decides hlocale hfetcher
  exact ⟨key, first, leaf, hfirst, hdecides⟩

/-- A locale is known if and only if some call for it was accepted, and a key shows what the last
accepted call with something on its way has for it. So a locale in which a key shows something is
known; and a known locale has such a key if the last call that was accepted for it carries data, as
then has the locale of an engine, or its language. -/
theorem known_of_history [Source σ] {calls : List Call} (hordered : ∀ call ∈ calls, call.Ordered) :
    (∀ locale, (filled calls).hasLocale locale = true ↔ ∃ call ∈ calls, call.IsFor locale) ∧
    (∀ locale key entry, (filled calls).lookup locale key = some entry ↔
      Last (fun call => call.IsFor locale ∧ call.Shows key entry)
        (fun call => call.IsFor locale ∧ call.Covers key) calls) ∧
    (∀ locale, (∃ key, (filled calls).lookup locale key ≠ none) →
      (filled calls).hasLocale locale = true) ∧
    (∀ locale, Supplied calls locale →
      ((filled calls).hasLocale locale = true ↔ ∃ key, (filled calls).lookup locale key ≠ none)) ∧
    ∀ config registry (session : Session σ) engine,
      (Engine.build config registry (some (filled calls)) session).1 = .ok engine →
      Supplied calls config.locale → Supplied calls config.locale.withoutCountry →
      ∃ key locale entry, (locale = config.locale ∨ locale = config.locale.withoutCountry) ∧
        engine.fetcher.Decides key locale entry ∧
        ∀ later : Session σ, ∃ text, (engine.fetcher.fetch key later).1 = .ok text := by
  have hknown : ∀ locale, (∃ key, (filled calls).lookup locale key ≠ none) →
      (filled calls).hasLocale locale = true := by
    rintro locale ⟨key, hkey⟩
    obtain ⟨entry, hentry⟩ := Option.ne_none_iff_exists'.mp hkey
    exact hasLocale_of_lookup hentry
  refine ⟨hasLocale_filled_iff calls, lookup_filled_iff hordered, hknown,
    fun locale hsupplied => ⟨fun h => ?_, hknown locale⟩,
    fun config registry session engine hbuild hown hlanguage => ?_⟩
  · obtain ⟨key, entry, hlookup⟩ := exists_lookup_of_supplied hordered hsupplied h
    exact ⟨key, by simp [hlookup]⟩
  · obtain ⟨key, locale, entry, hlocale, hdecides⟩ :=
      exists_decides_of_build hordered hown hlanguage hbuild
    exact ⟨key, locale, entry, hlocale, hdecides,
      fun later => Fetcher.exists_fetch_of_decides hdecides later⟩

/-- A document with an empty list and a title, and two calls for other locales that are refused. -/
def mixedCalls : List Call :=
  [.addDocument .en (.object [("names", .array []), ("title", .array [.string "Dr"])]),
    .addText (.ofLanguage "de") "[", .addDocument (.ofLanguage "fr") (.array [.string "Dr"])]

theorem mixedCalls_ordered : ∀ call ∈ mixedCalls, call.Ordered := by
  intro call hcall
  simp only [mixedCalls, List.mem_cons, List.not_mem_nil, or_false] at hcall
  rcases hcall with rfl | rfl | rfl
  · exact ⟨by decide, trivial, ⟨trivial, trivial⟩, trivial⟩
  · trivial
  · exact ⟨trivial, trivial⟩

theorem mixedCalls_carries {call : Call} (hcall : call ∈ mixedCalls) (hfor : call.IsFor .en) :
    call.Carries := by
  simp only [mixedCalls, List.mem_cons, List.not_mem_nil, or_false] at hcall
  rcases hcall with rfl | rfl | rfl
  · exact ⟨_, ["title"], .array [.string "Dr"], rfl, rfl, Option.some_ne_none _, by decide⟩
  · exact absurd hfor.locale_eq (by decide +kernel)
  · exact absurd hfor.locale_eq (by decide +kernel)

theorem mixedCalls_not_american {call : Call} (hcall : call ∈ mixedCalls) :
    ¬ call.IsFor (.ofCountry "en" "US") := by
  intro hfor
  have hlocale := hfor.locale_eq
  simp only [mixedCalls, List.mem_cons, List.not_mem_nil, or_false] at hcall
  rcases hcall with rfl | rfl | rfl <;> exact absurd hlocale (by decide +kernel)

theorem known_of_history_mixedCalls :
    let config := Config.ofLocale (.ofCountry "en" "US")
    let session := Session.start (RandomSource.fixed 0)
    (∀ call ∈ mixedCalls, call.Ordered) ∧ Supplied mixedCalls .en ∧
      (filled mixedCalls).hasLocale .en = true ∧
      (∃ key, (filled mixedCalls).lookup .en key ≠ none) ∧
      ∃ engine, (Engine.build config .default (some (filled mixedCalls)) session).1 = .ok engine ∧
        ∃ key locale entry, (locale = .ofCountry "en" "US" ∨ locale = .en) ∧
          engine.fetcher.Decides key locale entry := by
  intro config session
  have hlanguage : config.locale.withoutCountry = .en := by decide +kernel
  have hsupplied : Supplied mixedCalls .en := fun before call after hcalls hfor _ =>
    mixedCalls_carries (hcalls ▸ List.mem_append_right _ List.mem_cons_self) hfor
  have hown : Supplied mixedCalls config.locale := fun before call after hcalls hfor _ =>
    absurd hfor (mixedCalls_not_american (hcalls ▸ List.mem_append_right _ List.mem_cons_self))
  obtain ⟨hknown, -, -, hdata, hbuilt⟩ :=
    known_of_history (σ := RandomSource) mixedCalls_ordered
  have hen : (filled mixedCalls).hasLocale .en = true :=
    (hknown .en).mpr ⟨_, List.mem_cons_self, rfl, rfl⟩
  have hbuild : (Engine.build config .default (some (filled mixedCalls)) session).1 =
      .ok ⟨config, .default, filled mixedCalls⟩ :=
    Engine.build_eq_ok_iff.mpr ⟨rfl, .inr (hlanguage ▸ hen), rfl⟩
  obtain ⟨key, locale, entry, hlocale, hdecides, -⟩ :=
    hbuilt _ _ _ _ hbuild hown (hlanguage ▸ hsupplied)
  exact ⟨mixedCalls_ordered, hsupplied, hen, (hdata .en hsupplied).mp hen, _, hbuild, key, locale,
    entry, hlanguage ▸ hlocale, hdecides⟩

/-- A document without members makes its locale known: no key shows anything there, and an engine is
built for it in which every fetch fails. -/
theorem known_without_data :
    let store := filled [.addDocument .en (.object [])]
    let session := Session.start (RandomSource.fixed 0)
    store.hasLocale .en = true ∧ (∀ key, store.lookup .en key = none) ∧
      ∃ engine, (Engine.build .default .default (some store) session).1 = .ok engine ∧
        ∀ key, (engine.fetcher.fetch key session).1 = .error (.keyNotFound key [.en]) := by
  intro store session
  have hordered : ∀ call ∈ [Call.addDocument .en (.object [])], call.Ordered :=
    List.forall_mem_singleton.mpr ⟨.nil, trivial⟩
  have hknown : store.hasLocale .en = true :=
    (hasLocale_filled_iff _ .en).mpr ⟨_, List.mem_cons_self, rfl, rfl⟩
  have hnone : ∀ key, store.lookup .en key = none := by
    intro key
    refine Option.eq_none_iff_forall_ne_some.mpr fun entry hentry => ?_
    obtain ⟨before, call, after, hcalls, ⟨-, document, hdocument, hleaf⟩, -⟩ :=
      (lookup_filled_iff hordered .en key entry).mp hentry
    have hcall : call ∈ [Call.addDocument .en (.object [])] :=
      hcalls ▸ List.mem_append_right _ List.mem_cons_self
    rw [List.mem_singleton.mp hcall] at hdocument
    cases hdocument
    cases hpath : Node.path key with
    | nil => exact Node.path_ne_nil key hpath
    | cons name rest =>
      rw [hpath] at hleaf
      cases hleaf
  refine ⟨hknown, hnone, _, Engine.build_eq_ok_iff.mpr ⟨rfl, .inl hknown, rfl⟩, fun key => ?_⟩
  have hchain : Locale.en.chain = [.en] := by decide +kernel
  have hleaf : (Engine.fetcher ⟨.default, .default, store⟩).leaf? key = none := by
    change List.findSome? (fun locale => store.lookup locale key) Locale.en.chain = none
    rw [hchain, List.findSome?_singleton, hnone]
  rw [Fetcher.fetch_of_none hleaf, ← hchain]
  rfl

end Store

end Pastiche
