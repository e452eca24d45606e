import Pastiche.Proofs.Engine.Run
import Pastiche.Proofs.Locale.Chain
import Pastiche.Proofs.Store.Leaf

/-!
Fetches. All of them use the leaf of the first locale of the chain that has one, only the choice
from a list draws, and nothing depends on the locales outside the chain.
-/

namespace Pastiche

variable {σ : Type}

/-- The session after these events as well, the earliest first. -/
def Session.noting (session : Session σ) (events : List Event) : Session σ :=
  { session with journal := events.reverse ++ session.journal }

theorem Session.noting_append (session : Session σ) (events more : List Event) :
    session.noting (events ++ more) = (session.noting events).noting more := by
  simp only [noting, List.reverse_append, List.append_assoc]

theorem Run.note_eq (event : Event) (session : Session σ) :
    note event session = ((), session.noting [event]) := rfl

namespace Entry

def items : Entry → List String
  | .scalar text => [text]
  | .list items => items

variable [Source σ]

/-- A text of the leaf is chosen: a scalar itself without a draw, and of a list the item at the
index that one draw gives. -/
inductive Selects : Entry → σ → String → σ → Prop where
  | scalar {text : String} {source : σ} : (Entry.scalar text).Selects source text source
  | list {items : List String} {source after : σ} {index : Nat} {text : String}
      (hpick : pick items.length source = (index, after)) (hitem : items[index]? = some text) :
      (Entry.list items).Selects source text after

theorem Selects.mem_items {entry : Entry} {source after : σ} {text : String}
    (h : entry.Selects source text after) : text ∈ entry.items := by
  cases h with
  | scalar => exact List.mem_singleton_self _
  | list hpick hitem => exact List.mem_of_getElem? hitem

theorem exists_selects {entry : Entry} (h : entry ≠ .list []) (source : σ) :
    ∃ text after, entry.Selects source text after := by
  cases entry with
  | scalar text => exact ⟨text, source, .scalar⟩
  | list items =>
    -- whatever the source gives, a draw stays below the number of items, which is not 0
    have hitems : items ≠ [] := fun hnil => h (by rw [hnil])
    have hindex := pick_lt (List.length_pos_iff.mpr hitems) source
    exact ⟨_, _, .list rfl (List.getElem?_eq_getElem hindex)⟩

theorem Selects.select_eq {entry : Entry} {session : Session σ} {text : String} {after : σ}
    (h : entry.Selects session.source text after) :
    Fetcher.select entry session = (text, { session with source := after }) := by
  cases h with
  | scalar => rfl
  | list hpick hitem => simp only [Fetcher.select, bind_state, Run.draw, hpick, hitem]; rfl

end Entry

theorem Node.content?_eq_some_iff {node : Node} {entry : Entry} :
    node.content? = some entry ↔ node = .leaf entry ∧ entry ≠ .list [] := by
  rcases node with (text | _ | ⟨item, items⟩) | children <;>
    simp only [content?, List.isEmpty_nil, List.isEmpty_cons, if_true, if_false,
      Bool.false_eq_true, Option.some.injEq, Node.leaf.injEq, reduceCtorEq, false_and] <;>
    grind

namespace Store

/-- The locale's own tree has this leaf at the key. A list with nothing in it is no leaf. -/
def Holds (store : Store) (locale : Locale) (key : String) (entry : Entry) : Prop :=
  ∃ tree, store.tree? locale = some tree ∧
    tree.get? (Node.path key) = some (.leaf entry) ∧ entry ≠ .list []

variable {store : Store} {locale : Locale} {key : String}

theorem lookup_eq_some_iff {entry : Entry} :
    store.lookup locale key = some entry ↔ store.Holds locale key entry := by
  constructor
  · intro h
    obtain ⟨node, hnode, hcontent⟩ := Option.bind_eq_some_iff.mp h
    obtain ⟨tree, htree, hget⟩ := Option.bind_eq_some_iff.mp hnode
    obtain ⟨rfl, hne⟩ := Node.content?_eq_some_iff.mp hcontent
    exact ⟨tree, htree, hget, hne⟩
  · rintro ⟨tree, htree, hget, hne⟩
    rw [lookup, htree, Option.bind_some, hget, Option.bind_some]
    exact Node.content?_eq_some_iff.mpr ⟨rfl, hne⟩

theorem lookup_eq_none_iff :
    store.lookup locale key = none ↔ ∀ entry, ¬ store.Holds locale key entry := by
  simp only [Option.eq_none_iff_forall_ne_some, ne_eq, lookup_eq_some_iff]

end Store

namespace Fetcher

/-- The looks at a key: in each locale, up to the first that has a leaf there. -/
def probesIn (store : Store) (key : String) : List Locale → List Event
  | [] => []
  | locale :: rest =>
    let isFound := (store.lookup locale key).isSome
    .probed key locale isFound :: if isFound then [] else probesIn store key rest

theorem lookupIn_eq (store : Store) (key : String) (locales : List Locale) (session : Session σ) :
    lookupIn store key locales session =
      (locales.findSome? fun locale => store.lookup locale key,
        session.noting (probesIn store key locales)) := by
  induction locales generalizing session with
  | nil => rfl
  | cons locale rest ih =>
    simp only [lookupIn, bind_state, List.findSome?_cons, probesIn]
    cases store.lookup locale key with
    | some entry => rfl
    | none =>
      refine (ih _).trans ?_
      rw [Option.isSome_none, if_neg Bool.false_ne_true,
        ← List.singleton_append, Session.noting_append]
      rfl

/-- The leaf at a key in the first locale of the chain that has one. -/
def leaf? (fetcher : Fetcher) (key : String) : Option Entry :=
  fetcher.chain.findSome? fun locale => fetcher.store.lookup locale key

def probes (fetcher : Fetcher) (key : String) : List Event :=
  probesIn fetcher.store key fetcher.chain

/-- The session after the looks at a key: its source and its counters are as they were. -/
def looked (fetcher : Fetcher) (key : String) (session : Session σ) : Session σ :=
  session.noting (fetcher.probes key)

/-- The first locale of the chain that has a leaf at the key is this one, and it has this leaf. -/
structure Decides (fetcher : Fetcher) (key : String) (locale : Locale) (entry : Entry) : Prop where
  holds : fetcher.store.Holds locale key entry
  first : ∃ before after, fetcher.chain = before ++ locale :: after ∧
    ∀ other ∈ before, ∀ leaf, ¬ fetcher.store.Holds other key leaf

variable {fetcher : Fetcher} {key : String} {entry : Entry}

theorem leaf?_eq_some_iff :
    fetcher.leaf? key = some entry ↔ ∃ locale, fetcher.Decides key locale entry := by
  simp only [leaf?, List.findSome?_eq_some_iff, Store.lookup_eq_some_iff, Store.lookup_eq_none_iff]
  constructor
  · rintro ⟨before, locale, after, hchain, hholds, hbefore⟩
    exact ⟨locale, hholds, before, after, hchain, hbefore⟩
  · rintro ⟨locale, hholds, before, after, hchain, hbefore⟩
    exact ⟨before, locale, after, hchain, hholds, hbefore⟩

theorem leaf?_eq_none_iff :
    fetcher.leaf? key = none ↔
      ∀ locale ∈ fetcher.chain, ∀ leaf, ¬ fetcher.store.Holds locale key leaf := by
  simp only [leaf?, List.findSome?_eq_none_iff, Store.lookup_eq_none_iff]

theorem lookup_eq (fetcher : Fetcher) (key : String) (session : Session σ) :
    fetcher.lookup key session = (fetcher.leaf? key, fetcher.looked key session) :=
  lookupIn_eq fetcher.store key fetcher.chain session

theorem fetchList_of_none (h : fetcher.leaf? key = none) (session : Session σ) :
    fetcher.fetchList key session =
      (.error (fetcher.notFound key), fetcher.looked key session) := by
  rw [fetchList, Run.lift_bind, lookup_eq, h]
  rfl

theorem fetchList_of_some (h : fetcher.leaf? key = some entry) (session : Session σ) :
    fetcher.fetchList key session = (.ok entry.items, fetcher.looked key session) := by
  rw [fetchList, Run.lift_bind, lookup_eq, h]
  cases entry <;> rfl

variable [Source σ]

section Absent

variable (h : fetcher.leaf? key = none) (session : Session σ)
include h

theorem fetch?_of_none : fetcher.fetch? key session = (none, fetcher.looked key session) := by
  rw [fetch?, bind_of_eq (lookup_eq fetcher key session), h]
  rfl

theorem fetch_of_none :
    fetcher.fetch key session = (.error (fetcher.notFound key), fetcher.looked key session) := by
  rw [fetch, Run.lift_bind, fetch?_of_none h]
  rfl

theorem fetchOr_of_none (default : String) :
    fetcher.fetchOr key default session = (default, fetcher.looked key session) := by
  rw [fetchOr, bind_of_eq (fetch?_of_none h session)]
  rfl

end Absent

section Present

variable (h : fetcher.leaf? key = some entry) (session : Session σ)
include h

theorem fetch?_of_some :
    fetcher.fetch? key session =
      (some (select entry (fetcher.looked key session)).1,
        (select entry (fetcher.looked key session)).2) := by
  rw [fetch?, bind_of_eq (lookup_eq fetcher key session), h]
  rfl

theorem fetch_of_some :
    fetcher.fetch key session =
      (.ok (select entry (fetcher.looked key session)).1,
        (select entry (fetcher.looked key session)).2) := by
  rw [fetch, Run.lift_bind, fetch?_of_some h]
  rfl

theorem fetchOr_of_some (default : String) :
    fetcher.fetchOr key default session = select entry (fetcher.looked key session) := by
  rw [fetchOr, bind_of_eq (fetch?_of_some h session)]
  rfl

end Present

/-- All fetches of the key use this leaf. Those of the whole leaf do not draw; those of one value
give this text and leave the source like this. -/
structure Finds (fetcher : Fetcher) (key : String) (entry : Entry) (text : String)
    (session : Session σ) (source : σ) : Prop where
  lookup : fetcher.lookup key session = (some entry, fetcher.looked key session)
  fetchObject : fetcher.fetchObject key session = (some entry, fetcher.looked key session)
  fetchList : fetcher.fetchList key session = (.ok entry.items, fetcher.looked key session)
  fetch? : fetcher.fetch? key session = (some text, { fetcher.looked key session with source })
  fetch : fetcher.fetch key session = (.ok text, { fetcher.looked key session with source })
  fetchString :
    fetcher.fetchString key session = (.ok text, { fetcher.looked key session with source })
  fetchOr (default : String) :
    fetcher.fetchOr key default session = (text, { fetcher.looked key session with source })

/-- No fetch of the key finds a leaf, and none of them draws. -/
structure Misses (fetcher : Fetcher) (key : String) (session : Session σ) : Prop where
  lookup : fetcher.lookup key session = (none, fetcher.looked key session)
  fetchObject : fetcher.fetchObject key session = (none, fetcher.looked key session)
  fetchList : fetcher.fetchList key session =
    (.error (.keyNotFound key fetcher.chain), fetcher.looked key session)
  fetch? : fetcher.fetch? key session = (none, fetcher.looked key session)
  fetch : fetcher.fetch key session =
    (.error (.keyNotFound key fetcher.chain), fetcher.looked key session)
  fetchString : fetcher.fetchString key session =
    (.error (.keyNotFound key fetcher.chain), fetcher.looked key session)
  fetchOr (default : String) :
    fetcher.fetchOr key default session = (default, fetcher.looked key session)

theorem finds_of_leaf (h : fetcher.leaf? key = some entry) {session : Session σ} {text : String}
    {source : σ} (hselects : entry.Selects session.source text source) :
    fetcher.Finds key entry text session source := by
  have hlookup := lookup_eq fetcher key session
  rw [h] at hlookup
  have hselect : select entry (fetcher.looked key session) =
      (text, { fetcher.looked key session with source }) := Entry.Selects.select_eq hselects
  have hfetch := fetch_of_some h session
  rw [hselect] at hfetch
  exact {
    lookup := hlookup
    fetchObject := hlookup
    fetchList := fetchList_of_some h session
    fetch? := by rw [fetch?_of_some h, hselect]
    fetch := hfetch
    fetchString := hfetch
    fetchOr := fun default => by rw [fetchOr_of_some h, hselect] }

theorem misses_of_none (h : fetcher.leaf? key = none) (session : Session σ) :
    fetcher.Misses key session := by
  have hlookup := lookup_eq fetcher key session
  rw [h] at hlookup
  exact {
    lookup := hlookup
    fetchObject := hlookup
    fetchList := fetchList_of_none h session
    fetch? := fetch?_of_none h session
    fetch := fetch_of_none h session
    fetchString := fetch_of_none h session
    fetchOr := fetchOr_of_none h session }

/-- The fetches of the key do the same in both. -/
structure Alike (σ : Type) [Source σ] (fetcher other : Fetcher) (key : String) : Prop where
  lookup : (fetcher.lookup key : StateM (Session σ) (Option Entry)) = other.lookup key
  fetchObject :
    (fetcher.fetchObject key : StateM (Session σ) (Option Entry)) = other.fetchObject key
  fetchList : (fetcher.fetchList key : Run σ (List String)) = other.fetchList key
  fetch? : (fetcher.fetch? key : StateM (Session σ) (Option String)) = other.fetch? key
  fetch : (fetcher.fetch key : Run σ String) = other.fetch key
  fetchString : (fetcher.fetchString key : Run σ String) = other.fetchString key
  fetchOr (default : String) :
    (fetcher.fetchOr key default : StateM (Session σ) String) = other.fetchOr key default

omit [Source σ] in
theorem lookupIn_congr {store other : Store} {locales : List Locale}
    (h : ∀ locale ∈ locales, store.tree? locale = other.tree? locale) (key : String) :
    (lookupIn store key locales : StateM (Session σ) (Option Entry)) =
      lookupIn other key locales := by
  induction locales with
  | nil => rfl
  | cons locale rest ih =>
    obtain ⟨hlocale, hrest⟩ := List.forall_mem_cons.mp h
    have hlookup : store.lookup locale key = other.lookup locale key := by
      rw [Store.lookup, hlocale, Store.lookup]
    rw [lookupIn, lookupIn, hlookup, ih hrest]

/-- Fetches see the trees of the chain and nothing else of a store. -/
theorem alike_of_trees {changed : Store}
    (h : ∀ locale ∈ fetcher.chain, changed.tree? locale = fetcher.store.tree? locale)
    (key : String) : Alike σ ⟨changed, fetcher.locale⟩ fetcher key := by
  have hlookup : (Fetcher.lookup ⟨changed, fetcher.locale⟩ key : StateM (Session σ) _) =
      fetcher.lookup key := lookupIn_congr h key
  have hfetch? : (Fetcher.fetch? ⟨changed, fetcher.locale⟩ key : StateM (Session σ) _) =
      fetcher.fetch? key := by rw [fetch?, hlookup, fetch?]
  have hfetch : (Fetcher.fetch ⟨changed, fetcher.locale⟩ key : Run σ _) = fetcher.fetch key := by
    rw [fetch, hfetch?, fetch]
    rfl
  exact {
    lookup := hlookup
    fetchObject := hlookup
    fetchList := by rw [fetchList, hlookup, fetchList]; rfl
    fetch? := hfetch?
    fetch := hfetch
    fetchString := hfetch
    fetchOr := fun default => by rw [fetchOr, hfetch?, fetchOr] }

/-- All fetches of a key use one leaf, that of the first locale of the chain that has one. One value
is an item of the whole leaf, drawn from a list and not drawn where there is a scalar or nothing;
where there is nothing, what a fetch says names the key and the chain. What the other locales hold
makes no difference. -/
theorem fetches_by_chain (fetcher : Fetcher) (key : String) :
    (fetcher.chain = [fetcher.locale, fetcher.locale.withoutCountry, .en].eraseDups ∧
      fetcher.chain.Nodup ∧ fetcher.chain.getLast? = some .en) ∧
    ((∃ locale entry, fetcher.Decides key locale entry) ∨
      ∀ locale ∈ fetcher.chain, ∀ leaf, ¬ fetcher.store.Holds locale key leaf) ∧
    (∀ locale entry, fetcher.Decides key locale entry → ∀ session : Session σ,
      ∃ text source, entry.Selects session.source text source ∧ text ∈ entry.items ∧
        fetcher.Finds key entry text session source) ∧
    ((∀ locale ∈ fetcher.chain, ∀ leaf, ¬ fetcher.store.Holds locale key leaf) →
      ∀ session : Session σ, fetcher.Misses key session) ∧
    ∀ changed : Store,
      (∀ locale ∈ fetcher.chain, changed.tree? locale = fetcher.store.tree? locale) →
        Alike σ ⟨changed, fetcher.locale⟩ fetcher key := by
  refine ⟨⟨fetcher.locale.chain_eq_eraseDups, fetcher.locale.chain_nodup,
    fetcher.locale.getLast?_chain⟩, ?_, fun locale entry hdecides session => ?_,
    fun habsent session => ?_, fun changed htrees => alike_of_trees htrees key⟩
  · cases hleaf : fetcher.leaf? key with
    | none => exact .inr (leaf?_eq_none_iff.mp hleaf)
    | some entry =>
      obtain ⟨locale, hdecides⟩ := leaf?_eq_some_iff.mp hleaf
      exact .inl ⟨locale, entry, hdecides⟩
  · obtain ⟨-, -, -, hne⟩ := hdecides.holds
    obtain ⟨text, source, hselects⟩ := Entry.exists_selects hne session.source
    have hleaf := leaf?_eq_some_iff.mpr ⟨locale, hdecides⟩
    exact ⟨text, source, hselects, hselects.mem_items, finds_of_leaf hleaf hselects⟩
  · exact misses_of_none (leaf?_eq_none_iff.mpr habsent) session

/-- A fetcher for Chinese titles that has only English ones: at the key there is an empty list in
one locale and a map in the next. -/
def titleFetcher : Fetcher where
  store := ((Store.empty.set (.ofCountry "zh" "CN") "title" (.list [])).set (.ofLanguage "zh")
    "title.short" (.scalar "Dr")).set .en "title" (.list ["Miss", "Doctor"])
  locale := .ofCountry "zh" "CN"

theorem titleFetcher_decides : titleFetcher.Decides "title" .en (.list ["Miss", "Doctor"]) where
  holds := Store.lookup_eq_some_iff.mp (by decide +kernel)
  first := by
    refine ⟨[.ofCountry "zh" "CN", .ofLanguage "zh"], [], by decide +kernel, ?_⟩
    have hown : titleFetcher.store.lookup (.ofCountry "zh" "CN") "title" = none := by
      decide +kernel
    have hlanguage : titleFetcher.store.lookup (.ofLanguage "zh") "title" = none := by
      decide +kernel
    rw [Store.lookup_eq_none_iff] at hown hlanguage
    exact List.forall_mem_cons.mpr ⟨hown, List.forall_mem_singleton.mpr hlanguage⟩

theorem fetches_by_chain_titleFetcher :
    let session := Session.start (RandomSource.cycle [1] 0)
    let changed := titleFetcher.store.set (.ofLanguage "de") "title" (.list ["Frau"])
    titleFetcher.Decides "title" .en (.list ["Miss", "Doctor"]) ∧
      (∃ text source, titleFetcher.Finds "title" (.list ["Miss", "Doctor"]) text session source) ∧
      (titleFetcher.fetch? "title" session).1 = some "Doctor" ∧
      (titleFetcher.fetch? "title" session).2.source.draws? = some 1 ∧
      titleFetcher.Misses "title.long" session ∧
      Alike RandomSource ⟨changed, titleFetcher.locale⟩ titleFetcher "title" := by
  intro session changed
  obtain ⟨-, -, hfinds, -, halike⟩ := fetches_by_chain (σ := RandomSource) titleFetcher "title"
  obtain ⟨-, -, -, hmisses, -⟩ := fetches_by_chain (σ := RandomSource) titleFetcher "title.long"
  obtain ⟨text, source, -, -, htext⟩ := hfinds _ _ titleFetcher_decides session
  have hgerman : .ofLanguage "de" ∉ titleFetcher.chain := by decide +kernel
  have htrees : ∀ locale ∈ titleFetcher.chain,
      changed.tree? locale = titleFetcher.store.tree? locale := fun locale hlocale =>
    Store.tree?_set_of_ne (ne_of_mem_of_not_mem hlocale hgerman) _ _ _
  have hlong : titleFetcher.leaf? "title.long" = none := by decide +kernel
  exact ⟨titleFetcher_decides, ⟨text, source, htext⟩, by decide +kernel, by decide +kernel,
    hmisses (leaf?_eq_none_iff.mp hlong) session, halike changed htrees⟩

end Fetcher

end Pastiche
