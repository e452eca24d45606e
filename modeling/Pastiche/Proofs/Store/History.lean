import Mathlib.Data.List.Induction
import Pastiche.Proofs.Store.Leaf
import Pastiche.Proofs.Store.Reach

/-!
The history of a store. A locale counts as known once a call for it has been accepted, whatever the
call brought; a key shows what the last call that has something on its way put there. So a known
locale need not have data: it has if the last call that was accepted for it brought some.
-/

namespace Pastiche

namespace Json

/-- Has the document something at these names, or a value without members on the way to them? -/
def Covers : List String → Json → Prop
  | [], _ => True
  | name :: rest, .object members =>
    match Dictionary.find? name members with
    | some value => value.Covers rest
    | none => False
  | _ :: _, _ => True

theorem covers_of_member? {names : List String} {document value : Json}
    (h : document.member? names = some value) : document.Covers names := by
  induction names generalizing document with
  | nil => trivial
  | cons name rest ih =>
    cases document with
    | object members =>
      obtain ⟨found, hfind, hrest⟩ := Option.bind_eq_some_iff.mp h
      rw [Covers, hfind]
      exact ih hrest
    | null => trivial
    | bool flag => trivial
    | number number => trivial
    | string text => trivial
    | array items => trivial

end Json

namespace Node

/-- Has the tree something at these names, or a leaf on the way to them? -/
def Covers : List String → Node → Prop
  | [], _ => True
  | name :: rest, .map children =>
    match Dictionary.find? name children with
    | some child => child.Covers rest
    | none => False
  | _ :: _, .leaf _ => True

def shown? (names : List String) (node : Node) : Option Entry := (node.get? names).bind content?

/-- A tree that is added decides about all that it covers, and about nothing else. -/
theorem shown?_joined {child : Node} (hdistinct : child.Distinct) (existing? : Option Node)
    (names : List String) :
    (child.Covers names → (joined existing? child).shown? names = child.shown? names) ∧
      (¬ child.Covers names →
        (joined existing? child).shown? names = existing?.bind (shown? names)) := by
  induction names generalizing existing? child with
  | nil =>
    refine ⟨fun _ => ?_, fun hnot => absurd trivial hnot⟩
    cases child with
    | leaf entry => rw [joined_leaf]
    | map theirs =>
      have hroot : (map theirs).get? [] = some (map theirs) := rfl
      obtain ⟨members, hmembers⟩ := get?_joined_map hdistinct existing? hroot
      rw [shown?, hmembers, shown?]
      rfl
  | cons name rest ih =>
    cases child with
    | leaf entry =>
      refine ⟨fun _ => by rw [joined_leaf], fun hnot => absurd trivial hnot⟩
    | map theirs =>
      have hstep := get?_joined_cons hdistinct.1 existing? name rest
      rw [Covers, shown?, hstep]
      cases hfind : Dictionary.find? name theirs with
      | none =>
        refine ⟨False.elim, fun _ => ?_⟩
        dsimp only
        rw [Option.bind_assoc]
        rfl
      | some found =>
        have hbelow := ih (hdistinct.2.find? hfind)
          (existing?.bind fun mine => Dictionary.find? name mine.children)
        have hget : (map theirs).shown? (name :: rest) = found.shown? rest := by
          rw [shown?, get?, children, hfind, Option.bind_some, shown?]
        dsimp only
        rw [hget]
        refine ⟨hbelow.1, fun hnot => (hbelow.2 hnot).trans ?_⟩
        rw [Option.bind_assoc]
        cases existing? with
        | none => rfl
        | some mine => simp only [Option.bind_some, shown?, get?, Option.bind_assoc]; rfl

theorem find?_ofMembers_none {path name : String} {members : List (String × Json)}
    {children : List (String × Node)} (h : ofMembers path members = .ok children)
    (hfind : Dictionary.find? name members = none) : Dictionary.find? name children = none := by
  induction members generalizing children with
  | nil =>
    cases h
    rfl
  | cons member rest ih =>
    obtain ⟨first, value⟩ := member
    obtain ⟨child, -, h⟩ := bind_eq_ok h
    obtain ⟨others, hothers, heq⟩ := bind_eq_ok h
    cases heq
    by_cases hname : name = first
    · rw [Dictionary.find?, if_pos hname] at hfind
      cases hfind
    · rw [Dictionary.find?, if_neg hname] at hfind ⊢
      exact ih hothers hfind

theorem content?_ofJson {path : String} {value : Json} {node : Node}
    (h : ofJson path value = .ok node) : node.content? = value.leaf? := by
  cases hleaf : value.leaf? with
  | some entry => rw [ofJson_leaf h hleaf, content?_of_leaf? hleaf]
  | none =>
    cases value with
    | null => cases h
    | bool flag => cases hleaf
    | number number => cases hleaf
    | string text => cases hleaf
    | object members =>
      obtain ⟨children, -, heq⟩ := bind_eq_ok h
      cases heq
      rfl
    | array items =>
      obtain ⟨texts, htexts, heq⟩ := bind_eq_ok h
      cases heq
      cases items with
      | nil =>
        cases htexts
        rfl
      | cons item items =>
        rw [Json.leaf?, elements_eq_ok htexts] at hleaf
        cases hleaf

theorem covers_ofJson {path : String} {document : Json} {tree : Node} {names : List String}
    (h : ofJson path document = .ok tree) : tree.Covers names ↔ document.Covers names := by
  induction names generalizing path document tree with
  | nil => exact iff_of_true trivial trivial
  | cons name rest ih =>
    cases document with
    | null => cases h
    | bool flag => cases h; exact Iff.rfl
    | number number => cases h; exact Iff.rfl
    | string text => cases h; exact Iff.rfl
    | array items =>
      obtain ⟨texts, -, heq⟩ := bind_eq_ok h
      cases heq
      exact Iff.rfl
    | object members =>
      obtain ⟨children, hchildren, heq⟩ := bind_eq_ok h
      cases heq
      rw [Covers, Json.Covers]
      cases hfind : Dictionary.find? name members with
      | none => rw [find?_ofMembers_none hchildren hfind]
      | some value =>
        obtain ⟨place, child, hchild, hfound⟩ := find?_ofMembers hchildren hfind
        rw [hfound]
        exact ih hchild

theorem shown?_ofJson {path : String} {document : Json} {tree : Node} {names : List String}
    (h : ofJson path document = .ok tree) :
    tree.shown? names = (document.member? names).bind Json.leaf? := by
  induction names generalizing path document tree with
  | nil => rw [Json.member?, Option.bind_some, ← content?_ofJson h, shown?, get?, Option.bind_some]
  | cons name rest ih =>
    cases document with
    | null => cases h
    | bool flag => cases h; rfl
    | number number => cases h; rfl
    | string text => cases h; rfl
    | array items =>
      obtain ⟨texts, -, heq⟩ := bind_eq_ok h
      cases heq
      rfl
    | object members =>
      obtain ⟨children, hchildren, heq⟩ := bind_eq_ok h
      cases heq
      rw [shown?, get?, Node.children, Json.member?]
      cases hfind : Dictionary.find? name members with
      | none =>
        rw [find?_ofMembers_none hchildren hfind]
        rfl
      | some value =>
        obtain ⟨place, child, hchild, hfound⟩ := find?_ofMembers hchildren hfind
        rw [hfound, Option.bind_some, Option.bind_some]
        exact ih hchild

end Node

namespace Store

inductive Call where
  | set (locale : Locale) (key : String) (entry : Entry)
  | addDocument (locale : Locale) (document : Json)
  | addText (locale : Locale) (text : String)

namespace Call

def locale : Call → Locale
  | .set locale _ _ => locale
  | .addDocument locale _ => locale
  | .addText locale _ => locale

def run : Call → Filling Unit
  | .set locale key entry => modify fun store => store.set locale key entry
  | .addDocument locale document => Store.addDocument locale document
  | .addText locale text => Store.addText locale text

/-- The document that a call adds: for a leaf that is set, the one that has this leaf and nothing
else. -/
def document? : Call → Option Json
  | .set _ key entry => some (entry.toJson.nest (Node.path key))
  | .addDocument _ document => some document
  | .addText _ text => (Json.read text).toOption

/-- The members of a document that is handed over are in order, as in one that is read. -/
def Ordered : Call → Prop
  | .addDocument _ document => document.Ordered
  | _ => True

/-- Is there nothing wrong with what the call adds? -/
def Accepted (call : Call) : Prop := (call.run empty).1 = .ok ()

structure IsFor (call : Call) (locale : Locale) : Prop where
  locale_eq : call.locale = locale
  accepted : call.Accepted

/-- The leaf that a call has for a key. -/
def Shows (call : Call) (key : String) (entry : Entry) : Prop :=
  ∃ document, call.document? = some document ∧
    (document.member? (Node.path key)).bind Json.leaf? = some entry

/-- Has a call something at a key or on the way to it? -/
def Covers (call : Call) (key : String) : Prop :=
  ∃ document, call.document? = some document ∧ document.Covers (Node.path key)

/-- There is a text, or a list with something in it, in what the call adds, and it stands behind
names without dots. -/
def Carries (call : Call) : Prop :=
  ∃ document names value, call.document? = some document ∧ document.member? names = some value ∧
    value.leaf? ≠ none ∧ ∀ name ∈ names, '.' ∉ name.toList

variable {call : Call} {document : Json}

theorem ordered_document (hordered : call.Ordered) (h : call.document? = some document) :
    document.Ordered := by
  cases call with
  | set locale key entry =>
    cases h
    exact entry.ordered_toJson.nest (Node.path key)
  | addDocument locale given =>
    cases h
    exact hordered
  | addText locale text => exact Json.ordered_of_read (eq_ok_of_toOption h)

theorem run_of_document (h : call.document? = some document) (store : Store) :
    call.run store = Store.addDocument call.locale document store := by
  cases call with
  | set locale key entry =>
    cases h
    exact (addDocument_of_ok (insertValue_nest store locale key entry)).symm
  | addDocument locale given =>
    cases h
    rfl
  | addText locale text =>
    have hread : Json.read text = .ok document := eq_ok_of_toOption h
    rw [run, Store.addText, hread]
    rfl

theorem run_of_no_document (h : call.document? = none) (store : Store) :
    ∃ fault, call.run store = (.error fault, store) := by
  cases call with
  | set locale key entry => cases h
  | addDocument locale given => cases h
  | addText locale text =>
    rw [document?] at h
    rw [run, Store.addText]
    cases hread : Json.read text with
    | ok document =>
      rw [hread] at h
      cases h
    | error flaw => exact ⟨.json flaw, rfl⟩

theorem insertValue_of_tree {theirs : List (String × Node)}
    (h : Node.ofJson "" document = .ok (.map theirs)) (store : Store) (locale : Locale) :
    store.insertValue locale document =
      .ok ⟨updateTree locale (fun tree => tree.merge (.map theirs)) store.trees⟩ := by
  cases document with
  | null => cases h
  | bool flag => cases h
  | number number => cases h
  | string text => cases h
  | array items =>
    obtain ⟨texts, -, heq⟩ := bind_eq_ok h
    cases heq
  | object members =>
    obtain ⟨children, hchildren, heq⟩ := bind_eq_ok h
    cases heq
    rw [insertValue, hchildren, ok_bind]

/-- An accepted call adds the tree of its document, whatever the store is. -/
theorem run_of_accepted (h : call.Accepted) : ∃ document theirs, call.document? = some document ∧
    Node.ofJson "" document = .ok (.map theirs) ∧ ∀ store, call.run store =
      (.ok (), ⟨updateTree call.locale (fun tree => tree.merge (.map theirs)) store.trees⟩) := by
  rw [Accepted] at h
  cases hdocument : call.document? with
  | none =>
    obtain ⟨fault, hfault⟩ := run_of_no_document hdocument empty
    rw [hfault] at h
    cases h
  | some document =>
    rw [run_of_document hdocument] at h
    cases hinsert : empty.insertValue call.locale document with
    | error report =>
      rw [addDocument_of_error hinsert] at h
      cases h
    | ok after =>
      obtain ⟨theirs, htree, -⟩ := insertValue_eq_ok hinsert
      refine ⟨document, theirs, rfl, htree, fun store => ?_⟩
      rw [run_of_document hdocument]
      exact addDocument_of_ok (insertValue_of_tree htree store call.locale)

theorem run_of_not_accepted (h : ¬ call.Accepted) (store : Store) : (call.run store).2 = store := by
  cases hdocument : call.document? with
  | none =>
    obtain ⟨fault, hfault⟩ := run_of_no_document hdocument store
    rw [hfault]
  | some document =>
    rw [run_of_document hdocument]
    cases hinsert : store.insertValue call.locale document with
    | error report => rw [addDocument_of_error hinsert]
    | ok after =>
      obtain ⟨theirs, htree, -⟩ := insertValue_eq_ok hinsert
      have hempty := addDocument_of_ok (insertValue_of_tree htree empty call.locale)
      exact absurd (by rw [Accepted, run_of_document hdocument, hempty]) h

variable {locale : Locale}

theorem hasLocale_step (call : Call) (locale : Locale) (store : Store) :
    (call.run store).2.hasLocale locale = true ↔
      store.hasLocale locale = true ∨ call.IsFor locale := by
  by_cases haccepted : call.Accepted
  · obtain ⟨document, theirs, -, -, hrun⟩ := run_of_accepted haccepted
    rw [hrun, hasLocale, hasLocale]
    by_cases hlocale : call.locale = locale
    · subst hlocale
      rw [tree?_updateTree_self]
      exact iff_of_true rfl (.inr ⟨rfl, haccepted⟩)
    · rw [tree?_updateTree_of_ne (Ne.symm hlocale)]
      exact (or_iff_left fun h => hlocale h.locale_eq).symm
  · rw [run_of_not_accepted haccepted]
    exact (or_iff_left fun h => haccepted h.accepted).symm

theorem lookup_of_covers (hordered : call.Ordered) (hfor : call.IsFor locale) {key : String}
    (hcovers : call.Covers key) (store : Store) (entry : Entry) :
    (call.run store).2.lookup locale key = some entry ↔ call.Shows key entry := by
  obtain ⟨rfl, haccepted⟩ := hfor
  obtain ⟨document, theirs, hdocument, htree, hrun⟩ := run_of_accepted haccepted
  have hdistinct := Node.distinct_of_ofJson (ordered_document hordered hdocument) htree
  obtain ⟨other, hother, hcovered⟩ := hcovers
  obtain rfl : document = other := Option.some.inj (hdocument.symm.trans hother)
  have hshown := (Node.shown?_joined hdistinct (some (store.treeOf call.locale)) (Node.path key)).1
    ((Node.covers_ofJson htree).mpr hcovered)
  rw [hrun, lookup_eq, treeOf, tree?_updateTree_self, Option.getD_some]
  refine (Eq.congr_left (hshown.trans (Node.shown?_ofJson htree))).trans ⟨fun h => ?_, ?_⟩
  · exact ⟨document, hdocument, h⟩
  · rintro ⟨_, hsame, h⟩
    cases hdocument.symm.trans hsame
    exact h

theorem lookup_of_not_covers (hordered : call.Ordered) {key : String}
    (h : call.IsFor locale → ¬ call.Covers key) (store : Store) :
    (call.run store).2.lookup locale key = store.lookup locale key := by
  by_cases haccepted : call.Accepted
  · obtain ⟨document, theirs, hdocument, htree, hrun⟩ := run_of_accepted haccepted
    have hdistinct := Node.distinct_of_ofJson (ordered_document hordered hdocument) htree
    rw [hrun, lookup_eq, lookup_eq, treeOf, treeOf]
    by_cases hlocale : call.locale = locale
    · subst hlocale
      have hnot : ¬ (Node.map theirs).Covers (Node.path key) := fun hcovers =>
        h ⟨rfl, haccepted⟩ ⟨document, hdocument, (Node.covers_ofJson htree).mp hcovers⟩
      rw [tree?_updateTree_self, Option.getD_some]
      exact (Node.shown?_joined hdistinct (some (store.treeOf call.locale)) (Node.path key)).2 hnot
    · rw [tree?_updateTree_of_ne (Ne.symm hlocale)]
  · rw [run_of_not_accepted haccepted]

theorem covers_of_shows {key : String} {entry : Entry} (h : call.Shows key entry) :
    call.Covers key := by
  obtain ⟨document, hdocument, hleaf⟩ := h
  obtain ⟨value, hvalue, -⟩ := Option.bind_eq_some_iff.mp hleaf
  exact ⟨document, hdocument, Json.covers_of_member? hvalue⟩

theorem exists_shows (haccepted : call.Accepted) (h : call.Carries) :
    ∃ key entry, call.Shows key entry := by
  obtain ⟨document, names, value, hdocument, hvalue, hleaf, hdots⟩ := h
  obtain ⟨entry, hentry⟩ := Option.ne_none_iff_exists'.mp hleaf
  obtain ⟨other, theirs, hother, htree, -⟩ := run_of_accepted haccepted
  obtain rfl : document = other := Option.some.inj (hdocument.symm.trans hother)
  have hne : names ≠ [] := by
    rintro rfl
    obtain rfl : document = value := Option.some.inj hvalue
    cases Node.ofJson_leaf htree hentry
  refine ⟨".".intercalate names, entry, document, hdocument, ?_⟩
  rw [Node.path_intercalate hne hdots, hvalue, Option.bind_some, hentry]

end Call

/-- The store that calls make of an empty one, one after the other. -/
def filled (calls : List Call) : Store :=
  calls.foldl (fun store call => (call.run store).2) empty

theorem filled_concat (calls : List Call) (call : Call) :
    filled (calls ++ [call]) = (call.run (filled calls)).2 := by
  rw [filled, List.foldl_append, List.foldl_cons, List.foldl_nil, filled]

/-- One of the calls is of the first kind, and none behind it is of the second. -/
def Last (P Q : Call → Prop) (calls : List Call) : Prop :=
  ∃ before call after, calls = before ++ call :: after ∧ P call ∧ ∀ later ∈ after, ¬ Q later

section Last

variable {P Q : Call → Prop} {calls : List Call} {call : Call}

theorem last_concat_iff : Last P Q (calls ++ [call]) ↔ P call ∨ ¬ Q call ∧ Last P Q calls := by
  constructor
  · rintro ⟨before, first, after, hcalls, hfirst, hafter⟩
    induction after using List.reverseRecOn with
    | nil =>
      obtain ⟨-, hlast⟩ := List.append_inj' hcalls rfl
      obtain rfl : call = first := List.singleton_inj.mp hlast
      exact .inl hfirst
    | append_singleton more last =>
      rw [← List.cons_append, ← List.append_assoc] at hcalls
      obtain ⟨hfront, hlast⟩ := List.append_inj' hcalls rfl
      obtain rfl : call = last := List.singleton_inj.mp hlast
      exact .inr ⟨hafter call (by simp),
        before, first, more, hfront, hfirst, fun later hlater => hafter later (by simp [hlater])⟩
  · rintro (hcall | ⟨hnot, before, first, after, rfl, hfirst, hafter⟩)
    · exact ⟨calls, call, [], rfl, hcall, nofun⟩
    · refine ⟨before, first, after ++ [call], by simp, hfirst, fun later hlater => ?_⟩
      rcases List.mem_append.mp hlater with hmem | hmem
      · exact hafter later hmem
      · rwa [List.mem_singleton.mp hmem]

theorem exists_last (h : ∃ call ∈ calls, P call) : Last P P calls := by
  induction calls using List.reverseRecOn with
  | nil =>
    obtain ⟨call, hcall, -⟩ := h
    cases hcall
  | append_singleton calls last ih =>
    rw [last_concat_iff]
    by_cases hlast : P last
    · exact .inl hlast
    · obtain ⟨call, hcall, hP⟩ := h
      rcases List.mem_append.mp hcall with hmem | hmem
      · exact .inr ⟨hlast, ih ⟨call, hmem, hP⟩⟩
      · rw [List.mem_singleton.mp hmem] at hP
        exact absurd hP hlast

end Last

theorem hasLocale_filled_iff (calls : List Call) (locale : Locale) :
    (filled calls).hasLocale locale = true ↔ ∃ call ∈ calls, call.IsFor locale := by
  induction calls using List.reverseRecOn with
  | nil => simp [filled, empty, hasLocale, tree?]
  | append_singleton calls call ih =>
    rw [filled_concat, call.hasLocale_step, ih]
    simp [or_and_right, exists_or]

/-- A key shows what the last call that covers it has for it. -/
theorem lookup_filled_iff {calls : List Call} (hordered : ∀ call ∈ calls, call.Ordered)
    (locale : Locale) (key : String) (entry : Entry) :
    (filled calls).lookup locale key = some entry ↔
      Last (fun call => call.IsFor locale ∧ call.Shows key entry)
        (fun call => call.IsFor locale ∧ call.Covers key) calls := by
  induction calls using List.reverseRecOn with
  | nil =>
    refine iff_of_false nofun ?_
    rintro ⟨before, call, after, hcalls, -⟩
    simp at hcalls
  | append_singleton calls call ih =>
    have hcall : call.Ordered := hordered call (by simp)
    have hcalls := ih fun other hother => hordered other (by simp [hother])
    rw [filled_concat, last_concat_iff]
    by_cases hcovers : call.IsFor locale ∧ call.Covers key
    · obtain ⟨hfor, hkey⟩ := hcovers
      rw [Call.lookup_of_covers hcall hfor hkey]
      exact ⟨fun hshows => .inl ⟨hfor, hshows⟩,
        fun h => h.elim And.right fun hnot => absurd ⟨hfor, hkey⟩ hnot.1⟩
    · rw [Call.lookup_of_not_covers hcall fun hfor hkey => hcovers ⟨hfor, hkey⟩, hcalls]
      refine ⟨fun hlast => .inr ⟨hcovers, hlast⟩, fun h => h.elim (fun hshows => ?_) And.right⟩
      exact absurd ⟨hshows.1, Call.covers_of_shows hshows.2⟩ hcovers

/-- The last of the calls that were accepted for the locale carries data. -/
def Supplied (calls : List Call) (locale : Locale) : Prop :=
  ∀ before call after, calls = before ++ call :: after → call.IsFor locale →
    (∀ later ∈ after, ¬ later.IsFor locale) → call.Carries

theorem exists_lookup_of_supplied {calls : List Call} {locale : Locale}
    (hordered : ∀ call ∈ calls, call.Ordered) (hsupplied : Supplied calls locale)
    (h : (filled calls).hasLocale locale = true) :
    ∃ key entry, (filled calls).lookup locale key = some entry := by
  obtain ⟨before, call, after, hcalls, hfor, hafter⟩ :=
    exists_last ((hasLocale_filled_iff calls locale).mp h)
  obtain ⟨key, entry, hshows⟩ :=
    Call.exists_shows hfor.accepted (hsupplied before call after hcalls hfor hafter)
  refine ⟨key, entry, (lookup_filled_iff hordered locale key entry).mpr ?_⟩
  exact ⟨before, call, after, hcalls, ⟨hfor, hshows⟩, fun later hlater h => hafter later hlater h.1⟩

theorem hasLocale_of_lookup {store : Store} {locale : Locale} {key : String} {entry : Entry}
    (h : store.lookup locale key = some entry) : store.hasLocale locale = true := by
  rw [lookup] at h
  obtain ⟨node, hnode, -⟩ := Option.bind_eq_some_iff.mp h
  obtain ⟨tree, htree, -⟩ := Option.bind_eq_some_iff.mp hnode
  rw [hasLocale, htree, Option.isSome_some]

end Store

end Pastiche
