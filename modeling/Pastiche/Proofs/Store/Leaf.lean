import Pastiche.Proofs.Store.Merge
import Pastiche.Store.Filling

/-!
Setting one leaf. The leaf takes its place, everything above and below it on its path is gone, and
nothing else changes. The same comes of adding the document that has this leaf and nothing else.
-/

namespace Pastiche

/-- The value behind these names, one inside the other, in a document with nothing else. -/
def Json.nest (value : Json) : List String → Json
  | [] => value
  | name :: rest => .object [(name, value.nest rest)]

def Entry.toJson : Entry → Json
  | .scalar text => .string text
  | .list items => .strings items

theorem Entry.ordered_toJson (entry : Entry) : entry.toJson.Ordered := by
  cases entry with
  | scalar text => trivial
  | list items =>
    induction items with
    | nil => trivial
    | cons item items ih => exact ⟨trivial, ih⟩

theorem Json.Ordered.nest {value : Json} (h : value.Ordered) (names : List String) :
    (value.nest names).Ordered := by
  induction names with
  | nil => exact h
  | cons name names ih => exact ⟨List.pairwise_singleton _ _, ih, trivial⟩

namespace Node

theorem path_inj {key other : String} (h : path key = path other) : key = other := by
  rw [← intercalate_path key, h, intercalate_path]

section Set

variable (entry : Entry)

theorem get?_set_cons_self (name : String) (rest other : List String) (node : Node) :
    (set (name :: rest) entry node).get? (name :: other) =
      (set rest entry ((Dictionary.find? name node.children).getD (.map []))).get? other := by
  rw [set, get?, children, Dictionary.find?_insert_self, Option.bind_some]

theorem get?_set_cons_of_ne {name first : String} (hne : first ≠ name) (rest other : List String)
    (node : Node) : (set (name :: rest) entry node).get? (first :: other) =
      node.get? (first :: other) := by
  rw [set, get?, children, Dictionary.find?_insert_of_ne hne, get?]

theorem get?_set_append (path rest : List String) (node : Node) :
    (set path entry node).get? (path ++ rest) = (leaf entry).get? rest := by
  induction path generalizing node with
  | nil => rw [set, List.nil_append]
  | cons name path ih => rw [List.cons_append, get?_set_cons_self, ih]

theorem get?_set_front {rest : List String} (hrest : rest ≠ []) (front : List String)
    (node : Node) : ∃ members, (set (front ++ rest) entry node).get? front = some (.map members) := by
  induction front generalizing node with
  | nil =>
    cases rest with
    | nil => exact absurd rfl hrest
    | cons name rest => exact ⟨_, by rw [List.nil_append, set, get?]⟩
  | cons name front ih =>
    rw [List.cons_append, get?_set_cons_self]
    exact ih _

theorem get?_set_beside {path other : List String} (hbehind : ¬ path <+: other)
    (hbefore : ¬ other <+: path) (node : Node) : (set path entry node).get? other = node.get? other := by
  induction path generalizing other node with
  | nil => exact absurd List.nil_prefix hbehind
  | cons name path ih =>
    cases other with
    | nil => exact absurd List.nil_prefix hbefore
    | cons first other =>
      by_cases hname : first = name
      · subst hname
        rw [List.prefix_cons_inj] at hbehind hbefore
        rw [get?_set_cons_self, ih hbehind hbefore, get?]
        cases Dictionary.find? first node.children with
        | some child => rfl
        | none =>
          -- the child that is added is an empty map, and `other` goes on below it
          cases other with
          | nil => exact absurd List.nil_prefix hbefore
          | cons second other => rfl
      · exact get?_set_cons_of_ne entry hname path other node

theorem elements_strings (path : String) (index : Nat) (items : List String) :
    elements path index (items.map .string) = .ok items := by
  induction items generalizing index with
  | nil => rfl
  | cons item items ih =>
    rw [List.map_cons, elements, scalarText?]
    dsimp only
    rw [ih, ok_bind]

theorem ofJson_nest (path : String) (names : List String) :
    ofJson path (entry.toJson.nest names) = .ok (set names entry (.map [])) := by
  induction names generalizing path with
  | nil =>
    cases entry with
    | scalar text => rfl
    | list items =>
      rw [Json.nest, Entry.toJson, Json.strings, ofJson, elements_strings, ok_bind, set]
  | cons name names ih =>
    rw [Json.nest, ofJson, ofMembers, ih, ok_bind, ofMembers, ok_bind, ok_bind]
    rfl

theorem merge_set (path : List String) (node : Node) :
    node.merge (set path entry (.map [])) = set path entry node := by
  induction path generalizing node with
  | nil => rw [set, merge, set]
  | cons name path ih =>
    have htree : set (name :: path) entry (.map []) = .map [(name, set path entry (.map []))] := rfl
    cases node with
    | leaf other => rw [htree, merge, ← htree]; rfl
    | map members =>
      rw [htree, merge, mergeChildren, mergeChildren, set, children]
      cases Dictionary.find? name members with
      | none => rfl
      | some child => dsimp only; rw [ih, Option.getD_some]

end Set

end Node

namespace Store

theorem treeOf_set (store : Store) (locale : Locale) (key : String) (entry : Entry) :
    (store.set locale key entry).treeOf locale =
      (store.treeOf locale).set (Node.path key) entry := by
  rw [treeOf, set, tree?_updateTree_self, Option.getD_some]
  rfl

theorem tree?_set_of_ne {locale other : Locale} (hne : other ≠ locale) (store : Store)
    (key : String) (entry : Entry) : (store.set locale key entry).tree? other = store.tree? other :=
  tree?_updateTree_of_ne hne _ _

/-- After a leaf has been set, a lookup gives it at its key, nothing at a key above or below that
one, and what it gave before at every other key and in every other locale. -/
theorem lookup_after_set (store : Store) (locale : Locale) (key : String) (entry : Entry) :
    (store.set locale key entry).hasLocale locale = true ∧
      (store.set locale key entry).lookup locale key =
        (if entry = .list [] then none else some entry) ∧
      (∀ other, other ≠ key →
        Node.path other <+: Node.path key ∨ Node.path key <+: Node.path other →
        (store.set locale key entry).lookup locale other = none) ∧
      (∀ other, ¬ Node.path other <+: Node.path key → ¬ Node.path key <+: Node.path other →
        (store.set locale key entry).lookup locale other = store.lookup locale other) ∧
      ∀ elsewhere, elsewhere ≠ locale →
        (store.set locale key entry).hasLocale elsewhere = store.hasLocale elsewhere ∧
        ∀ other, (store.set locale key entry).lookup elsewhere other =
          store.lookup elsewhere other := by
  refine ⟨?_, ?_, fun other hother hprefix => ?_, fun other hbefore hbehind => ?_,
    fun elsewhere hne => ⟨?_, fun other => ?_⟩⟩
  · rw [hasLocale, set, tree?_updateTree_self, Option.isSome_some]
  · have hleaf := Node.get?_set_append entry (Node.path key) [] (store.treeOf locale)
    rw [List.append_nil] at hleaf
    rw [lookup_eq, treeOf_set, hleaf]
    cases entry with
    | scalar text => rfl
    | list items => cases items <;> rfl
  · have hpath : Node.path other ≠ Node.path key := fun h => hother (Node.path_inj h)
    rw [lookup_eq, treeOf_set]
    rcases hprefix with ⟨rest, hrest⟩ | ⟨rest, hrest⟩
    · have hmore : rest ≠ [] := fun h => hpath (by rw [← hrest, h, List.append_nil])
      obtain ⟨members, hmembers⟩ :=
        Node.get?_set_front entry hmore (Node.path other) (store.treeOf locale)
      rw [← hrest, hmembers]
      rfl
    · have hmore : rest ≠ [] := fun h => hpath (by rw [← hrest, h, List.append_nil])
      rw [← hrest, Node.get?_set_append, Node.get?_leaf hmore]
      rfl
  · rw [lookup_eq, lookup_eq, treeOf_set, Node.get?_set_beside entry hbehind hbefore]
  · rw [hasLocale, hasLocale, tree?_set_of_ne hne]
  · rw [lookup, lookup, tree?_set_of_ne hne]

/-- A store with two names and a title. -/
def guests : Store :=
  ((empty.set .en "name.first" (.scalar "Ada")).set .en "name.last" (.list ["Hopper"])).set
    (.ofLanguage "de") "name.first" (.scalar "Emmy")

/-- The leaf that stands in the way of a new one below it gives way. -/
theorem lookup_after_set_guests :
    let after := guests.set .en "name.first.short" (.scalar "A")
    guests.lookup .en "name.first" = some (.scalar "Ada") ∧
      after.lookup .en "name.first.short" = some (.scalar "A") ∧
      after.lookup .en "name.first" = none ∧
      after.lookup .en "name.first.short." = none ∧
      after.lookup .en "name.last" = some (.list ["Hopper"]) ∧
      after.lookup (.ofLanguage "de") "name.first" = some (.scalar "Emmy") := by
  intro after
  obtain ⟨-, hself, hcomparable, hbeside, helsewhere⟩ :=
    lookup_after_set guests .en "name.first.short" (.scalar "A")
  have hlast : guests.lookup .en "name.last" = some (.list ["Hopper"]) := by decide +kernel
  have hde : guests.lookup (.ofLanguage "de") "name.first" = some (.scalar "Emmy") := by
    decide +kernel
  refine ⟨by decide +kernel, hself, hcomparable _ (by decide) (.inl (by decide +kernel)),
    hcomparable _ (by decide) (.inr (by decide +kernel)),
    (hbeside _ (by decide +kernel) (by decide +kernel)).trans hlast,
    ((helsewhere _ (by decide +kernel)).2 _).trans hde⟩

theorem insertValue_nest (store : Store) (locale : Locale) (key : String) (entry : Entry) :
    store.insertValue locale (entry.toJson.nest (Node.path key)) =
      .ok (store.set locale key entry) := by
  have htree := Node.ofJson_nest entry "" (Node.path key)
  cases hpath : Node.path key with
  | nil => exact absurd hpath (Node.path_ne_nil key)
  | cons name rest =>
    rw [hpath] at htree
    obtain ⟨members, hmembers, heq⟩ := bind_eq_ok htree
    have hmerge : (fun tree => tree.merge (.map members)) = Node.set (Node.path key) entry := by
      funext tree
      rw [hpath, ← Node.merge_set, Except.ok.inj heq]
    rw [Json.nest, insertValue, hmembers, ok_bind, hmerge, set]

/-- For every key, setting a leaf and adding the document that has this leaf behind the names of the
key and nothing else come to the same store, and so does everything that is done with it later. -/
theorem set_eq_addDocument_nest (store : Store) (locale : Locale) (key : String) (entry : Entry) :
    (∃ names, Node.Spells names key) ∧
      ∀ names, Node.Spells names key →
        (entry.toJson.nest names).Ordered ∧
          store.insertValue locale (entry.toJson.nest names) = .ok (store.set locale key entry) ∧
          ∀ (α : Type) (later : Filling α),
            (addDocument locale (entry.toJson.nest names) >>= fun _ => later) store =
              later (store.set locale key entry) := by
  refine ⟨⟨Node.path key, Node.spells_path key⟩, fun names hnames => ?_⟩
  have hsame := store.insertValue_nest locale key entry
  rw [hnames.path_eq] at hsame
  refine ⟨entry.ordered_toJson.nest names, hsame, fun α later => ?_⟩
  exact Filling.bind_of_ok (addDocument_of_ok hsame)

/-- A name that is set below a text takes the place of the text, as an object in its place does. -/
theorem set_eq_addDocument_nest_guests :
    let document : Json :=
      .object [("name", .object [("first", .object [("short", .array [.string "A", .string "Al"])])])]
    Node.Spells ["name", "first", "short"] "name.first.short" ∧
      guests.lookup .en "name.first" = some (.scalar "Ada") ∧
      guests.insertValue .en document =
        .ok (guests.set .en "name.first.short" (.list ["A", "Al"])) ∧
      (guests.set .en "name.first.short" (.list ["A", "Al"])).lookup .en "name.first" = none := by
  intro document
  have hspells : Node.Spells ["name", "first", "short"] "name.first.short" :=
    ⟨by decide, by decide, by decide⟩
  obtain ⟨-, hsame⟩ :=
    set_eq_addDocument_nest guests .en "name.first.short" (.list ["A", "Al"])
  exact ⟨hspells, by decide +kernel, (hsame _ hspells).2.1, by decide +kernel⟩

end Store

end Pastiche
