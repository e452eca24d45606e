import Pastiche.Proofs.Store.Merge

/-!
The leaves of a document and the keys that lead to them. A leaf stands in the tree at the names of
the members around it, and a key leads there if and only if no dot is in one of these names.
-/

namespace Pastiche

namespace Json

/-- The value behind the names of members, one inside the other. -/
def member? : List String → Json → Option Json
  | [], value => some value
  | name :: rest, .object members => (Dictionary.find? name members).bind (member? rest)
  | _ :: _, _ => none

/-- The leaf that a value is: a scalar, or a list with something in it. -/
def leaf? : Json → Option Entry
  | .array items => if items.isEmpty then none else (items.mapM Node.scalarText?).map .list
  | value => (Node.scalarText? value).map .scalar

end Json

namespace Node

theorem elements_eq_ok {path : String} {index : Nat} {items : List Json} {texts : List String}
    (h : elements path index items = .ok texts) : items.mapM scalarText? = some texts := by
  induction items generalizing index texts with
  | nil =>
    cases h
    rfl
  | cons item rest ih =>
    unfold elements at h
    cases hitem : scalarText? item with
    | none => simp [hitem] at h
    | some text =>
      rw [hitem] at h
      obtain ⟨more, hmore, heq⟩ := bind_eq_ok h
      cases heq
      rw [List.mapM_cons, hitem, ih hmore]
      rfl

theorem ofJson_leaf {path : String} {value : Json} {node : Node} {entry : Entry}
    (h : ofJson path value = .ok node) (hleaf : value.leaf? = some entry) : node = .leaf entry := by
  cases value with
  | null => cases h
  | object members => cases hleaf
  | bool flag =>
    cases h
    cases hleaf
    rfl
  | number number =>
    cases h
    cases hleaf
    rfl
  | string text =>
    cases h
    cases hleaf
    rfl
  | array items =>
    obtain ⟨texts, htexts, heq⟩ := bind_eq_ok h
    cases heq
    rw [Json.leaf?, elements_eq_ok htexts] at hleaf
    split at hleaf
    · cases hleaf
    · cases hleaf
      rfl

theorem content?_of_leaf? {value : Json} {entry : Entry} (h : value.leaf? = some entry) :
    (leaf entry).content? = some entry := by
  cases value with
  | null => cases h
  | object members => cases h
  | bool flag =>
    cases h
    rfl
  | number number =>
    cases h
    rfl
  | string text =>
    cases h
    rfl
  | array items =>
    cases items with
    | nil => cases h
    | cons item rest =>
      obtain ⟨texts, htexts, heq⟩ := Option.map_eq_some_iff.mp h
      rw [List.mapM_cons] at htexts
      obtain ⟨first, -, hrest⟩ := Option.bind_eq_some_iff.mp htexts
      obtain ⟨more, -, hmore⟩ := Option.bind_eq_some_iff.mp hrest
      cases hmore
      cases heq
      rfl

theorem find?_ofMembers {path name : String} {members : List (String × Json)}
    {children : List (String × Node)} {value : Json} (h : ofMembers path members = .ok children)
    (hfind : Dictionary.find? name members = some value) :
    ∃ place child, ofJson place value = .ok child ∧
      Dictionary.find? name children = some child := by
  induction members generalizing children with
  | nil => cases hfind
  | cons member rest ih =>
    obtain ⟨first, found⟩ := member
    obtain ⟨child, hchild, h⟩ := bind_eq_ok h
    obtain ⟨others, hothers, heq⟩ := bind_eq_ok h
    cases heq
    by_cases hname : name = first
    · rw [Dictionary.find?, if_pos hname] at hfind
      cases hfind
      exact ⟨_, child, hchild, by rw [Dictionary.find?, if_pos hname]⟩
    · rw [Dictionary.find?, if_neg hname] at hfind
      obtain ⟨place, node, hnode, hothers⟩ := ih hothers hfind
      exact ⟨place, node, hnode, by rw [Dictionary.find?, if_neg hname, hothers]⟩

theorem get?_ofJson {path : String} {document value : Json} {tree : Node} {names : List String}
    (h : ofJson path document = .ok tree) (hmember : document.member? names = some value) :
    ∃ place node, ofJson place value = .ok node ∧ tree.get? names = some node := by
  induction names generalizing path document tree with
  | nil =>
    cases hmember
    exact ⟨path, tree, h, rfl⟩
  | cons name rest ih =>
    cases document with
    | null => cases hmember
    | bool flag => cases hmember
    | number number => cases hmember
    | string text => cases hmember
    | array items => cases hmember
    | object members =>
      obtain ⟨children, hchildren, heq⟩ := bind_eq_ok h
      cases heq
      obtain ⟨found, hfind, hrest⟩ := Option.bind_eq_some_iff.mp hmember
      obtain ⟨place, child, hchild, hfound⟩ := find?_ofMembers hchildren hfind
      obtain ⟨below, node, hnode, hget⟩ := ih hchild hrest
      refine ⟨below, node, hnode, ?_⟩
      rw [get?, Node.children, hfound, Option.bind_some, hget]

end Node

namespace Store

/-- A leaf of a document that was added stands at its names. A key leads there if it is these names
with dots between them and none of the names has a dot itself, and otherwise no key does. -/
theorem leaf_after_insertValue {store after : Store} {locale : Locale} {document value : Json}
    {names : List String} {entry : Entry} (hordered : document.Ordered)
    (h : store.insertValue locale document = .ok after)
    (hmember : document.member? names = some value) (hleaf : value.leaf? = some entry) :
    (after.treeOf locale).get? names = some (.leaf entry) ∧
      (∀ key, Node.path key = names ↔
        key = ".".intercalate names ∧ ∀ name ∈ names, '.' ∉ name.toList) ∧
      ((∀ name ∈ names, '.' ∉ name.toList) →
        after.lookup locale (".".intercalate names) = some entry) := by
  obtain ⟨theirs, htree, hafter, -⟩ := insertValue_eq_ok h
  obtain ⟨place, node, hnode, hget⟩ := Node.get?_ofJson htree hmember
  rw [Node.ofJson_leaf hnode hleaf] at hget
  have hne : names ≠ [] := by
    rintro rfl
    cases hget
  have hstands : (after.treeOf locale).get? names = some (.leaf entry) := by
    rw [hafter]
    exact Node.get?_joined_leaf (Node.distinct_of_ofJson hordered htree) _ hget
  refine ⟨hstands, fun key => Node.path_eq_iff hne, fun hdots => ?_⟩
  rw [lookup_eq, Node.path_intercalate hne hdots, hstands]
  exact Node.content?_of_leaf? hleaf

/-- A document with a leaf behind an empty name. -/
def nested : Json := .object [("name", .object [("", .array [.string "Hopper", .bool true])])]

theorem leaf_after_insertValue_nested :
    nested.Ordered ∧ ∃ after, empty.insertValue .en nested = .ok after ∧
      nested.member? ["name", ""] = some (.array [.string "Hopper", .bool true]) ∧
      (Json.array [.string "Hopper", .bool true]).leaf? = some (.list ["Hopper", "true"]) ∧
      after.lookup .en "name." = some (.list ["Hopper", "true"]) := by
  have hordered : nested.Ordered :=
    ⟨by decide, ⟨by decide, ⟨trivial, trivial, trivial⟩, trivial⟩, trivial⟩
  obtain ⟨after, hafter⟩ : ∃ after, empty.insertValue .en nested = .ok after := ⟨_, rfl⟩
  have hmember : nested.member? ["name", ""] = some (.array [.string "Hopper", .bool true]) := rfl
  have hleaf : (Json.array [.string "Hopper", .bool true]).leaf? =
      some (.list ["Hopper", "true"]) := rfl
  have hlookup := (leaf_after_insertValue hordered hafter hmember hleaf).2.2 (by decide)
  exact ⟨hordered, after, hafter, hmember, hleaf, hlookup⟩

def dotted : Json := .object [("a.b", .string "x")]

/-- A leaf under a name with a dot is accepted, and no key leads to it. -/
theorem leaf_behind_dot_not_found :
    dotted.Ordered ∧ dotted.member? ["a.b"] = some (.string "x") ∧
      (Json.string "x").leaf? = some (.scalar "x") ∧
      ∃ after, empty.insertValue .en dotted = .ok after ∧
        after.lookup .en (".".intercalate ["a.b"]) = none ∧
        ∀ key, after.lookup .en key ≠ some (.scalar "x") := by
  have hordered : dotted.Ordered := ⟨by decide, trivial, trivial⟩
  obtain ⟨after, hafter⟩ : ∃ after, empty.insertValue .en dotted = .ok after := ⟨_, rfl⟩
  have hnone : ∀ key, after.lookup .en key = none := by
    intro key
    have htree : after.treeOf .en = .map [("a.b", .leaf (.scalar "x"))] := by
      obtain ⟨theirs, htheirs, htree, -⟩ := insertValue_eq_ok hafter
      cases htheirs
      rw [htree]
      simp [Node.joined, Node.merge, treeOf, tree?, empty, Node.mergeChildren, Dictionary.find?,
        Dictionary.insert]
    rw [lookup_eq, htree]
    cases hpath : Node.path key with
    | nil => exact absurd hpath (Node.path_ne_nil key)
    | cons name rest =>
      have hname : name ≠ "a.b" := by
        rintro rfl
        exact Node.not_mem_of_mem_path (hpath ▸ List.mem_cons_self) (by decide)
      simp [Node.get?, Node.children, Dictionary.find?, hname]
  exact ⟨hordered, rfl, rfl, after, hafter, hnone _, fun key => by simp [hnone key]⟩

end Store

end Pastiche
