import Pastiche.Proofs.Json.Ordered
import Pastiche.Proofs.Store.Path
import Pastiche.Store

/-!
What a key shows after a document has been added. A leaf of the document stands at its path, a map
of the document leaves nothing to be shown there, and where the document has nothing all is as it
was before.
-/

namespace Pastiche

namespace Node

theorem get?_append (front rest : List String) (node : Node) :
    node.get? (front ++ rest) = (node.get? front).bind (get? rest) := by
  induction front generalizing node with
  | nil => rfl
  | cons name front ih =>
    rw [List.cons_append, get?, get?, Option.bind_assoc]
    exact congrArg _ (funext fun child => ih child)

theorem get?_leaf {path : List String} (hne : path ≠ []) (entry : Entry) :
    (leaf entry).get? path = none := by
  cases path with
  | nil => exact absurd rfl hne
  | cons name rest => rfl

mutual

/-- Has no map in the tree two children of one name? -/
def Distinct : Node → Prop
  | .leaf _ => True
  | .map children => (Dictionary.keys children).Nodup ∧ ChildrenDistinct children

def ChildrenDistinct : List (String × Node) → Prop
  | [] => True
  | (_, child) :: rest => child.Distinct ∧ ChildrenDistinct rest

end

theorem ChildrenDistinct.find? {children : List (String × Node)} (h : ChildrenDistinct children)
    {name : String} {child : Node} (hfind : Dictionary.find? name children = some child) :
    child.Distinct := by
  induction children with
  | nil => cases hfind
  | cons entry rest ih =>
    obtain ⟨other, node⟩ := entry
    by_cases hname : name = other
    · rw [Dictionary.find?, if_pos hname] at hfind
      exact Option.some.inj hfind ▸ h.1
    · rw [Dictionary.find?, if_neg hname] at hfind
      exact ih h.2 hfind

mutual

theorem distinct_of_ofJson {path : String} {document : Json} {node : Node}
    (hordered : document.Ordered) (h : ofJson path document = .ok node) : node.Distinct := by
  cases document with
  | null => cases h
  | bool value => cases h; trivial
  | number value => cases h; trivial
  | string text => cases h; trivial
  | array items =>
    obtain ⟨texts, -, heq⟩ := bind_eq_ok h
    cases heq
    trivial
  | object members =>
    obtain ⟨children, hchildren, heq⟩ := bind_eq_ok h
    cases heq
    obtain ⟨hkeys, hdistinct⟩ := children_of_ofMembers hordered.2 hchildren
    exact ⟨hkeys ▸ hordered.1.nodup, hdistinct⟩

theorem children_of_ofMembers {path : String} {members : List (String × Json)}
    {children : List (String × Node)} (hordered : Json.MembersOrdered members)
    (h : ofMembers path members = .ok children) :
    Dictionary.keys children = Dictionary.keys members ∧ ChildrenDistinct children := by
  cases members with
  | nil =>
    cases h
    exact ⟨rfl, trivial⟩
  | cons member rest =>
    obtain ⟨name, value⟩ := member
    obtain ⟨child, hchild, h⟩ := bind_eq_ok h
    obtain ⟨others, hothers, heq⟩ := bind_eq_ok h
    cases heq
    obtain ⟨hkeys, hdistinct⟩ := children_of_ofMembers hordered.2 hothers
    exact ⟨congrArg (name :: ·) hkeys, distinct_of_ofJson hordered.1 hchild, hdistinct⟩

end

/-- A tree added to what was there, if there was anything. -/
def joined (existing? : Option Node) (child : Node) : Node :=
  match existing? with
  | some existing => existing.merge child
  | none => child

theorem joined_leaf (existing? : Option Node) (entry : Entry) :
    joined existing? (.leaf entry) = .leaf entry := by
  cases existing? with
  | none => rfl
  | some existing => rw [joined, merge]

theorem find?_mergeChildren {theirs : List (String × Node)} (h : (Dictionary.keys theirs).Nodup)
    (mine : List (String × Node)) (name : String) :
    Dictionary.find? name (mergeChildren mine theirs) =
      match Dictionary.find? name theirs with
      | some child => some (joined (Dictionary.find? name mine) child)
      | none => Dictionary.find? name mine := by
  induction theirs generalizing mine with
  | nil => simp only [mergeChildren, Dictionary.find?_nil]
  | cons entry rest ih =>
    obtain ⟨other, child⟩ := entry
    obtain ⟨hother, hrest⟩ := List.nodup_cons.mp h
    have hmerged : mergeChildren mine ((other, child) :: rest) =
        mergeChildren (Dictionary.insert other (joined (Dictionary.find? other mine) child) mine)
          rest := by
      rw [mergeChildren]
      rfl
    rw [hmerged, ih hrest, Dictionary.find?]
    by_cases hname : name = other
    · subst hname
      rw [Dictionary.find?_eq_none_iff.mpr hother, if_pos rfl]
      exact Dictionary.find?_insert_self name _ mine
    · rw [if_neg hname, Dictionary.find?_insert_of_ne hname]

theorem get?_joined_cons {theirs : List (String × Node)} (h : (Dictionary.keys theirs).Nodup)
    (existing? : Option Node) (name : String) (rest : List String) :
    (joined existing? (.map theirs)).get? (name :: rest) =
      match Dictionary.find? name theirs with
      | some child =>
        (joined (existing?.bind fun mine => Dictionary.find? name mine.children) child).get? rest
      | none => existing?.bind (get? (name :: rest)) := by
  cases existing? with
  | none =>
    rw [joined, get?]
    cases hfind : Dictionary.find? name theirs with
    | none => simp [children, hfind]
    | some child => simp [children, hfind, joined]
  | some mine =>
    cases mine with
    | leaf entry =>
      -- a map takes the place of a leaf, which has no children
      rw [joined, merge, get?]
      cases hfind : Dictionary.find? name theirs with
      | none => simp [children, hfind, get?]
      | some child => simp [children, hfind, joined]
    | map mine =>
      rw [joined, merge, get?]
      cases hfind : Dictionary.find? name theirs with
      | none => simp [children, find?_mergeChildren h, hfind, get?]
      | some child => simp [children, find?_mergeChildren h, hfind]

section Joined

variable {child : Node} {path : List String}

theorem get?_joined_leaf (hdistinct : child.Distinct) (existing? : Option Node) {entry : Entry}
    (h : child.get? path = some (.leaf entry)) :
    (joined existing? child).get? path = some (.leaf entry) := by
  induction path generalizing existing? child with
  | nil =>
    cases h
    rw [joined_leaf]
    rfl
  | cons name rest ih =>
    cases child with
    | leaf other => cases h
    | map theirs =>
      obtain ⟨found, hfind, hfound⟩ := Option.bind_eq_some_iff.mp h
      rw [get?_joined_cons hdistinct.1, show Dictionary.find? name theirs = some found from hfind]
      exact ih (hdistinct.2.find? hfind) _ hfound

theorem get?_joined_map (hdistinct : child.Distinct) (existing? : Option Node)
    {theirs : List (String × Node)} (h : child.get? path = some (.map theirs)) :
    ∃ members, (joined existing? child).get? path = some (.map members) := by
  induction path generalizing existing? child with
  | nil =>
    cases h
    cases existing? with
    | none => exact ⟨theirs, rfl⟩
    | some mine =>
      rw [joined]
      cases mine with
      | leaf entry => exact ⟨theirs, by rw [merge, get?]⟩
      | map mine => exact ⟨mergeChildren mine theirs, by rw [merge, get?]⟩
  | cons name rest ih =>
    cases child with
    | leaf other => cases h
    | map members =>
      obtain ⟨found, hfind, hfound⟩ := Option.bind_eq_some_iff.mp h
      rw [get?_joined_cons hdistinct.1, show Dictionary.find? name members = some found from hfind]
      exact ih (hdistinct.2.find? hfind) _ hfound

theorem get?_joined_below (hdistinct : child.Distinct) (existing? : Option Node)
    {front rest : List String} {entry : Entry} (h : child.get? front = some (.leaf entry))
    (hrest : rest ≠ []) : (joined existing? child).get? (front ++ rest) = none := by
  rw [get?_append, get?_joined_leaf hdistinct existing? h]
  exact get?_leaf hrest entry

/-- Where the tree that is added ends at a map, on the way to a path, all stays as it was. -/
theorem get?_joined_beside (hdistinct : child.Distinct) (existing? : Option Node)
    (hnone : child.get? path = none)
    (hleaf : ∀ front rest entry, path = front ++ rest → child.get? front ≠ some (.leaf entry)) :
    (joined existing? child).get? path = existing?.bind (get? path) := by
  induction path generalizing existing? child with
  | nil => cases hnone
  | cons name rest ih =>
    cases child with
    | leaf entry => exact absurd rfl (hleaf [] (name :: rest) entry rfl)
    | map theirs =>
      rw [get?_joined_cons hdistinct.1]
      cases hfind : Dictionary.find? name theirs with
      | none => rfl
      | some found =>
        have hstep : ∀ front, (map theirs).get? (name :: front) = found.get? front := by
          intro front
          rw [get?, children, hfind, Option.bind_some]
        rw [hstep] at hnone
        have hbelow := ih (hdistinct.2.find? hfind)
          (existing?.bind fun mine => Dictionary.find? name mine.children) hnone
          fun front more entry hpath =>
            hstep front ▸ hleaf (name :: front) more entry (congrArg (name :: ·) hpath)
        dsimp only
        rw [hbelow, Option.bind_assoc]
        rfl

end Joined

end Node

namespace Store

theorem tree?_updateTree_self (locale : Locale) (change : Node → Node)
    (trees : List (Locale × Node)) :
    tree? ⟨updateTree locale change trees⟩ locale =
      some (change ((tree? ⟨trees⟩ locale).getD (.map []))) := by
  induction trees with
  | nil => simp [tree?, updateTree]
  | cons entry rest ih =>
    obtain ⟨other, tree⟩ := entry
    by_cases hlocale : other = locale
    · simp [tree?, updateTree, hlocale]
    · have hne : (other == locale) = false := by simpa using hlocale
      simpa [tree?, updateTree, hlocale, hne] using ih

theorem tree?_updateTree_of_ne {locale other : Locale} (hne : other ≠ locale)
    (change : Node → Node) (trees : List (Locale × Node)) :
    tree? ⟨updateTree locale change trees⟩ other = tree? ⟨trees⟩ other := by
  induction trees with
  | nil => simp [tree?, updateTree, hne.symm]
  | cons entry rest ih =>
    obtain ⟨first, tree⟩ := entry
    by_cases hlocale : first = locale
    · have hfirst : (first == other) = false := by simp [hlocale, hne.symm]
      simp [tree?, updateTree, hlocale, hne.symm]
    · by_cases hother : first = other
      · simp [tree?, updateTree, hother, hne]
      · have hfirst : (first == other) = false := by simpa using hother
        simpa [tree?, updateTree, hlocale, hfirst] using ih

def treeOf (store : Store) (locale : Locale) : Node := (store.tree? locale).getD (.map [])

theorem lookup_eq (store : Store) (locale : Locale) (key : String) :
    store.lookup locale key = ((store.treeOf locale).get? (Node.path key)).bind Node.content? := by
  rw [lookup, treeOf]
  cases store.tree? locale with
  | some tree => rfl
  | none =>
    cases hpath : Node.path key with
    | nil => exact absurd hpath (Node.path_ne_nil key)
    -- no path is empty, so nothing is found in an empty tree
    | cons name rest => rfl

theorem insertValue_eq_ok {store after : Store} {locale : Locale} {document : Json}
    (h : store.insertValue locale document = .ok after) :
    ∃ theirs, Node.ofJson "" document = .ok (.map theirs) ∧
      after.treeOf locale = Node.joined (some (store.treeOf locale)) (.map theirs) ∧
      ∀ other, other ≠ locale → after.tree? other = store.tree? other := by
  cases document with
  | null => cases h
  | bool value => cases h
  | number value => cases h
  | string text => cases h
  | array items => cases h
  | object members =>
    obtain ⟨theirs, htheirs, heq⟩ := bind_eq_ok h
    cases heq
    refine ⟨theirs, ?_, ?_, fun other hother => tree?_updateTree_of_ne hother _ _⟩
    · rw [Node.ofJson, htheirs]
      rfl
    · rw [treeOf, tree?_updateTree_self]
      rfl

/-- What a lookup gives after a document has been added: the leaf of the document at the key, or
nothing where the document has a map there or a leaf on the way, or else what it gave before. -/
theorem lookup_after_insertValue {store after : Store} {locale : Locale} {document : Json}
    (hordered : document.Ordered) (h : store.insertValue locale document = .ok after) :
    (∀ other key, other ≠ locale → after.lookup other key = store.lookup other key) ∧
      ∃ tree, Node.ofJson "" document = .ok tree ∧ ∀ key,
        (∀ entry, tree.get? (Node.path key) = some (.leaf entry) →
          after.lookup locale key = if entry = .list [] then none else some entry) ∧
        (∀ children, tree.get? (Node.path key) = some (.map children) →
          after.lookup locale key = none) ∧
        (∀ front rest entry, key = front ++ "." ++ rest →
          tree.get? (Node.path front) = some (.leaf entry) → after.lookup locale key = none) ∧
        (tree.get? (Node.path key) = none →
          (∀ front rest entry, key = front ++ "." ++ rest →
            tree.get? (Node.path front) ≠ some (.leaf entry)) →
          after.lookup locale key = store.lookup locale key) := by
  obtain ⟨theirs, htree, hafter, hother⟩ := insertValue_eq_ok h
  have hdistinct := Node.distinct_of_ofJson hordered htree
  refine ⟨fun other key hne => by rw [lookup, lookup, hother other hne], .map theirs, htree, ?_⟩
  intro key
  rw [lookup_eq, lookup_eq, hafter]
  refine ⟨fun entry hleaf => ?_, fun children hmap => ?_, fun front rest entry hkey hleaf => ?_,
    fun hnone hleaf => ?_⟩
  · rw [Node.get?_joined_leaf hdistinct _ hleaf]
    cases entry with
    | scalar text => rfl
    | list items => cases items <;> rfl
  · obtain ⟨members, hmembers⟩ := Node.get?_joined_map hdistinct (some (store.treeOf locale)) hmap
    rw [hmembers]
    rfl
  · rw [hkey, Node.path_append,
      Node.get?_joined_below hdistinct _ hleaf (Node.path_ne_nil rest)]
    rfl
  · rw [Node.get?_joined_beside hdistinct _ hnone]
    · rfl
    · -- a cut of the path comes from a cut of the key, unless one part of it is empty
      intro front rest entry hpath hfront
      by_cases hrest : rest = []
      · rw [hpath, hrest, List.append_nil, hfront] at hnone
        cases hnone
      · cases front with
        | nil => cases hfront
        | cons name more =>
          obtain ⟨first, second, hkey, hfirst, -⟩ :=
            Node.exists_append_of_path (List.cons_ne_nil name more) hrest hpath
          exact hleaf first second entry hkey (hfirst ▸ hfront)

/-- A document with a leaf, an empty list and a map where the data below has a leaf. -/
def titles : Json :=
  .object [("name", .object [("first", .array []), ("last", .array [.string "Hopper"])]),
    ("title", .object [("short", .string "Dr")])]

def salutations : Store :=
  ((empty.set .en "name.first" (.scalar "Ada")).set .en "name.middle" (.scalar "B")).set .en "title"
    (.scalar "Ms")

theorem titles_ordered : titles.Ordered :=
  ⟨by decide, ⟨⟨by decide, trivial, ⟨trivial, trivial⟩, trivial⟩,
    ⟨by decide, trivial, trivial⟩, trivial⟩⟩

theorem lookup_after_insertValue_titles :
    titles.Ordered ∧ ∃ after, salutations.insertValue .en titles = .ok after ∧
      after.lookup .en "name.first" = none ∧
      after.lookup .en "name.last" = some (.list ["Hopper"]) ∧
      after.lookup .en "name.middle" = some (.scalar "B") ∧
      after.lookup .en "title" = none ∧
      after.lookup .en "title.short.form" = none ∧
      ∀ key, after.lookup (.ofLanguage "de") key = salutations.lookup (.ofLanguage "de") key := by
  obtain ⟨after, hafter⟩ : ∃ after, salutations.insertValue .en titles = .ok after := ⟨_, rfl⟩
  obtain ⟨hother, tree, htree, hkey⟩ := lookup_after_insertValue titles_ordered hafter
  cases htree
  have hbefore : salutations.lookup .en "name.middle" = some (.scalar "B") := by decide +kernel
  have hmiddle : after.lookup .en "name.middle" = salutations.lookup .en "name.middle" := by
    refine (hkey "name.middle").2.2.2 rfl fun front rest entry hparts => ?_
    have hpath : ["name", "middle"] = Node.path front ++ Node.path rest := by
      rw [← Node.path_append, ← hparts]
      rfl
    have hname : Node.path front = ["name"] := by
      cases hfront : Node.path front with
      | nil => exact absurd hfront (Node.path_ne_nil front)
      | cons first more =>
        have hrest := Node.path_ne_nil rest
        simp only [hfront, List.cons_append, List.cons.injEq] at hpath
        cases more with
        | nil => rw [← hpath.1]
        | cons second more => simp_all
    rw [hname]
    exact fun hleaf => nomatch hleaf
  have hde : Locale.ofLanguage "de" ≠ .en := by decide +kernel
  exact ⟨titles_ordered, after, hafter, (hkey "name.first").1 _ rfl, (hkey "name.last").1 _ rfl,
    hmiddle.trans hbefore, (hkey "title").2.1 _ rfl,
    (hkey "title.short.form").2.2.1 "title.short" "form" _ rfl rfl, fun key => hother _ key hde⟩

end Store

end Pastiche
