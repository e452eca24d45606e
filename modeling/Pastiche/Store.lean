import Pastiche.Locale
import Pastiche.Store.Node

/-! Locale data: a tree for each locale. -/

namespace Pastiche

/-- The trees in the order in which their locales came. -/
structure Store where
  trees : List (Locale × Node)
deriving Inhabited

namespace Store

def empty : Store := ⟨[]⟩

def tree? (store : Store) (locale : Locale) : Option Node :=
  (store.trees.find? fun tree => tree.1 == locale).map Prod.snd

/-- The leaf at a key in exactly this locale. -/
def lookup (store : Store) (locale : Locale) (key : String) : Option Entry :=
  ((store.tree? locale).bind (Node.get? (Node.path key))).bind Node.content?

def hasLocale (store : Store) (locale : Locale) : Bool := (store.tree? locale).isSome

def locales (store : Store) : List Locale := store.trees.map Prod.fst

/-- Changes the tree of a locale; one that has none starts with an empty map. -/
def updateTree (locale : Locale) (change : Node → Node) :
    List (Locale × Node) → List (Locale × Node)
  | [] => [(locale, change (.map []))]
  | (l, tree) :: rest =>
    if l = locale then (l, change tree) :: rest else (l, tree) :: updateTree locale change rest

def set (store : Store) (locale : Locale) (key : String) (entry : Entry) : Store :=
  ⟨updateTree locale (Node.set (Node.path key) entry) store.trees⟩

/-- Adds a document to the data of a locale. What is wrong with it comes with its place, and then
nothing is added. -/
def insertValue (store : Store) (locale : Locale) (document : Json) :
    Except (String × Defect) Store :=
  match document with
  | .object members => do
    let children ← Node.ofMembers "" members
    .ok ⟨updateTree locale (fun tree => tree.merge (.map children)) store.trees⟩
  | _ => .error (locale.tag, .notAnObject)

end Store

end Pastiche
