import Pastiche.Json.Basic

/-!
The data of one locale: a tree whose leaves are texts and lists of texts. A key is a path in the
tree, its parts joined by dots.
-/

namespace Pastiche

inductive Entry where
  | scalar (text : String)
  | list (items : List String)
deriving DecidableEq, Inhabited

inductive Defect where
  | notAnObject
  | nullValue
  | badElement (index : Nat)
deriving DecidableEq

def Defect.message : Defect → String
  | .notAnObject => "locale data must be an object at the top level"
  | .nullValue => "null value"
  | .badElement index =>
    "list element " ++ index.repr ++ " is not a string, number or boolean"

inductive Node where
  | leaf (entry : Entry)
  | map (children : List (String × Node))

namespace Node

instance : Inhabited Node := ⟨.map []⟩

def path (key : String) : List String := (key.toList.splitOn '.').map String.ofList

def children : Node → List (String × Node)
  | .map children => children
  | .leaf _ => []

def get? : List String → Node → Option Node
  | [], node => some node
  | name :: rest, node => (Dictionary.find? name node.children).bind (get? rest)

/-- What a lookup shows of a node: a text or a list with something in it. -/
def content? : Node → Option Entry
  | .leaf (.scalar text) => some (.scalar text)
  | .leaf (.list items) => if items.isEmpty then none else some (.list items)
  | .map _ => none

/-- Puts a leaf at a path, with maps wherever the path needs them. -/
def set : List String → Entry → Node → Node
  | [], entry, _ => .leaf entry
  | name :: rest, entry, node =>
    let child := (Dictionary.find? name node.children).getD (.map [])
    .map (Dictionary.insert name (set rest entry child) node.children)

mutual

/-- Adds a tree to another one. Maps are added member by member, anything else takes the place of
what was there. -/
def merge (mine : Node) : Node → Node
  | .leaf entry => .leaf entry
  | .map theirs =>
    match mine with
    | .leaf _ => .map theirs
    | .map children => .map (mergeChildren children theirs)

def mergeChildren (mine : List (String × Node)) : List (String × Node) → List (String × Node)
  | [] => mine
  | (name, child) :: rest =>
    let merged := match Dictionary.find? name mine with
      | some existing => merge existing child
      | none => child
    mergeChildren (Dictionary.insert name merged mine) rest

end

def scalarText? : Json → Option String
  | .string text => some text
  | .number value => some (String.ofList value.text)
  | .bool value => some (if value then "true" else "false")
  | _ => none

def joinPath (path name : String) : String := if path = "" then name else path ++ "." ++ name

/-- The texts of an array at a path, from the given index on. -/
def elements (path : String) (index : Nat) : List Json → Except (String × Defect) (List String)
  | [] => .ok []
  | item :: rest =>
    match scalarText? item with
    | none => .error (path, .badElement index)
    | some text => do .ok (text :: (← elements path (index + 1) rest))

mutual

/-- The tree of a document; the first node that has no place in it is reported with its path. -/
def ofJson (path : String) : Json → Except (String × Defect) Node
  | .object members => do .ok (.map (← ofMembers path members))
  | .array items => do .ok (.leaf (.list (← elements path 0 items)))
  | .null => .error (path, .nullValue)
  | .bool value => .ok (.leaf (.scalar (if value then "true" else "false")))
  | .number value => .ok (.leaf (.scalar (String.ofList value.text)))
  | .string text => .ok (.leaf (.scalar text))

def ofMembers (path : String) :
    List (String × Json) → Except (String × Defect) (List (String × Node))
  | [] => .ok []
  | (name, value) :: rest => do
    let child ← ofJson (joinPath path name) value
    .ok ((name, child) :: (← ofMembers path rest))

end

end Node

end Pastiche
