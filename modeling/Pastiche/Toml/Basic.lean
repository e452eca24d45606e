import Pastiche.Dictionary

/-! TOML values, and the tables that the lines of a document build. -/

namespace Pastiche

/-- How a table came to be, which decides how it may grow. -/
inductive Toml.Origin where
  /-- On the way to a header's table. -/
  | implied
  /-- By a dotted key. -/
  | dotted
  /-- By its own header, as an element of an array of tables, or as the document. -/
  | defined
  /-- Between braces. -/
  | closed
deriving DecidableEq

/-- A TOML value. Of some kinds only the kind is kept. -/
inductive Toml where
  | text (value : String)
  | integer (value : Int)
  | float
  | boolean
  | moment
  | array (items : List Toml)
  | table (origin : Toml.Origin) (entries : List (String × Toml))
  /-- An array of tables that headers build, the last one first. -/
  | tables (last : List (String × Toml)) (earlier : List (List (String × Toml)))

namespace Toml

instance : Inhabited Toml := ⟨.boolean⟩

abbrev Entries := List (String × Toml)

/-- Changes the table at a path, and makes the tables on the way that are missing. A dotted key does
not reach into a table that has a header. -/
def within (isDotted : Bool) (change : Origin → Entries → Option Entries) :
    List String → Origin → Entries → Option Entries
  | [], origin, entries => change origin entries
  | name :: rest, _, entries =>
    match Dictionary.find? name entries with
    | none => do
      let origin := if isDotted then Origin.dotted else Origin.implied
      let inner ← within isDotted change rest origin []
      some (Dictionary.insert name (.table origin inner) entries)
    | some (.table origin inner) =>
      if origin = .closed ∨ (isDotted = true ∧ origin = .defined) then none
      else do
        let inner ← within isDotted change rest origin inner
        some (Dictionary.insert name (.table origin inner) entries)
    | some (.tables last earlier) => do
      let last ← within isDotted change rest .defined last
      some (Dictionary.insert name (.tables last earlier) entries)
    | some _ => none

/-- Adds a value under a key that is new. A table that a dotted key made takes no plain key from
elsewhere, and no other table takes a dotted one. -/
def assign (path : List String) (name : String) (value : Toml) (origin : Origin)
    (entries : Entries) : Option Entries :=
  within (!path.isEmpty) add path origin entries
where
  add (origin : Origin) (entries : Entries) : Option Entries :=
    if (origin = .dotted) = (path = []) then none
    else match Dictionary.find? name entries with
      | none => some (Dictionary.insert name value entries)
      | some _ => none

def define (name : String) (_ : Origin) (entries : Entries) : Option Entries :=
  match Dictionary.find? name entries with
  | none => some (Dictionary.insert name (.table .defined []) entries)
  | some (.table .implied inner) => some (Dictionary.insert name (.table .defined inner) entries)
  | some _ => none

def defineElement (name : String) (_ : Origin) (entries : Entries) : Option Entries :=
  match Dictionary.find? name entries with
  | none => some (Dictionary.insert name (.tables [] []) entries)
  | some (.tables last earlier) =>
    some (Dictionary.insert name (.tables [] (last :: earlier)) entries)
  | some _ => none

end Toml

end Pastiche
