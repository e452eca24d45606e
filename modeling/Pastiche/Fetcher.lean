import Pastiche.Session
import Pastiche.Store

/-!
Data by its key. The first locale of the chain that has a leaf at the key decides; of a list one
element is drawn.
-/

namespace Pastiche

structure Fetcher where
  store : Store
  locale : Locale

namespace Fetcher

variable {σ : Type} [Source σ]

def chain (fetcher : Fetcher) : List Locale := fetcher.locale.chain

/-- The leaf at a key in the first of some locales that has one. -/
def lookupIn (store : Store) (key : String) : List Locale → StateM (Session σ) (Option Entry)
  | [] => pure none
  | locale :: rest => do
    let entry := store.lookup locale key
    Run.note (.probed key locale entry.isSome)
    match entry with
    | some entry => pure (some entry)
    | none => lookupIn store key rest

def lookup (fetcher : Fetcher) (key : String) : StateM (Session σ) (Option Entry) :=
  lookupIn fetcher.store key fetcher.chain

/-- The leaf at a key, to be kept. -/
def fetchObject (fetcher : Fetcher) (key : String) : StateM (Session σ) (Option Entry) :=
  fetcher.lookup key

def select : Entry → StateM (Session σ) String
  | .scalar text => pure text
  | .list items => do
    let index ← Run.draw (pick items.length)
    pure (items[index]?.getD "")

def fetch? (fetcher : Fetcher) (key : String) : StateM (Session σ) (Option String) := do
  match ← fetcher.lookup key with
  | some entry => some <$> select entry
  | none => pure none

def notFound (fetcher : Fetcher) (key : String) : Fault := .keyNotFound key fetcher.chain

def fetch (fetcher : Fetcher) (key : String) : Run σ String := do
  match ← Run.lift (fetcher.fetch? key) with
  | some text => pure text
  | none => throw (fetcher.notFound key)

def fetchString (fetcher : Fetcher) (key : String) : Run σ String := fetcher.fetch key

def fetchOr (fetcher : Fetcher) (key default : String) : StateM (Session σ) String := do
  pure ((← fetcher.fetch? key).getD default)

def fetchList (fetcher : Fetcher) (key : String) : Run σ (List String) := do
  match ← Run.lift (fetcher.lookup key) with
  | some (.list items) => pure items
  | some (.scalar text) => pure [text]
  | none => throw (fetcher.notFound key)

end Fetcher

end Pastiche
