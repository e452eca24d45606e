import Pastiche.Config.Json
import Pastiche.Toml.Reader

/-! Settings as TOML: the keys of the document that name settings. -/

namespace Pastiche.Config

/-- The value of a key, if it is given; `none` where it is not of its kind. -/
def entry {α : Type} (name : String) (read : Toml → Option α) (entries : Toml.Entries) :
    Option (Option α) :=
  match Dictionary.find? name entries with
  | none => some none
  | some value => (read value).map some

def tomlLocale : Toml → Option Locale
  | .text tag => Locale.ofTag? tag
  | _ => none

def tomlNatural (limit : Nat) : Toml → Option Nat
  | .integer value => if 0 ≤ value ∧ value ≤ limit then some value.toNat else none
  | _ => none

def Draft.ofEntries (entries : Toml.Entries) : Option Draft := do
  some
    { locale := ← entry "locale" tomlLocale entries
      maxDepth := ← entry "max_depth" (tomlNatural (Word.largest 64)) entries
      maxRepeat := ← entry "max_repeat" (tomlNatural (Word.largest 32)) entries
      seed := (← entry "seed" (tomlNatural (Word.largest 64)) entries).map some }

def ofToml (document : String) : Except Fault Config :=
  match (Toml.read? document).bind Draft.ofEntries with
  | some draft => checked draft.complete
  | none => .error .toml

end Pastiche.Config
