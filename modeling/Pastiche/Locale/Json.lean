import Pastiche.Fault
import Pastiche.Json.Reader
import Pastiche.Json.Writer

/-! Locales as JSON: a string with the tag. -/

namespace Pastiche.Locale

def readJson (cs : List Char) : Except Json.Flaw (Locale × List Char) := do
  let (tag, rest) ← Json.Reader.text cs
  match ofTag? tag with
  | some locale => .ok (locale, rest)
  | none => .error .mistyped

def ofJson (document : String) : Except Fault Locale :=
  match Json.Reader.finish (readJson document.toList) with
  | .ok locale => .ok locale
  | .error flaw => .error (.json flaw)

def toJson (l : Locale) : Json := .string l.tag

end Pastiche.Locale
