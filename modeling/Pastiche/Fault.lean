import Pastiche.Config.Basic
import Pastiche.Json.Scan
import Pastiche.Store.Node
import Pastiche.Text.Quoted

/-! What can go wrong, and how it is put to the user. -/

namespace Pastiche

inductive Fault where
  | invalidLocale (tag : String)
  | unsupportedLocale (locale : Locale)
  | keyNotFound (key : String) (chain : List Locale)
  | unresolved (token : String)
  | tooDeep (token : String) (limit : Nat)
  | invalidPattern (pattern : String) (flaw : Pattern.Flaw)
  | malformedData (path : String) (defect : Defect)
  | config (flaw : Config.Flaw)
  | json (flaw : Json.Flaw)
  | toml
deriving DecidableEq

def Fault.message : Fault → String
  | .invalidLocale tag => "Invalid locale: " ++ tag
  | .unsupportedLocale locale =>
    "Locale " ++ locale.tag ++ " is not supported: no locale data found"
  | .keyNotFound key chain =>
    "Key not found: " ++ key ++ " (searched " ++ Locale.chainText chain ++ ")"
  | .unresolved token => "Unable to resolve " ++ token ++ " directive."
  | .tooDeep token limit =>
    "Expansion of " ++ token ++ " exceeded the maximum depth of " ++ limit.repr
  | .invalidPattern pattern flaw =>
    "Invalid pattern " ++ Text.quoted pattern ++ ": " ++ flaw.message
  | .malformedData path defect => "Malformed locale data at " ++ path ++ ": " ++ defect.message
  | .config flaw => "Configuration error: " ++ flaw.message
  | .json _ => "JSON error"
  | .toml => "TOML error"

def Locale.read (tag : String) : Except Fault Locale :=
  match Locale.ofTag? tag with
  | some locale => .ok locale
  | none => .error (.invalidLocale tag)

end Pastiche
