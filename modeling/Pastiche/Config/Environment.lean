import Pastiche.Config.Json
import Pastiche.Decimal.Integer

/-! Settings from environment variables. -/

namespace Pastiche

abbrev Environment := List (String × String)

def Environment.find? (env : Environment) (name : String) : Option String :=
  Dictionary.find? name env

namespace Config

def variableFamily : String := "FORGERY"

def variableName (setting : String) : String := variableFamily ++ "_" ++ setting

/-- What a variable holds; a blank one counts as not given. -/
def setting? (env : Environment) (setting : String) : Option String :=
  (env.find? (variableName setting)).filter fun value => !(Text.trim value.toList).isEmpty

def natural? (env : Environment) (setting : String) (limit : Nat) : Except Fault (Option Nat) :=
  match setting? env setting with
  | none => .ok none
  | some written =>
    match Decimal.readInteger 0 limit (Text.trim written.toList) with
    | some value => .ok (some value.toNat)
    | none => .error (.config (.badVariable (variableName setting) written))

def locale? (env : Environment) : Except Fault (Option Locale) :=
  match setting? env "LOCALE" with
  | none => .ok none
  | some tag => do .ok (some (← Locale.read tag))

def ofEnvironment (env : Environment) : Except Fault Config := do
  let locale ← locale? env
  let maxDepth ← natural? env "MAX_DEPTH" (Word.largest 64)
  let maxRepeat ← natural? env "MAX_REPEAT" (Word.largest 32)
  let seed ← natural? env "SEED" (Word.largest 64)
  checked (Draft.complete ⟨locale, maxDepth, maxRepeat, seed.map some⟩)

end Config

end Pastiche
