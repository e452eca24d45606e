import Pastiche.Locale
import Pastiche.Pattern.Basic

/-! The settings of an engine. -/

namespace Pastiche

structure Config where
  /-- Where data is looked up first. -/
  locale : Locale
  /-- How deep expansions may be nested. -/
  maxDepth : Nat
  /-- How many repetitions an unbounded quantifier of a pattern adds. -/
  maxRepeat : Nat
  /-- Where the random sequence starts. -/
  seed : Option Nat
deriving DecidableEq

namespace Config

inductive Flaw where
  | noDepth
  | tooManyRepeats (maxRepeat : Nat)
  | badVariable (name written : String)
  | noStore
deriving DecidableEq

def Flaw.message : Flaw → String
  | .noDepth => "max_depth must be at least 1"
  | .tooManyRepeats maxRepeat =>
    "max_repeat must be at most " ++ Pattern.maxBound.repr ++ ", got " ++ maxRepeat.repr
  | .badVariable name written => name ++ " has an invalid value: " ++ written
  | .noStore => "a locale data store is required"

def ofLocale (locale : Locale) : Config := ⟨locale, 64, 10, none⟩

def default : Config := ofLocale .en

instance : Inhabited Config := ⟨default⟩

/-- What keeps an engine from running with the settings. -/
def flaw? (config : Config) : Option Flaw :=
  if config.maxDepth = 0 then some .noDepth
  else if config.maxRepeat > Pattern.maxBound then some (.tooManyRepeats config.maxRepeat)
  else none

end Config

end Pastiche
