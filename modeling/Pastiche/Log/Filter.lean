import Pastiche.Config.Environment
import Pastiche.Log.Level

/-! Which records are written: how logging starts out, and how it is changed as the program runs. -/

namespace Pastiche.Log

structure Settings where
  debug : Bool
  level : Level
  format : Format
  timestamps : Bool
deriving DecidableEq, Inhabited

namespace Settings

def switch? (env : Environment) (name : String) : Option Bool :=
  (env.find? name).map fun value =>
    match (Text.strip value).map Char.toLower with
    | "1" | "true" | "yes" | "on" => true
    | _ => false

/-- The settings of an environment. A word that names nothing counts as not given. -/
def ofEnvironment (env : Environment) : Settings :=
  let debug := (switch? env "FORGERY_DEBUG").getD false
  { debug
    level := ((env.find? "FORGERY_LOG_LEVEL").bind Level.ofWord?).getD
      (if debug then .debug else .warn)
    format := ((env.find? "FORGERY_LOG_FORMAT").bind Format.ofWord?).getD .pretty
    timestamps := (switch? env "FORGERY_LOG_TIMESTAMPS").getD true }

/-- The level, lowered to debug where debugging is switched on. -/
def effectiveLevel (settings : Settings) : Level :=
  if settings.debug then settings.level.min .debug else settings.level

end Settings

structure Filter where
  threshold : Level
  debug : Bool
deriving DecidableEq, Inhabited

namespace Filter

def ofSettings (settings : Settings) : Filter := ⟨settings.effectiveLevel, settings.debug⟩

def allows (filter : Filter) (level : Level) : Bool :=
  level != .off && filter.threshold.rank ≤ level.rank

def setLevel (filter : Filter) (level : Level) : Filter := { filter with threshold := level }

/-- Switching debugging on lowers the threshold; switching it off leaves it as it is. -/
def setDebug (filter : Filter) (isOn : Bool) : Filter :=
  ⟨if isOn then filter.threshold.min .debug else filter.threshold, isOn⟩

end Filter

/-- The filter as it lies in memory, its threshold as a byte. -/
structure Stored where
  threshold : UInt8
  debug : Bool
deriving DecidableEq

namespace Stored

def ofSettings (settings : Settings) : Stored := ⟨settings.effectiveLevel.byte, settings.debug⟩

def currentLevel (stored : Stored) : Level := .ofByte stored.threshold

def allows (stored : Stored) (level : Level) : Bool :=
  level != .off && stored.threshold ≤ level.byte

def setLevel (stored : Stored) (level : Level) : Stored := { stored with threshold := level.byte }

def setDebug (stored : Stored) (isOn : Bool) : Stored :=
  ⟨if isOn then min stored.threshold Level.debug.byte else stored.threshold, isOn⟩

end Stored

end Pastiche.Log
