import Pastiche.Text.Blank

/-! Levels of log records, and the forms of log lines. -/

namespace Pastiche.Log

/-- From the most to the least talkative; at `off` nothing is written. -/
inductive Level where
  | trace
  | debug
  | info
  | warn
  | error
  | off
deriving DecidableEq, Inhabited

namespace Level

def all : List Level := [.trace, .debug, .info, .warn, .error, .off]

/-- Levels with a greater rank are written more readily. -/
def rank : Level → Nat
  | .trace => 0
  | .debug => 1
  | .info => 2
  | .warn => 3
  | .error => 4
  | .off => 5

def name : Level → String
  | .trace => "TRACE"
  | .debug => "DEBUG"
  | .info => "INFO"
  | .warn => "WARN"
  | .error => "ERROR"
  | .off => "OFF"

def lowerName (level : Level) : String := level.name.map Char.toLower

def ofWord? (word : String) : Option Level :=
  match (Text.strip word).map Char.toLower with
  | "trace" => some .trace
  | "debug" => some .debug
  | "info" => some .info
  | "warn" | "warning" => some .warn
  | "error" => some .error
  | "off" | "none" => some .off
  | _ => none

def unknownMessage (word : String) : String :=
  "unknown log level: " ++ (Text.strip word).map Char.toLower

def min (a b : Level) : Level := if a.rank ≤ b.rank then a else b

def byte (level : Level) : UInt8 := .ofNat level.rank

/-- A byte that is no level's counts as `off`. -/
def ofByte : UInt8 → Level
  | 0 => .trace
  | 1 => .debug
  | 2 => .info
  | 3 => .warn
  | 4 => .error
  | _ => .off

end Level

inductive Format where
  | pretty
  | compact
  | json
deriving DecidableEq, Inhabited

namespace Format

def name : Format → String
  | .pretty => "pretty"
  | .compact => "compact"
  | .json => "json"

def ofWord? (word : String) : Option Format :=
  match (Text.strip word).map Char.toLower with
  | "pretty" => some .pretty
  | "compact" => some .compact
  | "json" => some .json
  | _ => none

def unknownMessage (word : String) : String :=
  "unknown log format: " ++ (Text.strip word).map Char.toLower

end Format

end Pastiche.Log
