import Pastiche.Json.Writer
import Pastiche.Log.Filter

/-! The lines that log records become. -/

namespace Pastiche.Log

structure Record where
  level : Level
  target : String
  message : String
deriving DecidableEq

structure Clock where
  dateTime : String
  time : String
  universal : String

def padRight (width : Nat) (text : String) : String :=
  text ++ String.ofList (List.replicate (width - text.length) ' ')

def prettyLine (settings : Settings) (clock : Clock) (record : Record) : String :=
  (if settings.timestamps then clock.dateTime ++ " " else "") ++
    padRight 5 record.level.name ++ " " ++
    (if record.target = "" then "" else "[" ++ record.target ++ "] ") ++ record.message

def compactLine (settings : Settings) (clock : Clock) (record : Record) : String :=
  (if settings.timestamps then clock.time ++ " " else "") ++
    (record.level.name.toList.headD '?').toString ++ " " ++
    (if record.target = "" then "" else record.target ++ ": ") ++ record.message

def jsonObject (members : List (String × List Char)) : String :=
  String.ofList ('\x7b' :: Json.separated (members.map fun (name, text) =>
    Json.quote name.toList ++ ':' :: text) ++ ['\x7d'])

/-- The members of a record stand in a fixed order, the time first. -/
def jsonLine (clock : Clock) (record : Record) : String :=
  jsonObject [("timestamp", Json.quote clock.universal.toList),
    ("level", Json.quote record.level.name.toList),
    ("target", Json.quote record.target.toList),
    ("message", Json.quote record.message.toList)]

/-- A character as it is written without a library for JSON. Only the line breaks and the tab have
names of their own; all other controls, those above ASCII too, are written by their code. -/
def plainEscape (c : Char) : List Char :=
  match c with
  | '"' => ['\\', '"']
  | '\\' => ['\\', '\\']
  | '\n' => ['\\', 'n']
  | '\r' => ['\\', 'r']
  | '\t' => ['\\', 't']
  | c =>
    if c.toNat < 0x20 ∨ 0x7f ≤ c.toNat ∧ c.toNat < 0xa0 then
      ['\\', 'u', '0', '0', Json.hexDigit (c.toNat / 16), Json.hexDigit c.toNat]
    else [c]

def enclosed (text : List Char) : List Char := '"' :: text ++ ['"']

/-- The line of a record without a library for JSON: the time and the level stand as they are. -/
def plainJsonLine (clock : Clock) (record : Record) : String :=
  jsonObject [("timestamp", enclosed clock.universal.toList),
    ("level", enclosed record.level.name.toList),
    ("target", enclosed (record.target.toList.flatMap plainEscape)),
    ("message", enclosed (record.message.toList.flatMap plainEscape))]

def line (settings : Settings) (clock : Clock) (record : Record) : String :=
  match settings.format with
  | .pretty => prettyLine settings clock record
  | .compact => compactLine settings clock record
  | .json => jsonLine clock record

/-- What is written for a record: its line with its end, or nothing. -/
def written (settings : Settings) (filter : Filter) (clock : Clock) (record : Record) : String :=
  if filter.allows record.level then line settings clock record ++ "\n" else ""

end Pastiche.Log
