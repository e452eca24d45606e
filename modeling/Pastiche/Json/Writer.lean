import Pastiche.Json.Basic

/-! JSON text without blanks. -/

namespace Pastiche.Json

def hexDigit (n : Nat) : Char := (Nat.toDigits 16 (n % 16)).headD '0'

/-- A character as it is written in a string: only quotes, backslashes and controls are escaped. -/
def escape (c : Char) : List Char :=
  match c with
  | '"' => ['\\', '"']
  | '\\' => ['\\', '\\']
  | '\n' => ['\\', 'n']
  | '\r' => ['\\', 'r']
  | '\t' => ['\\', 't']
  | '\x08' => ['\\', 'b']
  | '\x0c' => ['\\', 'f']
  | c =>
    if c.toNat < 0x20 then ['\\', 'u', '0', '0', hexDigit (c.toNat / 16), hexDigit c.toNat] else [c]

def quote (cs : List Char) : List Char := '"' :: cs.flatMap escape ++ ['"']

def separated (texts : List (List Char)) : List Char := List.intercalate [','] texts

mutual

def write : Json → List Char
  | .null => ['n', 'u', 'l', 'l']
  | .bool true => ['t', 'r', 'u', 'e']
  | .bool false => ['f', 'a', 'l', 's', 'e']
  | .number value => value.text
  | .string value => quote value.toList
  | .array items => '[' :: separated (writeItems items) ++ [']']
  | .object members => '{' :: separated (writeMembers members) ++ ['}']

def writeItems : List Json → List (List Char)
  | [] => []
  | item :: rest => write item :: writeItems rest

def writeMembers : List (String × Json) → List (List Char)
  | [] => []
  | (name, value) :: rest => (quote name.toList ++ ':' :: write value) :: writeMembers rest

end

def render (value : Json) : String := String.ofList (write value)

end Pastiche.Json
