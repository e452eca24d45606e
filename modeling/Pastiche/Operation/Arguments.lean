import Pastiche.Decimal.Integer
import Pastiche.Fault
import Pastiche.Word

/-! The arguments of an operation, and what is wrong with them. -/

namespace Pastiche

inductive Arity where
  | exactly (count : Nat)
  | atLeast (count : Nat)
  | between (least most : Nat)
deriving DecidableEq

def Arity.text : Arity → String
  | .exactly count => count.repr
  | .atLeast count => "at least " ++ count.repr
  | .between least most => least.repr ++ " to " ++ most.repr

/-- The kinds of whole numbers, by sign and width. -/
inductive IntegerKind where
  | signed8
  | signed64
  | unsigned8
  | unsigned32
  | unsigned64
deriving DecidableEq

namespace IntegerKind

def least : IntegerKind → Int
  | .signed8 => -(Word.count 7 : Int)
  | .signed64 => -(Word.count 63 : Int)
  | _ => 0

def most : IntegerKind → Int
  | .signed8 => Word.largest 7
  | .signed64 => Word.largest 63
  | .unsigned8 => Word.largest 8
  | .unsigned32 => Word.largest 32
  | .unsigned64 => Word.largest 64

def name : IntegerKind → String
  | .signed8 => "i8"
  | .signed64 => "i64"
  | .unsigned8 => "u8"
  | .unsigned32 => "u32"
  | .unsigned64 => "u64"

end IntegerKind

inductive ArgumentKind where
  | integer (kind : IntegerKind)
  | bool
  | char
  | flag
deriving DecidableEq

def ArgumentKind.name : ArgumentKind → String
  | .integer kind => kind.name
  | .bool => "bool"
  | .char => "char"
  | .flag => "boolean"

inductive OperationError where
  | arity (expected : Arity) (count : Nat)
  | invalidArgument (index : Nat) (value : String) (expected : ArgumentKind)
  | failed (message : String)
  /-- A call back into the engine failed. -/
  | engine (fault : Fault)
deriving DecidableEq

def OperationError.message : OperationError → String
  | .arity expected count =>
    "expected " ++ expected.text ++ " argument(s), got " ++ count.repr
  | .invalidArgument index value expected =>
    "argument " ++ index.repr ++ " (" ++ Text.quoted value ++ ") is not a valid " ++ expected.name
  | .failed message => message
  | .engine fault => fault.message

abbrev Arguments := List String

namespace Arguments

def text (arguments : Arguments) (index : Nat) : Except OperationError String :=
  match arguments[index]? with
  | some value => .ok value
  | none => .error (.arity (.atLeast (index + 1)) arguments.length)

/-- An argument without the blanks around it, read as a value of a kind. -/
def parsed {α : Type} (kind : ArgumentKind) (read : List Char → Option α) (arguments : Arguments)
    (index : Nat) : Except OperationError α := do
  let value ← arguments.text index
  match read (Text.trim value.toList) with
  | some result => .ok result
  | none => .error (.invalidArgument index value kind)

def integer (kind : IntegerKind) : Arguments → Nat → Except OperationError Int :=
  parsed (.integer kind) (Decimal.readInteger kind.least kind.most)

def readBool (cs : List Char) : Option Bool :=
  if cs = "true".toList then some true else if cs = "false".toList then some false else none

def bool : Arguments → Nat → Except OperationError Bool := parsed .bool readBool

def char : Arguments → Nat → Except OperationError Char := parsed .char fun
  | [c] => some c
  | _ => none

def flag : Arguments → Nat → Except OperationError Bool :=
  parsed .flag fun cs => readBool (cs.map Char.toLower)

def expectCount (arguments : Arguments) (count : Nat) : Except OperationError Unit :=
  if arguments.length = count then .ok ()
  else .error (.arity (.exactly count) arguments.length)

def expectBetween (arguments : Arguments) (least most : Nat) : Except OperationError Unit :=
  if least ≤ arguments.length ∧ arguments.length ≤ most then .ok ()
  else .error (.arity (.between least most) arguments.length)

end Arguments

end Pastiche
