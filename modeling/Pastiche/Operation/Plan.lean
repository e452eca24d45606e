import Pastiche.Operation.Arguments
import Pastiche.Placeholder

/-!
What an operation does, as a finite tree of calls to its engine. The engine answers each call and
goes on with the rest of the plan.
-/

namespace Pastiche

inductive Generator where
  | numerify (pattern : String)
  | letterify (pattern : String) (case : LetterCase)
  | bothify (pattern : String)
  | bothifyWith (pattern : String) (case : LetterCase)
  | regexify (pattern : String)

/-- What can be seen of a namespace from an operation. -/
structure Scope where
  name : String
  /-- Where the keys of the data begin; none at the root. -/
  base : Option String
  /-- The names of the operations in their usual forms. -/
  members : List String
deriving DecidableEq

/-- The key of the data of a member. -/
def Scope.dataKey (scope : Scope) (member : String) : String :=
  match scope.base with
  | some base => base ++ "." ++ member
  | none => member

/-- What an engine answers without expanding anything. -/
inductive Request where
  /-- One value at a key. -/
  | fetch (key : String)
  /-- All values at a key. -/
  | fetchList (key : String)
  /-- The leaf at a key as it is. -/
  | lookup (key : String)
  | generate (generator : Generator)
  /-- What the random source itself gives, be it below the bound or not. -/
  | draw (bound : Nat)
  /-- The namespace that is registered under a name. -/
  | scope (name : String)
  /-- How often this counter was asked before. -/
  | count (counter : String)

def Request.Answer : Request → Type
  | .fetch _ => Except Fault String
  | .fetchList _ => Except Fault (List String)
  | .lookup _ => Option Entry
  | .generate _ => Except Fault String
  | .draw _ => Nat
  | .scope _ => Option Scope
  | .count _ => Nat

/-- A namespace as an operation can name it. -/
inductive Place where
  /-- The one that the operation is in. -/
  | own
  | root
  /-- The one that is registered under a name, or the root if there is none. -/
  | named (name : String)

inductive Plan (α : Type) where
  | done (result : α)
  | ask (request : Request) (next : request.Answer → Plan α)
  /-- The data at a key, expanded against the namespace of the operation. -/
  | resolve (key : String) (next : Except Fault String → Plan α)
  /-- A template, expanded against the namespace of the operation. -/
  | expression (template : String) (next : Except Fault String → Plan α)
  /-- A template, expanded against some namespace as if it stood alone. -/
  | expand (place : Place) (template : String) (next : Except Fault String → Plan α)

namespace Plan

variable {α β : Type}

def andThen (plan : Plan α) (more : α → Plan β) : Plan β :=
  match plan with
  | .done result => more result
  | .ask request next => .ask request fun answer => (next answer).andThen more
  | .resolve key next => .resolve key fun answer => (next answer).andThen more
  | .expression template next => .expression template fun answer => (next answer).andThen more
  | .expand place template next =>
    .expand place template fun answer => (next answer).andThen more

instance : Monad Plan where
  pure := .done
  bind := andThen

end Plan

structure Invocation where
  arguments : Arguments
  /-- The namespace that the operation is in. -/
  scope : Scope
  /-- How deep the expansion is. -/
  depth : Nat

def Invocation.target (call : Invocation) : String := call.scope.name

/-- The answer of an operation, or why there is none. -/
abbrev Reply := ExceptT OperationError Plan

abbrev Operation := Invocation → Reply String

namespace Reply

variable {α : Type}

def require (result : Except OperationError α) : Reply α := ExceptT.mk (.done result)

/-- A call whose fault, if it has one, is that of the operation. -/
def demand (call : Plan (Except Fault α)) : Reply α :=
  ExceptT.mk (call >>= fun answer => .done (answer.mapError .engine))

def resolve (key : String) : Reply String := demand (.resolve key .done)

def expression (template : String) : Reply String := demand (.expression template .done)

def expandIn (place : Place) (template : String) : Reply String :=
  demand (.expand place template .done)

def expand (template : String) : Reply String := expandIn .root template

def fetch (key : String) : Reply String := demand (.ask (.fetch key) .done)

def fetchList (key : String) : Reply (List String) := demand (.ask (.fetchList key) .done)

def generate (generator : Generator) : Reply String := demand (.ask (.generate generator) .done)

def ask (request : Request) : Reply request.Answer :=
  ExceptT.mk (.ask request fun answer => .done (.ok answer))

def lookup (key : String) : Reply (Option Entry) := ask (.lookup key)

def scope (name : String) : Reply (Option Scope) := ask (.scope name)

def count (counter : String) : Reply Nat := ask (.count counter)

/-- A number below the bound, whatever the random source gives. -/
def pick (bound : Nat) : Reply Nat :=
  ExceptT.mk (.ask (.draw bound) fun drawn => .done (.ok (min drawn (bound - 1))))

end Reply

end Pastiche
