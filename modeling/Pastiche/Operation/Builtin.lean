import Pastiche.Registry

/-! The operations that every registry has, and those of the library's own namespaces. -/

namespace Pastiche.Builtin

open Reply

/-- The case that the second argument names: upper where it is true or missing. -/
def letterCase (arguments : Arguments) : Except OperationError LetterCase := do
  arguments.expectBetween 1 2
  match arguments[1]? with
  | some _ => .ok (.ofUpper (← arguments.flag 1))
  | none => .ok .upper

def numerify : Operation := fun call => do
  require (call.arguments.expectCount 1)
  generate (.numerify (← require (call.arguments.text 0)))

def letterify : Operation := fun call => do
  let case ← require (letterCase call.arguments)
  generate (.letterify (← require (call.arguments.text 0)) case)

def bothify : Operation := fun call => do
  let pattern ← require (call.arguments.text 0)
  if call.arguments.length = 2 then
    let case ← require (letterCase call.arguments)
    generate (.bothifyWith pattern case)
  else generate (.bothify pattern)

def regexify : Operation := fun call => do
  require (call.arguments.expectCount 1)
  generate (.regexify (← require (call.arguments.text 0)))

def root : Namespace :=
  (((Namespace.root.register "numerify" numerify).register "letterify" letterify).register
    "bothify" bothify).register "regexify" regexify

def validIdNumber : Operation := fun call => do
  require (call.arguments.expectCount 0)
  resolve "id_number.valid"

/-- The data is expanded first and its placeholders are filled after that. -/
def invalidIdNumber : Operation := fun call => do
  require (call.arguments.expectCount 0)
  generate (.numerify (← resolve "id_number.invalid"))

def idNumber : Namespace :=
  ((Namespace.named "IdNumber").register "valid" validIdNumber).register "invalid" invalidIdNumber

end Builtin

def Registry.default : Registry := ⟨Builtin.root, []⟩

end Pastiche
