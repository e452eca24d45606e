import Pastiche.Proofs.Except
import Pastiche.Proofs.Operation.Registry

/-!
Operations that report no overrun of the depth limit but one that their engine answered with. Any
other error is free to them.
-/

namespace Pastiche

variable {α β : Type}

def fault? : Except Fault α → Option Fault
  | .ok _ => none
  | .error fault => some fault

theorem eq_error_of_fault? {result : Except Fault α} {fault : Fault}
    (h : fault? result = some fault) : result = .error fault := by
  cases result with
  | ok a => cases h
  | error other =>
    cases h
    rfl

/-- The fault in the answer to a request. -/
def Request.fault? : (request : Request) → request.Answer → Option Fault
  | .fetch _, answer => Pastiche.fault? answer
  | .fetchList _, answer => Pastiche.fault? answer
  | .generate _, answer => Pastiche.fault? answer
  | .lookup _, _ => none
  | .draw _, _ => none
  | .scope _, _ => none
  | .count _, _ => none

/-- The faults that have been answered, with that of one more answer. -/
def received (fault : Option Fault) (handed : List Fault) : List Fault := fault.toList ++ handed

theorem received_all {p : Fault → Prop} {fault : Option Fault} {handed : List Fault}
    (hanswer : ∀ new ∈ fault, p new) (h : ∀ old ∈ handed, p old) :
    ∀ known ∈ received fault handed, p known := by
  intro known hknown
  rcases List.mem_append.mp hknown with hnew | hold
  · exact hanswer known (Option.mem_toList.mp hnew)
  · exact h known hold

/-- Any overrun in the reply is among these faults. -/
def FromHanded (handed : List Fault) (reply : Except OperationError α) : Prop :=
  ∀ token limit, reply = .error (.engine (.tooDeep token limit)) →
    Fault.tooDeep token limit ∈ handed

namespace Plan

def HandsBack : List Fault → Plan (Except OperationError α) → Prop
  | handed, .done reply => FromHanded handed reply
  | handed, .ask request next =>
    ∀ answer, (next answer).HandsBack (received (request.fault? answer) handed)
  | handed, .resolve _ next => ∀ answer, (next answer).HandsBack (received (fault? answer) handed)
  | handed, .expression _ next =>
    ∀ answer, (next answer).HandsBack (received (fault? answer) handed)
  | handed, .expand _ _ next => ∀ answer, (next answer).HandsBack (received (fault? answer) handed)

theorem HandsBack.andThen {handed : List Fault} {plan : Plan (Except OperationError α)}
    {more : Except OperationError α → Plan (Except OperationError β)} (h : plan.HandsBack handed)
    (hmore : ∀ handed reply, FromHanded handed reply → (more reply).HandsBack handed) :
    (plan.andThen more).HandsBack handed := by
  induction plan generalizing handed with
  | done reply => exact hmore handed reply h
  | ask request next ih | resolve key next ih | expression template next ih
  | expand place template next ih => exact fun answer => ih answer (h answer)

end Plan

/-- The operation reports no overrun but one that its engine answered with in this call. -/
def Operation.HandsBack (operation : Operation) : Prop := ∀ call, (operation call).run.HandsBack []

namespace Reply

def HandsBack (reply : Reply α) : Prop := ∀ handed, reply.run.HandsBack handed

theorem HandsBack.bind {reply : Reply α} {next : α → Reply β} (h : reply.HandsBack)
    (hnext : ∀ a, (next a).HandsBack) : (reply >>= next).HandsBack := by
  intro handed
  refine (h handed).andThen fun handed result hresult => ?_
  cases result with
  | ok a => exact hnext a handed
  | error error =>
    intro token limit herror
    cases herror
    exact hresult token limit rfl

theorem fromHanded_received (handed : List Fault) (answer : Except Fault α) :
    FromHanded (received (fault? answer) handed) (answer.mapError OperationError.engine) := by
  intro token limit hreply
  cases answer with
  | ok text => cases hreply
  | error fault =>
    cases hreply
    exact List.mem_cons_self

theorem handsBack_resolve (key : String) : (resolve key).HandsBack :=
  fun handed answer => fromHanded_received handed answer

theorem handsBack_generate (generator : Generator) : (generate generator).HandsBack :=
  fun handed answer => fromHanded_received handed answer

end Reply

/-- The error, if there is one, is not a fault of the engine. -/
def Plain (result : Except OperationError α) : Prop := ∀ fault, result ≠ .error (.engine fault)

namespace Plain

theorem bind {result : Except OperationError α} {next : α → Except OperationError β}
    (h : Plain result) (hnext : ∀ a, Plain (next a)) : Plain (result >>= next) := by
  cases result with
  | ok a => exact hnext a
  | error error =>
    intro fault herror
    cases herror
    exact h fault rfl

theorem text (arguments : Arguments) (index : Nat) : Plain (arguments.text index) := by
  intro fault
  unfold Arguments.text
  split <;> nofun

theorem expectCount (arguments : Arguments) (count : Nat) : Plain (arguments.expectCount count) := by
  intro fault
  unfold Arguments.expectCount
  split <;> nofun

theorem expectBetween (arguments : Arguments) (least most : Nat) :
    Plain (arguments.expectBetween least most) := by
  intro fault
  unfold Arguments.expectBetween
  split <;> nofun

theorem flag (arguments : Arguments) (index : Nat) : Plain (arguments.flag index) := by
  refine (text arguments index).bind fun value fault => ?_
  split <;> nofun

theorem letterCase (arguments : Arguments) : Plain (Builtin.letterCase arguments) := by
  refine (expectBetween arguments 1 2).bind fun _ => ?_
  cases arguments[1]? with
  | none => exact nofun
  | some value => exact (flag arguments 1).bind fun _ => nofun

theorem handsBack {result : Except OperationError α} (h : Plain result) :
    (Reply.require result).HandsBack :=
  fun _ _ _ hresult => absurd hresult (h _)

end Plain

namespace Builtin

open Reply

theorem numerify_handsBack (call : Invocation) : (numerify call).HandsBack :=
  (Plain.expectCount _ 1).handsBack.bind fun _ =>
    (Plain.text _ 0).handsBack.bind fun _ => handsBack_generate _

theorem letterify_handsBack (call : Invocation) : (letterify call).HandsBack :=
  (Plain.letterCase _).handsBack.bind fun _ =>
    (Plain.text _ 0).handsBack.bind fun _ => handsBack_generate _

theorem bothify_handsBack (call : Invocation) : (bothify call).HandsBack := by
  refine (Plain.text _ 0).handsBack.bind fun pattern => ?_
  by_cases hlength : call.arguments.length = 2
  · rw [if_pos hlength]
    exact (Plain.letterCase _).handsBack.bind fun _ => handsBack_generate _
  · rw [if_neg hlength]
    exact handsBack_generate _

theorem regexify_handsBack (call : Invocation) : (regexify call).HandsBack :=
  (Plain.expectCount _ 1).handsBack.bind fun _ =>
    (Plain.text _ 0).handsBack.bind fun _ => handsBack_generate _

theorem validIdNumber_handsBack (call : Invocation) : (validIdNumber call).HandsBack :=
  (Plain.expectCount _ 0).handsBack.bind fun _ => handsBack_resolve _

theorem invalidIdNumber_handsBack (call : Invocation) : (invalidIdNumber call).HandsBack :=
  (Plain.expectCount _ 0).handsBack.bind fun _ =>
    (handsBack_resolve _).bind fun _ => handsBack_generate _

end Builtin

open Builtin in
theorem Registry.default_handsBack :
    (Registry.default.register Builtin.idNumber).All Operation.HandsBack :=
  Registry.default_all
    (root_all (fun call => numerify_handsBack call []) (fun call => letterify_handsBack call [])
      (fun call => bothify_handsBack call []) (fun call => regexify_handsBack call []))
    (idNumber_all (fun call => validIdNumber_handsBack call [])
      (fun call => invalidIdNumber_handsBack call []))

end Pastiche
