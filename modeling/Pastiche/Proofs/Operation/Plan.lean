import Pastiche.Operation.Builtin

/-!
What may be asked of the plan of an operation, whatever its engine answers: that it begins no
expansion anew, and that it hands on each overrun of the depth limit.
-/

namespace Pastiche

variable {α β : Type}

def Overrun (result : Except Fault α) : Prop :=
  ∃ token limit, result = .error (.tooDeep token limit)

def ReportsOverrun (reply : Except OperationError α) : Prop :=
  ∃ token limit, reply = .error (.engine (.tooDeep token limit))

namespace Plan

/-- Every outcome has the property, whatever is answered. -/
def Always (p : α → Prop) : Plan α → Prop
  | .done result => p result
  | .ask _ next => ∀ answer, (next answer).Always p
  | .resolve _ next => ∀ answer, (next answer).Always p
  | .expression _ next => ∀ answer, (next answer).Always p
  | .expand _ _ next => ∀ answer, (next answer).Always p

/-- Every expansion that is asked for is part of the one that the operation was called in. -/
def Nested : Plan α → Prop
  | .done _ => True
  | .ask _ next => ∀ answer, (next answer).Nested
  | .resolve _ next => ∀ answer, (next answer).Nested
  | .expression _ next => ∀ answer, (next answer).Nested
  | .expand _ _ _ => False

/-- Where an expansion that is asked for overruns the depth limit, this is what is reported. -/
def HandsOn : Plan (Except OperationError α) → Prop
  | .done _ => True
  | .ask _ next => ∀ answer, (next answer).HandsOn
  | .resolve _ next =>
    (∀ answer, Overrun answer → (next answer).Always ReportsOverrun) ∧
      ∀ answer, (next answer).HandsOn
  | .expression _ next =>
    (∀ answer, Overrun answer → (next answer).Always ReportsOverrun) ∧
      ∀ answer, (next answer).HandsOn
  | .expand _ _ next =>
    (∀ answer, Overrun answer → (next answer).Always ReportsOverrun) ∧
      ∀ answer, (next answer).HandsOn

theorem Always.andThen {p : α → Prop} {q : β → Prop} {plan : Plan α} {more : α → Plan β}
    (h : plan.Always p) (hmore : ∀ a, p a → (more a).Always q) : (plan.andThen more).Always q := by
  induction plan with
  | done result => exact hmore result h
  | ask request next ih | resolve key next ih | expression template next ih
  | expand place template next ih => exact fun answer => ih answer (h answer)

theorem Nested.andThen {plan : Plan α} {more : α → Plan β} (h : plan.Nested)
    (hmore : ∀ a, (more a).Nested) : (plan.andThen more).Nested := by
  induction plan with
  | done result => exact hmore result
  | expand place template next => exact h.elim
  | ask request next ih | resolve key next ih | expression template next ih =>
    exact fun answer => ih answer (h answer)

theorem HandsOn.andThen {plan : Plan (Except OperationError α)}
    {more : Except OperationError α → Plan (Except OperationError β)} (h : plan.HandsOn)
    (hreports : ∀ reply, ReportsOverrun reply → (more reply).Always ReportsOverrun)
    (hmore : ∀ reply, (more reply).HandsOn) : (plan.andThen more).HandsOn := by
  induction plan with
  | done result => exact hmore result
  | ask request next ih => exact fun answer => ih answer (h answer)
  | resolve key next ih | expression template next ih | expand place template next ih =>
    obtain ⟨hoverrun, hnext⟩ := h
    exact ⟨fun answer hanswer => (hoverrun answer hanswer).andThen hreports,
      fun answer => ih answer (hnext answer)⟩

end Plan

namespace Reply

/-- The reply stays inside the expansion that asks for it and hands on its overruns. -/
structure Obedient (reply : Reply α) : Prop where
  nested : reply.run.Nested
  handsOn : reply.run.HandsOn

theorem Obedient.bind {reply : Reply α} {next : α → Reply β} (h : reply.Obedient)
    (hnext : ∀ a, (next a).Obedient) : (reply >>= next).Obedient := by
  constructor
  · refine h.nested.andThen fun result => ?_
    cases result with
    | ok a => exact (hnext a).nested
    | error error => trivial
  · refine h.handsOn.andThen (fun result hresult => ?_) (fun result => ?_)
    · obtain ⟨token, limit, rfl⟩ := hresult
      exact ⟨token, limit, rfl⟩
    · cases result with
      | ok a => exact (hnext a).handsOn
      | error error => trivial

theorem obedient_require (result : Except OperationError α) : (require result).Obedient :=
  ⟨trivial, trivial⟩

theorem obedient_resolve (key : String) : (resolve key).Obedient := by
  refine ⟨fun _ => trivial, ?_, fun _ => trivial⟩
  rintro answer ⟨token, limit, rfl⟩
  exact ⟨token, limit, rfl⟩

theorem obedient_expression (template : String) : (expression template).Obedient := by
  refine ⟨fun _ => trivial, ?_, fun _ => trivial⟩
  rintro answer ⟨token, limit, rfl⟩
  exact ⟨token, limit, rfl⟩

theorem obedient_ask (request : Request) (reply : request.Answer → Except OperationError α) :
    Obedient (ExceptT.mk (.ask request fun answer => .done (reply answer)) : Reply α) :=
  ⟨fun _ => trivial, fun _ => trivial⟩

theorem obedient_generate (generator : Generator) : (generate generator).Obedient :=
  obedient_ask (.generate generator) fun answer => answer.mapError .engine

end Reply

end Pastiche
