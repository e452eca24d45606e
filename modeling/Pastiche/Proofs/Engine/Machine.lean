import Pastiche.Proofs.Engine.Journal

/-!
Expansion as a machine with a stack of what waits for a result. Nothing bounds how long it runs: a
step scans for one directive, looks up one key or answers one call, and only the guard in front of a
directive compares a depth with the limit.
-/

namespace Pastiche

/-- An operation that waits for its arguments. -/
structure Call where
  directive : Directive
  caller : Namespace
  space : Namespace
  name : String
  operation : Operation
  /-- The depth of the directive. -/
  depth : Nat

inductive Task where
  /-- The rest of a template, behind the text that has come of it so far. -/
  | scan (target : Namespace) (depth : Nat) (text : String) (rest : List Char)
  /-- The data at a key, expanded. -/
  | lookup (target : Namespace) (depth : Nat) (key : String)
  | evaluate (target : Namespace) (depth : Nat) (token : List Char)
  | collect (call : Call) (arguments pending : List String)
  | perform (token : String) (space : Namespace) (depth : Nat)
    (plan : Plan (Except OperationError String))

inductive Control where
  | work (task : Task)
  | give (result : Except Fault String)

inductive Frame where
  | splice (target : Namespace) (depth : Nat) (text : String) (rest : List Char)
  | argument (call : Call) (arguments pending : List String)
  | answer (token : String) (space : Namespace) (depth : Nat)
    (next : Except Fault String → Plan (Except OperationError String))

structure Machine (σ : Type) where
  control : Control
  frames : List Frame
  session : Session σ

namespace Engine

variable {σ : Type} [Source σ]

def enter (engine : Engine) (target : Namespace) (depth : Nat) (token : List Char) :
    StateM (Session σ) Control := do
  match Directive.parse? (String.ofList token) with
  | none =>
    Run.note (.malformed (String.ofList token))
    pure (.give (.error (.unresolved (String.ofList token))))
  | some directive =>
    Run.note (.dispatched directive.token depth)
    match ← engine.route directive.reference target with
    | .call space name operation =>
      pure (.work (.collect ⟨directive, target, space, name, operation, depth⟩ []
        directive.arguments))
    | .data space template => pure (.work (.scan space (depth + 1) "" template.toList))
    | .nowhere => .give <$> (giveUp directive target).run

def scan (target : Namespace) (depth : Nat) (text : String) (rest : List Char) :
    Control × List Frame :=
  match Directive.cut? rest with
  | none => (.give (.ok (text ++ String.ofList rest)), [])
  | some cut =>
    (.work (.evaluate target depth cut.token),
      [.splice target depth (text ++ String.ofList cut.before) cut.after])

def lookup (engine : Engine) (target : Namespace) (depth : Nat) (key : String) :
    StateM (Session σ) Control := do
  match ← (engine.fetcher.fetch key).run with
  | .ok template => pure (.work (.scan target depth "" template.toList))
  | .error fault => pure (.give (.error fault))

def collect (call : Call) (arguments : List String) :
    List String → StateM (Session σ) (Control × List Frame)
  | [] => do
    Run.note (.called call.space.name call.name arguments (call.depth + 1))
    let plan := (call.operation ⟨arguments, call.space.scope, call.depth + 1⟩).run
    pure (.work (.perform call.directive.token call.space (call.depth + 1) plan), [])
  | argument :: pending =>
    pure (.work (.scan call.caller (call.depth + 1) "" argument.toList),
      [.argument call arguments pending])

/-- Answers the next call of an operation, or waits until it can be answered. -/
def answer (engine : Engine) (token : String) (space : Namespace) (depth : Nat) :
    Plan (Except OperationError String) → StateM (Session σ) (Control × List Frame)
  | .done (.ok text) => pure (.give (.ok text), [])
  | .done (.error error) => do pure (.give (← (fold token error).run), [])
  | .ask request next => do
    pure (.work (.perform token space depth (next (← engine.respond request))), [])
  | .resolve key next => pure (.work (.lookup space depth key), [.answer token space depth next])
  | .expression template next =>
    pure (.work (.scan space depth "" template.toList), [.answer token space depth next])
  | .expand place template next =>
    pure (.work (.scan (engine.namespaceAt space place) 0 "" template.toList),
      [.answer token space depth next])

/-- Does one thing towards a task, and puts off what waits for the result. -/
def turn (engine : Engine) : Task → StateM (Session σ) (Control × List Frame)
  | .scan target depth text rest => pure (scan target depth text rest)
  | .lookup target depth key => do pure (← engine.lookup target depth key, [])
  | .evaluate target depth token =>
    if engine.config.maxDepth ≤ depth then
      pure (.give (.error (.tooDeep (String.ofList token) engine.config.maxDepth)), [])
    else do pure (← engine.enter target depth token, [])
  | .collect call arguments pending => collect call arguments pending
  | .perform token space depth plan => engine.answer token space depth plan

def resume : Frame → Except Fault String → StateM (Session σ) Control
  | .splice target depth text rest, .ok value =>
    pure (.work (.scan target depth (text ++ value) rest))
  | .splice _ _ _ _, .error fault => pure (.give (.error fault))
  | .argument call arguments pending, .ok value =>
    pure (.work (.collect call (arguments ++ [value]) pending))
  | .argument call _ _, .error fault => .give <$> (fold call.directive.token (.engine fault)).run
  | .answer token space depth next, result =>
    pure (.work (.perform token space depth (next result)))

/-- The next state; none where a result has come that nothing waits for. -/
def step (engine : Engine) : Machine σ → Option (Machine σ)
  | ⟨.work task, frames, session⟩ =>
    let ((control, pushed), session) := engine.turn task session
    some ⟨control, pushed ++ frames, session⟩
  | ⟨.give result, frame :: frames, session⟩ =>
    let (control, session) := resume frame result session
    some ⟨control, frames, session⟩
  | ⟨.give _, [], _⟩ => none

/-- The state after so many steps, or the one before where the machine has stopped. -/
def after (engine : Engine) : Nat → Machine σ → Machine σ
  | 0, machine => machine
  | count + 1, machine =>
    match engine.step machine with
    | some next => engine.after count next
    | none => machine

def Reaches (engine : Engine) (machine other : Machine σ) : Prop :=
  ∃ count, engine.after count machine = other

theorem after_step {engine : Engine} {machine next : Machine σ}
    (h : engine.step machine = some next) (count : Nat) :
    engine.after (count + 1) machine = engine.after count next := by
  simp only [after, h]

theorem after_stopped {engine : Engine} {machine : Machine σ} (h : engine.step machine = none)
    (count : Nat) : engine.after count machine = machine := by
  cases count with
  | zero => rfl
  | succ count => simp only [after, h]

theorem after_add (engine : Engine) (count more : Nat) (machine : Machine σ) :
    engine.after (count + more) machine = engine.after more (engine.after count machine) := by
  induction count generalizing machine with
  | zero => rw [Nat.zero_add, after]
  | succ count ih =>
    cases hstep : engine.step machine with
    | none => rw [after_stopped hstep, after_stopped hstep, after_stopped hstep]
    | some next => rw [Nat.succ_add, after_step hstep, after_step hstep, ih]

namespace Reaches

variable {engine : Engine} {machine middle other : Machine σ}

theorem refl (machine : Machine σ) : engine.Reaches machine machine := ⟨0, rfl⟩

theorem trans (h : engine.Reaches machine middle) (h' : engine.Reaches middle other) :
    engine.Reaches machine other := by
  obtain ⟨count, rfl⟩ := h
  obtain ⟨more, rfl⟩ := h'
  exact ⟨count + more, engine.after_add count more machine⟩

theorem step (h : engine.step machine = some middle) (h' : engine.Reaches middle other) :
    engine.Reaches machine other := trans ⟨1, after_step h 0⟩ h'

end Reaches

end Engine

end Pastiche
