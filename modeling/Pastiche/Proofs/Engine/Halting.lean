import Pastiche.Proofs.Engine.DepthBound

/-!
The machine halts with what the engine gives. The induction is on the depth that is left, and for
one depth on the rest of the template, on the arguments and on the plan of an operation.
-/

namespace Pastiche.Engine

variable {σ : Type} [Source σ] {engine : Engine}

/-- Whatever waits, the machine comes from here to this outcome. -/
def Gives (engine : Engine) (control : Control) (session : Session σ)
    (outcome : Except Fault String × Session σ) : Prop :=
  ∀ frames, engine.Reaches ⟨control, frames, session⟩ ⟨.give outcome.1, frames, outcome.2⟩

namespace Gives

theorem give (result : Except Fault String) (session : Session σ) :
    engine.Gives (.give result) session (result, session) := fun _ => .refl _

theorem turn {task : Task} {session after : Session σ} {control : Control}
    {outcome : Except Fault String × Session σ}
    (h : engine.turn task session = ((control, []), after))
    (hnext : engine.Gives control after outcome) : engine.Gives (.work task) session outcome := by
  intro frames
  have hstep : engine.step ⟨.work task, frames, session⟩ = some ⟨control, frames, after⟩ := by
    simp only [Engine.step, h, List.nil_append]
  exact .step hstep (hnext frames)

/-- A task that puts off what waits for the result of another. -/
theorem push {task : Task} {session after middle : Session σ} {control : Control} {frame : Frame}
    {result : Except Fault String} {outcome : Except Fault String × Session σ}
    (h : engine.turn task session = ((control, [frame]), after))
    (hresult : engine.Gives control after (result, middle))
    (hnext : engine.Gives (resume frame result middle).1 (resume frame result middle).2 outcome) :
    engine.Gives (.work task) session outcome := by
  intro frames
  have hstep : engine.step ⟨.work task, frames, session⟩ =
      some ⟨control, frame :: frames, after⟩ := by
    simp only [Engine.step, h, List.singleton_append]
  have hresume : engine.Reaches ⟨.give result, frame :: frames, middle⟩
      ⟨.give outcome.1, frames, outcome.2⟩ := .step rfl (hnext frames)
  exact .step hstep ((hresult (frame :: frames)).trans hresume)

end Gives

section Splice

variable {evaluate : List Char → Run σ String} {token : List Char} {session after : Session σ}

omit [Source σ]

theorem splice_error {fault : Fault} (h : evaluate token session = (.error fault, after))
    (text : String) (before : List Char) (rest : List Directive.Segment) :
    (do pure (text ++ (← splice evaluate (.text before :: .directive token :: rest)))
      : Run σ String) session = (.error fault, after) := by
  simp only [splice, bind_assoc]
  exact Run.bind_of_error h

theorem splice_ok {value : String} (h : evaluate token session = (.ok value, after))
    (text : String) (before : List Char) (rest : List Directive.Segment) :
    (do pure (text ++ (← splice evaluate (.text before :: .directive token :: rest)))
      : Run σ String) session =
      (do pure (text ++ String.ofList before ++ value ++ (← splice evaluate rest)) : Run σ String)
        after := by
  simp only [splice, bind_assoc, pure_bind]
  rw [Run.bind_of_ok h]
  simp only [String.append_assoc]

end Splice

theorem gives_splice {target : Namespace} {depth : Nat} {evaluate : List Char → Run σ String}
    (h : ∀ token session,
      engine.Gives (.work (.evaluate target depth token)) session (evaluate token session))
    (text : String) (rest : List Char) (session : Session σ) :
    engine.Gives (.work (.scan target depth text rest)) session
      ((do pure (text ++ (← splice evaluate (Directive.segments rest)))
        : Run σ String) session) := by
  induction rest using Directive.segments.induct generalizing text session with
  | case1 cs hcut =>
    rw [Directive.segments_of_none hcut]
    have hturn : engine.turn (.scan target depth text cs) session =
        ((.give (.ok (text ++ String.ofList cs)), []), session) := by
      simp only [turn, scan, hcut]
      rfl
    have houtcome : (do pure (text ++ (← splice evaluate [.text cs])) : Run σ String) session =
        (.ok (text ++ (String.ofList cs ++ "")), session) := rfl
    rw [houtcome, String.append_empty]
    exact .turn hturn (.give _ _)
  | case2 cs cut hcut ih =>
    rw [Directive.segments_of_some hcut]
    have hturn : engine.turn (.scan target depth text cs) session =
        ((.work (.evaluate target depth cut.token),
          [.splice target depth (text ++ String.ofList cut.before) cut.after]), session) := by
      simp only [turn, scan, hcut]
      rfl
    refine .push hturn (h cut.token session) ?_
    obtain ⟨⟨result, after⟩, hevaluate⟩ :
        ∃ outcome, evaluate cut.token session = outcome := ⟨_, rfl⟩
    cases result with
    | error fault =>
      rw [splice_error hevaluate, hevaluate]
      exact .give _ _
    | ok value =>
      rw [splice_ok hevaluate, hevaluate]
      exact ih _ _

theorem gives_lookup {target : Namespace} {depth : Nat} {expand : String → Run σ String}
    (h : ∀ template session, engine.Gives (.work (.scan target depth "" template.toList)) session
      (expand template session))
    (key : String) (session : Session σ) :
    engine.Gives (.work (.lookup target depth key)) session
      ((engine.fetcher.fetch key >>= expand) session) := by
  obtain ⟨⟨found, after⟩, hfetch⟩ :
      ∃ outcome, engine.fetcher.fetch key session = outcome := ⟨_, rfl⟩
  cases found with
  | error fault =>
    rw [Run.bind_of_error hfetch]
    have hturn : engine.turn (.lookup target depth key) session =
        ((.give (.error fault), []), after) := by
      simp only [turn, lookup, bind_state, ExceptT.run, hfetch]
      rfl
    exact .turn hturn (.give _ _)
  | ok template =>
    rw [Run.bind_of_ok hfetch]
    have hturn : engine.turn (.lookup target depth key) session =
        ((.work (.scan target depth "" template.toList), []), after) := by
      simp only [turn, lookup, bind_state, ExceptT.run, hfetch]
      rfl
    exact .turn hturn (h template after)

theorem gives_perform {context : Context σ} {space : Namespace} {depth : Nat}
    (h : ∀ template session, engine.Gives (.work (.scan space depth "" template.toList)) session
      (context.expand space template session))
    (token : String) {plan : Plan (Except OperationError String)} (hplan : plan.Nested)
    (session : Session σ) :
    engine.Gives (.work (.perform token space depth plan)) session
      (report token (engine.perform context space plan session).1
        (engine.perform context space plan session).2) := by
  induction plan generalizing session with
  | done reply =>
    cases reply with
    | ok text => exact .turn rfl (.give _ _)
    | error error => exact .turn rfl (.give _ _)
  | ask request next ih => exact .turn rfl (ih _ (hplan _) _)
  | resolve key next ih => exact .push rfl (gives_lookup h key session) (ih _ (hplan _) _)
  | expression template next ih => exact .push rfl (h template session) (ih _ (hplan _) _)
  | expand place template next => exact hplan.elim

section Collect

variable {context : Context σ} {call : Call} {session after : Session σ}

def invokeWith (engine : Engine) (context : Context σ) (call : Call)
    (arguments pending : List String) : Run σ String := do
  match ← Run.lift (pending.mapM (context.expand call.caller)).run with
  | .error fault => fold call.directive.token (.engine fault)
  | .ok more =>
    engine.applyTo context call.directive.token call.space call.name call.operation
      (arguments ++ more)

theorem invoke_eq_invokeWith (directive : Directive) (caller space : Namespace) (name : String)
    (operation : Operation) (depth : Nat) :
    engine.invoke context directive caller space name operation =
      engine.invokeWith context ⟨directive, caller, space, name, operation, depth⟩ []
        directive.arguments :=
  engine.invoke_eq context directive caller space name operation

theorem invokeWith_nil (arguments : List String) :
    engine.invokeWith context call arguments [] =
      engine.applyTo context call.directive.token call.space call.name call.operation
        arguments := by
  rw [invokeWith, List.mapM_nil]
  change engine.applyTo context _ _ _ _ (arguments ++ []) = _
  rw [List.append_nil]

theorem invokeWith_error {argument : String} {fault : Fault}
    (h : context.expand call.caller argument session = (.error fault, after))
    (arguments pending : List String) :
    engine.invokeWith context call arguments (argument :: pending) session =
      fold call.directive.token (.engine fault) after := by
  rw [invokeWith, List.mapM_cons, Run.lift_bind, ExceptT.run, Run.bind_of_error h]

theorem invokeWith_ok {argument value : String}
    (h : context.expand call.caller argument session = (.ok value, after))
    (arguments pending : List String) :
    engine.invokeWith context call arguments (argument :: pending) session =
      engine.invokeWith context call (arguments ++ [value]) pending after := by
  rw [invokeWith, invokeWith, List.mapM_cons, Run.lift_bind, Run.lift_bind, ExceptT.run,
    Run.bind_of_ok h]
  obtain ⟨⟨found, later⟩, hpending⟩ :
      ∃ outcome, pending.mapM (context.expand call.caller) after = outcome := ⟨_, rfl⟩
  cases found with
  | error fault =>
    rw [Run.bind_of_error hpending, ExceptT.run, hpending]
  | ok more =>
    have hassoc : arguments ++ [value] ++ more = arguments ++ value :: more := by simp
    rw [Run.bind_of_ok hpending, ExceptT.run, hpending]
    simp only [hassoc]
    rfl

theorem gives_collect (hdepth : context.depth = call.depth)
    (h : ∀ space template session, space.All Operation.Nested →
      engine.Gives (.work (.scan space (call.depth + 1) "" template.toList)) session
        (context.expand space template session))
    (hcaller : call.caller.All Operation.Nested) (hspace : call.space.All Operation.Nested)
    (hoperation : call.operation.Nested) (arguments pending : List String) (session : Session σ) :
    engine.Gives (.work (.collect call arguments pending)) session
      (engine.invokeWith context call arguments pending session) := by
  induction pending generalizing arguments session with
  | nil =>
    have hplan := hoperation ⟨arguments, call.space.scope, call.depth + 1⟩
    have hnested := gives_perform (fun template session => h call.space template session hspace)
      call.directive.token hplan
    rw [invokeWith_nil, applyTo, hdepth]
    exact .turn rfl (hnested _)
  | cons argument pending ih =>
    have hargument := h call.caller argument session hcaller
    obtain ⟨⟨result, after⟩, hexpand⟩ :
        ∃ outcome, context.expand call.caller argument session = outcome := ⟨_, rfl⟩
    rw [hexpand] at hargument
    refine .push rfl hargument ?_
    cases result with
    | error fault =>
      rw [invokeWith_error hexpand]
      exact .give _ _
    | ok value =>
      rw [invokeWith_ok hexpand]
      exact ih _ _

end Collect

theorem gives_enter (hregistry : engine.registry.All Operation.Nested) {target : Namespace}
    (htarget : target.All Operation.Nested) {context : Context σ}
    (h : ∀ space template session, space.All Operation.Nested →
      engine.Gives (.work (.scan space (context.depth + 1) "" template.toList)) session
        (context.expand space template session))
    (token : List Char) (session : Session σ) :
    engine.Gives (engine.enter target context.depth token session).1
      (engine.enter target context.depth token session).2
      (engine.evaluate context target token session) := by
  unfold enter evaluate
  cases Directive.parse? (String.ofList token) with
  | none => exact .give _ _
  | some directive =>
    simp only [dispatch_eq, Run.lift_bind, bind_state]
    have hroute := route_all hregistry htarget directive.reference
      (Run.note (.dispatched directive.token context.depth) session).2
    obtain ⟨⟨route, after⟩, hfound⟩ : ∃ outcome, engine.route directive.reference target
      (Run.note (.dispatched directive.token context.depth) session).2 = outcome := ⟨_, rfl⟩
    rw [hfound] at hroute ⊢
    cases route with
    | call space name operation =>
      simp only [follow, invoke_eq_invokeWith _ _ _ _ _ context.depth]
      exact gives_collect rfl h htarget hroute.1 hroute.2 [] directive.arguments after
    | data space template => exact h space template after hroute
    | nowhere => exact .give _ _

theorem gives_scan {target : Namespace} {depth left : Nat} {restart : Namespace → String → Run σ String}
    (h : ∀ token session, engine.Gives (.work (.evaluate target depth token)) session
      (engine.evaluateWithin restart left target token session))
    (template : String) (session : Session σ) :
    engine.Gives (.work (.scan target depth "" template.toList)) session
      (engine.expandWithin restart left target template session) := by
  have hsplice := gives_splice h "" template.toList session
  simp only [String.empty_append, bind_pure] at hsplice
  rw [expandWithin_eq]
  exact hsplice

/-- Where the depth and what is left of it make up the limit, the machine gives what the engine
gives. -/
theorem gives_expandWithin (hregistry : engine.registry.All Operation.Nested)
    (restart : Namespace → String → Run σ String) {depth left : Nat}
    (hleft : depth + left = engine.config.maxDepth) {target : Namespace}
    (htarget : target.All Operation.Nested) (template : String) (session : Session σ) :
    engine.Gives (.work (.scan target depth "" template.toList)) session
      (engine.expandWithin restart left target template session) := by
  induction left generalizing depth target template session with
  | zero =>
    have hdepth : engine.config.maxDepth ≤ depth := by omega
    refine gives_scan (fun token session => ?_) template session
    have hturn : engine.turn (.evaluate target depth token) session =
        ((.give (.error (.tooDeep (String.ofList token) engine.config.maxDepth)), []),
          session) := by
      rw [turn, if_pos hdepth]
      rfl
    exact .turn hturn (.give _ _)
  | succ left ih =>
    have hdepth : ¬ engine.config.maxDepth ≤ depth := by omega
    have hcontext : engine.config.maxDepth - (left + 1) = depth := by omega
    refine gives_scan (fun token session => ?_) template session
    have hturn : engine.turn (.evaluate target depth token) session =
        (((engine.enter target depth token session).1, []),
          (engine.enter target depth token session).2) := by
      rw [turn, if_neg hdepth]
      rfl
    have hnested (space : Namespace) (nested : String) (session : Session σ)
        (hspace : space.All Operation.Nested) :
        engine.Gives (.work (.scan space (depth + 1) "" nested.toList)) session
          (engine.expandWithin restart left space nested session) :=
      ih (by omega) hspace nested session
    let context : Context σ := ⟨engine.expandWithin restart left, restart, depth⟩
    have henter : engine.Gives (engine.enter target context.depth token session).1
        (engine.enter target context.depth token session).2
        (engine.evaluate context target token session) :=
      gives_enter hregistry htarget hnested token session
    rw [evaluateWithin, hcontext]
    exact .turn hturn henter

/-- The machine halts with the outcome after some number of steps, and however many steps it makes,
it stays within the depth limit. -/
structure Halts (engine : Engine) (task : Task) (session : Session σ)
    (outcome : Except Fault String × Session σ) : Prop where
  stops : ∃ count,
    engine.after count ⟨.work task, [], session⟩ = ⟨.give outcome.1, [], outcome.2⟩ ∧
      engine.step (engine.after count ⟨.work task, [], session⟩) = none
  within : ∀ count,
    (engine.after count ⟨.work task, [], session⟩).Within engine.config.maxDepth session
  journal : session.Extends (Event.Within engine.config.maxDepth) outcome.2

theorem halts_of_gives {task : Task} {session : Session σ}
    {outcome : Except Fault String × Session σ} (h : engine.Gives (.work task) session outcome)
    (htask : task.Within engine.config.maxDepth) : engine.Halts task session outcome := by
  have hstart : Machine.Within engine.config.maxDepth session ⟨.work task, [], session⟩ :=
    .of_control htask (.refl session)
  obtain ⟨count, hcount⟩ := h []
  have hlast := after_within hstart count
  rw [hcount] at hlast
  exact ⟨⟨count, hcount, by rw [hcount]; rfl⟩, after_within hstart, hlast.journal⟩

/-- Expansion ends for all data, also for data that leads to itself, and it never gets deeper than
the limit. -/
theorem expansion_halts (hregistry : engine.registry.All Operation.Nested) {target : Namespace}
    (htarget : target.All Operation.Nested) (session : Session σ) :
    (∀ template : String, engine.Halts (.scan target 0 "" template.toList) session
      (engine.expression template target session)) ∧
      ∀ key, engine.Halts (.lookup target 0 key) session (engine.resolve key target session) := by
  have hexpression (template : String) (session : Session σ) :
      engine.Gives (.work (.scan target 0 "" template.toList)) session
        (engine.expression template target session) :=
    gives_expandWithin hregistry _ (Nat.zero_add _) htarget template session
  refine ⟨fun template => halts_of_gives (hexpression template session) (Nat.zero_le _), ?_⟩
  exact fun key => halts_of_gives (gives_lookup hexpression key session) (Nat.zero_le _)

/-- An engine whose only data leads to itself. -/
def loopEngine : Engine :=
  ⟨Config.default, Registry.default.register Builtin.idNumber,
    Store.empty.set .en "loop" (.scalar "#\x7bloop\x7d")⟩

theorem expansion_halts_loopEngine :
    let session := Session.start (RandomSource.fixed 0)
    let root := loopEngine.registry.root
    loopEngine.registry.All Operation.Nested ∧ root.All Operation.Nested ∧
      loopEngine.Halts (.scan root 0 "" "<#\x7bloop\x7d>".toList) session
        (loopEngine.expression "<#\x7bloop\x7d>" root session) ∧
      loopEngine.Halts (.lookup root 0 "loop") session
        (loopEngine.resolve "loop" root session) := by
  intro session root
  have hregistry : loopEngine.registry.All Operation.Nested :=
    Registry.default_obedient.imp fun operation hoperation call => (hoperation call).nested
  have hhalts := expansion_halts hregistry hregistry.root session
  exact ⟨hregistry, hregistry.root, hhalts.1 _, hhalts.2 _⟩

end Pastiche.Engine
