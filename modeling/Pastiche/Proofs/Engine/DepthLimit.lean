import Pastiche.Proofs.Engine.Dispatch

/-!
Two runs that differ in the depth limit only. As long as the one with the lower limit does not
overrun it, the other does the same, step by step: the depth itself is the same in both, and only
the guard compares it with the limit.
-/

namespace Pastiche

variable {σ α β : Type}

/-- The second step does what the first does, unless the result of the first is one of these. -/
def AgreeUnless (p : α → Prop) (step other : StateM (Session σ) α) : Prop :=
  ∀ session, ¬ p (step session).1 → other session = step session

theorem AgreeUnless.bind {p : α → Prop} {q : β → Prop} {step other : StateM (Session σ) α}
    {next more : α → StateM (Session σ) β} (h : AgreeUnless p step other)
    (hkept : ∀ a, p a → ∀ session, q (next a session).1)
    (hnext : ∀ session, AgreeUnless q (next (step session).1) (more (step session).1)) :
    AgreeUnless q (step >>= next) (other >>= more) := by
  intro session hsettled
  rw [bind_state] at hsettled
  have hresult : ¬ p (step session).1 := fun hp => hsettled (hkept _ hp _)
  rw [bind_state, bind_state, h session hresult]
  exact hnext session _ hsettled

/-- The second run does what the first does, unless the first overruns the depth limit. -/
def Agree (run other : Run σ α) : Prop := AgreeUnless Overrun run.run other.run

namespace Agree

theorem refl (run : Run σ α) : Agree run run := fun _ _ => rfl

theorem of_overrun {run other : Run σ α} (h : ∀ session, Overrun (run session).1) :
    Agree run other := fun session hsettled => absurd (h session) hsettled

theorem bind {run other : Run σ α} {next more : α → Run σ β} (h : Agree run other)
    (hnext : ∀ a, Agree (next a) (more a)) : Agree (run >>= next) (other >>= more) := by
  change AgreeUnless Overrun (run.run >>= ExceptT.bindCont next)
    (other.run >>= ExceptT.bindCont more)
  refine AgreeUnless.bind h ?_ ?_
  · rintro result ⟨token, limit, rfl⟩ session
    exact ⟨token, limit, rfl⟩
  · intro session
    cases (run.run session).1 with
    | ok a => exact hnext a
    | error fault => exact refl _

theorem mapM {run other : α → Run σ β} (h : ∀ a, Agree (run a) (other a)) (list : List α) :
    Agree (list.mapM run) (list.mapM other) := by
  induction list with
  | nil => exact refl _
  | cons a list ih =>
    rw [List.mapM_cons, List.mapM_cons]
    exact (h a).bind fun b => ih.bind fun more => refl _

theorem lift_bind {p : α → Prop} {step other : StateM (Session σ) α} {next more : α → Run σ β}
    (h : AgreeUnless p step other) (hkept : ∀ a, p a → ∀ session, Overrun (next a session).1)
    (hnext : ∀ session, Agree (next (step session).1) (more (step session).1)) :
    Agree (Run.lift step >>= next) (Run.lift other >>= more) :=
  AgreeUnless.bind h hkept hnext

theorem lift_same {step : StateM (Session σ) α} {next more : α → Run σ β}
    (h : ∀ session, Agree (next (step session).1) (more (step session).1)) :
    Agree (Run.lift step >>= next) (Run.lift step >>= more) :=
  lift_bind (p := fun _ => False) (fun _ _ => rfl) (fun _ hfalse => hfalse.elim) h

end Agree

namespace Engine

theorem splice_agree {evaluate other : List Char → Run σ String}
    (h : ∀ token, Agree (evaluate token) (other token)) (segments : List Directive.Segment) :
    Agree (splice evaluate segments) (splice other segments) := by
  induction segments with
  | nil => exact .refl _
  | cons segment rest ih =>
    cases segment with
    | text content => exact ih.bind fun more => .refl _
    | directive token => exact (h token).bind fun text => ih.bind fun more => .refl _

theorem report_overrun {reply : Except OperationError String} (h : ReportsOverrun reply)
    (token : String) (session : Session σ) : Overrun (report token reply session).1 := by
  obtain ⟨inner, depth, rfl⟩ := h
  exact ⟨inner, depth, rfl⟩

variable [Source σ]

theorem perform_always {p : α → Prop} {plan : Plan α} (h : plan.Always p) (engine : Engine)
    (context : Context σ) (own : Namespace) (session : Session σ) :
    p (engine.perform context own plan session).1 := by
  induction plan generalizing session with
  | done result => exact h
  | ask request next ih | resolve key next ih | expression template next ih
  | expand place template next ih => exact ih _ (h _) _

def limited (engine : Engine) (limit : Nat) : Engine :=
  { engine with config := { engine.config with maxDepth := limit } }

variable {engine : Engine} {limit higher : Nat}

theorem fetcher_limited : (engine.limited limit).fetcher = engine.fetcher := rfl

theorem registry_limited : (engine.limited limit).registry = engine.registry := rfl

theorem maxRepeat_limited : (engine.limited limit).config.maxRepeat = engine.config.maxRepeat := rfl

theorem generate_limited (generator : Generator) :
    (engine.limited limit).generate generator = (engine.generate generator : Run σ String) := by
  unfold generate
  rw [maxRepeat_limited]

theorem respond_limited (request : Request) :
    (engine.limited limit).respond request =
      (engine.respond request : StateM (Session σ) request.Answer) := by
  cases request with
  | generate generator => exact congrArg ExceptT.run (generate_limited generator)
  | fetch key | fetchList key | lookup key | draw bound | scope name | count counter => rfl

theorem route_limited (reference : String) (target : Namespace) :
    (engine.limited limit).route reference target =
      (engine.route reference target : StateM (Session σ) Route) := by
  simp only [route, routeMember, routeQualified, data?, fetcher_limited, registry_limited]

theorem perform_agree {context other : Context σ} {own : Namespace}
    (h : ∀ template, Agree (context.expand own template) (other.expand own template))
    {plan : Plan (Except OperationError α)} (hnested : plan.Nested) (hhandsOn : plan.HandsOn) :
    AgreeUnless ReportsOverrun ((engine.limited limit).perform context own plan)
      ((engine.limited higher).perform other own plan) := by
  induction plan with
  | done result => exact fun _ _ => rfl
  | ask request next ih =>
    intro session
    simp only [perform, respond_limited]
    exact ih _ (hnested _) (hhandsOn _) _
  | resolve key next ih =>
    obtain ⟨hoverrun, hrest⟩ := hhandsOn
    have hfetched : Agree (engine.fetcher.fetch key >>= context.expand own)
        (engine.fetcher.fetch key >>= other.expand own) := (Agree.refl _).bind h
    exact AgreeUnless.bind hfetched
      (fun answer hanswer => perform_always (hoverrun answer hanswer) _ _ _)
      fun session => ih _ (hnested _) (hrest _)
  | expression template next ih =>
    obtain ⟨hoverrun, hrest⟩ := hhandsOn
    exact AgreeUnless.bind (h template)
      (fun answer hanswer => perform_always (hoverrun answer hanswer) _ _ _)
      fun session => ih _ (hnested _) (hrest _)
  | expand place template next => exact hnested.elim

theorem applyTo_agree {context other : Context σ}
    (h : ∀ space template, space.All Operation.Obedient →
      Agree (context.expand space template) (other.expand space template))
    (hdepth : other.depth = context.depth) {space : Namespace} {operation : Operation}
    (hspace : space.All Operation.Obedient) (hoperation : operation.Obedient) (token name : String)
    (arguments : List String) :
    Agree ((engine.limited limit).applyTo context token space name operation arguments)
      ((engine.limited higher).applyTo other token space name operation arguments) := by
  have hcall := hoperation ⟨arguments, space.scope, context.depth + 1⟩
  rw [applyTo, applyTo, hdepth]
  refine .lift_same fun noted => ?_
  exact .lift_bind
    (perform_agree (fun template => h space template hspace) hcall.nested hcall.handsOn)
    (fun reply hreply => report_overrun hreply token) fun session => .refl _

theorem invoke_agree {context other : Context σ}
    (h : ∀ space template, space.All Operation.Obedient →
      Agree (context.expand space template) (other.expand space template))
    (hdepth : other.depth = context.depth) {directive : Directive} {caller space : Namespace}
    {name : String} {operation : Operation} (hcaller : caller.All Operation.Obedient)
    (hspace : space.All Operation.Obedient) (hoperation : operation.Obedient) :
    Agree ((engine.limited limit).invoke context directive caller space name operation)
      ((engine.limited higher).invoke other directive caller space name operation) := by
  have harguments : Agree (directive.arguments.mapM (context.expand caller))
      (directive.arguments.mapM (other.expand caller)) := .mapM (fun a => h caller a hcaller) _
  rw [invoke_eq, invoke_eq]
  refine .lift_bind harguments ?_ ?_
  · rintro result ⟨token, depth, rfl⟩ session
    exact ⟨token, depth, rfl⟩
  · intro session
    cases (ExceptT.run (directive.arguments.mapM (context.expand caller)) session).1 with
    | error fault => exact .refl _
    | ok arguments =>
      exact applyTo_agree h hdepth hspace hoperation directive.token name arguments

theorem follow_agree {context other : Context σ}
    (h : ∀ space template, space.All Operation.Obedient →
      Agree (context.expand space template) (other.expand space template))
    (hdepth : other.depth = context.depth) {directive : Directive} {target : Namespace}
    (htarget : target.All Operation.Obedient) {route : Route}
    (hroute : route.All Operation.Obedient) :
    Agree ((engine.limited limit).follow context directive target route)
      ((engine.limited higher).follow other directive target route) := by
  cases route with
  | call space name operation => exact invoke_agree h hdepth htarget hroute.1 hroute.2
  | data space template => exact h space template hroute
  | nowhere => exact .refl _

theorem evaluate_agree (hregistry : engine.registry.All Operation.Obedient)
    {context other : Context σ}
    (h : ∀ space template, space.All Operation.Obedient →
      Agree (context.expand space template) (other.expand space template))
    (hdepth : other.depth = context.depth) {target : Namespace}
    (htarget : target.All Operation.Obedient) (token : List Char) :
    Agree ((engine.limited limit).evaluate context target token)
      ((engine.limited higher).evaluate other target token) := by
  unfold evaluate
  cases Directive.parse? (String.ofList token) with
  | none => exact .refl _
  | some directive =>
    simp only [dispatch_eq, hdepth, route_limited]
    refine .lift_same fun noted => .lift_same fun session => ?_
    exact follow_agree h hdepth htarget (route_all hregistry htarget directive.reference session)

/-- More depth that is left and as much more that may be used come to the same depth. -/
theorem expandWithin_agree (hregistry : engine.registry.All Operation.Obedient)
    (restart restart' : Namespace → String → Run σ String) {left : Nat} (hleft : left ≤ limit) (more : Nat)
    {target : Namespace} (htarget : target.All Operation.Obedient) (template : String) :
    Agree ((engine.limited limit).expandWithin restart left target template)
      ((engine.limited (limit + more)).expandWithin restart' (left + more) target template) := by
  induction left generalizing target template with
  | zero =>
    rw [expandWithin_eq, expandWithin_eq]
    exact splice_agree (fun token => .of_overrun fun session => ⟨_, _, rfl⟩) _
  | succ left ih =>
    rw [expandWithin_eq, expandWithin_eq, Nat.succ_add]
    have hdepth : limit + more - (left + more + 1) = limit - (left + 1) := by omega
    refine splice_agree (fun token => ?_) _
    exact evaluate_agree hregistry
      (fun space nested hspace => ih (Nat.le_of_succ_le hleft) hspace nested) hdepth htarget token

/-- What comes of a template or a key under a depth limit, be it a text or a fault, comes of it
under every higher one, with the same draws, events and calls of operations on the way, unless the
lower limit was overrun. -/
theorem settled_of_higher_limit (hregistry : engine.registry.All Operation.Obedient)
    {target : Namespace} (htarget : target.All Operation.Obedient) (hle : limit ≤ higher) :
    (∀ (template : String) (session : Session σ),
      ¬ Overrun ((engine.limited limit).expression template target session).1 →
        (engine.limited higher).expression template target session =
          (engine.limited limit).expression template target session) ∧
      ∀ (key : String) (session : Session σ),
        ¬ Overrun ((engine.limited limit).resolve key target session).1 →
          (engine.limited higher).resolve key target session =
            (engine.limited limit).resolve key target session := by
  obtain ⟨more, rfl⟩ : ∃ more, higher = limit + more := ⟨higher - limit, by omega⟩
  have hexpression (template : String) :
      Agree ((engine.limited limit).expression template target)
        ((engine.limited (limit + more)).expression template target : Run σ String) :=
    expandWithin_agree hregistry _ _ (Nat.le_refl limit) more htarget template
  refine ⟨hexpression, fun key => ?_⟩
  exact (Agree.refl ((engine.limited limit).fetcher.fetch key)).bind hexpression

/-- An engine whose only data is filled in by an operation. -/
def codeEngine : Engine :=
  ⟨Config.default, Registry.default.register Builtin.idNumber,
    Store.empty.set .en "code" (.scalar "#\x7bnumerify 'A-#'\x7d")⟩

theorem not_overrun_of_toOption {result : Except Fault α} {a : α} (h : result.toOption = some a) :
    ¬ Overrun result := by
  rintro ⟨token, limit, rfl⟩
  cases h

theorem settled_of_higher_limit_codeEngine :
    let template := "<#\x7bcode\x7d>"
    let session := Session.start (RandomSource.fixed 7)
    ¬ Overrun ((codeEngine.limited 2).expression template codeEngine.registry.root session).1 ∧
      (codeEngine.limited 9).expression template codeEngine.registry.root session =
        (codeEngine.limited 2).expression template codeEngine.registry.root session ∧
      ¬ Overrun ((codeEngine.limited 2).resolve "code" codeEngine.registry.root session).1 ∧
      (codeEngine.limited 9).resolve "code" codeEngine.registry.root session =
        (codeEngine.limited 2).resolve "code" codeEngine.registry.root session := by
  intro template session
  have hregistry : codeEngine.registry.All Operation.Obedient := Registry.default_obedient
  have htext :
      ((codeEngine.limited 2).expression template codeEngine.registry.root session).1.toOption =
        some "<A-7>" := by decide +kernel
  have hcode : ((codeEngine.limited 2).resolve "code" codeEngine.registry.root session).1.toOption =
      some "A-7" := by decide +kernel
  have hkept := settled_of_higher_limit (σ := RandomSource) hregistry hregistry.root
    (show 2 ≤ 9 by decide)
  have hexpression := not_overrun_of_toOption htext
  have hresolve := not_overrun_of_toOption hcode
  exact ⟨hexpression, hkept.1 template session hexpression, hresolve,
    hkept.2 "code" session hresolve⟩

end Engine

end Pastiche
