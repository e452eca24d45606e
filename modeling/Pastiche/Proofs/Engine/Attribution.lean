import Pastiche.Proofs.Directive.Reference
import Pastiche.Proofs.Engine.Faults
import Pastiche.Proofs.Engine.Splice

/-!
The directive that an unresolved fault names. It is looked for from the template through data only:
what goes wrong in an argument or in an operation is put down to the directive that called it.
-/

namespace Pastiche

open Directive (cut? Cut Segment segments)

variable {σ : Type} [Source σ]

namespace Engine

/-- The directive leads nowhere, one of its arguments has a fault, or its operation replies with an
error. An overrun is none of these. -/
inductive Stuck (engine : Engine) (context : Context σ) (directive : Directive)
    (caller : Namespace) : Route → Session σ → Prop where
  | nowhere {middle : Session σ} : Stuck engine context directive caller .nowhere middle
  | argument {space : Namespace} {name : String} {operation : Operation} {fault : Fault}
      {middle expanded : Session σ}
      (harguments : (directive.arguments.mapM (context.expand caller)).run middle =
        (.error fault, expanded))
      (hfault : ∀ token limit, fault ≠ .tooDeep token limit) :
      Stuck engine context directive caller (.call space name operation) middle
  | reply {space : Namespace} {name : String} {operation : Operation} {arguments : List String}
      {error : OperationError} {middle expanded after : Session σ}
      (harguments : (directive.arguments.mapM (context.expand caller)).run middle =
        (.ok arguments, expanded))
      (hreply : engine.perform context space
        (operation ⟨arguments, space.scope, context.depth + 1⟩).run
        (Run.note (.called space.name name arguments (context.depth + 1)) expanded).2 =
          (.error error, after))
      (herror : ∀ token limit, error ≠ .engine (.tooDeep token limit)) :
      Stuck engine context directive caller (.call space name operation) middle

/-- The expansion of a template comes to a directive that is malformed or stuck, in the template or
in data that is expanded for it, after all that stands before it has been replaced. -/
inductive BreaksAt (engine : Engine) (restart : Namespace → String → Run σ String) :
    Nat → Namespace → String → Session σ → String → Prop where
  | malformed {left : Nat} {target : Namespace} {template : String} {session : Session σ}
      {cut : Cut} (hcut : cut? template.toList = some cut)
      (hparse : Directive.parse? (String.ofList cut.token) = none) :
      BreaksAt engine restart (left + 1) target template session (String.ofList cut.token)
  | stuck {left : Nat} {target : Namespace} {template : String} {session middle : Session σ}
      {cut : Cut} {directive : Directive} {route : Route} (hcut : cut? template.toList = some cut)
      (hparse : Directive.parse? (String.ofList cut.token) = some directive)
      (hroute : engine.route directive.reference target
        (Run.note (.dispatched directive.token (engine.config.maxDepth - (left + 1))) session).2 =
          (route, middle))
      (hstuck : engine.Stuck
        ⟨engine.expandWithin restart left, restart, engine.config.maxDepth - (left + 1)⟩
        directive target route middle) :
      BreaksAt engine restart (left + 1) target template session (String.ofList cut.token)
  | data {left : Nat} {target space : Namespace} {template inner token : String}
      {session middle : Session σ} {cut : Cut} {directive : Directive}
      (hcut : cut? template.toList = some cut)
      (hparse : Directive.parse? (String.ofList cut.token) = some directive)
      (hroute : engine.route directive.reference target
        (Run.note (.dispatched directive.token (engine.config.maxDepth - (left + 1))) session).2 =
          (.data space inner, middle))
      (hinner : BreaksAt engine restart left space inner middle token) :
      BreaksAt engine restart (left + 1) target template session token
  | later {left : Nat} {target : Namespace} {template value token : String}
      {session middle : Session σ} {cut : Cut} (hcut : cut? template.toList = some cut)
      (hvalue : engine.evaluateWithin restart left target cut.token session = (.ok value, middle))
      (hrest : BreaksAt engine restart left target (String.ofList cut.after) middle token) :
      BreaksAt engine restart left target template session token

/-- From one template to another through data that its directives stand for. -/
inductive FollowsData (σ : Type) [Source σ] (engine : Engine) :
    Namespace → String → Namespace → String → Prop where
  | refl {target : Namespace} {template : String} :
      FollowsData σ engine target template target template
  | step {target space last : Namespace} {template inner final : String} {token : List Char}
      {directive : Directive} {session middle : Session σ}
      (htoken : .directive token ∈ segments template.toList)
      (hparse : Directive.parse? (String.ofList token) = some directive)
      (hroute : engine.route directive.reference target session = (.data space inner, middle))
      (hrest : FollowsData σ engine space inner last final) :
      FollowsData σ engine target template last final

omit [Source σ] in
theorem fold_eq_unresolved_iff {token named : String} {error : OperationError}
    {session : Session σ} :
    ((fold token error : Run σ String) session).1 = .error (.unresolved named) ↔
      named = token ∧ ∀ inner limit, error ≠ .engine (.tooDeep inner limit) := by
  unfold fold
  split
  · rename_i inner limit
    constructor
    · intro h
      cases h
    · rintro ⟨-, hall⟩
      exact absurd rfl (hall inner limit)
  · rename_i hother
    constructor
    · intro h
      cases h
      exact ⟨rfl, hother⟩
    · rintro ⟨rfl, -⟩
      rfl

variable {engine : Engine} {context : Context σ} {directive : Directive} {target : Namespace}

theorem invoke_unresolved_iff {space : Namespace} {name : String} {operation : Operation}
    {middle : Session σ} {token : String} :
    (engine.invoke context directive target space name operation middle).1 =
        .error (.unresolved token) ↔
      token = directive.token ∧
        engine.Stuck context directive target (.call space name operation) middle := by
  obtain ⟨⟨result, expanded⟩, harguments⟩ : ∃ outcome,
    (directive.arguments.mapM (context.expand target)).run middle = outcome := ⟨_, rfl⟩
  simp only [invoke_eq, Run.lift_bind, harguments]
  cases result with
  | error fault =>
    rw [fold_eq_unresolved_iff]
    refine and_congr_right fun _ => ⟨fun h => .argument harguments ?_, fun h inner limit => ?_⟩
    · rintro inner limit rfl
      exact h inner limit rfl
    · cases h with
      | argument hother hfault =>
        rw [harguments] at hother
        cases hother
        exact fun heq => hfault inner limit (OperationError.engine.inj heq)
      | reply hother =>
        rw [harguments] at hother
        cases hother
  | ok arguments =>
    simp only [applyTo, Run.lift_bind]
    obtain ⟨⟨reply, after⟩, hreply⟩ : ∃ outcome,
      engine.perform context space
        (operation ⟨arguments, space.scope, context.depth + 1⟩).run
        (Run.note (.called space.name name arguments (context.depth + 1)) expanded).2 =
          outcome := ⟨_, rfl⟩
    rw [hreply]
    cases reply with
    | ok text =>
      constructor
      · intro h
        cases h
      · rintro ⟨-, hstuck⟩
        cases hstuck with
        | argument hother =>
          rw [harguments] at hother
          cases hother
        | reply hother hfailed =>
          rw [harguments] at hother
          cases hother
          rw [hreply] at hfailed
          cases hfailed
    | error error =>
      rw [report, fold_eq_unresolved_iff]
      refine and_congr_right fun _ => ⟨fun h => .reply harguments hreply h, fun h => ?_⟩
      cases h with
      | argument hother =>
        rw [harguments] at hother
        cases hother
      | reply hother hfailed herror =>
        rw [harguments] at hother
        cases hother
        rw [hreply] at hfailed
        cases hfailed
        exact herror

theorem follow_unresolved_iff {route : Route} {middle : Session σ} {token : String} :
    (engine.follow context directive target route middle).1 = .error (.unresolved token) ↔
      (token = directive.token ∧ engine.Stuck context directive target route middle) ∨
        ∃ space inner, route = .data space inner ∧
          (context.expand space inner middle).1 = .error (.unresolved token) := by
  cases route with
  | call space name operation =>
    refine invoke_unresolved_iff.trans ⟨.inl, ?_⟩
    rintro (h | ⟨space, inner, heq, -⟩)
    · exact h
    · cases heq
  | data space template =>
    refine ⟨fun h => .inr ⟨space, template, rfl, h⟩, ?_⟩
    rintro (⟨-, hstuck⟩ | ⟨space, inner, heq, h⟩)
    · cases hstuck
    · cases heq
      exact h
  | nowhere =>
    constructor
    · intro h
      cases h
      exact .inl ⟨rfl, .nowhere⟩
    · rintro (⟨rfl, -⟩ | ⟨space, inner, heq, -⟩)
      · rfl
      · cases heq

theorem evaluate_of_route {token : List Char} {route : Route} {session middle : Session σ}
    (hparse : Directive.parse? (String.ofList token) = some directive)
    (hroute : engine.route directive.reference target
      (Run.note (.dispatched directive.token context.depth) session).2 = (route, middle)) :
    engine.evaluate context target token session =
      engine.follow context directive target route middle := by
  rw [evaluate, hparse]
  simp only [dispatch_eq, Run.lift_bind, hroute]

variable {restart : Namespace → String → Run σ String} {left : Nat}

theorem expandWithin_error_iff {template : String} {cut : Cut} (hcut : cut? template.toList = some cut)
    {session : Session σ} {fault : Fault} :
    (engine.expandWithin restart left target template session).1 = .error fault ↔
      (engine.evaluateWithin restart left target cut.token session).1 = .error fault ∨
        ∃ value middle,
          engine.evaluateWithin restart left target cut.token session = (.ok value, middle) ∧
          (engine.expandWithin restart left target (String.ofList cut.after) middle).1 =
            .error fault := by
  obtain ⟨⟨result, middle⟩, hresult⟩ : ∃ outcome,
    engine.evaluateWithin restart left target cut.token session = outcome := ⟨_, rfl⟩
  rw [expandWithin_of_some hcut, hresult]
  cases result with
  | error other =>
    rw [Run.bind_of_error hresult]
    refine ⟨.inl, ?_⟩
    rintro (h | ⟨value, last, heq, -⟩)
    · exact h
    · cases heq
  | ok value =>
    rw [Run.bind_of_ok hresult, Run.bind_pure_error_iff]
    refine ⟨fun h => .inr ⟨value, middle, rfl, h⟩, ?_⟩
    rintro (h | ⟨other, last, heq, h⟩)
    · cases h
    · cases heq
      exact h

theorem breaksAt_of_evaluateWithin {template : String} {session : Session σ} {cut : Cut}
    {token : String} (hcut : cut? template.toList = some cut)
    (hinner : ∀ less space inner middle, left = less + 1 →
      (engine.expandWithin restart less space inner middle).1 = .error (.unresolved token) →
        engine.BreaksAt restart less space inner middle token)
    (h : (engine.evaluateWithin restart left target cut.token session).1 =
      .error (.unresolved token)) :
    engine.BreaksAt restart left target template session token := by
  cases left with
  | zero => cases h
  | succ less =>
    rw [evaluateWithin] at h
    cases hparse : Directive.parse? (String.ofList cut.token) with
    | none =>
      rw [evaluate, hparse] at h
      cases h
      exact .malformed hcut hparse
    | some directive =>
      rw [evaluate_of_route hparse rfl] at h
      rcases follow_unresolved_iff.mp h with ⟨rfl, hstuck⟩ | ⟨space, inner, hroute, hexpand⟩
      · rw [Directive.token_of_parse? hparse]
        exact .stuck hcut hparse rfl hstuck
      · exact .data hcut hparse (Prod.ext hroute rfl) (hinner less space inner _ rfl hexpand)

theorem breaksAt_of_unresolved {template : String} {session : Session σ} {token : String}
    (h : (engine.expandWithin restart left target template session).1 =
      .error (.unresolved token)) :
    engine.BreaksAt restart left target template session token := by
  -- data is expanded with less depth, and what is behind a directive is the rest of the template
  induction left using Nat.strongRecOn generalizing target template session with
  | ind left ih =>
    obtain ⟨cs, rfl⟩ : ∃ cs, template = String.ofList cs :=
      ⟨template.toList, String.ofList_toList.symm⟩
    induction cs using Directive.segments.induct generalizing session with
    | case1 cs hcut =>
      rw [expandWithin_of_none (by rwa [String.toList_ofList])] at h
      cases h
    | case2 cs cut hcut ihrest =>
      have hcut : cut? (String.ofList cs).toList = some cut := by rwa [String.toList_ofList]
      rcases (expandWithin_error_iff hcut).mp h with hfirst | ⟨value, middle, hvalue, hrest⟩
      · refine breaksAt_of_evaluateWithin hcut (fun less space inner middle hleft hinner => ?_) hfirst
        exact ih less (by omega) hinner
      · exact .later hcut hvalue (ihrest hrest)

theorem BreaksAt.unresolved {template : String} {session : Session σ} {token : String}
    (h : engine.BreaksAt restart left target template session token) :
    (engine.expandWithin restart left target template session).1 = .error (.unresolved token) := by
  induction h with
  | malformed hcut hparse =>
    refine (expandWithin_error_iff hcut).mpr (.inl ?_)
    rw [evaluateWithin, evaluate, hparse]
    rfl
  | stuck hcut hparse hroute hstuck =>
    refine (expandWithin_error_iff hcut).mpr (.inl ?_)
    rw [evaluateWithin, evaluate_of_route hparse hroute, ← Directive.token_of_parse? hparse]
    exact follow_unresolved_iff.mpr (.inl ⟨rfl, hstuck⟩)
  | data hcut hparse hroute hinner ih =>
    refine (expandWithin_error_iff hcut).mpr (.inl ?_)
    rw [evaluateWithin, evaluate_of_route hparse hroute]
    exact follow_unresolved_iff.mpr (.inr ⟨_, _, rfl, ih⟩)
  | later hcut hvalue hrest ih =>
    exact (expandWithin_error_iff hcut).mpr (.inr ⟨_, _, hvalue, ih⟩)

theorem FollowsData.of_after {template final : String} {last : Namespace} {cut : Cut}
    (hcut : cut? template.toList = some cut)
    (h : FollowsData σ engine target (String.ofList cut.after) last final) :
    (last = target ∧ final = String.ofList cut.after) ∨
      FollowsData σ engine target template last final := by
  cases h with
  | refl => exact .inl ⟨rfl, rfl⟩
  | step htoken hparse hroute hrest =>
    rw [String.toList_ofList] at htoken
    refine .inr (.step ?_ hparse hroute hrest)
    rw [Directive.segments_of_some hcut]
    exact List.mem_cons_of_mem _ (List.mem_cons_of_mem _ htoken)

theorem BreaksAt.followsData {template : String} {session : Session σ} {token : String}
    (h : engine.BreaksAt restart left target template session token) :
    ∃ last final, FollowsData σ engine target template last final ∧
      .directive token.toList ∈ segments final.toList := by
  have hmem {cs : List Char} {cut : Cut} (hcut : cut? cs = some cut) :
      .directive cut.token ∈ segments cs := by
    rw [Directive.segments_of_some hcut]
    simp
  induction h with
  | malformed hcut hparse => exact ⟨_, _, .refl, by rw [String.toList_ofList]; exact hmem hcut⟩
  | stuck hcut hparse hroute hstuck =>
    exact ⟨_, _, .refl, by rw [String.toList_ofList]; exact hmem hcut⟩
  | data hcut hparse hroute hinner ih =>
    obtain ⟨last, final, hfollows, htoken⟩ := ih
    exact ⟨last, final, .step (hmem hcut) hparse hroute hfollows, htoken⟩
  | later hcut hvalue hrest ih =>
    obtain ⟨last, final, hfollows, htoken⟩ := ih
    rcases hfollows.of_after hcut with ⟨rfl, rfl⟩ | hfollows
    · refine ⟨_, _, .refl, ?_⟩
      rw [String.toList_ofList] at htoken
      rw [Directive.segments_of_some hcut]
      exact List.mem_cons_of_mem _ (List.mem_cons_of_mem _ htoken)
    · exact ⟨last, final, hfollows, htoken⟩

/-- A fault of an expansion is an overrun of the limit of the engine or names a directive that the
expansion breaks at, and it names every directive that the expansion breaks at. A key that is not
found anywhere costs no draw, and any other fault is one of its template. -/
theorem faults_attributed (hregistry : engine.registry.All Operation.HandsBack)
    (htarget : target.All Operation.HandsBack) :
    (∀ (template : String) (session after : Session σ) (fault : Fault),
      engine.expression template target session = (.error fault, after) →
        (∃ token, fault = .tooDeep token engine.config.maxDepth) ∨
          ∃ token, fault = .unresolved token ∧
            engine.BreaksAt (engine.restartWithin maxRestarts) engine.config.maxDepth target
              template session token) ∧
      (∀ (template : String) (session : Session σ) (token : String),
        engine.BreaksAt (engine.restartWithin maxRestarts) engine.config.maxDepth target template
            session token →
          (engine.expression template target session).1 = .error (.unresolved token) ∧
            ∃ last final, FollowsData σ engine target template last final ∧
              .directive token.toList ∈ segments final.toList) ∧
      ∀ (key : String) (session after : Session σ) (fault : Fault),
        engine.resolve key target session = (.error fault, after) →
          (fault = .keyNotFound key engine.config.locale.chain ∧ after.source = session.source ∧
            ∀ locale ∈ engine.config.locale.chain, engine.store.lookup locale key = none) ∨
          ∃ template middle, engine.fetcher.fetch key session = (.ok template, middle) ∧
            engine.expression template target middle = (.error fault, after) := by
  refine ⟨fun template session after fault h => ?_, fun template session token h => ⟨h.unresolved, h.followsData⟩,
    fun key session after fault h => ?_⟩
  · have hfault : (engine.expression template target session).1 = .error fault := by rw [h]
    rcases expandWithin_closed hregistry (restartWithin_closed hregistry maxRestarts) _ htarget
      template session fault hfault with hdeep | ⟨token, rfl⟩
    · exact .inl hdeep
    · exact .inr ⟨token, rfl, breaksAt_of_unresolved hfault⟩
  · obtain ⟨⟨result, middle⟩, hfetch⟩ : ∃ outcome, engine.fetcher.fetch key session = outcome :=
      ⟨_, rfl⟩
    cases result with
    | error other =>
      rw [resolve, Run.bind_of_error hfetch] at h
      cases h
      exact .inl (fetch_error hfetch)
    | ok template =>
      rw [resolve, Run.bind_of_ok hfetch] at h
      exact .inr ⟨template, middle, hfetch, h⟩

/-- An engine with data whose only directive has a directive in its argument that leads nowhere. -/
def strayEngine : Engine :=
  ⟨Config.default, Registry.default.register Builtin.idNumber,
    Store.empty.set .en "greeting" (.scalar "hi #\x7bnumerify '#\x7bstray\x7d'\x7d")⟩

theorem faults_attributed_strayEngine :
    let session := Session.start (RandomSource.fixed 0)
    let root := strayEngine.registry.root
    let restart := strayEngine.restartWithin maxRestarts
    let token := "#\x7bnumerify '#\x7bstray\x7d'\x7d"
    strayEngine.registry.All Operation.HandsBack ∧ root.All Operation.HandsBack ∧
      (strayEngine.expression "#\x7bgreeting\x7d" root session).1 = .error (.unresolved token) ∧
      strayEngine.BreaksAt restart strayEngine.config.maxDepth root "#\x7bgreeting\x7d" session
        token ∧
      (strayEngine.resolve "farewell" root session).1 =
        .error (.keyNotFound "farewell" strayEngine.config.locale.chain) ∧
      (strayEngine.resolve "farewell" root session).2.source = session.source := by
  intro session root restart token
  have hregistry : strayEngine.registry.All Operation.HandsBack := Registry.default_handsBack
  obtain ⟨hclosed, -, hresolve⟩ := faults_attributed (σ := RandomSource) hregistry hregistry.root
  have hunresolved : (strayEngine.expression "#\x7bgreeting\x7d" root session).1 =
      .error (.unresolved token) := eq_error_of_fault? (by decide +kernel)
  have hbreaks : strayEngine.BreaksAt restart strayEngine.config.maxDepth root
      "#\x7bgreeting\x7d" session token := by
    rcases hclosed _ session _ _ (Prod.ext hunresolved rfl) with ⟨_, hdeep⟩ | ⟨_, heq, hbreaks⟩
    · cases hdeep
    · cases heq
      exact hbreaks
  have hmissing : (strayEngine.resolve "farewell" root session).1 =
      .error (.keyNotFound "farewell" strayEngine.config.locale.chain) :=
    eq_error_of_fault? (by decide +kernel)
  have hsource : (strayEngine.resolve "farewell" root session).2.source = session.source := by
    rcases hresolve _ session _ _ (Prod.ext hmissing rfl) with
      ⟨-, hsource, -⟩ | ⟨template, middle, -, hexpression⟩
    · exact hsource
    · rcases hclosed _ _ _ _ hexpression with ⟨_, heq⟩ | ⟨_, heq, -⟩
      · cases heq
      · cases heq
  exact ⟨hregistry, hregistry.root, hunresolved, hbreaks, hmissing, hsource⟩

end Engine

end Pastiche
