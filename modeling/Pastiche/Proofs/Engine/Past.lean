import Pastiche.Proofs.Engine.Precedence

/-!
The journal is written and never read. So whatever an engine does, it does the same after another
past, and what it writes stands in the journal above that past.
-/

namespace Pastiche

variable {σ α β : Type}

def Session.onto (session : Session σ) (past : List Event) : Session σ :=
  { session with journal := session.journal ++ past }

/-- The step comes to the same after any past, and leaves that past in the journal. -/
def Oblivious (step : StateM (Session σ) α) : Prop :=
  ∀ (session : Session σ) (past : List Event),
    step (session.onto past) = ((step session).1, (step session).2.onto past)

namespace Oblivious

theorem pure (a : α) : Oblivious (Pure.pure a : StateM (Session σ) α) := fun _ _ => rfl

theorem bind {step : StateM (Session σ) α} {next : α → StateM (Session σ) β} (h : Oblivious step)
    (hnext : ∀ a, Oblivious (next a)) : Oblivious (step >>= next) := by
  intro session past
  rw [bind_of_eq (h session past), hnext]
  rfl

theorem bind_run {run : Run σ α} {next : α → Run σ β} (h : Oblivious run.run)
    (hnext : ∀ a, Oblivious (next a).run) : Oblivious (run >>= next).run := by
  have hresult : ∀ result, Oblivious (ExceptT.bindCont next result) := by
    intro result
    cases result with
    | ok a => exact hnext a
    | error fault => exact Oblivious.pure _
  exact h.bind hresult

theorem throw (fault : Fault) : Oblivious (MonadExcept.throw fault : Run σ α).run := fun _ _ => rfl

theorem note (event : Event) : Oblivious (Run.note event : StateM (Session σ) Unit) :=
  fun _ _ => rfl

theorem draw (step : StateM σ α) : Oblivious (Run.draw step) := fun _ _ => rfl

theorem count (counter : String) : Oblivious (Run.count counter : StateM (Session σ) Nat) :=
  fun _ _ => rfl

theorem lift {step : StateM (Session σ) α} (h : Oblivious step) : Oblivious (Run.lift step).run :=
  h.bind fun _ => pure _

theorem lift_bind {step : StateM (Session σ) α} {next : α → Run σ β} (h : Oblivious step)
    (hnext : ∀ a, Oblivious (next a).run) : Oblivious (Run.lift step >>= next).run :=
  h.lift.bind_run hnext

theorem mapM {run : α → Run σ β} (h : ∀ a, Oblivious (run a).run) (list : List α) :
    Oblivious (list.mapM run).run := by
  induction list with
  | nil => exact pure _
  | cons a list ih =>
    rw [List.mapM_cons]
    exact (h a).bind_run fun b => ih.bind_run fun more => pure _

theorem of_eq {step : StateM (Session σ) α} (h : Oblivious step) {session after : Session σ}
    {past : List Event} {a : α} (heq : step (session.onto past) = (a, after)) :
    ∃ settled : Session σ, after = settled.onto past ∧
      ∀ other, step (session.onto other) = (a, settled.onto other) := by
  rw [h session past] at heq
  cases heq
  exact ⟨(step session).2, rfl, h session⟩

end Oblivious

namespace Fetcher

theorem lookupIn_oblivious (store : Store) (key : String) (locales : List Locale) :
    Oblivious (lookupIn store key locales : StateM (Session σ) (Option Entry)) := by
  induction locales with
  | nil => exact .pure _
  | cons locale rest ih =>
    refine .bind (.note _) fun _ => ?_
    cases store.lookup locale key with
    | some entry => exact .pure _
    | none => exact ih

theorem fetchList_oblivious (fetcher : Fetcher) (key : String) :
    Oblivious (fetcher.fetchList key : Run σ (List String)).run := by
  refine .lift_bind (lookupIn_oblivious fetcher.store key fetcher.chain) fun entry => ?_
  cases entry with
  | none => exact .throw _
  | some entry =>
    cases entry with
    | scalar text => exact .pure _
    | list items => exact .pure _

variable [Source σ]

theorem select_oblivious (entry : Entry) :
    Oblivious (select entry : StateM (Session σ) String) := by
  cases entry with
  | scalar text => exact .pure _
  | list items => exact .bind (.draw _) fun index => .pure _

theorem fetch?_oblivious (fetcher : Fetcher) (key : String) :
    Oblivious (fetcher.fetch? key : StateM (Session σ) (Option String)) := by
  refine .bind (lookupIn_oblivious fetcher.store key fetcher.chain) fun entry => ?_
  cases entry with
  | none => exact .pure _
  | some entry => exact .bind (select_oblivious entry) fun text => .pure _

theorem fetch_oblivious (fetcher : Fetcher) (key : String) :
    Oblivious (fetcher.fetch key : Run σ String).run := by
  refine .lift_bind (fetch?_oblivious fetcher key) fun found => ?_
  cases found with
  | some text => exact .pure _
  | none => exact .throw _

end Fetcher

namespace Engine

theorem splice_oblivious {evaluate : List Char → Run σ String}
    (h : ∀ token, Oblivious (evaluate token).run) (segments : List Directive.Segment) :
    Oblivious (splice evaluate segments).run := by
  induction segments with
  | nil => exact .pure _
  | cons segment rest ih =>
    cases segment with
    | text content => exact ih.bind_run fun more => .pure _
    | directive token => exact (h token).bind_run fun text => ih.bind_run fun more => .pure _

theorem fold_oblivious (token : String) (error : OperationError) :
    Oblivious (fold token error : Run σ String).run := by
  unfold fold
  split
  · exact .throw _
  · exact .lift_bind (.note _) fun _ => .throw _

theorem report_oblivious (token : String) (reply : Except OperationError String) :
    Oblivious (report token reply : Run σ String).run := by
  cases reply with
  | ok text => exact .pure _
  | error error => exact fold_oblivious token error

theorem giveUp_oblivious (directive : Directive) (target : Namespace) :
    Oblivious (giveUp directive target : Run σ String).run :=
  .lift_bind (.note _) fun _ => .throw _

variable [Source σ]

theorem generate_oblivious (engine : Engine) (generator : Generator) :
    Oblivious (engine.generate generator : Run σ String).run := by
  have hdraw (step : StateM σ String) : Oblivious (Run.lift (Run.draw step)).run := .lift (.draw step)
  unfold generate
  split
  · exact hdraw _
  · exact hdraw _
  · exact hdraw _
  · exact hdraw _
  · split
    · exact hdraw _
    · exact .throw _

theorem respond_oblivious (engine : Engine) (request : Request) :
    Oblivious (engine.respond request : StateM (Session σ) request.Answer) := by
  cases request with
  | fetch key => exact Fetcher.fetch_oblivious engine.fetcher key
  | fetchList key => exact Fetcher.fetchList_oblivious engine.fetcher key
  | lookup key => exact Fetcher.lookupIn_oblivious engine.store key engine.fetcher.chain
  | generate generator => exact generate_oblivious engine generator
  | draw bound => exact .draw _
  | scope name => exact .pure _
  | count counter => exact .count counter

structure Context.Oblivious (context : Context σ) : Prop where
  expand : ∀ space template, Pastiche.Oblivious (context.expand space template).run
  restart : ∀ space template, Pastiche.Oblivious (context.restart space template).run

theorem perform_oblivious (engine : Engine) {context : Context σ} (h : context.Oblivious)
    (own : Namespace) (plan : Plan α) : Oblivious (engine.perform context own plan) := by
  induction plan with
  | done result => exact .pure _
  | ask request next ih => exact (respond_oblivious engine request).bind ih
  | resolve key next ih =>
    have hfetched := (Fetcher.fetch_oblivious engine.fetcher key).bind_run (h.expand own)
    exact hfetched.bind ih
  | expression template next ih => exact (h.expand own template).bind ih
  | expand place template next ih => exact (h.restart _ template).bind ih

theorem choose_oblivious (engine : Engine) (candidates : List Candidate) :
    Oblivious (engine.choose candidates : StateM (Session σ) Route) := by
  induction candidates with
  | nil => exact .pure _
  | cons candidate rest ih =>
    cases candidate with
    | operation space name =>
      rw [choose]
      cases space.get? name with
      | some operation => exact .pure _
      | none => exact ih
    | data space key =>
      refine .bind (Fetcher.fetch?_oblivious engine.fetcher key) fun found => ?_
      cases found with
      | some template => exact .pure _
      | none => exact ih

section Directive

variable {context : Context σ} (h : context.Oblivious)

include h

theorem applyTo_oblivious (engine : Engine) (token : String) (space : Namespace) (name : String)
    (operation : Operation) (arguments : List String) :
    Oblivious (engine.applyTo context token space name operation arguments).run := by
  refine .lift_bind (.note _) fun _ => .lift_bind ?_ fun reply => report_oblivious token reply
  exact perform_oblivious engine h space _

theorem follow_oblivious (engine : Engine) (directive : Directive) (target : Namespace)
    (route : Route) : Oblivious (engine.follow context directive target route).run := by
  cases route with
  | call space name operation =>
    rw [follow, invoke_eq]
    refine .lift_bind (.mapM (h.expand target) _) fun result => ?_
    cases result with
    | error fault => exact fold_oblivious directive.token _
    | ok arguments => exact applyTo_oblivious h engine directive.token space name operation arguments
  | data space template => exact h.expand space template
  | nowhere => exact giveUp_oblivious directive target

theorem evaluate_oblivious (engine : Engine) (target : Namespace) (token : List Char) :
    Oblivious (engine.evaluate context target token).run := by
  unfold evaluate
  cases Directive.parse? (String.ofList token) with
  | none => exact .lift_bind (.note _) fun _ => .throw _
  | some directive =>
    obtain ⟨candidates, hcandidates⟩ := exists_candidates engine directive.reference target
    simp only [dispatch_eq, route_eq hcandidates]
    refine .lift_bind (.note _) fun _ => .lift_bind (choose_oblivious engine _) fun route => ?_
    exact follow_oblivious h engine directive target route

end Directive

theorem expandWithin_oblivious (engine : Engine) {restart : Namespace → String → Run σ String}
    (hrestart : ∀ space template, Oblivious (restart space template).run) (left : Nat) (target : Namespace)
    (template : String) : Oblivious (engine.expandWithin restart left target template).run := by
  induction left generalizing target template with
  | zero => exact splice_oblivious (fun token => .throw _) _
  | succ left ih =>
    exact splice_oblivious (fun token => evaluate_oblivious ⟨ih, hrestart⟩ engine target token) _

theorem restartWithin_oblivious (engine : Engine) (restarts : Nat) (target : Namespace)
    (template : String) :
    Oblivious (engine.restartWithin restarts target template : Run σ String).run := by
  induction restarts generalizing target template with
  | zero => exact .throw _
  | succ restarts ih => exact expandWithin_oblivious engine ih _ _ template

end Engine

end Pastiche
