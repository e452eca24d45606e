import Pastiche.Proofs.Engine.Dispatch
import Pastiche.Proofs.Fetcher
import Pastiche.Proofs.Operation.Handed

/-!
The faults of an expansion. A directive comes to an overrun of the limit of the engine or to a
directive that is not resolved; whatever else goes wrong inside is folded on the way.
-/

namespace Pastiche

variable {σ α β : Type}

def FailsWith (p : Fault → Prop) (run : Run σ α) : Prop :=
  ∀ session fault, (run session).1 = .error fault → p fault

namespace FailsWith

variable {p q : Fault → Prop}

theorem pure (a : α) : FailsWith p (Pure.pure a : Run σ α) := fun _ _ h => nomatch h

theorem throw {fault : Fault} (h : p fault) : FailsWith p (MonadExcept.throw fault : Run σ α) := by
  intro session other hother
  cases hother
  exact h

theorem imp {run : Run σ α} (h : FailsWith p run) (himp : ∀ fault, p fault → q fault) :
    FailsWith q run := fun session fault hfault => himp fault (h session fault hfault)

theorem bind {run : Run σ α} {next : α → Run σ β} (h : FailsWith p run)
    (hnext : ∀ a, FailsWith p (next a)) : FailsWith p (run >>= next) := by
  intro session fault hfault
  obtain ⟨⟨result, middle⟩, hrun⟩ : ∃ outcome, run session = outcome := ⟨_, rfl⟩
  cases result with
  | ok a =>
    rw [Run.bind_of_ok hrun] at hfault
    exact hnext a middle fault hfault
  | error other =>
    rw [Run.bind_of_error hrun] at hfault
    cases hfault
    exact h session fault (by rw [hrun])

theorem lift_bind {step : StateM (Session σ) α} {next : α → Run σ β}
    (h : ∀ session, FailsWith p (next (step session).1)) : FailsWith p (Run.lift step >>= next) :=
  fun session fault hfault => h session _ fault hfault

theorem mapM {run : α → Run σ β} (h : ∀ a, FailsWith p (run a)) (list : List α) :
    FailsWith p (list.mapM run) := by
  induction list with
  | nil => exact pure _
  | cons a list ih =>
    rw [List.mapM_cons]
    exact (h a).bind fun b => ih.bind fun more => pure _

theorem fault? {run : Run σ α} (h : FailsWith p run) (session : Session σ) :
    ∀ fault ∈ Pastiche.fault? (run session).1, p fault :=
  fun fault hfault => h session fault (eq_error_of_fault? hfault)

end FailsWith

/-- If the fault is an overrun, it names this limit. -/
def Fault.Within (limit : Nat) (fault : Fault) : Prop :=
  ∀ token other, fault = .tooDeep token other → other = limit

def Fault.Closed (limit : Nat) (fault : Fault) : Prop :=
  (∃ token, fault = .tooDeep token limit) ∨ ∃ token, fault = .unresolved token

theorem Fault.Closed.within {limit : Nat} {fault : Fault} (h : fault.Closed limit) :
    fault.Within limit := by
  rintro token other rfl
  rcases h with ⟨inner, heq⟩ | ⟨inner, heq⟩
  · cases heq
    rfl
  · cases heq

namespace Engine

theorem splice_failsWith {p : Fault → Prop} {evaluate : List Char → Run σ String}
    (h : ∀ token, FailsWith p (evaluate token)) (segments : List Directive.Segment) :
    FailsWith p (splice evaluate segments) := by
  induction segments with
  | nil => exact .pure _
  | cons segment rest ih =>
    cases segment with
    | text content => exact ih.bind fun more => .pure _
    | directive token => exact (h token).bind fun text => ih.bind fun more => .pure _

theorem fold_failsWith {limit : Nat} {error : OperationError}
    (h : ∀ fault, error = .engine fault → fault.Within limit) (token : String) :
    FailsWith (Fault.Closed limit) (fold token error : Run σ String) := by
  unfold fold
  split
  · rename_i inner other
    refine .throw (.inl ⟨inner, ?_⟩)
    rw [h _ rfl inner other rfl]
  · exact .lift_bind fun session => .throw (.inr ⟨token, rfl⟩)

theorem fetchList_failsWith {p : Fault → Prop} {fetcher : Fetcher} {key : String}
    (h : p (fetcher.notFound key)) : FailsWith p (fetcher.fetchList key : Run σ (List String)) := by
  refine .lift_bind fun session => ?_
  cases (fetcher.lookup key session).1 with
  | none => exact .throw h
  | some entry =>
    cases entry with
    | scalar text => exact .pure _
    | list items => exact .pure _

variable [Source σ] {engine : Engine} {limit : Nat}

/-- A fetch that fails has seen the whole chain, and nothing is drawn for it. -/
theorem fetch_error {fetcher : Fetcher} {key : String} {session after : Session σ} {fault : Fault}
    (h : fetcher.fetch key session = (.error fault, after)) :
    fault = fetcher.notFound key ∧ after.source = session.source ∧
      ∀ locale ∈ fetcher.chain, fetcher.store.lookup locale key = none := by
  cases hleaf : fetcher.leaf? key with
  | some entry =>
    rw [Fetcher.fetch_of_some hleaf] at h
    cases h
  | none =>
    rw [Fetcher.fetch_of_none hleaf] at h
    cases h
    exact ⟨rfl, rfl, List.findSome?_eq_none_iff.mp hleaf⟩

theorem fetch_failsWith {p : Fault → Prop} {fetcher : Fetcher} {key : String}
    (h : p (fetcher.notFound key)) : FailsWith p (fetcher.fetch key : Run σ String) := by
  refine .lift_bind fun session => ?_
  cases (fetcher.fetch? key session).1 with
  | some text => exact .pure _
  | none => exact .throw h

theorem generate_failsWith {p : Fault → Prop} (h : ∀ pattern flaw, p (.invalidPattern pattern flaw))
    (generator : Generator) : FailsWith p (engine.generate generator : Run σ String) := by
  have hdraw (step : StateM σ String) : FailsWith p (Run.lift (Run.draw step)) :=
    fun _ _ hfault => nomatch hfault
  unfold generate
  split
  · exact hdraw _
  · exact hdraw _
  · exact hdraw _
  · exact hdraw _
  · split
    · exact hdraw _
    · exact .throw (h _ _)

theorem respond_within (request : Request) (session : Session σ) :
    ∀ fault ∈ request.fault? (engine.respond request session).1, fault.Within limit := by
  cases request with
  | fetch key => exact (fetch_failsWith nofun).fault? session
  | fetchList key => exact (fetchList_failsWith nofun).fault? session
  | generate generator => exact (generate_failsWith (fun _ _ => nofun) generator).fault? session
  | lookup key | draw bound | scope name | count counter => exact nofun

section Directive

variable {context : Context σ}

theorem perform_within {own : Namespace}
    (hexpand : ∀ template, FailsWith (Fault.Within limit) (context.expand own template))
    (hrestart : ∀ place template,
      FailsWith (Fault.Within limit) (context.restart (engine.namespaceAt own place) template))
    {plan : Plan (Except OperationError α)} {handed : List Fault} (hplan : plan.HandsBack handed)
    (hhanded : ∀ fault ∈ handed, fault.Within limit) (session : Session σ) (fault : Fault)
    (hreply : (engine.perform context own plan session).1 = .error (.engine fault)) :
    fault.Within limit := by
  induction plan generalizing handed session with
  | done reply =>
    -- an overrun in the reply was answered before, and all answers are within the limit
    rintro token other rfl
    exact hhanded _ (hplan token other hreply) token other rfl
  | ask request next ih =>
    exact ih _ (hplan _) (received_all (respond_within request session) hhanded) _ hreply
  | resolve key next ih =>
    have hfetched : FailsWith (Fault.Within limit)
        (engine.fetcher.fetch key >>= context.expand own) := (fetch_failsWith nofun).bind hexpand
    exact ih _ (hplan _) (received_all (hfetched.fault? session) hhanded) _ hreply
  | expression template next ih =>
    exact ih _ (hplan _) (received_all ((hexpand template).fault? session) hhanded) _ hreply
  | expand place template next ih =>
    have hanswer := (hrestart place template).fault? session
    exact ih _ (hplan _) (received_all hanswer hhanded) _ hreply

variable
  (hexpand : ∀ space template, space.All Operation.HandsBack →
    FailsWith (Fault.Closed limit) (context.expand space template))
  (hrestart : ∀ space template, space.All Operation.HandsBack →
    FailsWith (Fault.Closed limit) (context.restart space template))
  (hregistry : engine.registry.All Operation.HandsBack)

include hexpand hrestart hregistry

theorem invoke_closed {directive : Directive} {caller space : Namespace} {name : String}
    {operation : Operation} (hcaller : caller.All Operation.HandsBack)
    (hspace : space.All Operation.HandsBack) (hoperation : operation.HandsBack) :
    FailsWith (Fault.Closed limit)
      (engine.invoke context directive caller space name operation) := by
  have hnested (template : String) :
      FailsWith (Fault.Within limit) (context.expand space template) :=
    (hexpand space template hspace).imp fun _ => Fault.Closed.within
  have hanew (place : Place) (template : String) :
      FailsWith (Fault.Within limit) (context.restart (engine.namespaceAt space place) template) :=
    (hrestart _ template (namespaceAt_all hregistry hspace place)).imp fun _ => Fault.Closed.within
  have harguments : FailsWith (Fault.Closed limit)
      (directive.arguments.mapM (context.expand caller)) :=
    .mapM (fun argument => hexpand caller argument hcaller) _
  rw [invoke_eq]
  refine .lift_bind fun session => ?_
  cases hresult : (ExceptT.run (directive.arguments.mapM (context.expand caller)) session).1 with
  | error fault =>
    have hfault : fault.Closed limit := harguments session fault hresult
    refine fold_failsWith ?_ directive.token
    rintro other heq
    cases heq
    exact hfault.within
  | ok arguments =>
    refine .lift_bind fun noted => .lift_bind fun called => ?_
    cases hreply : (engine.perform context space
      (operation ⟨arguments, space.scope, context.depth + 1⟩).run called).1 with
    | ok text => exact .pure text
    | error error =>
      refine fold_failsWith ?_ directive.token
      rintro fault rfl
      exact perform_within hnested hanew (hoperation _) nofun called fault hreply

theorem evaluate_closed {target : Namespace} (htarget : target.All Operation.HandsBack) (token : List Char) :
    FailsWith (Fault.Closed limit) (engine.evaluate context target token) := by
  unfold evaluate
  cases Directive.parse? (String.ofList token) with
  | none => exact .lift_bind fun session => .throw (.inr ⟨_, rfl⟩)
  | some directive =>
    simp only [dispatch_eq]
    refine .lift_bind fun noted => .lift_bind fun session => ?_
    have hroute := route_all hregistry htarget directive.reference session
    cases hfound : (engine.route directive.reference target session).1 with
    | call space name operation =>
      rw [hfound] at hroute
      exact invoke_closed hexpand hrestart hregistry htarget hroute.1 hroute.2
    | data space template =>
      rw [hfound] at hroute
      exact hexpand space template hroute
    | nowhere => exact .lift_bind fun session => .throw (.inr ⟨_, rfl⟩)

end Directive

theorem expandWithin_closed (hregistry : engine.registry.All Operation.HandsBack)
    {restart : Namespace → String → Run σ String}
    (hrestart : ∀ space template, space.All Operation.HandsBack →
      FailsWith (Fault.Closed engine.config.maxDepth) (restart space template))
    (left : Nat) {target : Namespace} (htarget : target.All Operation.HandsBack)
    (template : String) :
    FailsWith (Fault.Closed engine.config.maxDepth)
      (engine.expandWithin restart left target template) := by
  induction left generalizing target template with
  | zero => exact splice_failsWith (fun token => .throw (.inl ⟨_, rfl⟩)) _
  | succ left ih =>
    refine splice_failsWith (fun token => ?_) _
    exact evaluate_closed (fun space template hspace => ih hspace template) hrestart hregistry
      htarget token

theorem restartWithin_closed (hregistry : engine.registry.All Operation.HandsBack) (restarts : Nat)
    (target : Namespace) (template : String) (htarget : target.All Operation.HandsBack) :
    FailsWith (Fault.Closed engine.config.maxDepth)
      (engine.restartWithin restarts target template : Run σ String) := by
  induction restarts generalizing target template with
  | zero => exact .throw (.inl ⟨_, rfl⟩)
  | succ restarts ih => exact expandWithin_closed hregistry ih _ htarget template

end Engine

end Pastiche
