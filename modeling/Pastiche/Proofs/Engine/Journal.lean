import Pastiche.Proofs.Engine.Dispatch

/-! What the steps of an engine write into the journal. Nothing is ever taken out of it. -/

namespace Pastiche

variable {σ α β : Type}

/-- The second session has the journal of the first and such events after that. -/
def Session.Extends (p : Event → Prop) (before after : Session σ) : Prop :=
  ∃ events, after.journal = events ++ before.journal ∧ ∀ event ∈ events, p event

namespace Session.Extends

variable {p : Event → Prop} {before middle after : Session σ}

theorem refl (session : Session σ) : Extends p session session := ⟨[], rfl, fun _ h => nomatch h⟩

theorem trans (h : Extends p before middle) (h' : Extends p middle after) :
    Extends p before after := by
  obtain ⟨events, hevents, hp⟩ := h
  obtain ⟨more, hmore, hq⟩ := h'
  refine ⟨more ++ events, by rw [hmore, hevents, List.append_assoc], fun event hevent => ?_⟩
  rcases List.mem_append.mp hevent with hnew | hold
  · exact hq event hnew
  · exact hp event hold

end Session.Extends

def Writes (p : Event → Prop) (step : StateM (Session σ) α) : Prop :=
  ∀ session : Session σ, session.Extends p (step session).2

namespace Writes

variable {p : Event → Prop}

theorem pure (a : α) : Writes p (Pure.pure a : StateM (Session σ) α) := fun session => .refl session

theorem bind {step : StateM (Session σ) α} {next : α → StateM (Session σ) β} (h : Writes p step)
    (hnext : ∀ a, Writes p (next a)) : Writes p (step >>= next) := fun session =>
  (h session).trans (hnext _ _)

theorem bind_run {run : Run σ α} {next : α → Run σ β} (h : Writes p run.run)
    (hnext : ∀ a, Writes p (next a).run) : Writes p (run >>= next).run := by
  have hresult : ∀ result, Writes p (ExceptT.bindCont next result) := by
    intro result
    cases result with
    | ok a => exact hnext a
    | error fault => exact Writes.pure _
  exact h.bind hresult

theorem note {event : Event} (h : p event) : Writes p (Run.note event : StateM (Session σ) Unit) :=
  fun _ => ⟨[event], rfl, fun _ hevent => List.mem_singleton.mp hevent ▸ h⟩

theorem draw (step : StateM σ α) : Writes p (Run.draw step) := fun session => .refl session

theorem lift {step : StateM (Session σ) α} (h : Writes p step) : Writes p (Run.lift step).run :=
  Writes.bind h fun _ => .pure _

theorem count (counter : String) : Writes p (Run.count counter : StateM (Session σ) Nat) :=
  fun session => .refl session

end Writes

section Fetcher

variable {p : Event → Prop} (hprobed : ∀ key locale isFound, p (.probed key locale isFound))

include hprobed

theorem writes_lookupIn (store : Store) (key : String) (locales : List Locale) :
    Writes p (Fetcher.lookupIn store key locales : StateM (Session σ) (Option Entry)) := by
  induction locales with
  | nil => exact .pure _
  | cons locale rest ih =>
    refine .bind (.note (hprobed key locale _)) fun _ => ?_
    cases store.lookup locale key with
    | some entry => exact .pure _
    | none => exact ih

theorem writes_fetchList (fetcher : Fetcher) (key : String) :
    Writes p (fetcher.fetchList key : Run σ (List String)).run := by
  refine .bind_run (.lift (writes_lookupIn hprobed fetcher.store key fetcher.chain)) fun entry => ?_
  cases entry with
  | none => exact .pure _
  | some entry =>
    cases entry with
    | scalar text => exact .pure _
    | list items => exact .pure _

variable [Source σ]

theorem writes_fetch? (fetcher : Fetcher) (key : String) :
    Writes p (fetcher.fetch? key : StateM (Session σ) (Option String)) := by
  refine .bind (writes_lookupIn hprobed fetcher.store key fetcher.chain) fun entry => ?_
  cases entry with
  | none => exact .pure _
  | some entry =>
    cases entry with
    | scalar text => exact .pure _
    | list items => exact fun session => .refl session

theorem writes_fetch (fetcher : Fetcher) (key : String) :
    Writes p (fetcher.fetch key : Run σ String).run := by
  refine .bind_run (.lift (writes_fetch? hprobed fetcher key)) fun found => ?_
  cases found with
  | some text => exact .pure _
  | none => exact .pure _

theorem writes_data? (engine : Engine) (key : String) :
    Writes p (engine.data? key : StateM (Session σ) (Option String)) := by
  refine .bind (writes_fetch? hprobed engine.fetcher key) fun found => ?_
  cases found with
  | some template => exact .pure _
  | none =>
    cases Engine.otherKey? key with
    | some other => exact writes_fetch? hprobed engine.fetcher other
    | none => exact .pure _

theorem writes_routeMember (engine : Engine) (member : String) (target : Namespace) :
    Writes p (engine.routeMember member target : StateM (Session σ) Route) := by
  unfold Engine.routeMember
  cases target.get? member with
  | some operation => exact .pure _
  | none =>
    refine .bind (writes_data? hprobed engine _) fun found => ?_
    cases found with
    | some template => exact .pure _
    | none =>
      cases engine.registry.root.get? member with
      | some operation => exact .pure _
      | none => exact .pure _

theorem writes_routeQualified (engine : Engine) (reference name member : String)
    (target : Namespace) :
    Writes p (engine.routeQualified reference name member target : StateM (Session σ) Route) := by
  simp only [Engine.routeQualified]
  cases (engine.registry.namespace? name).bind fun space => (space.get? member).map (space, ·) with
  | some found => exact .pure _
  | none =>
    refine .bind (writes_data? hprobed engine _) fun found => ?_
    cases found with
    | some template => exact .pure _
    | none => exact .pure _

theorem writes_route (engine : Engine) (reference : String) (target : Namespace) :
    Writes p (engine.route reference target : StateM (Session σ) Route) := by
  unfold Engine.route
  cases Engine.qualified? reference with
  | none => exact writes_routeMember hprobed engine reference target
  | some parts => exact writes_routeQualified hprobed engine reference parts.1 parts.2 target

end Fetcher

theorem writes_fold {p : Event → Prop} (hfailed : ∀ token error, p (.failed token error))
    (token : String) (error : OperationError) :
    Writes p (Engine.fold token error : Run σ String).run := by
  unfold Engine.fold
  split
  · exact .pure _
  · exact Writes.bind (.note (hfailed _ _)) fun _ => .pure _

theorem writes_giveUp {p : Event → Prop} (hunmatched : ∀ token target, p (.unmatched token target))
    (directive : Directive) (target : Namespace) :
    Writes p (Engine.giveUp directive target : Run σ String).run :=
  Writes.bind (.note (hunmatched _ _)) fun _ => .pure _

theorem writes_generate [Source σ] {p : Event → Prop} (engine : Engine) (generator : Generator) :
    Writes p (engine.generate generator : Run σ String).run := by
  unfold Engine.generate
  split
  · exact .lift (.draw _)
  · exact .lift (.draw _)
  · exact .lift (.draw _)
  · exact .lift (.draw _)
  · split
    · exact .lift (.draw _)
    · exact .pure _

theorem writes_respond [Source σ] {p : Event → Prop}
    (hprobed : ∀ key locale isFound, p (.probed key locale isFound)) (engine : Engine)
    (request : Request) :
    Writes p (engine.respond request : StateM (Session σ) request.Answer) := by
  cases request with
  | fetch key => exact writes_fetch hprobed engine.fetcher key
  | fetchList key => exact writes_fetchList hprobed engine.fetcher key
  | lookup key => exact writes_lookupIn hprobed engine.store key engine.fetcher.chain
  | generate generator => exact writes_generate engine generator
  | draw bound => exact .draw _
  | scope name => exact .pure _
  | count counter => exact .count counter

end Pastiche
