import Pastiche.Proofs.Engine.Machine

/-!
How deep the machine gets. Whatever the data and the operations are, no state is deeper than the
limit, and what is dispatched or called on the way stays below it.
-/

namespace Pastiche

/-- Directives are dispatched below the limit, and operations are called in the expansion of one. -/
def Event.Within (limit : Nat) : Event → Prop
  | .dispatched _ depth => depth < limit
  | .called _ _ _ depth => 1 ≤ depth ∧ depth ≤ limit
  | _ => True

def Task.Within (limit : Nat) : Task → Prop
  | .scan _ depth _ _ => depth ≤ limit
  | .lookup _ depth _ => depth ≤ limit
  | .evaluate _ depth _ => depth ≤ limit
  | .collect call _ _ => call.depth < limit
  | .perform _ _ depth _ => 1 ≤ depth ∧ depth ≤ limit

def Control.Within (limit : Nat) : Control → Prop
  | .work task => task.Within limit
  | .give _ => True

def Frame.Within (limit : Nat) : Frame → Prop
  | .splice _ depth _ _ => depth ≤ limit
  | .argument call _ _ => call.depth < limit
  | .answer _ _ depth _ => 1 ≤ depth ∧ depth ≤ limit

/-- All that is done, waits or was written since the given session stays within the limit. -/
structure Machine.Within {σ : Type} (limit : Nat) (start : Session σ) (machine : Machine σ) :
    Prop where
  control : machine.control.Within limit
  frames : ∀ frame ∈ machine.frames, frame.Within limit
  journal : start.Extends (Event.Within limit) machine.session

namespace Machine.Within

variable {σ : Type} {limit : Nat} {control : Control} {frame : Frame} {start session : Session σ}

theorem of_control (h : control.Within limit)
    (hjournal : start.Extends (Event.Within limit) session) :
    Machine.Within limit start ⟨control, [], session⟩ :=
  ⟨h, fun _ hframe => (nomatch hframe), hjournal⟩

theorem of_frame (h : control.Within limit) (hframe : frame.Within limit) :
    Machine.Within limit start ⟨control, [frame], start⟩ :=
  ⟨h, fun _ hmem => List.mem_singleton.mp hmem ▸ hframe, .refl start⟩

end Machine.Within

namespace Engine

variable {σ : Type}

theorem scan_within {limit depth : Nat} (h : depth ≤ limit) (target : Namespace) (text : String)
    (rest : List Char) (session : Session σ) :
    Machine.Within limit session
      ⟨(scan target depth text rest).1, (scan target depth text rest).2, session⟩ := by
  unfold scan
  cases Directive.cut? rest with
  | none => exact .of_control trivial (.refl session)
  | some cut => exact .of_frame h h

theorem collect_within {limit : Nat} {call : Call} (h : call.depth < limit)
    (arguments pending : List String) (session : Session σ) :
    Machine.Within limit session
      ⟨(collect call arguments pending session).1.1, (collect call arguments pending session).1.2,
        (collect call arguments pending session).2⟩ := by
  cases pending with
  | nil =>
    have hcall : 1 ≤ call.depth + 1 ∧ call.depth + 1 ≤ limit := ⟨Nat.le_add_left 1 call.depth, h⟩
    exact .of_control hcall (Writes.note hcall session)
  | cons argument pending => exact .of_frame h h

theorem resume_within {limit : Nat} {frame : Frame} (h : frame.Within limit)
    (result : Except Fault String) (session : Session σ) :
    (resume frame result session).1.Within limit ∧
      session.Extends (Event.Within limit) (resume frame result session).2 := by
  cases frame with
  | splice target depth text rest =>
    cases result with
    | ok value => exact ⟨h, .refl session⟩
    | error fault => exact ⟨trivial, .refl session⟩
  | argument call arguments pending =>
    cases result with
    | ok value => exact ⟨h, .refl session⟩
    | error fault =>
      exact ⟨trivial, writes_fold (fun _ _ => trivial) call.directive.token (.engine fault) session⟩
  | answer token space depth next => exact ⟨h, .refl session⟩

variable [Source σ] {engine : Engine}

theorem enter_within {target : Namespace} {depth : Nat} (h : depth < engine.config.maxDepth)
    (token : List Char) (session : Session σ) :
    (engine.enter target depth token session).1.Within engine.config.maxDepth ∧
      session.Extends (Event.Within engine.config.maxDepth)
        (engine.enter target depth token session).2 := by
  have hnoted (event : Event) (hevent : event.Within engine.config.maxDepth) :
      session.Extends (Event.Within engine.config.maxDepth) (Run.note event session).2 :=
    Writes.note hevent session
  unfold enter
  cases Directive.parse? (String.ofList token) with
  | none => exact ⟨trivial, hnoted _ trivial⟩
  | some directive =>
    have hdispatched := hnoted (.dispatched directive.token depth) h
    have hroute := hdispatched.trans
      (writes_route (fun _ _ _ => trivial) engine directive.reference target _)
    simp only [bind_state]
    cases (engine.route directive.reference target
      (Run.note (.dispatched directive.token depth) session).2).1 with
    | call space name operation => exact ⟨h, hroute⟩
    | data space template => exact ⟨h, hroute⟩
    | nowhere =>
      exact ⟨trivial, hroute.trans (writes_giveUp (fun _ _ => trivial) directive target _)⟩

theorem lookup_within {limit depth : Nat} (h : depth ≤ limit) (target : Namespace) (key : String)
    (session : Session σ) :
    Machine.Within limit session
      ⟨(engine.lookup target depth key session).1, [],
        (engine.lookup target depth key session).2⟩ := by
  have hfetch : session.Extends (Event.Within limit)
      (ExceptT.run (engine.fetcher.fetch key) session).2 :=
    writes_fetch (fun _ _ _ => trivial) engine.fetcher key session
  simp only [lookup, bind_state]
  cases (ExceptT.run (engine.fetcher.fetch key) session).1 with
  | ok template => exact .of_control h hfetch
  | error fault => exact .of_control trivial hfetch

theorem answer_within {limit depth : Nat} (h : 1 ≤ depth ∧ depth ≤ limit) (token : String)
    (space : Namespace) (plan : Plan (Except OperationError String)) (session : Session σ) :
    Machine.Within limit session
      ⟨(engine.answer token space depth plan session).1.1,
        (engine.answer token space depth plan session).1.2,
        (engine.answer token space depth plan session).2⟩ := by
  cases plan with
  | done result =>
    cases result with
    | ok text => exact .of_control trivial (.refl session)
    | error error =>
      exact .of_control trivial (writes_fold (fun _ _ => trivial) token error session)
  | ask request next =>
    exact .of_control h (writes_respond (fun _ _ _ => trivial) engine request session)
  | resolve key next => exact .of_frame h.2 h
  | expression template next => exact .of_frame h.2 h
  | expand place template next => exact .of_frame (Nat.zero_le limit) h

theorem turn_within {task : Task} (h : task.Within engine.config.maxDepth) (session : Session σ) :
    Machine.Within engine.config.maxDepth session
      ⟨(engine.turn task session).1.1, (engine.turn task session).1.2,
        (engine.turn task session).2⟩ := by
  cases task with
  | scan target depth text rest => exact scan_within h target text rest session
  | lookup target depth key => exact lookup_within h target key session
  | evaluate target depth token =>
    by_cases hdepth : engine.config.maxDepth ≤ depth
    · simp only [turn, if_pos hdepth]
      exact .of_control trivial (.refl session)
    · simp only [turn, if_neg hdepth]
      obtain ⟨hcontrol, hjournal⟩ := enter_within (Nat.not_le.mp hdepth) token session
      exact .of_control hcontrol hjournal
  | collect call arguments pending => exact collect_within h arguments pending session
  | perform token space depth plan => exact answer_within h token space plan session

theorem step_within {start : Session σ} {machine next : Machine σ}
    (h : machine.Within engine.config.maxDepth start) (hstep : engine.step machine = some next) :
    next.Within engine.config.maxDepth start := by
  obtain ⟨control, frames, session⟩ := machine
  obtain ⟨hcontrol, hframes, hjournal⟩ := h
  cases control with
  | work task =>
    cases hstep
    have hturn := turn_within hcontrol session
    refine ⟨hturn.control, fun frame hframe => ?_, hjournal.trans hturn.journal⟩
    rcases List.mem_append.mp hframe with hpushed | hwaiting
    · exact hturn.frames frame hpushed
    · exact hframes frame hwaiting
  | give result =>
    cases frames with
    | nil => cases hstep
    | cons frame frames =>
      cases hstep
      obtain ⟨hnext, hwritten⟩ := resume_within (hframes frame List.mem_cons_self) result session
      exact ⟨hnext, fun other hother => hframes other (List.mem_cons_of_mem _ hother),
        hjournal.trans hwritten⟩

theorem after_within {start : Session σ} {machine : Machine σ}
    (h : machine.Within engine.config.maxDepth start) (count : Nat) :
    (engine.after count machine).Within engine.config.maxDepth start := by
  induction count generalizing machine with
  | zero => exact h
  | succ count ih =>
    cases hstep : engine.step machine with
    | none => rw [after_stopped hstep]; exact h
    | some next => rw [after_step hstep]; exact ih (step_within h hstep)

end Engine

end Pastiche
