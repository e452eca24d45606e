import Pastiche.Engine

/-! Steps as functions of the state they begin in. -/

namespace Pastiche

variable {σ α β : Type}

theorem bind_state (step : StateM σ α) (next : α → StateM σ β) (source : σ) :
    (step >>= next) source = next (step source).1 (step source).2 := rfl

theorem bind_of_eq {step : StateM σ α} {next : α → StateM σ β} {source after : σ} {a : α}
    (h : step source = (a, after)) : (step >>= next) source = next a after := by
  rw [bind_state, h]

namespace Run

theorem lift_bind (step : StateM (Session σ) α) (next : α → Run σ β) (session : Session σ) :
    (lift step >>= next) session = next (step session).1 (step session).2 := rfl

theorem bind_eq (run : Run σ α) (next : α → Run σ β) (session : Session σ) :
    (run >>= next) session = ExceptT.bindCont next (run session).1 (run session).2 := rfl

theorem bind_of_ok {run : Run σ α} {next : α → Run σ β} {session after : Session σ} {a : α}
    (h : run session = (.ok a, after)) : (run >>= next) session = next a after := by
  rw [bind_eq, h]
  rfl

theorem bind_of_error {run : Run σ α} {next : α → Run σ β} {session after : Session σ}
    {fault : Fault} (h : run session = (.error fault, after)) :
    (run >>= next) session = (.error fault, after) := by
  rw [bind_eq, h]
  rfl

theorem bind_pure_error_iff {run : Run σ α} {f : α → β} {session : Session σ}
    {fault : Fault} :
    ((do let a ← run; pure (f a) : Run σ β) session).1 = .error fault ↔
      (run session).1 = .error fault := by
  obtain ⟨⟨result, after⟩, hrun⟩ : ∃ outcome, run session = outcome := ⟨_, rfl⟩
  rw [hrun]
  cases result with
  | ok a =>
    rw [bind_of_ok hrun]
    exact ⟨nofun, nofun⟩
  | error other =>
    rw [bind_of_error hrun]
    exact ⟨fun h => by cases h; rfl, fun h => by cases h; rfl⟩

end Run

namespace Engine

variable [Source σ]

theorem perform_bind (engine : Engine) (context : Context σ) (own : Namespace) (plan : Plan α)
    (more : α → Plan β) :
    engine.perform context own (plan >>= more) =
      engine.perform context own plan >>= fun a => engine.perform context own (more a) := by
  funext session
  change engine.perform context own (plan.andThen more) session = _
  induction plan generalizing session with
  | done result => rfl
  | ask request next ih | resolve key next ih | expression template next ih
  | expand place template next ih => exact ih _ _

theorem perform_pick (engine : Engine) (context : Context σ) (own : Namespace) (bound : Nat)
    (session : Session σ) :
    engine.perform context own (Reply.pick bound).run session =
      (.ok (pick bound session.source).1,
        { session with source := (pick bound session.source).2 }) := rfl

end Engine

end Pastiche
