import Pastiche.Proofs.Directive.Concatenation
import Pastiche.Proofs.Engine.DepthLimit

/-!
Expansion of one text after another. The directives of both are evaluated from left to right, the
text between them is copied, and what a directive comes to is not looked at again.
-/

namespace Pastiche.Engine

open Directive (Segment Apart Covered Settled cut? findAll glue segments)

variable {σ : Type}

theorem splice_glue (evaluate : List Char → Run σ String) (first second : List Segment) :
    splice evaluate (glue first second) = (do
      let text ← splice evaluate first
      let more ← splice evaluate second
      pure (text ++ more)) := by
  induction first, second using Directive.glue.induct with
  | case1 others => simp only [glue, splice, pure_bind, String.empty_append, bind_pure]
  | case2 content more others =>
    simp only [glue, splice, bind_assoc, pure_bind, String.ofList_append, String.append_empty,
      String.append_assoc]
  | case3 segment rest others h ih =>
    rw [glue]
    · cases segment with
      | text content => simp only [splice, ih, bind_assoc, pure_bind, String.append_assoc]
      | directive token => simp only [splice, ih, bind_assoc, pure_bind, String.append_assoc]
    · exact h

theorem fold_ne_ok (token : String) (error : OperationError) (session after : Session σ)
    (value : String) : (fold token error : Run σ String) session ≠ (.ok value, after) := by
  unfold fold
  split
  · intro h
    cases h
  · intro h
    cases h

/-- Where two steps give a text each, what comes of both, the second after the first. -/
theorem append_outcome (run other : Run σ String) (session : Session σ) :
    (do
      let text ← run
      let more ← other
      pure (text ++ more) : Run σ String) session =
    match run session with
    | (.error fault, middle) => (.error fault, middle)
    | (.ok text, middle) => ((other middle).1.map (text ++ ·), (other middle).2) := by
  obtain ⟨⟨result, middle⟩, hrun⟩ : ∃ outcome, run session = outcome := ⟨_, rfl⟩
  rw [hrun]
  cases result with
  | error fault => exact Run.bind_of_error hrun
  | ok text =>
    rw [Run.bind_of_ok hrun]
    dsimp only
    obtain ⟨⟨more, last⟩, hother⟩ : ∃ outcome, other middle = outcome := ⟨_, rfl⟩
    rw [hother]
    cases more with
    | error fault => exact Run.bind_of_error hother
    | ok more => exact Run.bind_of_ok hother

variable [Source σ] {engine : Engine} {restart : Namespace → String → Run σ String} {left : Nat}
  {target : Namespace}

theorem expandWithin_append {first second : String} (hfirst : Settled first.toList)
    (hapart : Apart first.toList second.toList) :
    engine.expandWithin restart left target (first ++ second) = (do
      let text ← engine.expandWithin restart left target first
      let more ← engine.expandWithin restart left target second
      pure (text ++ more)) := by
  rw [expandWithin_eq, expandWithin_eq, expandWithin_eq, String.toList_append,
    Directive.segments_append hfirst hapart, splice_glue]

theorem expandWithin_of_none {template : String} (h : cut? template.toList = none) :
    engine.expandWithin restart left target template = pure template := by
  rw [expandWithin_eq, Directive.segments_of_none h]
  simp only [splice, pure_bind, String.append_empty, String.ofList_toList]

/-- The text before the first directive is copied, the directive is replaced, and the scan goes on
behind it. -/
theorem expandWithin_of_some {template : String} {cut : Directive.Cut}
    (h : cut? template.toList = some cut) :
    engine.expandWithin restart left target template = (do
      let value ← engine.evaluateWithin restart left target cut.token
      let rest ← engine.expandWithin restart left target (String.ofList cut.after)
      pure (String.ofList cut.before ++ value ++ rest)) := by
  rw [expandWithin_eq, expandWithin_eq, Directive.segments_of_some h, String.toList_ofList]
  simp only [splice, bind_assoc, pure_bind, String.append_assoc]

/-- What a directive comes to once its route is known: the reply of the operation to the expanded
arguments or the expansion of the data, each as it is. -/
inductive Answers (engine : Engine) (context : Context σ) (directive : Directive)
    (caller : Namespace) : Route → Session σ → String → Session σ → Prop where
  | reply {space : Namespace} {name : String} {operation : Operation} {arguments : List String}
      {middle expanded after : Session σ} {value : String}
      (harguments : (directive.arguments.mapM (context.expand caller)).run middle =
        (.ok arguments, expanded))
      (hreply : engine.perform context space
        (operation ⟨arguments, space.scope, context.depth + 1⟩).run
        (Run.note (.called space.name name arguments (context.depth + 1)) expanded).2 =
          (.ok value, after)) :
      Answers engine context directive caller (.call space name operation) middle value after
  | data {space : Namespace} {template value : String} {middle after : Session σ}
      (hdata : context.expand space template middle = (.ok value, after)) :
      Answers engine context directive caller (.data space template) middle value after

theorem answers_of_follow {context : Context σ} {directive : Directive} {route : Route}
    {middle after : Session σ} {value : String}
    (h : engine.follow context directive target route middle = (.ok value, after)) :
    engine.Answers context directive target route middle value after := by
  cases route with
  | data space template => exact .data h
  | nowhere => cases h
  | call space name operation =>
    simp only [follow, invoke_eq, Run.lift_bind] at h
    obtain ⟨⟨result, expanded⟩, harguments⟩ : ∃ outcome,
      (directive.arguments.mapM (context.expand target)).run middle = outcome := ⟨_, rfl⟩
    rw [harguments] at h
    cases result with
    | error fault => exact absurd h (fold_ne_ok _ _ _ _ _)
    | ok arguments =>
      simp only [applyTo, Run.lift_bind] at h
      obtain ⟨⟨reply, replied⟩, hreply⟩ : ∃ outcome,
        engine.perform context space
          (operation ⟨arguments, space.scope, context.depth + 1⟩).run
          (Run.note (.called space.name name arguments (context.depth + 1)) expanded).2 =
            outcome := ⟨_, rfl⟩
      rw [hreply] at h
      cases reply with
      | error error => exact absurd h (fold_ne_ok _ _ _ _ _)
      | ok text =>
        cases h
        exact .reply harguments hreply

theorem answers_of_evaluateWithin {token : List Char} {session after : Session σ} {value : String}
    (h : engine.evaluateWithin restart left target token session = (.ok value, after)) :
    ∃ less directive route middle, left = less + 1 ∧
      Directive.parse? (String.ofList token) = some directive ∧
      engine.route directive.reference target
        (Run.note (.dispatched directive.token (engine.config.maxDepth - left)) session).2 =
          (route, middle) ∧
      engine.Answers ⟨engine.expandWithin restart less, restart, engine.config.maxDepth - left⟩
        directive target route middle value after := by
  cases left with
  | zero => cases h
  | succ less =>
    rw [evaluateWithin, evaluate] at h
    cases hparse : Directive.parse? (String.ofList token) with
    | none =>
      rw [hparse] at h
      cases h
    | some directive =>
      simp only [hparse, dispatch_eq, Run.lift_bind] at h
      exact ⟨less, directive, _, _, rfl, rfl, rfl, answers_of_follow h⟩

/-- A text is expanded before what follows it, and a fault in it is the outcome of both, if every
opener of it stands in one of its directives or before a digit and none comes about between the two.
In each template the text is copied and a directive is replaced by its answer, in which no directive
is looked for. -/
theorem expansion_of_append {first second : String}
    (hfirst : Covered 0 (findAll first) first.toList)
    (hapart : Apart first.toList second.toList) (engine : Engine)
    (restart : Namespace → String → Run σ String) (left : Nat) (target : Namespace) :
    (∀ session, engine.expandWithin restart left target (first ++ second) session =
      match engine.expandWithin restart left target first session with
      | (.error fault, middle) => (.error fault, middle)
      | (.ok text, middle) =>
        ((engine.expandWithin restart left target second middle).1.map (text ++ ·),
          (engine.expandWithin restart left target second middle).2)) ∧
    (∀ template : String, cut? template.toList = none →
      engine.expandWithin restart left target template = pure template) ∧
    (∀ (template : String) (cut : Directive.Cut), cut? template.toList = some cut →
      engine.expandWithin restart left target template = (do
        let value ← engine.evaluateWithin restart left target cut.token
        let rest ← engine.expandWithin restart left target (String.ofList cut.after)
        pure (String.ofList cut.before ++ value ++ rest))) ∧
    ∀ token session value after,
      engine.evaluateWithin restart left target token session = (.ok value, after) →
      ∃ less directive route middle, left = less + 1 ∧
        Directive.parse? (String.ofList token) = some directive ∧
        engine.route directive.reference target
          (Run.note (.dispatched directive.token (engine.config.maxDepth - left)) session).2 =
            (route, middle) ∧
        engine.Answers ⟨engine.expandWithin restart less, restart, engine.config.maxDepth - left⟩
          directive target route middle value after := by
  have hsettled : Settled first.toList := Directive.settled_of_covered hfirst
  refine ⟨fun session => ?_, fun template h => expandWithin_of_none h,
    fun template cut h => expandWithin_of_some h,
    fun token session value after h => answers_of_evaluateWithin h⟩
  rw [expandWithin_append hsettled hapart]
  exact append_outcome _ _ session

theorem expansion_of_append_codeEngine :
    let first := "a#\x7b2\x7d #\x7bnumerify '\x7d#'\x7d#"
    let second := "#\x7bcode\x7d!"
    let session := Session.start (RandomSource.fixed 7)
    let expand := codeEngine.expandWithin (codeEngine.restartWithin 1) 9 codeEngine.registry.root
    Covered 0 (findAll first) first.toList ∧ Apart first.toList second.toList ∧
      (expand first session).1.toOption = some "a#\x7b2\x7d \x7d7#" ∧
      (expand (first ++ second) session).1.toOption = some "a#\x7b2\x7d \x7d7#A-7!" := by
  intro first second session expand
  have hfirst : Covered 0 (findAll first) first.toList := by decide +kernel
  have hapart : Apart first.toList second.toList := by decide +kernel
  have hboth := (expansion_of_append hfirst hapart codeEngine (codeEngine.restartWithin 1) 9
    codeEngine.registry.root).1 session
  refine ⟨hfirst, hapart, by decide +kernel, ?_⟩
  change (codeEngine.expandWithin _ _ _ (first ++ second) session).1.toOption = _
  rw [hboth]
  decide +kernel

end Pastiche.Engine
