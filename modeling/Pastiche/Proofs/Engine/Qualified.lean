import Pastiche.Proofs.Engine.Mention
import Pastiche.Proofs.Engine.Past
import Pastiche.Proofs.Except
import Pastiche.Proofs.Name

/-!
A member of a namespace from outside and from inside. From outside it is qualified with the usual
form of the name of the namespace. Inside, the bare member stands for the same, and beyond that only
for an operation of the root.
-/

namespace Pastiche

open Directive (mention Begins IsMember)

def Namespace.qualify (space : Namespace) (member : String) : String :=
  Name.snake space.name ++ "." ++ member

/-- The namespace is registered, its data stands under its name, and the usual form of the name is
one that a reference can name it by. -/
structure Registry.Names (registry : Registry) (space : Namespace) : Prop where
  registered : registry.namespace? space.name = some space
  base : space.base = some (Name.snake space.name)
  member : IsMember (Name.snake space.name)
  small : Text.IsSmall (Name.snake space.name).toList

namespace Engine

variable {engine : Engine} {space target : Namespace} {member text : String}

/-- The candidates from outside are those from inside but for the operation of the root. -/
theorem candidates_bare (hspace : engine.registry.Names space) (hmember : IsMember member)
    (target : Namespace) :
    ∃ candidates, engine.Candidates (space.qualify member) target candidates ∧
      engine.Candidates member space
        (candidates ++ [.operation engine.registry.root member]) := by
  have hname : engine.registry.namespace? (Name.snake space.name) = some space := by
    rw [Registry.namespace?, Name.snake_of_small hspace.small]
    exact hspace.registered
  have hkey : space.dataKey member = space.qualify member := by
    rw [Namespace.dataKey, Namespace.scope, Scope.dataKey, hspace.base]
    rfl
  refine ⟨_, .qualified rfl hspace.member.not_mem_dot hname, ?_⟩
  rw [← hkey]
  exact .member hmember.not_mem_dot

variable {σ : Type} [Source σ]

theorem choose_append {first : List Candidate} {session : Session σ}
    (h : (engine.choose first session).1 ≠ .nowhere) (more : List Candidate) :
    engine.choose (first ++ more) session = engine.choose first session := by
  induction first generalizing session with
  | nil => exact absurd rfl h
  | cons candidate rest ih =>
    cases candidate with
    | operation space name =>
      rw [choose] at h
      rw [List.cons_append, choose, choose]
      cases hoperation : space.get? name with
      | some operation => rfl
      | none =>
        rw [hoperation] at h
        exact ih h
    | data space key =>
      rw [choose, bind_state] at h
      rw [List.cons_append, choose, choose, bind_state, bind_state]
      cases hfound : (engine.fetcher.fetch? key session).1 with
      | some template => rfl
      | none =>
        rw [hfound] at h
        exact ih h

/-- Where a directive without arguments comes to a text, all others on the same route come to it as
well, with the same session behind it but for the past. -/
theorem follow_of_ok {context : Context σ} (hcontext : context.Oblivious) {route : Route}
    {token reference : String} {middle after : Session σ} {past : List Event}
    (h : engine.follow context ⟨token, reference, []⟩ target route (middle.onto past) =
      (.ok text, after)) :
    ∃ settled : Session σ, after = settled.onto past ∧
      ∀ (token reference : String) (caller : Namespace) (past : List Event),
        engine.follow context ⟨token, reference, []⟩ caller route (middle.onto past) =
          (.ok text, settled.onto past) := by
  cases answers_of_follow h with
  | @data space template _ _ _ hdata =>
    obtain ⟨settled, hafter, hothers⟩ := (hcontext.expand space template).of_eq hdata
    exact ⟨settled, hafter, fun _ _ _ other => hothers other⟩
  | @reply space name operation arguments _ _ _ _ harguments hreply =>
    cases harguments
    have hcall : Oblivious (do
        Run.note (.called space.name name [] (context.depth + 1))
        engine.perform context space
          (operation ⟨[], space.scope, context.depth + 1⟩).run) :=
      .bind (.note _) fun _ => perform_oblivious engine hcontext space _
    obtain ⟨settled, hafter, hothers⟩ := hcall.of_eq hreply
    refine ⟨settled, hafter, fun token reference caller other => ?_⟩
    have happly : engine.applyTo context token space name operation [] (middle.onto other) =
        verdict token (.ok text) (settled.onto other) := applyTo_of_reply (hothers other)
    rw [follow, invoke_eq]
    exact happly

theorem dispatch_bare {context : Context σ} (hcontext : context.Oblivious)
    (hspace : engine.registry.Names space) (hmember : IsMember member)
    {session after : Session σ}
    (h : engine.dispatch context ⟨mention (space.qualify member), space.qualify member, []⟩ target
      session = (.ok text, after)) :
    ∃ settled : Session σ,
      after = settled.onto (.dispatched (mention (space.qualify member)) context.depth ::
        session.journal) ∧
      engine.dispatch context ⟨mention member, member, []⟩ space session =
        (.ok text, settled.onto (.dispatched (mention member) context.depth ::
          session.journal)) := by
  let fresh : Session σ := { session with journal := [] }
  have hlooked (directive : Directive) : engine.looked context directive session [] =
      fresh.onto (.dispatched directive.token context.depth :: session.journal) := rfl
  obtain ⟨candidates, houtside, hinside⟩ := candidates_bare hspace hmember target
  obtain ⟨⟨route, middle⟩, hroute⟩ : ∃ outcome, engine.choose candidates fresh = outcome :=
    ⟨_, rfl⟩
  have hchoose (past : List Event) :
      engine.choose candidates (fresh.onto past) = (route, middle.onto past) := by
    rw [choose_oblivious, hroute]
  rw [dispatch_choose houtside, hlooked, hchoose] at h
  have hfound : route ≠ .nowhere := by
    rintro rfl
    cases answers_of_follow h
  obtain ⟨settled, hafter, hothers⟩ := follow_of_ok hcontext h
  refine ⟨settled, hafter, ?_⟩
  rw [dispatch_choose hinside, hlooked, choose_append, hchoose]
  · exact hothers _ _ _ _
  · rw [hchoose]
    exact hfound

/-- What a qualified reference comes to against any target, the bare member comes to inside the
namespace: the same text, with the same draws, counts and calls. The directive itself apart, the
journal is the same as well. -/
theorem bare_of_qualified (hspace : engine.registry.Names space) (hmember : IsMember member)
    {restarts left : Nat} {session after : Session σ}
    (h : engine.expandWithin (engine.restartWithin restarts) left target
      (mention (space.qualify member)) session = (.ok text, after)) :
    ∃ events,
      after.journal = events ++ .dispatched (mention (space.qualify member))
        (engine.config.maxDepth - left) :: session.journal ∧
      engine.expandWithin (engine.restartWithin restarts) left space (mention member) session =
        (.ok text, { after with
          journal := events ++ .dispatched (mention member) (engine.config.maxDepth - left) ::
            session.journal }) := by
  have hbegins : Begins (space.qualify member) := hspace.member.begins_qualified hmember
  rw [expandWithin_mention hbegins] at h
  rw [expandWithin_mention hmember.begins]
  cases left with
  | zero => cases h
  | succ left =>
    have hrestart := restartWithin_oblivious (σ := σ) engine restarts
    have hcontext : Context.Oblivious ⟨engine.expandWithin (engine.restartWithin restarts) left,
        engine.restartWithin restarts, engine.config.maxDepth - (left + 1)⟩ :=
      ⟨expandWithin_oblivious engine hrestart left, hrestart⟩
    rw [evaluateWithin, evaluate, hbegins.parse?_mention] at h
    obtain ⟨settled, rfl, hbare⟩ := dispatch_bare hcontext hspace hmember h
    refine ⟨settled.journal, rfl, ?_⟩
    rw [evaluateWithin, evaluate, hmember.begins.parse?_mention]
    exact hbare

theorem names_idNumber : shadowEngine.registry.Names Builtin.idNumber := by
  have hname : Name.snake Builtin.idNumber.name = "id_number" := by decide +kernel
  have hmember : IsMember "id_number" := ⟨by simp, by simp, by simp⟩
  have hsmall : Text.IsSmall "id_number".toList := by
    simp [Text.IsSmall]
  refine ⟨Dictionary.find?_insert_self _ Builtin.idNumber _, rfl, ?_, ?_⟩
  · rwa [hname]
  · rwa [hname]

/-- Inside the namespace the data is found before the operation of the root. -/
theorem bare_of_qualified_idNumber :
    let session := Session.start (RandomSource.cycle [1] 0)
    let outside := shadowEngine.expand "#\x7bid_number.numerify\x7d" session
    let inside := shadowEngine.expression "#\x7bnumerify\x7d" Builtin.idNumber session
    shadowEngine.registry.Names Builtin.idNumber ∧ IsMember "numerify" ∧
      outside.1 = .ok "two" ∧ outside.2.source.draws? = some 1 ∧
      inside.1 = .ok "two" ∧ inside.2.source.draws? = some 1 := by
  intro session outside inside
  have hmember : IsMember "numerify" := ⟨by simp, by simp, by simp⟩
  have hmention : mention (Builtin.idNumber.qualify "numerify") = "#\x7bid_number.numerify\x7d" := by
    decide +kernel
  have houtcome : (outside.1.toOption, outside.2.source.draws?) = (some "two", some 1) := by
    decide +kernel
  obtain ⟨hvalue, hdraws⟩ := Prod.mk.inj houtcome
  have htext : outside.1 = .ok "two" := eq_ok_of_toOption hvalue
  have houtside : shadowEngine.expandWithin (shadowEngine.restartWithin maxRestarts)
      shadowEngine.config.maxDepth shadowEngine.registry.root
      (mention (Builtin.idNumber.qualify "numerify")) session = (.ok "two", outside.2) := by
    rw [hmention]
    exact Prod.ext htext rfl
  obtain ⟨events, -, hinside⟩ := bare_of_qualified names_idNumber hmember houtside
  exact ⟨names_idNumber, hmember, htext, hdraws, congrArg Prod.fst hinside,
    (congrArg (fun outcome => outcome.2.source.draws?) hinside).trans hdraws⟩

end Engine

end Pastiche
