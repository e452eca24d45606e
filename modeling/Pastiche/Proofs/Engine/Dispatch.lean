import Mathlib.Data.List.TakeWhile
import Pastiche.Proofs.Engine.Run
import Pastiche.Proofs.Operation.Registry

/-!
Dispatch in two halves. The route to what stands behind a reference looks at the registry and at the
data only; templates are expanded and operations called when it is followed.
-/

namespace Pastiche

/-- What stands behind a reference: an operation of a namespace, data that expands in a namespace,
or nothing. -/
inductive Route where
  | call (space : Namespace) (name : String) (operation : Operation)
  | data (space : Namespace) (template : String)
  | nowhere

def Route.All (p : Operation → Prop) : Route → Prop
  | .call space _ operation => space.All p ∧ p operation
  | .data space _ => space.All p
  | .nowhere => True

namespace Engine

theorem qualified?_of_not_mem {reference : String} (h : '.' ∉ reference.toList) :
    qualified? reference = none := by
  have hdrop : reference.toList.dropWhile (· != '.') = [] := by
    rw [List.dropWhile_eq_nil_iff]
    intro c hc
    simpa using fun heq : c = '.' => h (heq ▸ hc)
  rw [qualified?, hdrop]

theorem qualified?_of_dot {name : String} (h : '.' ∉ name.toList) (member : String) :
    qualified? (name ++ "." ++ member) = some (name, member) := by
  have htext : (name ++ "." ++ member).toList = name.toList ++ '.' :: member.toList := by simp
  have hdots : ∀ c ∈ name.toList, (c != '.') = true := by
    intro c hc
    simpa using fun heq : c = '.' => h (heq ▸ hc)
  rw [qualified?, htext, List.dropWhile_append_of_pos hdots, List.takeWhile_append_of_pos hdots]
  simp

variable {σ : Type} [Source σ]

def routeMember (engine : Engine) (member : String) (target : Namespace) :
    StateM (Session σ) Route := do
  match target.get? member with
  | some operation => pure (.call target member operation)
  | none =>
    match ← engine.data? (target.dataKey member) with
    | some template => pure (.data target template)
    | none =>
      match engine.registry.root.get? member with
      | some operation => pure (.call engine.registry.root member operation)
      | none => pure .nowhere

def routeQualified (engine : Engine) (reference name member : String) (target : Namespace) :
    StateM (Session σ) Route := do
  let space := engine.registry.namespace? name
  match space.bind fun space => (space.get? member).map (space, ·) with
  | some (space, operation) => pure (.call space member operation)
  | none =>
    match ← engine.data? reference with
    | some template => pure (.data (space.getD target) template)
    | none => pure .nowhere

def route (engine : Engine) (reference : String) (target : Namespace) : StateM (Session σ) Route :=
  match qualified? reference with
  | none => engine.routeMember reference target
  | some (name, member) => engine.routeQualified reference name member target

def follow (engine : Engine) (context : Context σ) (directive : Directive) (target : Namespace) :
    Route → Run σ String
  | .call space name operation => engine.invoke context directive target space name operation
  | .data space template => context.expand space template
  | .nowhere => giveUp directive target

theorem dispatchMember_eq (engine : Engine) (context : Context σ) (directive : Directive)
    (target : Namespace) (session : Session σ) :
    engine.dispatchMember context directive target session =
      engine.follow context directive target
        (engine.routeMember directive.reference target session).1
        (engine.routeMember directive.reference target session).2 := by
  unfold dispatchMember routeMember
  cases target.get? directive.reference with
  | some operation => rfl
  | none =>
    simp only [Run.lift_bind, bind_state]
    cases (engine.data? (target.dataKey directive.reference) session).1 with
    | some template => rfl
    | none =>
      cases engine.registry.root.get? directive.reference with
      | some operation => rfl
      | none => rfl

theorem dispatchQualified_eq (engine : Engine) (context : Context σ) (directive : Directive)
    (target : Namespace) (name member : String) (session : Session σ) :
    engine.dispatchQualified context directive target name member session =
      engine.follow context directive target
        (engine.routeQualified directive.reference name member target session).1
        (engine.routeQualified directive.reference name member target session).2 := by
  simp only [dispatchQualified, routeQualified]
  cases (engine.registry.namespace? name).bind fun space => (space.get? member).map (space, ·) with
  | some found => rfl
  | none =>
    simp only [Run.lift_bind, bind_state]
    cases (engine.data? directive.reference session).1 with
    | some template => rfl
    | none => rfl

/-- Every dispatch is a route that is followed. -/
theorem dispatch_eq (engine : Engine) (context : Context σ) (directive : Directive)
    (target : Namespace) :
    engine.dispatch context directive target = (do
      Run.lift (Run.note (.dispatched directive.token context.depth))
      let route ← Run.lift (engine.route directive.reference target)
      engine.follow context directive target route) := by
  funext session
  simp only [dispatch, Run.lift_bind, route]
  cases qualified? directive.reference with
  | none => exact engine.dispatchMember_eq context directive target _
  | some parts => exact engine.dispatchQualified_eq context directive target parts.1 parts.2 _

section Route

variable {p : Operation → Prop} {engine : Engine} {target : Namespace}

theorem routeMember_all (hregistry : engine.registry.All p) (htarget : target.All p)
    (member : String) (session : Session σ) :
    (engine.routeMember member target session).1.All p := by
  unfold routeMember
  cases hown : target.get? member with
  | some operation => exact ⟨htarget, htarget.get? hown⟩
  | none =>
    simp only [bind_state]
    cases (engine.data? (target.dataKey member) session).1 with
    | some template => exact htarget
    | none =>
      cases hroot : engine.registry.root.get? member with
      | some operation => exact ⟨hregistry.root, hregistry.root.get? hroot⟩
      | none => trivial

theorem routeQualified_all (hregistry : engine.registry.All p) (htarget : target.All p)
    (reference name member : String) (session : Session σ) :
    (engine.routeQualified reference name member target session).1.All p := by
  simp only [routeQualified]
  cases hspace : engine.registry.namespace? name with
  | none =>
    simp only [Option.bind_none, bind_state]
    cases (engine.data? reference session).1 with
    | some template => exact htarget
    | none => trivial
  | some space =>
    have hall := hregistry.namespace? hspace
    simp only [Option.bind_some]
    cases hmember : space.get? member with
    | some operation => exact ⟨hall, hall.get? hmember⟩
    | none =>
      simp only [Option.map_none, bind_state]
      cases (engine.data? reference session).1 with
      | some template => exact hall
      | none => trivial

theorem route_all (hregistry : engine.registry.All p) (htarget : target.All p) (reference : String)
    (session : Session σ) : (engine.route reference target session).1.All p := by
  unfold route
  cases qualified? reference with
  | none => exact routeMember_all hregistry htarget reference session
  | some parts => exact routeQualified_all hregistry htarget reference parts.1 parts.2 session

theorem namespaceAt_all (hregistry : engine.registry.All p) {own : Namespace} (hown : own.All p)
    (place : Place) : (engine.namespaceAt own place).All p := by
  cases place with
  | own => exact hown
  | root => exact hregistry.root
  | named name =>
    rw [namespaceAt]
    cases hspace : engine.registry.namespace? name with
    | none => exact hregistry.root
    | some space => exact hregistry.namespace? hspace

end Route

/-- What a directive comes to by the reply of its operation. -/
def report (token : String) : Except OperationError String → Run σ String
  | .ok text => pure text
  | .error error => fold token error

def applyTo (engine : Engine) (context : Context σ) (token : String) (space : Namespace)
    (name : String) (operation : Operation) (arguments : List String) : Run σ String := do
  let depth := context.depth + 1
  Run.lift (Run.note (.called space.name name arguments depth))
  let plan := (operation ⟨arguments, space.scope, depth⟩).run
  report token (← Run.lift (engine.perform context space plan))

theorem invoke_eq (engine : Engine) (context : Context σ) (directive : Directive)
    (caller space : Namespace) (name : String) (operation : Operation) :
    engine.invoke context directive caller space name operation = (do
      match ← Run.lift (directive.arguments.mapM (context.expand caller)).run with
      | .error fault => fold directive.token (.engine fault)
      | .ok arguments =>
        engine.applyTo context directive.token space name operation arguments) := by
  funext session
  simp only [invoke, Run.lift_bind]
  cases (ExceptT.run (directive.arguments.mapM (context.expand caller)) session).1 with
  | error fault => rfl
  | ok arguments => rfl

/-- The text of a directive with so much depth left. -/
def evaluateWithin (engine : Engine) (restart : Namespace → String → Run σ String) (left : Nat)
    (target : Namespace) (token : List Char) : Run σ String :=
  match left with
  | 0 => throw (.tooDeep (String.ofList token) engine.config.maxDepth)
  | left + 1 =>
    engine.evaluate
      ⟨engine.expandWithin restart left, restart, engine.config.maxDepth - (left + 1)⟩ target token

theorem expandWithin_eq (engine : Engine) (restart : Namespace → String → Run σ String) (left : Nat)
    (target : Namespace) (template : String) :
    engine.expandWithin restart left target template =
      splice (engine.evaluateWithin restart left target) (Directive.segments template.toList) := by
  cases left with
  | zero => rfl
  | succ left => rfl

end Engine

end Pastiche
