import Pastiche.Proofs.Operation.Plan

/-!
Properties that all operations of a namespace or of a registry have, and what every registry that
is set up has in common.
-/

namespace Pastiche

def Namespace.All (p : Operation → Prop) (space : Namespace) : Prop :=
  ∀ entry ∈ space.operations, p entry.2

structure Registry.All (p : Operation → Prop) (registry : Registry) : Prop where
  root : registry.root.All p
  namespaces : ∀ entry ∈ registry.namespaces, entry.2.All p

section

variable {p q : Operation → Prop} {space : Namespace} {registry : Registry}

theorem Namespace.All.imp (h : space.All p) (himp : ∀ operation, p operation → q operation) :
    space.All q := fun entry hentry => himp entry.2 (h entry hentry)

theorem Registry.All.imp (h : registry.All p) (himp : ∀ operation, p operation → q operation) :
    registry.All q :=
  ⟨h.root.imp himp, fun entry hentry => (h.namespaces entry hentry).imp himp⟩

theorem Namespace.All.get? (h : space.All p) {name : String} {operation : Operation}
    (hget : space.get? name = some operation) : p operation := by
  unfold Namespace.get? at hget
  cases hfind : Dictionary.find? name space.operations with
  | some found =>
    rw [hfind] at hget
    cases hget
    exact h _ (Dictionary.mem_of_find? hfind)
  | none =>
    rw [hfind] at hget
    exact h _ (Dictionary.mem_of_find? hget)

theorem Registry.All.namespace? (h : registry.All p) {name : String}
    (hspace : registry.namespace? name = some space) : space.All p :=
  h.namespaces _ (Dictionary.mem_of_find? hspace)

theorem Namespace.All.register (h : space.All p) {operation : Operation} (hp : p operation)
    (name : String) : (space.register name operation).All p := by
  intro entry hentry
  rcases Dictionary.mem_insert hentry with rfl | hrest
  · exact hp
  · exact h entry hrest

end

/-- A registry as it can be set up: it begins with the root that is always there, and more is
registered in it. -/
inductive Registry.Built : Registry → Prop where
  | default : Built Registry.default
  | register {registry : Registry} (h : Built registry) (space : Namespace) :
      Built (registry.register space)
  | registerRoot {registry : Registry} (h : Built registry) (name : String)
      (operation : Operation) : Built (registry.registerRoot name operation)

theorem Registry.Built.dataKey_root {registry : Registry} (h : registry.Built) (member : String) :
    registry.root.dataKey member = member := by
  have hbase : registry.root.base = none := by
    induction h with
    | default => rfl
    | register _ _ ih => exact ih
    | registerRoot _ _ _ ih => exact ih
  rw [Namespace.dataKey, Namespace.scope, Scope.dataKey, hbase]

def Operation.Nested (operation : Operation) : Prop := ∀ call, (operation call).run.Nested

def Operation.Obedient (operation : Operation) : Prop := ∀ call, (operation call).Obedient

namespace Builtin

open Reply

theorem obedient_numerify : numerify.Obedient := fun _ =>
  (obedient_require _).bind fun _ => (obedient_require _).bind fun _ => obedient_generate _

theorem obedient_letterify : letterify.Obedient := fun _ =>
  (obedient_require _).bind fun _ => (obedient_require _).bind fun _ => obedient_generate _

theorem obedient_bothify : bothify.Obedient := by
  refine fun call => (obedient_require _).bind fun pattern => ?_
  by_cases hlength : call.arguments.length = 2
  · rw [if_pos hlength]
    exact (obedient_require _).bind fun _ => obedient_generate _
  · rw [if_neg hlength]
    exact obedient_generate _

theorem obedient_regexify : regexify.Obedient := fun _ =>
  (obedient_require _).bind fun _ => (obedient_require _).bind fun _ => obedient_generate _

theorem obedient_validIdNumber : validIdNumber.Obedient := fun _ =>
  (obedient_require _).bind fun _ => obedient_resolve _

theorem obedient_invalidIdNumber : invalidIdNumber.Obedient := fun _ =>
  (obedient_require _).bind fun _ => (obedient_resolve _).bind fun _ => obedient_generate _

theorem root_all {p : Operation → Prop} (hnumerify : p numerify) (hletterify : p letterify)
    (hbothify : p bothify) (hregexify : p regexify) : root.All p := by
  have hempty : Namespace.root.All p := fun _ hentry => nomatch hentry
  have hnumbers := hempty.register hnumerify "numerify"
  have hletters := hnumbers.register hletterify "letterify"
  have hboth := hletters.register hbothify "bothify"
  exact hboth.register hregexify "regexify"

theorem idNumber_all {p : Operation → Prop} (hvalid : p validIdNumber)
    (hinvalid : p invalidIdNumber) : idNumber.All p := by
  have hempty : (Namespace.named "IdNumber").All p := fun _ hentry => nomatch hentry
  exact (hempty.register hvalid "valid").register hinvalid "invalid"

end Builtin

theorem Registry.default_all {p : Operation → Prop} (hroot : Builtin.root.All p)
    (hidNumber : Builtin.idNumber.All p) : (Registry.default.register Builtin.idNumber).All p := by
  refine ⟨hroot, fun entry hentry => ?_⟩
  rcases Dictionary.mem_insert hentry with rfl | hrest
  · exact hidNumber
  · cases hrest

open Builtin in
theorem Registry.default_obedient :
    (Registry.default.register Builtin.idNumber).All Operation.Obedient :=
  Registry.default_all
    (root_all obedient_numerify obedient_letterify obedient_bothify obedient_regexify)
    (idNumber_all obedient_validIdNumber obedient_invalidIdNumber)

end Pastiche
