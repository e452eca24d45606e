import Mathlib.Data.List.TakeWhile
import Pastiche.Proofs.Directive.Quotation
import Pastiche.Proofs.Engine.Precedence
import Pastiche.Proofs.Engine.Splice

/-! Directives with a reference only: they are found and parsed as a whole. -/

namespace Pastiche

namespace Directive

def mention (key : String) : String := "#\x7b" ++ key ++ "\x7d"

theorem toList_mention (key : String) :
    (mention key).toList = opener ++ (key.toList ++ []) ++ ['\x7d'] := by
  simp [mention, opener]

structure Begins (key : String) : Prop where
  path : IsPath key.toList
  head : ∀ c ∈ key.toList.head?, c.isDigit = false

namespace Begins

variable {key : String}

theorem cut?_mention (h : Begins key) :
    cut? (mention key).toList = some ⟨[], (mention key).toList, []⟩ := by
  have hdirective : IsDirective (mention key).toList := by
    rw [toList_mention]
    exact (h.path.isDirective_iff fun _ => .nil).mpr h.head
  have hcut := hdirective.cut?_eq []
  rwa [List.append_nil] at hcut

theorem parse?_mention (h : Begins key) :
    parse? (String.ofList (mention key).toList) = some ⟨mention key, key, []⟩ := by
  have htoken : (mention key).toList = opener ++ (key.toList ++ [] ++ []) ++ ['\x7d'] := by
    rw [toList_mention, List.append_nil (key.toList ++ [])]
  rw [parse?_token htoken h.path (by simp) (by simp) (by simp), String.ofList_toList,
    String.ofList_toList]
  rfl

end Begins

/-- A reference without a namespace that a directive can begin with. -/
structure IsMember (key : String) : Prop where
  nonempty : key.toList ≠ []
  chars : ∀ c ∈ key.toList, c.isAlphanum = true ∨ c = '_'
  head : ∀ c ∈ key.toList.head?, c.isDigit = false

namespace IsMember

variable {key member : String}

theorem begins (h : IsMember key) : Begins key := by
  refine ⟨⟨[key.toList], List.cons_ne_nil _ _, List.intercalate_singleton.symm, ?_⟩, h.head⟩
  intro segment hsegment
  obtain rfl := List.mem_singleton.mp hsegment
  exact ⟨h.nonempty, h.chars⟩

theorem begins_qualified (h : IsMember key) (hmember : IsMember member) :
    Begins (key ++ "." ++ member) := by
  have htext : (key ++ "." ++ member).toList = key.toList ++ '.' :: member.toList := by simp
  refine ⟨⟨[key.toList, member.toList], List.cons_ne_nil _ _, ?_, ?_⟩, ?_⟩
  · rw [htext]
    simp [List.intercalate]
  · intro segment hsegment
    simp only [List.mem_cons, List.not_mem_nil, or_false] at hsegment
    rcases hsegment with rfl | rfl
    · exact ⟨h.nonempty, h.chars⟩
    · exact ⟨hmember.nonempty, hmember.chars⟩
  · rw [htext, h.begins.path.head?_append]
    exact h.head

theorem not_mem_dot (h : IsMember key) : '.' ∉ key.toList := by
  intro hdot
  rcases h.chars '.' hdot with halnum | heq
  · exact absurd halnum (by decide)
  · exact absurd heq (by decide)

end IsMember

end Directive

namespace Engine

open Directive (mention Begins)

theorem expandWithin_mention {σ : Type} [Source σ] {engine : Engine} {key : String}
    (hkey : Begins key) (restart : Namespace → String → Run σ String) (left : Nat) (target : Namespace) :
    engine.expandWithin restart left target (mention key) =
      engine.evaluateWithin restart left target (mention key).toList := by
  have hrest : engine.expandWithin restart left target "" = pure "" := expandWithin_of_none rfl
  rw [expandWithin_of_some hkey.cut?_mention]
  simp only [String.ofList_nil, hrest, pure_bind, String.empty_append, String.append_empty,
    bind_pure]

end Engine

end Pastiche
