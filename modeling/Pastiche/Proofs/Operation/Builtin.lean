import Pastiche.Proofs.Except
import Pastiche.Proofs.Operation.Handed
import Pastiche.Proofs.Text.Casing
import Pastiche.Proofs.Text.Padded

/-!
What the operations of the root take. Each of them reads from its arguments what to generate or
refuses them, and nothing is generated for arguments that it refuses.
-/

namespace Pastiche

theorem Text.toLower_of_isBlank {c : Char} (h : isBlank c = true) : c.toLower = c :=
  of_table (P := fun c => isBlank c = true → c.toLower = c) (by decide +kernel)
    (fun _ hc _ => hc.toLower) c h

namespace Arguments

def word (value : Bool) : List Char := (if value then "true" else "false").toList

/-- The text is the word for the truth value in some case, with or without blanks around it. -/
def Names (text : String) (value : Bool) : Prop :=
  ∃ before spelled after : List Char, text.toList = before ++ spelled ++ after ∧
    (∀ c ∈ before, Text.isBlank c = true) ∧ (∀ c ∈ after, Text.isBlank c = true) ∧
    spelled.map Char.toLower = word value

theorem readBool_eq_some_iff {cs : List Char} {value : Bool} :
    readBool cs = some value ↔ cs = word value := by
  constructor
  · intro h
    unfold readBool at h
    split_ifs at h with htrue hfalse <;> cases h
    · exact htrue
    · exact hfalse
  · rintro rfl
    cases value <;> rfl

theorem not_isBlank_of_word {spelled : List Char} {value : Bool}
    (h : spelled.map Char.toLower = word value) : ∀ c ∈ spelled, Text.isBlank c = false := by
  intro c hc
  cases hblank : Text.isBlank c with
  | false => rfl
  | true =>
    have hmem : c.toLower ∈ spelled.map Char.toLower := List.mem_map_of_mem hc
    rw [h, Text.toLower_of_isBlank hblank] at hmem
    have hletters : (word value).all (!Text.isBlank ·) = true := by cases value <;> rfl
    have hletter := List.all_eq_true.mp hletters c hmem
    rw [hblank] at hletter
    cases hletter

theorem names_iff_trim {text : String} {value : Bool} :
    Names text value ↔ (Text.trim text.toList).map Char.toLower = word value := by
  constructor
  · rintro ⟨before, spelled, after, htext, hbefore, hafter, hword⟩
    have hplain := not_isBlank_of_word hword
    rw [htext, Text.trim_between hbefore hafter (fun c hc => hplain c (List.mem_of_mem_head? hc))
      fun c hc => hplain c (List.mem_of_mem_getLast? hc), hword]
  · intro hword
    obtain ⟨before, after, htext, hbefore, hafter⟩ := Text.exists_trim text.toList
    exact ⟨before, _, after, htext, hbefore, hafter, hword⟩

theorem flag_eq_ok_iff {arguments : Arguments} {index : Nat} {text : String} {value : Bool}
    (h : arguments[index]? = some text) :
    arguments.flag index = .ok value ↔ Names text value := by
  rw [names_iff_trim, ← readBool_eq_some_iff]
  simp only [flag, parsed, Arguments.text, h, ok_bind]
  cases readBool ((Text.trim text.toList).map Char.toLower) <;> simp

end Arguments

namespace Reply

theorem require_ok {α β : Type} (a : α) (next : α → Reply β) : require (.ok a) >>= next = next a :=
  rfl

theorem require_bind {α β γ : Type} (result : Except OperationError α)
    (more : α → Except OperationError β) (next : β → Reply γ) :
    require (result >>= more) >>= next = require result >>= fun a => require (more a) >>= next := by
  cases result <;> rfl

end Reply

namespace Builtin

open Arguments (Names)
open Reply

/-- The operations of the root. -/
inductive Kind where
  | numerify
  | letterify
  | bothify
  | regexify
deriving DecidableEq

variable {arguments : Arguments} {generator : Generator}

def single (make : String → Generator) (arguments : Arguments) :
    Except OperationError Generator := do
  arguments.expectCount 1
  .ok (make (← arguments.text 0))

theorem single_eq_ok_iff {make : String → Generator} :
    single make arguments = .ok generator ↔
      ∃ pattern, arguments = [pattern] ∧ generator = make pattern := by
  constructor
  · intro h
    obtain ⟨_, hcount, hmake⟩ := bind_eq_ok h
    match arguments, hcount, hmake with
    | [pattern], _, hmake => exact ⟨pattern, rfl, (Except.ok.inj hmake).symm⟩
  · rintro ⟨pattern, rfl, rfl⟩
    rfl

theorem letterCase_flag {flag : String} {value : Bool} (h : Names flag value) (pattern : String) :
    letterCase [pattern, flag] = .ok (.ofUpper value) := by
  have hvalue : Arguments.flag [pattern, flag] 1 = .ok value :=
    (Arguments.flag_eq_ok_iff rfl).mpr h
  have hcount : Arguments.expectBetween [pattern, flag] 1 2 = .ok () := rfl
  simp only [letterCase, hcount, ok_bind, List.getElem?_cons_succ, List.getElem?_cons_zero, hvalue]

theorem letterCase_eq_ok {case : LetterCase} (h : letterCase arguments = .ok case) :
    (∃ pattern, arguments = [pattern] ∧ case = .upper) ∨
      ∃ pattern flag value, arguments = [pattern, flag] ∧ Names flag value ∧
        case = .ofUpper value := by
  obtain ⟨_, hbetween, hcase⟩ := bind_eq_ok h
  match arguments, hbetween, hcase with
  | [pattern], _, hcase => exact .inl ⟨pattern, rfl, (Except.ok.inj hcase).symm⟩
  | [pattern, flag], _, hcase =>
    obtain ⟨value, hvalue, hcase⟩ := bind_eq_ok hcase
    exact .inr ⟨pattern, flag, value, rfl, (Arguments.flag_eq_ok_iff rfl).mp hvalue,
      (Except.ok.inj hcase).symm⟩

namespace Kind

def operation : Kind → Operation
  | numerify => Builtin.numerify
  | letterify => Builtin.letterify
  | bothify => Builtin.bothify
  | regexify => Builtin.regexify

def name : Kind → String
  | numerify => "numerify"
  | letterify => "letterify"
  | bothify => "bothify"
  | regexify => "regexify"

theorem get?_root (kind : Kind) : root.get? kind.name = some kind.operation := by
  have hsnake : ∀ other : Kind, Name.snake other.name = other.name := by
    rintro (_ | _ | _ | _) <;> decide +kernel
  have hnumerify := hsnake numerify
  have hletterify := hsnake letterify
  have hbothify := hsnake bothify
  have hregexify := hsnake regexify
  simp only [name] at hnumerify hletterify hbothify hregexify
  cases kind <;>
    simp [name, operation, root, Namespace.get?, Namespace.register, Dictionary.find?_insert_self,
      Dictionary.find?_insert_of_ne, hnumerify, hletterify, hbothify, hregexify]

/-- What is generated for the arguments, or why they are refused. -/
def reading : Kind → Arguments → Except OperationError Generator
  | numerify, arguments => single .numerify arguments
  | letterify, arguments => do
    let case ← letterCase arguments
    .ok (.letterify (← arguments.text 0) case)
  | bothify, arguments => do
    let pattern ← arguments.text 0
    if arguments.length = 2 then
      let case ← letterCase arguments
      .ok (.bothifyWith pattern case)
    else .ok (.bothify pattern)
  | regexify, arguments => single .regexify arguments

/-- These arguments are taken, and this is generated for them. -/
inductive Accepts : Kind → Arguments → Generator → Prop where
  | numerify {pattern : String} : Accepts numerify [pattern] (.numerify pattern)
  | letterify {pattern : String} : Accepts letterify [pattern] (.letterify pattern .upper)
  | letterifyIn {pattern flag : String} {value : Bool} (h : Names flag value) :
      Accepts letterify [pattern, flag] (.letterify pattern (.ofUpper value))
  | bothify {pattern : String} : Accepts bothify [pattern] (.bothify pattern)
  | bothifyIn {pattern flag : String} {value : Bool} (h : Names flag value) :
      Accepts bothify [pattern, flag] (.bothifyWith pattern (.ofUpper value))
  /-- More than two arguments are not counted, and all behind the first are ignored. -/
  | bothifyMore {pattern second third : String} {rest : Arguments} :
      Accepts bothify (pattern :: second :: third :: rest) (.bothify pattern)
  | regexify {pattern : String} : Accepts regexify [pattern] (.regexify pattern)

def Allows : Kind → Nat → Prop
  | numerify, count => count = 1
  | letterify, count => count = 1 ∨ count = 2
  | bothify, count => 1 ≤ count
  | regexify, count => count = 1

theorem Accepts.allows {kind : Kind} (h : kind.Accepts arguments generator) :
    kind.Allows arguments.length := by
  cases h with
  | numerify => rfl
  | letterify => exact .inl rfl
  | letterifyIn => exact .inr rfl
  | bothify => exact Nat.le_refl 1
  | bothifyIn => exact Nat.le_succ 1
  | bothifyMore => exact Nat.le_add_left 1 _
  | regexify => rfl

theorem operation_eq (kind : Kind) (call : Invocation) :
    kind.operation call = require (kind.reading call.arguments) >>= generate := by
  cases kind with
  | numerify => simp only [operation, Builtin.numerify, reading, single, require_bind, require_ok]
  | letterify => simp only [operation, Builtin.letterify, reading, require_bind, require_ok]
  | bothify =>
    simp only [operation, Builtin.bothify, reading, require_bind]
    by_cases hlength : call.arguments.length = 2
    · simp only [if_pos hlength, require_bind, require_ok]
    · simp only [if_neg hlength, require_ok]
  | regexify => simp only [operation, Builtin.regexify, reading, single, require_bind, require_ok]

theorem reading_eq_ok_iff {kind : Kind} :
    kind.reading arguments = .ok generator ↔ kind.Accepts arguments generator := by
  constructor
  · intro h
    cases kind with
    | numerify =>
      obtain ⟨pattern, rfl, rfl⟩ := single_eq_ok_iff.mp h
      exact .numerify
    | letterify =>
      obtain ⟨case, hcase, hpattern⟩ := bind_eq_ok h
      rcases letterCase_eq_ok hcase with
        ⟨pattern, rfl, rfl⟩ | ⟨pattern, flag, value, rfl, hnames, rfl⟩ <;> cases hpattern
      · exact .letterify
      · exact .letterifyIn hnames
    | bothify =>
      obtain ⟨pattern, hpattern, hrest⟩ := bind_eq_ok h
      match arguments, hpattern, hrest with
      | [first], hpattern, hrest =>
        cases hpattern
        cases hrest
        exact .bothify
      | [first, second], hpattern, hrest =>
        cases hpattern
        obtain ⟨case, hcase, hgenerator⟩ := bind_eq_ok hrest
        rcases letterCase_eq_ok hcase with
          ⟨pattern, hlist, rfl⟩ | ⟨pattern, flag, value, hlist, hnames, rfl⟩ <;> cases hlist
        cases hgenerator
        exact .bothifyIn hnames
      | first :: second :: third :: rest, hpattern, hrest =>
        have hlength : ¬ (first :: second :: third :: rest).length = 2 := nofun
        cases hpattern
        rw [if_neg hlength] at hrest
        cases hrest
        exact .bothifyMore
    | regexify =>
      obtain ⟨pattern, rfl, rfl⟩ := single_eq_ok_iff.mp h
      exact .regexify
  · intro h
    cases h with
    | numerify => rfl
    | letterify => rfl
    | letterifyIn hnames =>
      rw [reading, letterCase_flag hnames]
      rfl
    | bothify => rfl
    | bothifyIn hnames =>
      simp only [reading, letterCase_flag hnames]
      rfl
    | bothifyMore => rfl
    | regexify => rfl

theorem reading_plain (kind : Kind) (arguments : Arguments) : Plain (kind.reading arguments) := by
  cases kind with
  | numerify => exact (Plain.expectCount _ 1).bind fun _ => (Plain.text _ 0).bind fun _ => nofun
  | letterify => exact (Plain.letterCase _).bind fun _ => (Plain.text _ 0).bind fun _ => nofun
  | bothify =>
    refine (Plain.text _ 0).bind fun pattern => ?_
    split_ifs
    · exact (Plain.letterCase _).bind fun _ => nofun
    · exact nofun
  | regexify => exact (Plain.expectCount _ 1).bind fun _ => (Plain.text _ 0).bind fun _ => nofun

end Kind

end Builtin

end Pastiche
