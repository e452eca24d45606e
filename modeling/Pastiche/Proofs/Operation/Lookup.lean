import Pastiche.Operation.Builtin
import Pastiche.Proofs.Name

/-!
Operations and namespaces by name. All spellings of a name stand for what was registered last under
any of them.
-/

namespace Pastiche

variable {α : Type}

namespace Dictionary

theorem find?_insert (key other : String) (value : α) (entries : List (String × α)) :
    find? other (insert key value entries) =
      if other = key then some value else find? other entries := by
  by_cases heq : other = key
  · rw [heq, find?_insert_self, if_pos rfl]
  · rw [find?_insert_of_ne heq, if_neg heq]

end Dictionary

namespace Name

/-- Enters values under the usual forms of their names, one after the other. -/
def enter (entries calls : List (String × α)) : List (String × α) :=
  calls.foldl (fun entries call => Dictionary.insert (snake call.1) call.2 entries) entries

/-- The last value with a name of this usual form. -/
def last? (form : String) (calls : List (String × α)) : Option α :=
  (calls.reverse.find? fun call => snake call.1 == form).map Prod.snd

theorem last?_cons (form : String) (call : String × α) (calls : List (String × α)) :
    last? form (call :: calls) =
      (last? form calls <|> if snake call.1 = form then some call.2 else none) := by
  simp only [last?, List.reverse_cons, List.find?_append]
  cases calls.reverse.find? fun call => snake call.1 == form with
  | some found => rfl
  | none => by_cases heq : snake call.1 = form <;> simp [heq]

theorem find?_enter (form : String) (entries calls : List (String × α)) :
    Dictionary.find? form (enter entries calls) =
      (last? form calls <|> Dictionary.find? form entries) := by
  induction calls generalizing entries with
  | nil => rfl
  | cons call calls ih =>
    have hrest := ih (Dictionary.insert (snake call.1) call.2 entries)
    rw [Dictionary.find?_insert] at hrest
    rw [last?_cons]
    change Dictionary.find? form (enter (Dictionary.insert (snake call.1) call.2 entries) calls) = _
    rw [hrest]
    cases last? form calls with
    | some value => rfl
    | none =>
      by_cases heq : form = snake call.1
      · simp [heq]
      · simp [heq, Ne.symm heq]

theorem exists_of_last? {form : String} {calls : List (String × α)} {value : α}
    (h : last? form calls = some value) : ∃ call ∈ calls, snake call.1 = form := by
  obtain ⟨call, hfound, -⟩ := Option.map_eq_some_iff.mp h
  have hmem : call ∈ calls := List.mem_reverse.mp (List.mem_of_find?_eq_some hfound)
  have hform : (snake call.1 == form) = true :=
    List.find?_some (p := fun call : String × α => snake call.1 == form) hfound
  exact ⟨call, hmem, by simpa using hform⟩

end Name

namespace Namespace

def registerAll (space : Namespace) (calls : List (String × Operation)) : Namespace :=
  calls.foldl (fun space call => space.register call.1 call.2) space

theorem operations_registerAll (space : Namespace) (calls : List (String × Operation)) :
    (space.registerAll calls).operations = Name.enter space.operations calls := by
  induction calls generalizing space with
  | nil => rfl
  | cons call calls ih => exact ih (space.register call.1 call.2)

theorem get?_registerAll {name : String} {base : Option String}
    {calls : List (String × Operation)} (hcalls : ∀ call ∈ calls, Text.IsAscii call.1.toList)
    (query : String) :
    ((Namespace.mk name base []).registerAll calls).get? query =
      Name.last? (Name.snake query) calls := by
  have hfind (form : String) : Dictionary.find? form
      ((Namespace.mk name base []).registerAll calls).operations = Name.last? form calls := by
    rw [operations_registerAll, Name.find?_enter]
    cases Name.last? form calls with
    | some operation => rfl
    | none => rfl
  rw [get?, hfind, hfind]
  cases hexact : Name.last? query calls with
  | none => rfl
  | some operation =>
    -- what is registered under the very query makes it a usual form
    obtain ⟨call, hcall, hform⟩ := Name.exists_of_last? hexact
    have hquery : Name.snake query = query := by
      rw [← hform]
      exact Name.snake_idem (hcalls call hcall)
    rw [hquery, hexact]
    rfl

end Namespace

namespace Registry

def registerAll (registry : Registry) (spaces : List Namespace) : Registry :=
  spaces.foldl register registry

theorem namespaces_registerAll (registry : Registry) (spaces : List Namespace) :
    (registry.registerAll spaces).namespaces =
      Name.enter registry.namespaces (spaces.map fun space => (space.name, space)) := by
  induction spaces generalizing registry with
  | nil => rfl
  | cons space spaces ih => exact ih (registry.register space)

theorem namespace?_registerAll (root : Namespace) (spaces : List Namespace) (query : String) :
    ((Registry.mk root []).registerAll spaces).namespace? query =
      Name.last? (Name.snake query) (spaces.map fun space => (space.name, space)) := by
  rw [namespace?, namespaces_registerAll, Name.find?_enter]
  cases Name.last? (Name.snake query) (spaces.map fun space => (space.name, space)) with
  | some space => rfl
  | none => rfl

/-- Whatever was registered under ASCII names, a look-up gives what was registered last under a name
with the usual form of the query, and nothing if there was no such name; and usual forms are their
own. -/
theorem lookup_by_usual_form :
    (∀ (name : String) (base : Option String) (calls : List (String × Operation)),
      (∀ call ∈ calls, Text.IsAscii call.1.toList) → ∀ query,
        ((Namespace.mk name base []).registerAll calls).get? query =
          Name.last? (Name.snake query) calls) ∧
    (∀ (root : Namespace) (spaces : List Namespace) (query : String),
      ((Registry.mk root []).registerAll spaces).namespace? query =
        Name.last? (Name.snake query) (spaces.map fun space => (space.name, space))) ∧
    ∀ name : String, Text.IsAscii name.toList → Name.snake (Name.snake name) = Name.snake name := by
  refine ⟨fun name base calls hcalls query => ?_, fun root spaces query => ?_, fun name hname => ?_⟩
  · exact Namespace.get?_registerAll hcalls query
  · exact namespace?_registerAll root spaces query
  · exact Name.snake_idem hname

theorem lookup_by_usual_form_idNumber :
    (∀ call ∈ [("IDNumber", Builtin.numerify), ("id_number", Builtin.regexify)],
      Text.IsAscii call.1.toList) ∧
    ((Namespace.root.registerAll
      [("IDNumber", Builtin.numerify), ("id_number", Builtin.regexify)]).get? "idNumber" =
        some Builtin.regexify) ∧
    Text.IsAscii "Address.streetLine1".toList ∧
    Name.snake (Name.snake "Address.streetLine1") = "address.street_line1" := by
  have hcalls : ∀ call ∈ [("IDNumber", Builtin.numerify), ("id_number", Builtin.regexify)],
      Text.IsAscii call.1.toList := by
    intro call hcall
    rcases List.mem_cons.mp hcall with rfl | hcall
    · decide +kernel
    · rw [List.mem_singleton.mp hcall]
      decide +kernel
  have hdotted : Text.IsAscii "Address.streetLine1".toList := by decide +kernel
  have hquery : Name.snake "idNumber" = "id_number" := by decide +kernel
  have hlast : Name.snake "id_number" = "id_number" := by decide +kernel
  have hform : Name.snake "Address.streetLine1" = "address.street_line1" := by decide +kernel
  obtain ⟨hspace, -, hidem⟩ := lookup_by_usual_form
  refine ⟨hcalls, ?_, hdotted, (hidem _ hdotted).trans hform⟩
  rw [Namespace.root, hspace _ _ _ hcalls, hquery]
  simp [Name.last?, hlast]

end Registry

end Pastiche
