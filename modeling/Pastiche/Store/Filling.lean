import Pastiche.Fault
import Pastiche.Json.Reader
import Pastiche.Store

/-! Filling a store step by step. -/

namespace Pastiche

/-- A step on a store. What a failed step did stays done. -/
abbrev Filling (α : Type) := ExceptT Fault (StateM Store) α

theorem Filling.bind_of_ok {α β : Type} {step : Filling α} {next : α → Filling β}
    {store after : Store} {a : α} (h : step store = (.ok a, after)) :
    (step >>= next) store = next a after := by
  change ExceptT.bindCont next (step store).1 (step store).2 = next a after
  rw [h]
  rfl

namespace Store

def addDocument (locale : Locale) (document : Json) : Filling Unit := do
  match (← get).insertValue locale document with
  | .ok filled => modify fun _ => filled
  | .error (path, defect) => throw (.malformedData path defect)

def addText (locale : Locale) (text : String) : Filling Unit := do
  match Json.read text with
  | .ok document => addDocument locale document
  | .error flaw => throw (.json flaw)

theorem get_eq (store : Store) : (get : Filling Store) store = (.ok store, store) := rfl

theorem addDocument_of_ok {store after : Store} {locale : Locale} {document : Json}
    (h : store.insertValue locale document = .ok after) :
    addDocument locale document store = (.ok (), after) := by
  rw [addDocument, Filling.bind_of_ok (get_eq store), h]
  rfl

theorem addDocument_of_error {store : Store} {locale : Locale} {document : Json} {path : String}
    {defect : Defect} (h : store.insertValue locale document = .error (path, defect)) :
    addDocument locale document store = (.error (.malformedData path defect), store) := by
  rw [addDocument, Filling.bind_of_ok (get_eq store), h]
  rfl

end Store

end Pastiche
