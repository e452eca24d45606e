import Pastiche.Log.Line
import Pastiche.Operation.Plan

/-! The state of a run: the random source, the counters, and what has happened. -/

namespace Pastiche

inductive Event where
  | probed (key : String) (locale : Locale) (isFound : Bool)
  | dispatched (token : String) (depth : Nat)
  | called (target operation : String) (arguments : List String) (depth : Nat)
  | malformed (token : String)
  | unmatched (token target : String)
  | failed (token : String) (error : OperationError)
  | unsupported (locale : Locale)
  | ready (chain : List Locale) (namespaces : Nat)

/-- The log record of an event, if it has one. -/
def Event.record? : Event → Option Log.Record
  | .probed key locale isFound =>
    some ⟨.trace, "forgery_core::fetcher",
      key ++ (if isFound then " found in " else " not in ") ++ locale.tag⟩
  | .dispatched _ _ => none
  | .called _ _ _ _ => none
  | .malformed token =>
    some ⟨.debug, "forgery_core::expander", "malformed directive " ++ token⟩
  | .unmatched token target =>
    some ⟨.debug, "forgery_core::expander",
      "no operation or data for " ++ token ++ " (target " ++ target ++ ")"⟩
  | .failed token error =>
    some ⟨.debug, "forgery_core::expander", token ++ " failed: " ++ error.message⟩
  | .unsupported locale =>
    some ⟨.debug, "forgery_core::faker",
      "no data for " ++ locale.tag ++ " or " ++ locale.withoutCountry.tag⟩
  | .ready chain namespaces =>
    some ⟨.info, "forgery_core::faker",
      "faker ready: locale " ++ (chain.head?.map Locale.tag).getD "" ++ ", chain [" ++
        Locale.chainText chain ++ "], " ++ namespaces.repr ++ " namespaces"⟩

structure Session (σ : Type) where
  source : σ
  /-- How often each counter has been asked. -/
  counters : List (String × Nat)
  /-- What has happened, the latest first. -/
  journal : List Event

namespace Session

variable {σ : Type}

def start (source : σ) : Session σ := ⟨source, [], []⟩

/-- The log records of what has happened, the earliest first. -/
def records (session : Session σ) : List Log.Record :=
  session.journal.reverse.filterMap Event.record?

end Session

/-- A step of an engine. What a failed step did stays done. -/
abbrev Run (σ α : Type) := ExceptT Fault (StateM (Session σ)) α

namespace Run

variable {σ α : Type}

def lift (step : StateM (Session σ) α) : Run σ α := ExceptT.lift step

def note (event : Event) : StateM (Session σ) Unit :=
  modify fun session => { session with journal := event :: session.journal }

def draw (step : StateM σ α) : StateM (Session σ) α := fun session =>
  let (result, source) := step session.source
  (result, { session with source })

/-- How often the counter was asked before. -/
def count (counter : String) : StateM (Session σ) Nat := fun session =>
  let before := (Dictionary.find? counter session.counters).getD 0
  (before, { session with counters := Dictionary.insert counter (before + 1) session.counters })

end Run

end Pastiche
