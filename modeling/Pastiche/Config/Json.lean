import Pastiche.Locale.Json
import Pastiche.Word

/-! Settings as JSON: an object of those that are given, or an array of them in their order. -/

namespace Pastiche.Config

/-- The settings that a document has given so far. -/
structure Draft where
  locale : Option Locale
  maxDepth : Option Nat
  maxRepeat : Option Nat
  seed : Option (Option Nat)

namespace Draft

def empty : Draft := ⟨none, none, none, none⟩

/-- Settings that are not given have their usual value. -/
def complete (draft : Draft) : Config :=
  { locale := draft.locale.getD default.locale
    maxDepth := draft.maxDepth.getD default.maxDepth
    maxRepeat := draft.maxRepeat.getD default.maxRepeat
    seed := draft.seed.getD default.seed }

end Draft

def readDepth : List Char → Except Json.Flaw (Nat × List Char) :=
  Json.Reader.naturalUpTo (Word.largest 64)

def readRepeat : List Char → Except Json.Flaw (Nat × List Char) :=
  Json.Reader.naturalUpTo (Word.largest 32)

def readSeed : List Char → Except Json.Flaw (Option Nat × List Char) :=
  Json.Reader.nullable (Json.Reader.naturalUpTo (Word.largest 64))

def colon (cs : List Char) : Except Json.Flaw (List Char) :=
  match Json.Scan.skipSpace cs with
  | [] => .error .truncated
  | ':' :: rest => .ok rest
  | _ => .error .malformed

/-- A setting after its name, which must be new. -/
def setting {α : Type} (given : Option α) (reader : List Char → Except Json.Flaw (α × List Char))
    (cs : List Char) : Except Json.Flaw (α × List Char) :=
  match given with
  | some _ => .error .mistyped
  | none => do reader (← colon cs)

/-- Takes the value of a name into the draft. Unknown names are passed over. -/
def Draft.member (draft : Draft) (name : List Char) (cs : List Char) :
    Except Json.Flaw (Draft × List Char) :=
  match String.ofList name with
  | "locale" => do
    let (locale, rest) ← setting draft.locale Locale.readJson cs
    .ok ({ draft with locale := some locale }, rest)
  | "max_depth" => do
    let (maxDepth, rest) ← setting draft.maxDepth readDepth cs
    .ok ({ draft with maxDepth := some maxDepth }, rest)
  | "max_repeat" => do
    let (maxRepeat, rest) ← setting draft.maxRepeat readRepeat cs
    .ok ({ draft with maxRepeat := some maxRepeat }, rest)
  | "seed" => do
    let (seed, rest) ← setting draft.seed readSeed cs
    .ok ({ draft with seed := some seed }, rest)
  | _ => do
    let rest ← colon cs
    .ok (draft, ← Json.Reader.skip (Json.Reader.budget rest) rest)

/-- The members of an object from one of them on, and its end. Each step of the budget uses a
character. -/
def Draft.members : (budget : Nat) → Draft → List Char → Except Json.Flaw (Draft × List Char)
  | 0, _, _ => .error .malformed
  | budget + 1, draft, cs =>
    match Json.Scan.skipSpace cs with
    | [] => .error .truncated
    | '"' :: rest => do
      let (name, rest) ← Json.Scan.stringBody rest
      let (draft, rest) ← draft.member name rest
      match Json.Scan.skipSpace rest with
      | [] => .error .truncated
      | '\x7d' :: rest => .ok (draft, rest)
      | ',' :: rest => members budget draft rest
      | _ => .error .malformed
    | _ => .error .malformed

/-- The next item of an array if there is one. `first` tells whether none came before. -/
def item {α : Type} (first : Bool) (reader : List Char → Except Json.Flaw (α × List Char))
    (cs : List Char) : Except Json.Flaw (Option α × List Char) :=
  match Json.Scan.skipSpace cs with
  | [] => .error .truncated
  | ']' :: rest => .ok (none, ']' :: rest)
  | c :: rest =>
    if first then do
      let (value, rest) ← reader (c :: rest)
      .ok (some value, rest)
    else if c = ',' then
      match Json.Scan.skipSpace rest with
      | [] => .error .truncated
      | ']' :: _ => .error .malformed
      | rest => do
        let (value, rest) ← reader rest
        .ok (some value, rest)
    else .error .malformed

def arrayEnd (cs : List Char) : Except Json.Flaw (List Char) :=
  match Json.Scan.skipSpace cs with
  | [] => .error .truncated
  | ']' :: rest => .ok rest
  | _ => .error .malformed

def Draft.items (cs : List Char) : Except Json.Flaw (Draft × List Char) := do
  let (locale, rest) ← item true Locale.readJson cs
  let (maxDepth, rest) ← item false readDepth rest
  let (maxRepeat, rest) ← item false readRepeat rest
  let (seed, rest) ← item false readSeed rest
  .ok (⟨locale, maxDepth, maxRepeat, seed⟩, ← arrayEnd rest)

def Draft.read (cs : List Char) : Except Json.Flaw (Draft × List Char) :=
  match Json.Scan.skipSpace cs with
  | [] => .error .truncated
  | '[' :: rest => Draft.items rest
  | '\x7b' :: rest =>
    match Json.Scan.skipSpace rest with
    | '\x7d' :: rest => .ok (.empty, rest)
    | _ => Draft.members (rest.length + 1) .empty rest
  | _ => .error (Json.Reader.refusal cs)

def checked (config : Config) : Except Fault Config :=
  match config.flaw? with
  | some flaw => .error (.config flaw)
  | none => .ok config

def ofJson (document : String) : Except Fault Config :=
  match Json.Reader.finish (Draft.read document.toList) with
  | .ok draft => checked draft.complete
  | .error flaw => .error (.json flaw)

def toJson (config : Config) : Json :=
  .ofMembers [
    ("locale", config.locale.toJson),
    ("max_depth", .natural config.maxDepth),
    ("max_repeat", .natural config.maxRepeat),
    ("seed", (config.seed.map Json.natural).getD .null)]

end Pastiche.Config
