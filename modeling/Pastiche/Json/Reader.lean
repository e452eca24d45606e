import Pastiche.Json.Scan

/-!
Reading JSON text, left to right; the first flaw decides. `read` gives the whole value, the other
readers take one value of a wanted kind, or any value at all, off the front of a text.

A reader of nested values has a budget of steps. Of two steps in a row at least one uses a
character, so `budget` is always enough.
-/

namespace Pastiche.Json

open Scan

/-- How many containers may stand inside one another. -/
def maxNesting : Nat := 127

namespace Reader

def budget (cs : List Char) : Nat := 2 * cs.length + 2

mutual

/-- A value, with at most `depth` containers inside one another. -/
def value : (budget depth : Nat) → List Char → Except Flaw (Json × List Char)
  | 0, _, _ => .error .malformed
  | budget + 1, depth, cs =>
    match skipSpace cs with
    | [] => .error .truncated
    | 'n' :: rest => do .ok (.null, ← word ['u', 'l', 'l'] rest)
    | 't' :: rest => do .ok (.bool true, ← word ['r', 'u', 'e'] rest)
    | 'f' :: rest => do .ok (.bool false, ← word ['a', 'l', 's', 'e'] rest)
    | '"' :: rest => do
      let (text, rest) ← stringBody rest
      .ok (.string (String.ofList text), rest)
    | '[' :: rest =>
      match depth with
      | 0 => .error .malformed
      | depth + 1 =>
        match skipSpace rest with
        | ']' :: rest => .ok (.array [], rest)
        | _ => do
          let (items, rest) ← items budget depth rest
          .ok (.array items, rest)
    | '{' :: rest =>
      match depth with
      | 0 => .error .malformed
      | depth + 1 =>
        match skipSpace rest with
        | '}' :: rest => .ok (.object [], rest)
        | _ => do
          let (members, rest) ← members budget depth [] rest
          .ok (.object members, rest)
    | c :: rest =>
      if startsNumber c then do
        let (value, rest) ← Scan.number (c :: rest)
        .ok (.number value, rest)
      else .error .malformed

/-- The items of an array from one of them on, and its end. -/
def items : (budget depth : Nat) → List Char → Except Flaw (List Json × List Char)
  | 0, _, _ => .error .malformed
  | budget + 1, depth, cs => do
    let (item, rest) ← value budget depth cs
    match skipSpace rest with
    | [] => .error .truncated
    | ']' :: rest => .ok ([item], rest)
    | ',' :: rest => do
      let (more, rest) ← items budget depth rest
      .ok (item :: more, rest)
    | _ => .error .malformed

/-- The members of an object from one of them on, and its end, added to the members before. -/
def members : (budget depth : Nat) → List (String × Json) → List Char →
    Except Flaw ((List (String × Json)) × List Char)
  | 0, _, _, _ => .error .malformed
  | budget + 1, depth, before, cs =>
    match skipSpace cs with
    | [] => .error .truncated
    | '"' :: rest => do
      let (name, rest) ← stringBody rest
      match skipSpace rest with
      | [] => .error .truncated
      | ':' :: rest => do
        let (content, rest) ← value budget depth rest
        let here := Dictionary.insert (String.ofList name) content before
        match skipSpace rest with
        | [] => .error .truncated
        | '}' :: rest => .ok (here, rest)
        | ',' :: rest => members budget depth here rest
        | _ => .error .malformed
      | _ => .error .malformed
    | _ => .error .malformed

end

mutual

/-- Any value, unread: no limit on nesting, on numbers or on surrogates. -/
def skip : (budget : Nat) → List Char → Except Flaw (List Char)
  | 0, _ => .error .malformed
  | budget + 1, cs =>
    match skipSpace cs with
    | [] => .error .truncated
    | 'n' :: rest => word ['u', 'l', 'l'] rest
    | 't' :: rest => word ['r', 'u', 'e'] rest
    | 'f' :: rest => word ['a', 'l', 's', 'e'] rest
    | '"' :: rest => skipString rest
    | '[' :: rest =>
      match skipSpace rest with
      | ']' :: rest => .ok rest
      | _ => skipItems budget rest
    | '{' :: rest =>
      match skipSpace rest with
      | '}' :: rest => .ok rest
      | _ => skipMembers budget rest
    | c :: rest =>
      if startsNumber c then do
        let (_, rest) ← numeral .malformed (c :: rest)
        .ok rest
      else .error .malformed

def skipItems : (budget : Nat) → List Char → Except Flaw (List Char)
  | 0, _ => .error .malformed
  | budget + 1, cs => do
    let rest ← skip budget cs
    match skipSpace rest with
    | [] => .error .truncated
    | ']' :: rest => .ok rest
    | ',' :: rest => skipItems budget rest
    | _ => .error .malformed

def skipMembers : (budget : Nat) → List Char → Except Flaw (List Char)
  | 0, _ => .error .malformed
  | budget + 1, cs =>
    match skipSpace cs with
    | [] => .error .truncated
    | '"' :: rest => do
      let rest ← skipString rest
      match skipSpace rest with
      | [] => .error .truncated
      | ':' :: rest => do
        let rest ← skip budget rest
        match skipSpace rest with
        | [] => .error .truncated
        | '}' :: rest => .ok rest
        | ',' :: rest => skipMembers budget rest
        | _ => .error .malformed
      | _ => .error .malformed
    | _ => .error .malformed

end

/-- Only blanks may follow the value of a document. -/
def finish {α : Type} : Except Flaw (α × List Char) → Except Flaw α
  | .ok (value, rest) => if (skipSpace rest).isEmpty then .ok value else .error .malformed
  | .error flaw => .error flaw

/-- What is wrong with a value that is not of the wanted kind: a flaw of its own, if it is a word
and has one, and otherwise its kind. -/
def refusal (cs : List Char) : Flaw :=
  let outcome : Except Flaw (List Char) :=
    match skipSpace cs with
    | [] => .error .truncated
    | 'n' :: rest => word ['u', 'l', 'l'] rest
    | 't' :: rest => word ['r', 'u', 'e'] rest
    | 'f' :: rest => word ['a', 'l', 's', 'e'] rest
    | '"' :: rest => (stringBody rest).map Prod.snd
    | '[' :: rest => .ok rest
    | '{' :: rest => .ok rest
    | c :: rest =>
      if startsNumber c then (Scan.number (c :: rest)).map Prod.snd else .error .malformed
  match outcome with
  | .ok _ => .mistyped
  | .error flaw => flaw

def text (cs : List Char) : Except Flaw (String × List Char) :=
  match skipSpace cs with
  | '"' :: rest => do
    let (content, rest) ← stringBody rest
    .ok (String.ofList content, rest)
  | _ => .error (refusal cs)

def naturalUpTo (limit : Nat) (cs : List Char) : Except Flaw (Nat × List Char) :=
  match skipSpace cs with
  | c :: rest =>
    if startsNumber c then do
      match ← Scan.number (c :: rest) with
      | (.natural n, rest) => if n ≤ limit then .ok (n, rest) else .error .mistyped
      | _ => .error .mistyped
    else .error (refusal cs)
  | [] => .error .truncated

def nullable {α : Type} (reader : List Char → Except Flaw (α × List Char)) (cs : List Char) :
    Except Flaw (Option α × List Char) :=
  match skipSpace cs with
  | 'n' :: rest => do .ok (none, ← word ['u', 'l', 'l'] rest)
  | _ => do
    let (value, rest) ← reader cs
    .ok (some value, rest)

end Reader

def read (text : String) : Except Flaw Json :=
  Reader.finish (Reader.value (Reader.budget text.toList) maxNesting text.toList)

end Pastiche.Json
