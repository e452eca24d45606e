import Pastiche.Toml.Quoted

/-! Reading a TOML document. -/

namespace Pastiche.Toml

def maxNesting : Nat := 80

def skipFiller (inComment : Bool) : List Char → Option (List Char)
  | [] => some []
  | '\r' :: '\n' :: rest => skipFiller false rest
  | c :: rest =>
    if c = '\n' then skipFiller false rest
    else if inComment then (if isControl c then none else skipFiller true rest)
    else if isSpace c then skipFiller false rest
    else if c = '#' then skipFiller true rest
    else some (c :: rest)

mutual

/-- A value. Of three steps of the budget in a row at least one uses a character. -/
def value : (budget depth : Nat) → List Char → Option (Toml × List Char)
  | 0, _, _ => none
  | budget + 1, depth, cs =>
    match cs with
    | '"' :: '"' :: '"' :: rest => do
      let (content, rest) ← basicLines .text (skipLineBreak rest)
      some (.text (String.ofList content), rest)
    | '"' :: rest => do
      let (content, rest) ← basic rest
      some (.text (String.ofList content), rest)
    | '\'' :: '\'' :: '\'' :: rest => do
      let (content, rest) ← literalLines (skipLineBreak rest)
      some (.text (String.ofList content), rest)
    | '\'' :: rest => do
      let (content, rest) ← literal rest
      some (.text (String.ofList content), rest)
    | '[' :: rest =>
      match depth with
      | 0 => none
      | depth + 1 => do
        let (items, rest) ← items budget depth rest
        some (.array items, rest)
    | '\x7b' :: rest =>
      match depth with
      | 0 => none
      | depth + 1 => do
        let (entries, rest) ← pairs budget depth [] rest
        some (.table .closed entries, rest)
    | cs => do
      let (written, rest) := word cs
      some (← scalar? written, rest)

def items : (budget depth : Nat) → List Char → Option (List Toml × List Char)
  | 0, _, _ => none
  | budget + 1, depth, cs => do
    match ← skipFiller false cs with
    | ']' :: rest => some ([], rest)
    | cs => do
      let (item, rest) ← value budget depth cs
      match ← skipFiller false rest with
      | ']' :: rest => some ([item], rest)
      | ',' :: rest => do
        let (more, rest) ← items budget depth rest
        some (item :: more, rest)
      | _ => none

/-- The pairs of a table between braces, added to those before, and its end. -/
def pairs : (budget depth : Nat) → Entries → List Char → Option (Entries × List Char)
  | 0, _, _, _ => none
  | budget + 1, depth, before, cs => do
    match ← skipFiller false cs with
    | '\x7d' :: rest => some (before, rest)
    | cs => do
      let ((path, name), rest) ← key maxParts cs
      let rest ← mark '=' (← skipFiller false rest)
      let (content, rest) ← value budget depth (← skipFiller false rest)
      let here ← assign path name content .closed before
      match ← skipFiller false rest with
      | '\x7d' :: rest => some (here, rest)
      | ',' :: rest => pairs budget depth here rest
      | _ => none

end

def endLine (cs : List Char) : Option (List Char) :=
  let rest := match skipSpace cs with
    | '#' :: rest => rest.dropWhile fun c => !isControl c
    | cs => cs
  match rest with
  | [] => some []
  | '\n' :: rest => some rest
  | '\r' :: '\n' :: rest => some rest
  | _ => none

/-- The lines of a document, added to the entries so far. `header` is the path of the table that
plain keys go into. Each step of the budget uses a character. -/
def lines : (budget : Nat) → (header : List String) → Entries → List Char → Option Entries
  | 0, _, _, _ => none
  | budget + 1, header, entries, cs => do
    match ← skipFiller false cs with
    | [] => some entries
    | '[' :: '[' :: rest => do
      let ((path, name), rest) ← key maxParts rest
      let rest ← endLine (← mark ']' (← mark ']' rest))
      let entries ← within false (defineElement name) path .defined entries
      lines budget (path ++ [name]) entries rest
    | '[' :: rest => do
      let ((path, name), rest) ← key maxParts rest
      let rest ← endLine (← mark ']' rest)
      let entries ← within false (define name) path .defined entries
      lines budget (path ++ [name]) entries rest
    | cs => do
      let ((path, name), rest) ← key maxParts cs
      let rest ← mark '=' rest
      let (content, rest) ← value (3 * rest.length + 3) maxNesting (skipSpace rest)
      let rest ← endLine rest
      let entries ← within false (assign path name content) header .defined entries
      lines budget header entries rest

def skipByteOrderMark : List Char → List Char
  | '\ufeff' :: rest => rest
  | cs => cs

/-- The entries of a document; `none` where it is not TOML. -/
def read? (text : String) : Option Entries :=
  let cs := skipByteOrderMark text.toList
  lines (cs.length + 1) [] [] cs

end Pastiche.Toml
