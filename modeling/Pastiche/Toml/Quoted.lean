import Pastiche.Toml.Scalar

/-! TOML strings, on one line or on several, with escapes or without, and keys. -/

namespace Pastiche.Toml

/-- Controls that may stand nowhere but in a line break. -/
def isControl (c : Char) : Bool := (c.toNat < 0x20 && c != '\t') || c.toNat == 0x7F

def isSpace (c : Char) : Bool := c == ' ' || c == '\t'

def cons (c : Char) : Option (List Char × List Char) → Option (List Char × List Char) :=
  Option.map fun (content, rest) => (c :: content, rest)

def unescape? : Char → Option Char
  | 'b' => some '\x08'
  | 't' => some '\t'
  | 'n' => some '\n'
  | 'f' => some '\x0c'
  | 'r' => some '\r'
  | 'e' => some '\x1b'
  | '"' => some '"'
  | '\\' => some '\\'
  | _ => none

def codePoint? (digits : List Char) : Option Char :=
  let value := digits.foldl (fun n c => n * 16 + digitValue c) 0
  if digits.all (isDigitOf 16) = true ∧ value.isValidChar then some (Char.ofNat value) else none

/-- A string with escapes after its opening quote. -/
def basic : List Char → Option (List Char × List Char)
  | [] => none
  | '"' :: rest => some ([], rest)
  | '\\' :: 'x' :: a :: b :: rest =>
    match codePoint? [a, b] with
    | some point => cons point (basic rest)
    | none => none
  | '\\' :: 'u' :: a :: b :: c :: d :: rest =>
    match codePoint? [a, b, c, d] with
    | some point => cons point (basic rest)
    | none => none
  | '\\' :: 'U' :: a :: b :: c :: d :: e :: f :: g :: h :: rest =>
    match codePoint? [a, b, c, d, e, f, g, h] with
    | some point => cons point (basic rest)
    | none => none
  | '\\' :: e :: rest =>
    match unescape? e with
    | some c => cons c (basic rest)
    | none => none
  | c :: rest => if isControl c then none else cons c (basic rest)

/-- A string without escapes after its opening quote. -/
def literal : List Char → Option (List Char × List Char)
  | [] => none
  | c :: rest =>
    if c = '\'' then some ([], rest) else if isControl c then none else cons c (literal rest)

/-- Where a reader of several lines is: in the text, behind a backslash that ends its line, or in
the blank that such a backslash removes. -/
inductive Place where
  | text
  | lineEnd
  | removed
deriving DecidableEq

/-- A string of several lines with escapes. Of the quotes before its end two may belong to it. -/
def basicLines (place : Place) : List Char → Option (List Char × List Char)
  | [] => none
  | '\r' :: '\n' :: rest =>
    if place = .text then cons '\n' (basicLines .text rest) else basicLines .removed rest
  | c :: rest =>
    if c = '\n' then
      if place = .text then cons '\n' (basicLines .text rest) else basicLines .removed rest
    else if place ≠ .text ∧ isSpace c = true then basicLines place rest
    else if place = .lineEnd then none
    else if c = '\\' then
      match rest with
      | 'x' :: a :: b :: rest =>
        match codePoint? [a, b] with
        | some point => cons point (basicLines .text rest)
        | none => none
      | 'u' :: a :: b :: c :: d :: rest =>
        match codePoint? [a, b, c, d] with
        | some point => cons point (basicLines .text rest)
        | none => none
      | 'U' :: a :: b :: c :: d :: e :: f :: g :: h :: rest =>
        match codePoint? [a, b, c, d, e, f, g, h] with
        | some point => cons point (basicLines .text rest)
        | none => none
      | e :: rest =>
        match unescape? e with
        | some c => cons c (basicLines .text rest)
        | none => basicLines .lineEnd (e :: rest)
      | [] => none
    else if c = '"' then
      match rest with
      | '"' :: '"' :: '"' :: '"' :: rest => some (['"', '"'], rest)
      | '"' :: '"' :: '"' :: rest => some (['"'], rest)
      | '"' :: '"' :: rest => some ([], rest)
      | rest => cons '"' (basicLines .text rest)
    else if isControl c then none
    else cons c (basicLines .text rest)

def literalLines : List Char → Option (List Char × List Char)
  | [] => none
  | '\r' :: '\n' :: rest => cons '\n' (literalLines rest)
  | '\'' :: '\'' :: '\'' :: '\'' :: '\'' :: rest => some (['\'', '\''], rest)
  | '\'' :: '\'' :: '\'' :: '\'' :: rest => some (['\''], rest)
  | '\'' :: '\'' :: '\'' :: rest => some ([], rest)
  | c :: rest => if isControl c && c != '\n' then none else cons c (literalLines rest)

/-- A line break right after the opening quotes is not part of the string. -/
def skipLineBreak : List Char → List Char
  | '\n' :: rest => rest
  | '\r' :: '\n' :: rest => rest
  | cs => cs

def isBareKeyChar (c : Char) : Bool := c.isAlphanum || c == '_' || c == '-'

def keyPart (cs : List Char) : Option (String × List Char) :=
  match cs with
  | '"' :: rest => (basic rest).map fun (content, rest) => (String.ofList content, rest)
  | '\'' :: rest => (literal rest).map fun (content, rest) => (String.ofList content, rest)
  | cs =>
    let name := cs.takeWhile isBareKeyChar
    if name.isEmpty then none else some (String.ofList name, cs.dropWhile isBareKeyChar)

def skipSpace (cs : List Char) : List Char := cs.dropWhile isSpace

def maxParts : Nat := 80

/-- A dotted key of at most so many parts: the parts before the last one, and the last one. -/
def key : (parts : Nat) → List Char → Option ((List String × String) × List Char)
  | 0, _ => none
  | parts + 1, cs => do
    let (name, rest) ← keyPart (skipSpace cs)
    match skipSpace rest with
    | '.' :: rest => do
      let ((path, last), rest) ← key parts rest
      some ((name :: path, last), rest)
    | rest => some (([], name), rest)

end Pastiche.Toml
