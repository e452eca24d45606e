import Pastiche.Text.Cluster

/-!
Names. `IdNumber`, `IDNumber`, `idNumber` and `id_number` are one name; `id_number` is its usual
form.
-/

namespace Pastiche.Name

def isUpper (cluster : List Char) : Bool :=
  Text.upper cluster != Text.lower cluster && cluster == Text.upper cluster

def isLower (cluster : List Char) : Bool :=
  Text.upper cluster != Text.lower cluster && cluster == Text.lower cluster

def isDigit (cluster : List Char) : Bool := cluster.all Char.isDigit

/-- Does a word end between two clusters? It does before a capital that follows a small letter or a
digit, and before the last of several capitals if a small letter follows. -/
def endsBetween (first second : List Char) (third : Option (List Char)) : Bool :=
  isUpper second && (isLower first || isDigit first || (isUpper first && third.any isLower))

def words : List (List Char) → List (List (List Char))
  | [] => []
  | [cluster] => [[cluster]]
  | first :: second :: rest =>
    match words (second :: rest) with
    | [] => [[first]]
    | word :: more =>
      if endsBetween first second rest.head? then [first] :: word :: more
      else (first :: word) :: more

/-- The usual form of a name without dots. -/
def snakeSegment (cs : List Char) : List Char :=
  List.intercalate ['_'] ((words (Text.clusters cs)).map fun word => Text.lower word.flatten)

def snakeChars (cs : List Char) : List Char :=
  List.intercalate ['.'] ((cs.splitOn '.').map snakeSegment)

def snake (name : String) : String := String.ofList (snakeChars name.toList)

end Pastiche.Name
