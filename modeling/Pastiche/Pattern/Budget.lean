import Pastiche.Pattern.Basic

/-!
How much a tree can take at most: characters of output, and trees visited on the way. The sums are
kept in 64 bits and stop at their largest value.
-/

namespace Pastiche.Pattern

def cappedAdd (a b : Nat) : Nat := min (a + b) wordMax

def cappedMul (a b : Nat) : Nat := min (a * b) wordMax

mutual

def Tree.maxLength : Tree → Nat
  | .literal _ => 1
  | .oneOf _ => 1
  | .choice branches => longestBranch branches

def longestBranch : List (List Item) → Nat
  | [] => 0
  | branch :: others => max (sequenceLength 0 branch) (longestBranch others)

def sequenceLength (before : Nat) : List Item → Nat
  | [] => before
  | .repeated tree _ most :: rest =>
    sequenceLength (cappedAdd before (cappedMul tree.maxLength most)) rest

end

mutual

/-- The most trees visited, this one and every pass of a repetition included. -/
def Tree.maxVisits : Tree → Nat
  | .literal _ => 1
  | .oneOf _ => 1
  | .choice branches => cappedAdd (busiestBranch branches) 1

def busiestBranch : List (List Item) → Nat
  | [] => 0
  | branch :: others => max (sequenceVisits 0 branch) (busiestBranch others)

def sequenceVisits (before : Nat) : List Item → Nat
  | [] => before
  | .repeated tree _ most :: rest =>
    sequenceVisits (cappedAdd before (cappedMul tree.maxVisits most)) rest

end

end Pastiche.Pattern
