import Pastiche.Pattern.Parser

/-! Generating text from a tree. -/

namespace Pastiche.Pattern

variable {σ : Type} [Source σ]

def passes (pass : StateM σ (List Char)) : Nat → StateM σ (List Char)
  | 0 => pure []
  | count + 1 => do
    let text ← pass
    let more ← passes pass count
    pure (text ++ more)

mutual

/-- A text of the tree. Branch, count and member are drawn wherever there is a choice. -/
def Tree.generate : Tree → StateM σ (List Char)
  | .literal c => pure [c]
  | .oneOf members => do
    let index ← choose members.length
    pure members[index]?.toList
  | .choice branches => do
    let index ← choose branches.length
    generateBranch branches index

def generateBranch : List (List Item) → Nat → StateM σ (List Char)
  | [], _ => pure []
  | branch :: _, 0 => generateItems branch
  | _ :: others, index + 1 => generateBranch others index

def generateItems : List Item → StateM σ (List Char)
  | [] => pure []
  | .repeated tree least most :: rest => do
    let extra ← choose (most - least + 1)
    let text ← passes tree.generate (least + extra)
    let more ← generateItems rest
    pure (text ++ more)

end

def Tree.sample (tree : Tree) : StateM σ String := String.ofList <$> tree.generate

end Pastiche.Pattern
