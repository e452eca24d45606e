import Pastiche.Word

/-!
Random sources. A source is a state and a way to draw from it; everything random in the library
goes through `pick`, which keeps a draw in range whatever the source gives.
-/

namespace Pastiche

/-- A way to draw whole numbers below a bound. -/
class Source (σ : Type) where
  draw : Nat → σ → Nat × σ

/-- A draw below the bound, whatever the source gives; 0 where the bound is 0. -/
def pick {σ : Type} [Source σ] (bound : Nat) : StateM σ Nat := fun source =>
  let (value, source) := Source.draw bound source
  (min value (bound - 1), source)

/-- A pick that asks the source only if there is a choice. -/
def choose {σ : Type} [Source σ] (bound : Nat) : StateM σ Nat :=
  if bound ≤ 1 then pure 0 else pick bound

/-- The largest whole number that a source deals with. -/
def wordMax : Nat := Word.largest 64

inductive RandomSource where
  /-- Always the same value, or the last one below the bound. -/
  | fixed (value : Nat)
  /-- The values in a cycle, each modulo the bound, and how many draws were made. -/
  | cycle (values : List Nat) (draws : Nat)
  /-- A value that is always out of range, by this much. -/
  | beyond (excess : Nat)
  /-- A reproducible sequence. -/
  | seeded (state : Nat)
deriving Inhabited

namespace RandomSource

def ofSeed (seed : Nat) : RandomSource := .seeded ((seed * 2 + 1) % Word.count 64)

def step (state : Nat) : Nat := (state * 6364136223846793005 + 1442695040888963407) % Word.count 64

def drawFrom (bound : Nat) : RandomSource → Nat × RandomSource
  | .fixed value => (min value (bound - 1), .fixed value)
  | .cycle values draws =>
    let value := if bound ≤ 1 then 0 else (values[draws % values.length]?).getD 0 % bound
    (value, .cycle values (draws + 1))
  | .beyond excess => (min (bound + excess) wordMax, .beyond excess)
  | .seeded state =>
    if bound ≤ 1 then (0, .seeded state)
    else (step state * bound / Word.count 64, .seeded (step state))

instance : Source RandomSource := ⟨drawFrom⟩

/-- How many draws were made, if the source counts them. -/
def draws? : RandomSource → Option Nat
  | .cycle _ draws => some draws
  | _ => none

end RandomSource

theorem pick_lt {σ : Type} [Source σ] {bound : Nat} (h : 0 < bound) (source : σ) :
    (pick bound source).1 < bound := by
  simp only [pick]
  omega

end Pastiche
