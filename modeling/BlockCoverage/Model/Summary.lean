import BlockCoverage.Model.Basic
import BlockCoverage.Number.Percent

/-!
# How much is covered

Counts of hit and declared blocks, for each function and for the whole model.
-/

namespace BlockCoverage

/-- Hit and declared blocks. -/
structure Tally where
  /-- Blocks that have been hit. -/
  covered : Nat
  /-- Blocks that are declared. -/
  total : Nat
deriving DecidableEq, Repr

namespace Tally

/-- The tally of a list of blocks. -/
def ofBlocks (blocks : List Block) : Tally := ⟨blocks.countP Block.hit, blocks.length⟩

/-- Two tallies together. -/
def add (a b : Tally) : Tally := ⟨a.covered + b.covered, a.total + b.total⟩

/-- The part of the blocks that is covered. -/
def ratio (t : Tally) : Float := Number.ratio t.covered t.total

end Tally

/-- The tally of every function, and of all. -/
structure Summary where
  /-- By function, in order. -/
  functions : List (FunctionId × Tally)
  /-- All together. -/
  all : Tally
deriving DecidableEq

namespace Model

/-- The part of a function's blocks that is covered. -/
def coverageRatio (m : Model) (f : FunctionId) : Except Fault Float := do
  return (Tally.ofBlocks (← m.blocks f)).ratio

/-- The tallies of a model. -/
def summarize (m : Model) : Summary :=
  let functions := m.functions.entries.map (fun e => (e.1, Tally.ofBlocks e.2))
  ⟨functions, functions.foldl (fun t e => t.add e.2) ⟨0, 0⟩⟩

end Model

end BlockCoverage
