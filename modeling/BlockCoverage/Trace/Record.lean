import BlockCoverage.FunctionId
import BlockCoverage.Ordered.Map

/-!
# What one run recorded

A run in trace mode records the blocks it visited, in order; a run in profile mode records how often
it entered each block of each function.
-/

namespace BlockCoverage

/-- Counters by function; the position of a counter is the number of its block. -/
abbrev Profile := OrderedMap FunctionId (List UInt64)

/-- One decoded run. -/
inductive Record where
  /-- Visited blocks, in order. -/
  | trace (ids : List UInt32)
  /-- Counters by function. -/
  | profile (counters : Profile)
deriving DecidableEq

end BlockCoverage
