import BlockCoverage.Text.Letter.Lower

/-!
# Trace modes

The mode says which of the two layouts a run's trace has.
-/

namespace BlockCoverage

/-- The layout of a trace. -/
inductive Mode where
  /-- The visited blocks, one after the other. -/
  | trace
  /-- Counters for every block of every function. -/
  | profile
deriving DecidableEq, Repr, Inhabited

namespace Mode

/-- The name of a mode. -/
def name : Mode → String
  | trace => "trace"
  | profile => "profile"

/-- Reads a mode by its name or by the name of the runtime that writes it, in any case. -/
def parse (text : String) : Except String Mode :=
  let word := Text.toLowerAscii text
  if word = "trace" ∨ word = "tracepc" then .ok .trace
  else if word = "profile" ∨ word = "bbcov" then .ok .profile
  else .error ("Unknown mode '" ++ word ++ "'. Expected 'trace' or 'profile'")

end Mode

end BlockCoverage
