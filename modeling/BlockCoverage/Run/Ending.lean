/-!
# How a target ends
-/

namespace BlockCoverage

/-- How a target that was started came to its end. -/
inductive Ending where
  /-- It exited by itself with a code. -/
  | exited (code : Nat)
  /-- A signal ended it. -/
  | signalled (signal : Nat)
  /-- It was stopped because its time was up. -/
  | timedOut
deriving DecidableEq, Repr

end BlockCoverage
