import BlockCoverage.Text.Quoted

/-!
# The status of a run
-/

namespace BlockCoverage

/-- How one run of a target went. -/
inductive Status where
  /-- It ran and ended well. -/
  | ok
  /-- It was stopped because its time was up. -/
  | timeout
  /-- It ended badly. -/
  | crash (detail : String)
  /-- An observer failed. -/
  | observerError (detail : String)
  /-- It did not run at all. -/
  | other (detail : String)
deriving DecidableEq, Repr

namespace Status

/-- Whether the target ran, so that it may have left a trace. -/
def targetRan : Status → Bool
  | ok | timeout | crash _ => true
  | observerError _ | other _ => false

/-- The name of the kind of status. -/
def kind : Status → String
  | ok => "Ok"
  | timeout => "Timeout"
  | crash _ => "Crash"
  | observerError _ => "ObserverError"
  | other _ => "Other"

/-- What is known beyond the kind. -/
def detail? : Status → Option String
  | ok | timeout => none
  | crash d | observerError d | other d => some d

/-- A status as it is shown in messages. -/
def describe (s : Status) : String :=
  match s.detail? with
  | none => s.kind
  | some d => s.kind ++ "(" ++ Text.quote d ++ ")"

end Status

end BlockCoverage
