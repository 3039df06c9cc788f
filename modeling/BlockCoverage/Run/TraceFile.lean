import BlockCoverage.Run.Platform

/-!
# The trace file

The coverage runtime inside a target writes its trace to a file. The observer of that file removes
what an earlier run left before a run starts, so that a target that dies early cannot pass on old
evidence, and picks up the octets afterwards.
-/

namespace BlockCoverage

open Text (Bytes)

/-- The platform that targets run on, and the octets that have been picked up. -/
structure Workbench (κ : Type) where
  /-- The files. -/
  files : Files
  /-- The rest of the platform. -/
  rest : κ
  /-- The trace of the last run; `none` if it wrote none. -/
  trace : Option Bytes
deriving DecidableEq

namespace Workbench

variable {κ : Type}

/-- The platform, which is what targets get to see. -/
def platform : Part (Workbench κ) (Platform κ) where
  get := fun w => ⟨w.files, w.rest⟩
  set := fun p w => { w with files := p.files, rest := p.rest }
  get_set := fun _ _ => rfl
  set_get := fun _ => rfl
  set_set := fun _ _ _ => rfl

/-- Forgets the trace of the last run. -/
def forget (w : Workbench κ) : Workbench κ := { w with trace := none }

/-- Hands over the trace of the last run. -/
def takeTrace (w : Workbench κ) : Option Bytes × Workbench κ := (w.trace, w.forget)

end Workbench

namespace TraceFile

variable {κ : Type}

/-- Forgets the last trace and removes a stale file; that there is none is fine. -/
def before (path : String) (w : Workbench κ) : Option String × Workbench κ :=
  let w := w.forget
  match w.files.remove path with
  | .ok files => (none, { w with files })
  | .error .notFound => (none, w)
  | .error cause =>
    (some ("Failed to remove stale trace file " ++ Text.quote path ++ ": " ++ cause.message), w)

/-- Picks up the trace; that there is none is fine. -/
def after (path : String) (w : Workbench κ) : Option String × Workbench κ :=
  match w.files.read path with
  | .ok bytes => (none, { w with trace := some bytes })
  | .error .notFound => (none, w.forget)
  | .error cause =>
    (some ("Failed to read trace file " ++ Text.quote path ++ ": " ++ cause.message), w)

/-- The observer of the trace file at `path`. -/
def observer (path : String) : Observer (Workbench κ) where
  name := "TraceFileObserver"
  before := before path
  after := fun _ => after path

end TraceFile

end BlockCoverage
