import BlockCoverage.Corpus
import BlockCoverage.Model.Merge
import BlockCoverage.Run.TraceFile
import BlockCoverage.Trace.Decode

/-!
# Coverage sessions

A session runs inputs one after the other: each run's trace is picked up, decoded and merged into
the model. A run that fails in any way adds nothing and never stops a batch; a run that crashed or
was stopped still adds what it had written. A saved trace is merged by the same rule as a live one.
-/

namespace BlockCoverage

open Text (Bytes)

/-- What one run came to. -/
structure Outcome where
  /-- What the run is attributed to. -/
  origin : String
  /-- How the run went. -/
  status : Status
  /-- Whether it left a trace that could be decoded. -/
  traced : Bool
  /-- What its trace changed. -/
  gain : Gain
  /-- Why parts of its trace were left out. -/
  faults : List Fault
deriving DecidableEq, Repr

/-- The outcome of a run without a trace. -/
def Outcome.untraced (origin : String) (status : Status) : Outcome :=
  ⟨origin, status, false, .none, []⟩

/-- The outcome of a run whose trace was merged. -/
def Outcome.merged (origin : String) (status : Status) (m : Model.Merged) : Outcome :=
  ⟨origin, status, true, m.gain, m.faults⟩

/-- The counts of a batch of runs. -/
structure Batch where
  /-- Runs. -/
  runs : Nat
  /-- Runs whose trace was merged as a whole. -/
  merged : Nat
  /-- Runs without a usable trace. -/
  untraced : Nat
  /-- Runs that crashed. -/
  crashes : Nat
  /-- Runs that were stopped. -/
  timeouts : Nat
  /-- Runs whose trace did not fit the model as a whole. -/
  mergeFailures : Nat
  /-- Blocks that were hit for the first time. -/
  newBlocks : Nat
deriving DecidableEq, Repr

namespace Batch

/-- A batch without runs. -/
def empty : Batch := ⟨0, 0, 0, 0, 0, 0, 0⟩

/-- A truth as a count. -/
def one (b : Bool) : Nat := if b then 1 else 0

/-- Adds the outcome of a run. -/
def add (b : Batch) (o : Outcome) : Batch where
  runs := b.runs + 1
  merged := b.merged + one (o.traced && o.faults.isEmpty)
  untraced := b.untraced + one (!o.traced)
  crashes := b.crashes + one (match o.status with | .crash _ => true | _ => false)
  timeouts := b.timeouts + one (match o.status with | .timeout => true | _ => false)
  mergeFailures := b.mergeFailures + one (o.traced && !o.faults.isEmpty)
  newBlocks := b.newBlocks + o.gain.blocks

/-- The counts of several runs. -/
def ofOutcomes (outcomes : List Outcome) : Batch := outcomes.foldl add empty

end Batch

namespace Model

/-- Merges a saved trace. -/
def ingest (m : Model) (mode : Mode) (context : Option FunctionId) (fs : Files)
    (path origin : String) : Except Fault Merged :=
  (Trace.decodeFile mode fs path).map (fun record => m.mergeRecord record context origin)

end Model

/-- A model, what runs the target against it, and the platform that the target runs on. -/
structure Session (κ : Type) where
  /-- The layout of traces. -/
  mode : Mode
  /-- The function that visited blocks belong to, if one was named. -/
  context : Option FunctionId
  /-- The file that the target leaves its trace in. -/
  traceFile : String
  /-- What runs the target. -/
  executor : Executor (Platform κ)
  /-- The coverage so far. -/
  model : Model
  /-- The platform, and the trace picked up last. -/
  bench : Workbench κ

namespace Session

variable {κ : Type}

/-- The files as they are. -/
def files (s : Session κ) : Files := s.bench.files

/-- Decodes the trace of a run that has ended with `status`, and merges it. -/
def mergeTrace (s : Session κ) (origin : String) (status : Status) (trace : Bytes) :
    Outcome × Session κ :=
  match Trace.decode s.mode (.ofBytes trace) with
  | .error _ => (.untraced origin status, s)
  | .ok record =>
    let merged := s.model.mergeRecord record s.context origin
    (.merged origin status merged, { s with model := merged.model })

/-- Runs the target on an input and merges its trace. -/
def runInput (s : Session κ) (origin : String) (input : Bytes) : Outcome × Session κ :=
  let (status, bench) :=
    (s.executor.on Workbench.platform).execute [TraceFile.observer s.traceFile] input s.bench
  if status.targetRan then
    match bench.takeTrace with
    | (none, bench) => (.untraced origin status, { s with bench })
    | (some trace, bench) => mergeTrace { s with bench } origin status trace
  else (.untraced origin status, { s with bench })

/-- Runs the target on an input of a corpus. -/
def runEntry (s : Session κ) (e : CorpusEntry) : Outcome × Session κ :=
  match s.files.read e.path with
  | .error cause => (.untraced e.path (.other ("Failed to read input: " ++ cause.message)), s)
  | .ok input => s.runInput e.path input

/-- Runs the target on inputs, one after the other. -/
def runEntries (s : Session κ) : List CorpusEntry → List Outcome × Session κ
  | [] => ([], s)
  | e :: rest =>
    let (outcome, s) := s.runEntry e
    let (outcomes, s) := runEntries s rest
    (outcome :: outcomes, s)

/-- Runs the target on every input of a corpus. -/
def runCorpus (s : Session κ) (c : Corpus) : Batch × Session κ :=
  let (outcomes, s) := s.runEntries c.entries
  (.ofOutcomes outcomes, s)

/-- Merges a saved trace. -/
def mergeFile (s : Session κ) (path origin : String) : Except Fault (Model.Merged × Session κ) :=
  (s.model.ingest s.mode s.context s.files path origin).map
    (fun merged => (merged, { s with model := merged.model }))

end Session

end BlockCoverage
