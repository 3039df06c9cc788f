import BlockCoverage.Model.Basic
import BlockCoverage.Trace.Record

/-!
# Merging runs

A run is merged into a model block by block: a block keeps the highest count of any run and the
origin of the run that hit it first. Before anything is merged into a function, the run has to fit
it: the function is declared, there is a counter for every block, and every block carries the number
of its position.

Visited blocks are counted first, and then recorded in the order of their first visits.

A strict merge works on the model in place: it checks the whole record first and then applies it, so
that it applies it as a whole or not at all. A lenient merge applies the part of a profile that fits
and reports the rest.
-/

namespace BlockCoverage

/-- What a merge changed. -/
structure Gain where
  /-- Blocks that were hit for the first time. -/
  blocks : Nat
  /-- Functions that the run said something about. -/
  functions : Nat
deriving DecidableEq, Repr

namespace Gain

/-- No change. -/
def none : Gain := ⟨0, 0⟩

/-- The changes of two merges together. -/
def add (a b : Gain) : Gain := ⟨a.blocks + b.blocks, a.functions + b.functions⟩

end Gain

/-- The blocks that a run visited. -/
structure Visited where
  /-- How often each of them was visited. -/
  counts : OrderedMap UInt32 UInt64
  /-- Each of them once, in the order of their first visits. -/
  order : List UInt32
deriving DecidableEq

namespace Visited

/-- No visits. -/
def none : Visited := ⟨.empty, []⟩

/-- How often a block was visited. -/
def count (v : Visited) (id : UInt32) : UInt64 := (v.counts.get? id).getD 0

/-- One visit more than a count, which stops at its largest value. -/
def next (count : UInt64) : UInt64 := if count = 18446744073709551615 then count else count + 1

/-- One more visit. -/
def add (v : Visited) (id : UInt32) : Visited :=
  ⟨v.counts.insert id (next (v.count id)), if v.count id = 0 then v.order ++ [id] else v.order⟩

/-- The visits of a list. -/
def ofList (ids : List UInt32) : Visited := ids.foldl add none

end Visited

namespace Model

/-- The first block that does not carry the number of its position, counting from `start`. -/
def misplaced? (start : Nat) : List Block → Option (Nat × UInt32)
  | [] => none
  | b :: rest => if b.id.toNat = start then misplaced? (start + 1) rest else some (start, b.id)

/-- Whether counters fit a function, and the first fault if they do not. -/
def checkCounters (m : Model) (f : FunctionId) (counters : List UInt64) : Except Fault Unit :=
  match m.get? f with
  | none => .error (.unknown f)
  | some blocks =>
    if blocks.length ≠ counters.length then
      .error (.countMismatch f blocks.length counters.length)
    else match misplaced? 0 blocks with
      | some (position, id) => .error (.idMismatch f position id)
      | none => .ok ()

/-- Records counters block by block; a block without a counter stays as it is. -/
def recordAll (origin : String) : List Block → List UInt64 → List Block
  | b :: blocks, c :: counters => b.record c origin :: recordAll origin blocks counters
  | blocks, _ => blocks

/-- How many blocks the counters hit for the first time. -/
def countGains : List Block → List UInt64 → Nat
  | b :: blocks, c :: counters => (if b.gains c then 1 else 0) + countGains blocks counters
  | _, _ => 0

/-- Records counters that fit the function. -/
def applyCounters (m : Model) (f : FunctionId) (counters : List UInt64) (origin : String) :
    Model × Gain :=
  match m.get? f with
  | none => (m, .none)
  | some blocks =>
    (m.modify f (fun blocks => recordAll origin blocks counters), ⟨countGains blocks counters, 1⟩)

/-- Records the counters of several functions, one after the other. -/
def applyProfile (m : Model) (origin : String) : List (FunctionId × List UInt64) → Model × Gain
  | [] => (m, .none)
  | e :: rest =>
    let (m, gain) := m.applyCounters e.1 e.2 origin
    let (m, more) := applyProfile m origin rest
    (m, gain.add more)

/-- The first visited block that the function does not declare at its position. -/
def checkVisits (f : FunctionId) (blocks : List Block) : List UInt32 → Except Fault Unit
  | [] => .ok ()
  | id :: rest =>
    match blocks[id.toNat]? with
    | none => .error (.unknownBlock f id blocks.length)
    | some b =>
      if b.id = id then checkVisits f blocks rest else .error (.idMismatch f id.toNat b.id)

/-- Records visited blocks in the order of their first visits, and counts those that are hit for the
first time. -/
def recordVisits (visited : Visited) (origin : String) : List UInt32 → List Block → List Block × Nat
  | [], blocks => (blocks, 0)
  | id :: rest, blocks =>
    match blocks[id.toNat]? with
    | none => recordVisits visited origin rest blocks
    | some b =>
      let count := visited.count id
      let (after, gains) :=
        recordVisits visited origin rest (blocks.set id.toNat (b.record count origin))
      (after, (if b.gains count then 1 else 0) + gains)

/-- The function that visited blocks belong to when none is named: the only one there is. -/
def traceContext (m : Model) : Except Fault FunctionId :=
  match m.functions.keys with
  | [f] => .ok f
  | _ => .error (.ambiguousContext m.size)

/-- A merge under way. It works on the model itself: where it breaks off with a fault, it leaves the
model as it is by then. -/
abbrev Merging (α : Type) := ExceptT Fault (StateM Model) α

namespace Merging

/-- Does a merge on a model. -/
def on {α : Type} (merging : Merging α) (m : Model) : Except Fault α × Model := merging.run.run m

/-- What the model as it is answers, unless that is a fault. -/
def ask {α : Type} (question : Model → Except Fault α) : Merging α := do
  MonadExcept.ofExcept (question (← get))

/-- Changes the model. -/
def change (step : Model → Model × Gain) : Merging Gain := do
  let (m, gain) := step (← get)
  set m
  return gain

/-- Makes sure that the counters of functions fit, one after the other. -/
def checkAll : List (FunctionId × List UInt64) → Merging Unit
  | [] => return
  | e :: rest => do
    ask (·.checkCounters e.1 e.2)
    checkAll rest

/-- Merges a profile. Everything is checked before anything is recorded. -/
def profile (profile : Profile) (origin : String) : Merging Gain := do
  checkAll profile.entries
  change (·.applyProfile origin profile.entries)

/-- Merges visited blocks into a function. -/
def traceInto (f : FunctionId) (ids : List UInt32) (origin : String) : Merging Gain := do
  let blocks ← ask (·.blocks f)
  ask fun _ => checkVisits f blocks ids
  let visited := Visited.ofList ids
  let (after, gains) := recordVisits visited origin visited.order blocks
  change fun m => (m.modify f (fun _ => after), ⟨gains, if ids.isEmpty then 0 else 1⟩)

/-- Merges a run. -/
def ofRecord (record : Record) (origin : String) : Merging Gain :=
  match record with
  | .profile counters => profile counters origin
  | .trace ids => do
    let f ← ask traceContext
    traceInto f ids origin

end Merging

/-- Merges a profile: what changed or the first fault, and the model afterwards. -/
def mergeProfile (m : Model) (profile : Profile) (origin : String) : Except Fault Gain × Model :=
  (Merging.profile profile origin).on m

/-- Merges visited blocks into a function: what changed or the first fault, and the model
afterwards. -/
def mergeTraceInto (m : Model) (f : FunctionId) (ids : List UInt32) (origin : String) :
    Except Fault Gain × Model :=
  (Merging.traceInto f ids origin).on m

/-- Merges a run: what changed or the first fault, and the model afterwards. -/
def merge (m : Model) (record : Record) (origin : String) : Except Fault Gain × Model :=
  (Merging.ofRecord record origin).on m

/-- What a merge made of a model, with the faults of what could not be merged. -/
structure Merged where
  /-- The model after the merge. -/
  model : Model
  /-- What changed. -/
  gain : Gain
  /-- Why parts were left out. -/
  faults : List Fault
deriving DecidableEq

/-- The result of a strict merge, with its fault as the only one. -/
def Merged.ofResult : Except Fault Gain × Model → Merged
  | (.ok gain, m) => ⟨m, gain, []⟩
  | (.error fault, m) => ⟨m, .none, [fault]⟩

/-- Merges the functions of a profile that fit, one after the other. -/
def mergeFitting (m : Model) (origin : String) : List (FunctionId × List UInt64) → Merged
  | [] => ⟨m, .none, []⟩
  | e :: rest =>
    match m.checkCounters e.1 e.2 with
    | .error fault =>
      let more := mergeFitting m origin rest
      { more with faults := fault :: more.faults }
    | .ok () =>
      let (m, gain) := m.applyCounters e.1 e.2 origin
      let more := mergeFitting m origin rest
      { more with gain := gain.add more.gain }

/-- Merges what fits of a run and reports the rest. -/
def mergeLenient (m : Model) (record : Record) (origin : String) : Merged :=
  match record with
  | .profile counters => m.mergeFitting origin counters.entries
  | .trace _ => .ofResult (m.merge record origin)

/-- Merges a run, visited blocks into the named function if there is one. -/
def mergeRecord (m : Model) (record : Record) (context : Option FunctionId) (origin : String) :
    Merged :=
  match record, context with
  | .trace ids, some f => .ofResult (m.mergeTraceInto f ids origin)
  | _, _ => m.mergeLenient record origin

end Model

end BlockCoverage
