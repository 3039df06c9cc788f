import BlockCoverage.Script.Programs
import BlockCoverage.Script.Redirection

/-!
# Processes

How a shell starts parts of itself and other programs, and what it gets back from them. Everything
here takes the function that runs a command, so that the recursion is in one place only.
-/

namespace BlockCoverage.Script

open Text (Bytes)

/-- How a command is run. -/
structure Mode where
  /-- Whether somebody looks at its outcome, so that a failure does not end the script. -/
  tested : Bool
  /-- Whether nothing follows it in its process. -/
  last : Bool
deriving DecidableEq, Repr

/-- A function that runs commands. -/
abbrev Runner := Mode → Command → Machine → Machine

/-- How deep words may be nested; more than any script has. -/
def expansionDepth : Nat := 1000000

namespace Machine

/-! ## Lists of commands -/

/-- Runs commands in order. -/
def inOrder (go : Runner) (mode : Mode) : List Command → Machine → Machine
  | [], m => m
  | [c], m => if m.isGoing then go mode c m else m
  | c :: rest, m =>
    if m.isGoing then inOrder go mode rest (go { mode with last := false } c m) else m

/-- Runs the lines of a source one after the other; each is read when the ones before it have been
run. The length of the source is enough fuel. -/
def runLines (go : Runner) (mode : Mode) : Nat → Source → Machine → Machine
  | 0, _, m => m
  | fuel + 1, s, m =>
    if !m.isGoing || s.rest.isEmpty then m
    else
      let ready := { s with aliases := m.aliases, documents := m.documents, next := m.nextDocument }
      match Grammar.nextLine ready with
      | .error fault => { m with line := fault.line }.abort fault.message
      | .ok (commands, after) =>
        let used := s.rest.length - after.rest.length
        let closed := (s.rest.drop (used - 1)).head? = some '\n' ∨
          m.documents.length < after.documents.length
        let read := { m with documents := after.documents, nextDocument := after.next }
        let last := mode.last && after.rest.isEmpty && !decide closed
        runLines go mode fuel after (inOrder go { mode with last } commands read)

/-- Runs a text as a script. -/
def evaluate (go : Runner) (mode : Mode) (text : String) (m : Machine) : Machine :=
  let cs := text.toList.filter (fun c => c != Char.ofNat 0)
  runLines go mode (cs.length + 1) (Source.ofText cs [] [] 0) m

/-! ## Parts of a shell -/

/-- A part of a shell: a process that starts with all that the shell has, except for its actions on
signals and its commands in the background. -/
def fork (m : Machine) : Machine :=
  { m.spawn with
    isPart := true
    traps := m.traps.filter (fun t => t.2 == "")
    pending := []
    jobs := [] }.guarded

/-- Ends a shell: the action for the end is run, and may change how it ends. -/
def conclude (go : Runner) (m : Machine) : Ending × Machine :=
  let ending := match m.flow with
    | .ended e => e
    | _ => .exited (m.status % 256)
  match ending, m.traps.lookup 0 with
  | .exited code, some action =>
    if action = "" then (ending, m)
    else
      let ready := { m with
        traps := m.traps.filter (fun t => t.1 != 0), flow := .going, status := code
        resumed := some code }
      let after := evaluate go ⟨false, false⟩ action ready
      match after.flow with
      | .ended e => (e, after)
      | _ => (ending, after)
  | _, _ => (ending, m)

/-- Says that a process has been ended by a signal, unless that is a usual way to end. -/
def sayEnded (signal : Nat) (m : Machine) : Machine :=
  if signal = 2 ∨ signal = 13 then m else m.warn (signalWords signal ++ "\n")

/-- The shell after a process that it has waited for. A signal that has come for it meanwhile comes
first. -/
def rejoin (m after : Machine) (ending : Ending) : Machine :=
  let left := if after.process = m.process then after.world
    else withoutProcess after.world after.process
  let noticed := fun (j : Job) => { j with noticed := j.noticed || !j.isRunning left.elapsed }
  let joined := { m with
    world := { left with files := { left.files with here := m.world.files.here } }
    jobs := m.jobs.map noticed }
  match ending with
  | .exited code => (joined.leave code).collect
  | .signalled signal =>
    let taken := joined.collect
    if !taken.isGoing then taken
    else (taken.sayEnded signal).leave (128 + signal)
  | .timedOut => { joined with flow := .ended .timedOut }

/-! ## Commands in the background -/

/-- What a command in the background does, part by part. -/
def jobParts : Command → List (Option Bool × Command)
  | .apart body [] | .group body [] => body.map (fun c => (none, c))
  | .chain first rest => (none, first) :: rest.map (fun (b, c) => (some b, c))
  | c => [(none, c)]

/-- Runs the next part of a command in the background, at the time when it is due. -/
def stepJob (go : Runner) (job : Job) (m : Machine) : Machine :=
  match job.left with
  | [] => m
  | (condition, c) :: rest =>
    let here := m.world.files.here
    let now := m.world.elapsed
    let budget := m.world.budget
    let share := budget / 4
    let files := { m.world.files with here := job.here }
    let child : Machine :=
      { toState := job.state
        world := { m.world with elapsed := job.clock, files, budget := share }
        jobs := [] }
    let child := if child.pending.isEmpty then child else go ⟨false, false⟩ (.group [] []) child
    let due := child.isGoing && condition.all (fun wanted => (child.status == 0) == wanted)
    let ran := if due then go ⟨false, rest.isEmpty⟩ c child else child
    let last := rest.isEmpty || !ran.isGoing
    let (status, signal, after) := if !last then (ran.status, none, ran)
      else match conclude go ran with
        | (.exited code, after) => (code, none, after)
        | (.signalled signal, after) => (128 + signal, some signal, after)
        | (.timedOut, after) => (0, none, after)
    let clock := if ran.flow = .ended .timedOut then after.world.elapsed + 1000000000
      else after.world.elapsed
    let world := { after.world with
      elapsed := now, files := { after.world.files with here }
      budget := budget - (share - after.world.budget) }
    let stepped : Job :=
      { job with clock, status, signal, left := if last then [] else rest, state := after.toState
                 here := after.world.files.here }
    let jobs := m.jobs.map (fun j => if j.process = job.process then stepped else j)
    { m with world, jobs }.collect

/-- The command in the background that goes on first, if it does so by a time. -/
def dueJob? (m : Machine) (time : Nat) : Option Job :=
  (m.jobs.filter (fun j => !j.left.isEmpty && j.clock ≤ time)).foldl (fun best j =>
    match best with
    | some b => if j.clock < b.clock then some j else some b
    | none => some j) none

/-- Runs commands in the background as far as they get by a time, or until a signal comes. -/
def runJobs (go : Runner) (time : Nat) : Nat → Machine → Machine
  | 0, m => m
  | fuel + 1, m =>
    if !m.isGoing || !m.pending.isEmpty then m
    else match m.dueJob? time with
      | none => m
      | some job =>
        let stepped := m.stepJob go job
        if stepped.isGoing && stepped.pending.isEmpty then runJobs go time fuel stepped
        else { stepped with
          world := { stepped.world with elapsed := max stepped.world.elapsed job.clock } }

/-- The most parts of commands in the background that are run at a time. -/
def jobRounds : Nat := 10000

/-- Lets the commands in the background have their turn. They have it whenever the shell starts
another process, and not before. -/
def yieldToJobs (go : Runner) (m : Machine) : Machine :=
  if m.jobs.isEmpty then m else runJobs go m.world.elapsed jobRounds m

/-- The end of a shell, with what its commands in the background still do. -/
def finish (go : Runner) (m : Machine) : Ending × Machine :=
  let (ending, after) := conclude go m
  if after.jobs.isEmpty then (ending, after)
  else (ending, { runJobs go after.world.elapsed jobRounds { after with flow := .going } with
    flow := after.flow })

/-- The first number that a new process of the shell can have: it is free, or that of a command that
has come to its end and has been waited for. -/
def freeNumber (m : Machine) : Nat :=
  let taken := (m.jobs.filter (fun j => !(j.awaited && !j.isRunning m.world.elapsed))).map
    Job.number
  ((List.range (taken.length + 1)).find? (fun n => !taken.contains (n + 1))).getD 0 + 1

/-- Forgets the command in the background whose number is taken by a new process. -/
def withNumberTaken (m : Machine) : Machine :=
  if m.jobs.isEmpty then m
  else
    let n := m.freeNumber
    { m with jobs := m.jobs.filter (fun j => j.number != n) }

/-- The shell when it is about to start a process. -/
def readied (go : Runner) (m : Machine) : Machine :=
  if m.jobs.isEmpty then m else (m.yieldToJobs go).withNumberTaken

/-- Runs something in a part of the shell. -/
def inPart (go : Runner) (body : Machine → Machine) (m : Machine) : Machine :=
  let m := m.readied go
  let (ending, after) := finish go (body m.fork)
  m.rejoin after ending

/-- What a script writes, without the line ends at its end. -/
def capture (go : Runner) : Capture := fun script m =>
  let m := m.readied go
  let (n, world) := m.world.openChannel (.pipe [] [] 0 none)
  let child := ({ m with world }.fork).attach 1 n
  let (ending, after) := finish go (inOrder go ⟨false, true⟩ script child)
  let written := (after.world.available n).filter (fun b => b != 0)
  let trimmed := (written.reverse.dropWhile (fun b => b == 10)).reverse
  let closed := { after with world := after.world.setChannel n .nothing }
  let joined := m.rejoin closed ending
  (Text.Octets.toText trimmed, { joined with status := m.status, substituted := joined.status })

/-! ## Pipes -/

/-- How far the stages of a pipe are run before the ones after them have their turn: a stage that
gets further is held up, and is stopped if the one after it reads no more. -/
structure Reach where
  /-- The steps that a stage takes at most. -/
  steps : Nat
  /-- The octets that it writes at most. -/
  octets : Nat

/-- The state of a pipe. -/
structure Piping where
  /-- The machine, which the stages change the world of. -/
  machine : Machine
  /-- The channel that the next stage reads. -/
  reads : Option Nat
  /-- When the last of the stages so far came to its end. -/
  finish : Nat
  /-- Whether a stage was held up that would have had to go on. -/
  short : Bool

/-- Runs one stage of a pipe. All stages start at the same time. A stage that is held up is stopped
if it has written something and the next stage does not read all of that. -/
def runStage (go : Runner) (reach : Reach) (tested : Bool) (start : Nat) (isLast : Bool)
    (p : Piping)
    (c : Command) : Piping :=
  let m := p.machine
  let budget := m.world.budget
  let share := if isLast then budget else min budget reach.steps
  let (n, world) := m.world.openChannel (.pipe [] [] 0 (some reach.octets))
  let child := ({ m with world := { world with elapsed := start, budget := share } }).fork
  let child := match p.reads with
    | some k => child.attach 0 k
    | none => child
  let child := if isLast then child else child.attach 1 n
  let (ending, after) := finish go (go ⟨tested, true⟩ c child)
  let spent := { after.world with budget := budget - (share - after.world.budget) }
  let halted := ending = .timedOut ∧ after.world.budget = 0 ∧ !isLast
  let written := spent.writtenTo n
  let marked := if halted then
      spent.setChannel n (.pipe (spent.available n) [] (written + reach.octets + 1)
        (some reach.octets))
    else spent
  let starved := p.reads.any (fun k => marked.isCut k && (marked.available k).isEmpty)
  let cleared := match p.reads with
    | some k => marked.setChannel k .nothing
    | none => marked
  let joined := m.rejoin { after with world := cleared } (if halted then .signalled 13 else ending)
  ⟨joined, some n, max p.finish cleared.elapsed, p.short || starved ||
    decide (halted ∧ written = 0)⟩

/-- Runs the stages of a pipe. -/
def runStages (go : Runner) (reach : Reach) (tested : Bool) (start : Nat) :
    List Command → Piping → Piping
  | [], p => p
  | [c], p => if p.machine.isGoing then runStage go reach tested start true p c else p
  | c :: rest, p =>
    if p.machine.isGoing && !p.short then
      runStages go reach tested start rest (runStage go reach tested start false p c)
    else p

/-- Runs a pipe, its stages as far as the first of some reaches that is enough. A pipe for which
none is does not come to its end. -/
def runPipe (go : Runner) (tested : Bool) (stages : List Command) : List Reach → Machine → Machine
  | [], m => { m with flow := .ended .timedOut }
  | reach :: more, m =>
    let start := m.world.elapsed
    let p := runStages go reach tested start stages ⟨m, none, start, false⟩
    if p.short then
      runPipe go tested stages more
        { m with world := { m.world with budget := p.machine.world.budget } }
    else if p.machine.isGoing then p.machine.waitUntil p.finish
    else p.machine

/-- The reaches that are tried. -/
def reaches : List Reach := [⟨20000, 131072⟩, ⟨300000, 2097152⟩, ⟨1000000, 16777216⟩]

/-- Starts a command in the background. -/
def startJob (go : Runner) (c : Command) (m : Machine) : Machine :=
  let m := m.yieldToJobs go
  let (n, world) := m.world.openChannel .nothing
  let child := ({ m with world }.fork).attach 0 n
  let number := m.freeNumber
  let job : Job :=
    { process := child.process, number, clock := m.world.elapsed, status := 0, signal := none
      noticed := false, awaited := false, left := jobParts c, state := child.toState
      here := m.world.files.here }
  { m.leave 0 with
    world := child.world
    jobs := job :: m.jobs.filter (fun j => j.number != number)
    latest := some child.process }

/-- Lets time pass, with what the commands in the background do meanwhile. -/
def pass (go : Runner) (ms : Nat) (m : Machine) : Machine :=
  let target := m.world.elapsed + ms
  let reached := match m.deadline? with
    | some limit => min target limit
    | none => target
  let ran := runJobs go reached jobRounds m
  if ran.isGoing then ran.waitUntil target else ran

/-- Waits until a command in the background has come to its end, or a signal has come. -/
def awaitJob (go : Runner) (process : Nat) : Nat → Machine → Machine
  | 0, m => m
  | fuel + 1, m =>
    if !m.isGoing || !m.pending.isEmpty then m
    else match m.jobs.find? (fun j => j.process == process) with
      | none => m
      | some job =>
        if job.left.isEmpty then m.waitUntil job.clock
        else match m.dueJob? job.clock with
          | none => m
          | some due =>
            let stepped := m.stepJob go due
            let moved := { stepped with
              world := { stepped.world with elapsed := max stepped.world.elapsed due.clock } }
            awaitJob go process fuel moved

/-- The status after a wait that a signal has cut short. -/
def interrupted (m : Machine) : Machine :=
  match m.pending with
  | signal :: _ => m.leave (128 + signal)
  | [] => m

/-- Waits for all commands in the background. -/
def awaitAll (go : Runner) (m : Machine) : Machine :=
  let waited := m.jobs.foldl (fun m j => awaitJob go j.process jobRounds m) m
  if !waited.isGoing then waited
  else if waited.pending.isEmpty then
    { waited.leave 0 with
      jobs := waited.jobs.map (fun j => { j with noticed := true, awaited := true }) }
  else waited.interrupted

/-- Waits for one command in the background. -/
def awaitOne (go : Runner) (process : Nat) (m : Machine) : Machine :=
  if !m.jobs.any (fun j => j.process == process) then m.leave 127
  else
    let waited := awaitJob go process jobRounds m
    if !waited.isGoing then waited
    else if !waited.pending.isEmpty then waited.interrupted
    else
      match waited.jobs.find? (fun j => j.process == process) with
      | none => waited.leave 127
      | some job =>
        let said := match job.signal with
          | some signal => if job.noticed then waited else waited.sayEnded signal
          | none => waited
        let seen := fun (j : Job) =>
          if j.process = process then { j with noticed := true, awaited := true } else j
        { said.leave job.status with jobs := said.jobs.map seen }

/-- Waits for commands in the background. -/
def wait (go : Runner) (args : List String) (m : Machine) : Machine :=
  let one := fun (m : Machine) (text : String) =>
    if m.faulty || !m.isGoing then m
    else match text.toList with
      | '%' :: name =>
        match m.jobNamed name with
        | .ok j => awaitOne go j.process m
        | .error message => m.refuse "wait" message
      | _ =>
        match Numeral.count? text with
        | some n => awaitOne go n m
        | none => m.refuse "wait" ("Illegal number: " ++ text)
  if args.isEmpty then awaitAll go m else args.foldl one m

end Machine

end BlockCoverage.Script
