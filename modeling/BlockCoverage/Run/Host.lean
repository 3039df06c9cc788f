import BlockCoverage.Run.Observer
import BlockCoverage.Run.TargetCommand
import BlockCoverage.Text.Quoted

/-!
# Commands on a host

A host is what a command needs of the system around it: it makes temporary files, and it starts,
feeds, watches and kills processes. Every operation can fail as it likes and changes the state that
observers look at too.

Once the observers have prepared, a run of a command comes to an end at one of seven places, from a
command without a program to a process that was waited for. Each of them closes the run: the
observers collect, with the status that was reached there. The temporary file of a run is there
until they have.
-/

namespace BlockCoverage

open Text (Bytes)

/-- How a process ended by itself. -/
inductive Exit where
  /-- With a code. -/
  | code (n : Nat)
  /-- By a signal. -/
  | signal (n : Nat)
  /-- In no way that is known. -/
  | unknown
deriving DecidableEq, Repr

/-- Why a process did not take all of its input. -/
inductive PipeFault where
  /-- It closed its standard input. -/
  | closed
  /-- Writing failed. -/
  | failed (cause : IoCause)
deriving DecidableEq, Repr

namespace Status

/-- The status of a run whose process ended by itself. Any code but zero is a crash. -/
def ofExit : Exit → Status
  | .code n => if n = 0 then .ok else .crash ("Exited with code " ++ Nat.repr n)
  | .signal n => .crash ("Terminated by signal " ++ Nat.repr n)
  | .unknown => .crash "Exited abnormally"

/-- There is no program to start. -/
def noProgram : Status := .other "Empty target command"

/-- The input has no file to go into. -/
def noInputFile (cause : IoCause) : Status :=
  .other ("Failed to create temp file: " ++ cause.message)

/-- The input did not go into its file. -/
def inputNotWritten (path : Bytes) (cause : IoCause) : Status :=
  .other ("Failed to write to temp file " ++ Text.quotePath path ++ ": " ++ cause.message)

/-- The file of the input cannot be named in an argument. -/
def unnameableInput : Status := .other "Temp file path is not valid UTF-8"

/-- The program was not started. -/
def notStarted (c : TargetCommand) (cause : IoCause) : Status :=
  .other ("Failed to spawn command '" ++ Text.quoteList c.command ++ "': " ++ cause.message)

/-- The process did not get its input. -/
def notFed (cause : IoCause) : Status := .other ("Failed to write to stdin: " ++ cause.message)

/-- How the process is doing could not be found out. -/
def lost (cause : IoCause) : Status := .other ("Error waiting for child: " ++ cause.message)

/-- The process could not be killed when its time was up. -/
def notKilled (cause : IoCause) : Status :=
  .other ("Failed to kill timed-out process: " ++ cause.message)

end Status

/-- What a command needs of a system with states `σ`, whose processes have numbers. -/
structure Host (σ : Type) where
  /-- Makes an empty temporary file: its path. -/
  makeTemp : σ → Except IoCause Bytes × σ
  /-- Writes the input to the file at a path. -/
  fill : Bytes → Bytes → σ → Option IoCause × σ
  /-- Starts the process of a command with further arguments. A host may ask for all that will be
  written to its standard input; there is none if nothing will. -/
  spawn : TargetCommand → List String → Option Bytes → σ → Except IoCause Nat × σ
  /-- Writes the input to the standard input of a process and closes it. -/
  feed : Nat → Bytes → σ → Option PipeFault × σ
  /-- Asks whether a process has ended. -/
  poll : Nat → σ → Except IoCause (Option Exit) × σ
  /-- The nanoseconds that have passed since time was asked for, pauses apart. -/
  lag : σ → Nat × σ
  /-- Kills a process. -/
  kill : Nat → σ → Option IoCause × σ
  /-- Waits for a process that was killed. -/
  reap : Nat → σ → σ
  /-- Removes a temporary file. -/
  discard : Bytes → σ → σ

namespace Host

variable {σ τ : Type}

/-- A host that is a part of the state. -/
def on (h : Host σ) (p : Part τ σ) : Host τ where
  makeTemp := p.act h.makeTemp
  fill := fun path input => p.act (h.fill path input)
  spawn := fun c extra stdin => p.act (h.spawn c extra stdin)
  feed := fun child input => p.act (h.feed child input)
  poll := fun child => p.act (h.poll child)
  lag := p.act h.lag
  kill := fun child => p.act (h.kill child)
  reap := fun child => p.map (h.reap child)
  discard := fun path => p.map (h.discard path)

/-- Hands over what goes to the standard input of a process, if anything does. -/
def hand (h : Host σ) (child : Nat) (stdin : Option Bytes) (s : σ) : Option PipeFault × σ :=
  match stdin with
  | some input => h.feed child input s
  | none => (none, s)

/-- The nanoseconds between two looks at a process. -/
def pause : Nat := 10000000

/-- Waits for a process that has run for so many nanoseconds; kills it when the time that it has, in
milliseconds, is up. -/
def await (h : Host σ) (timeout : Nat) (child : Nat) (elapsed : Nat) (s : σ) : Status × σ :=
  match h.poll child s with
  | (.error cause, s) => (.lost cause, s)
  | (.ok (some exit), s) => (.ofExit exit, s)
  | (.ok none, s) =>
    let (lag, s) := h.lag s
    if 1000000 * timeout < elapsed + lag then
      match h.kill child s with
      | (some cause, s) => (.notKilled cause, s)
      | (none, s) => (.timeout, h.reap child s)
    else await h timeout child (elapsed + lag + pause) s
termination_by 1000000 * timeout + 1 - elapsed
decreasing_by rw [pause]; omega

end Host

namespace TargetCommand

variable {σ : Type}

/-- Starts the process of a command, hands over what goes to its standard input, and waits for
it. -/
def launch (h : Host σ) (c : TargetCommand) (observers : List (Observer σ)) (extra : List String)
    (stdin : Option Bytes) (s : σ) : Status × σ :=
  match h.spawn c extra stdin s with
  | (.error cause, s) => Observer.close observers (.notStarted c cause) s
  | (.ok child, s) =>
    match h.hand child stdin s with
    | (some (.failed cause), s) =>
      let s := h.reap child (h.kill child s).2
      Observer.close observers (.notFed cause) s
    -- that a process closes its standard input early is its own business
    | (some .closed, s) | (none, s) =>
      let (status, s) := h.await c.timeout child 0 s
      Observer.close observers status s

/-- Runs the process of a command on an input that goes into the temporary file at a path. -/
def launchOnFile (h : Host σ) (c : TargetCommand) (observers : List (Observer σ))
    (template : String)
    (path input : Bytes) (s : σ) : Status × σ :=
  match h.fill path input s with
  | (some cause, s) => Observer.close observers (.inputNotWritten path cause) s
  | (none, s) =>
    match Text.Utf8.decode? path with
    | none => Observer.close observers .unnameableInput s
    | some path => c.launch h observers (InputDelivery.fileArguments template path) none s

/-- Runs a command on an input for observers that have prepared. A temporary file is there until
they have collected. -/
def perform (h : Host σ) (c : TargetCommand) (observers : List (Observer σ)) (input : Bytes)
    (s : σ) :
    Status × σ :=
  if c.command.isEmpty then Observer.close observers .noProgram s
  else match c.delivery with
    | .stdin => c.launch h observers [] (some input) s
    | .file template =>
      match h.makeTemp s with
      | (.error cause, s) => Observer.close observers (.noInputFile cause) s
      | (.ok path, s) =>
        let (status, s) := c.launchOnFile h observers template path input s
        (status, h.discard path s)

/-- Runs a command on an input under observation. -/
def execute (h : Host σ) (c : TargetCommand) (observers : List (Observer σ)) (input : Bytes)
    (s : σ) :
    Status × σ :=
  match Observer.prepare observers s with
  | (some failure, s) => (.observerError failure, s)
  | (none, s) => c.perform h observers input s

end TargetCommand

end BlockCoverage
