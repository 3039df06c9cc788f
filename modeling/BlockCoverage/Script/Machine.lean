import BlockCoverage.Run.Ending
import BlockCoverage.Script.Command
import BlockCoverage.Script.Numeral
import BlockCoverage.Script.World

/-!
# The state of a shell

What one shell process holds: its descriptors, variables, functions, arguments and options, the
status of its last command, and where the control is: going on, on its way out of loops or a
function, or ended. A machine that has ended runs no further command.
-/

namespace BlockCoverage.Script

open Text (Bytes)

/-- A variable. -/
structure Variable where
  /-- Its value, unless it is not set. -/
  value : Option String
  /-- Whether programs get it. -/
  exported : Bool
  /-- Whether it cannot be changed. -/
  fixed : Bool
deriving DecidableEq, Repr

/-- Where the control is. -/
inductive Flow where
  /-- At the next command. -/
  | going
  /-- On its way out of so many loops. -/
  | breaking (loops : Nat)
  /-- On its way to the next round of the loop so many levels out. -/
  | continuing (loops : Nat)
  /-- On its way out of a function. -/
  | returning
  /-- At the end. -/
  | ended (ending : Ending)
deriving DecidableEq, Repr

/-- What a shell process holds for itself. -/
structure State where
  /-- Channels by descriptor. -/
  descriptors : List (Nat × Nat)
  /-- Variables by name. -/
  bindings : List (String × Variable)
  /-- Functions by name, the latest first. -/
  functions : List (String × Command)
  /-- Words that stand for other text at the start of a command. -/
  aliases : List (String × String)
  /-- The name that the shell was called by. -/
  name : String
  /-- The arguments. -/
  arguments : List String
  /-- The process that the shell takes for its own. -/
  self : Nat
  /-- The process that it is. -/
  process : Nat
  /-- The process that has started it. -/
  parent : Nat
  /-- The letters of the options that are on. -/
  options : List Char
  /-- The exit status of the last command. -/
  status : Nat
  /-- The exit status of the last substituted script. -/
  substituted : Nat
  /-- Where the control is. -/
  flow : Flow
  /-- Whether the shell has ended because of a fault. -/
  aborted : Bool
  /-- What messages of the shell name besides itself: the utility or the file that is being read. -/
  context : String
  /-- Whether something without an end has been read to its end. -/
  unending : Bool
  /-- Whether the last utility failed in a way that ends a script if the utility is a special
  one. -/
  faulty : Bool
  /-- Actions by signal, zero standing for the end. -/
  traps : List (Nat × String)
  /-- Signals whose actions are due. -/
  pending : List Nat
  /-- While an action runs, the status from before it. -/
  resumed : Option Nat
  /-- Whether the shell is a part of another one. -/
  isPart : Bool
  /-- How many loops are open. -/
  loops : Nat
  /-- How many functions are open. -/
  calls : Nat
  /-- The variables to be restored after each function that is open. -/
  frames : List (List (String × Option Variable))
  /-- Documents by number. -/
  documents : List (Nat × Document)
  /-- The number of the next document. -/
  nextDocument : Nat
  /-- The line of the current command. -/
  line : Nat
  /-- The latest command in the background. -/
  latest : Option Nat
  /-- The path by which the shell came to its directory. -/
  place : String
  /-- The permissions that new files do not get. -/
  mask : Nat
  /-- How far the word that options are being taken from has been used up. -/
  optionOffset : Nat

/-- A command in the background: what is left of it, and where it stands. -/
structure Job where
  /-- Its process. -/
  process : Nat
  /-- Its number. -/
  number : Nat
  /-- When it goes on. -/
  clock : Nat
  /-- Its exit status so far. -/
  status : Nat
  /-- The signal that has ended it. -/
  signal : Option Nat
  /-- Whether its end has been noticed by the shell. -/
  noticed : Bool
  /-- Whether somebody has waited for its end. -/
  awaited : Bool
  /-- What it still has to do, each part on success, on failure or in any case. -/
  left : List (Option Bool × Command)
  /-- The shell that it is. -/
  state : State
  /-- The number of its directory. -/
  here : Nat

/-- Whether a command in the background is running at a time. -/
def Job.isRunning (j : Job) (time : Nat) : Bool := !j.left.isEmpty || decide (time < j.clock)

/-- A shell, with what it shares with other processes and what it has in the background. -/
structure Machine extends State where
  /-- What it shares with other processes. -/
  world : World
  /-- Commands in the background, the latest first. -/
  jobs : List Job

namespace Machine

/-! ## Control -/

/-- Whether the next command is due. -/
def isGoing (m : Machine) : Bool := m.flow == .going

/-- Sets the exit status. -/
def leave (m : Machine) (status : Nat) : Machine := { m with status }

/-- Ends the shell with an exit code. -/
def quit (m : Machine) (code : Nat) : Machine :=
  { m with status := code % 256, flow := .ended (.exited (code % 256)) }

/-- The time when the target is stopped, if that is known. -/
def deadline? (m : Machine) : Option Nat := m.world.fed.map (fun start => start + m.world.limit)

/-- Lets time pass up to a point; a target is stopped when its time is up. -/
def waitUntil (m : Machine) (time : Nat) : Machine :=
  let elapsed := max m.world.elapsed time
  let waited := { m with world := { m.world with elapsed } }
  if m.deadline?.any (fun limit => limit < elapsed) then { waited with flow := .ended .timedOut }
  else waited

/-- Takes one step; a target that has taken too many is one that does not end. -/
def spend (m : Machine) : Machine :=
  match m.world.budget with
  | 0 => { m with flow := .ended .timedOut }
  | n + 1 => { m with world := { m.world with budget := n } }

/-- Whether an option is on. -/
def has (m : Machine) (option : Char) : Bool := m.options.contains option

/-! ## Channels -/

/-- The channel of a descriptor. -/
def channelOf? (m : Machine) (descriptor : Nat) : Option Nat := m.descriptors.lookup descriptor

/-- Points a descriptor at a channel. -/
def attach (m : Machine) (descriptor channel : Nat) : Machine :=
  { m with
    descriptors := (descriptor, channel) :: m.descriptors.filter (fun d => d.1 != descriptor) }

/-- Closes a descriptor. -/
def detach (m : Machine) (descriptor : Nat) : Machine :=
  { m with descriptors := m.descriptors.filter (fun d => d.1 != descriptor) }

/-- Writes to a descriptor. Who writes more to a pipe than its limit is stopped. -/
def writeTo (m : Machine) (descriptor : Nat) (s : Bytes) : Machine :=
  match m.channelOf? descriptor with
  | none => m
  | some n =>
    let world := m.world.write n s
    if world.isCut n then { m with world, flow := .ended (.signalled 13) } else { m with world }

/-- Writes octets to the output. -/
def emit (m : Machine) (s : Bytes) : Machine := m.writeTo 1 s

/-- Writes a text to the output. -/
def say (m : Machine) (text : String) : Machine := m.writeTo 1 (Text.Octets.ofText text)

/-- Writes a text to the messages. -/
def warn (m : Machine) (text : String) : Machine := m.writeTo 2 (Text.Octets.ofText text)

/-- Writes a message of the shell itself. -/
def complain (m : Machine) (text : String) : Machine :=
  let context := if m.context = "" then "" else m.context ++ ": "
  m.warn (m.name ++ ": " ++ Nat.repr m.line ++ ": " ++ context ++ text ++ "\n")

/-- Fails with a message. -/
def fault (m : Machine) (text : String) : Machine :=
  { m.complain text with status := 2, faulty := true }

/-- Ends the shell with a message. -/
def abort (m : Machine) (text : String) : Machine :=
  { (m.complain text).quit 2 with aborted := true }

/-- What can be read from a descriptor now. -/
def available (m : Machine) (descriptor : Nat) : Bytes :=
  match m.channelOf? descriptor with
  | none => []
  | some n => m.world.available n

/-- Whether a descriptor leads to a file, in which reading can go back. -/
def isSeekable (m : Machine) (descriptor : Nat) : Bool :=
  match m.channelOf? descriptor with
  | none => false
  | some n => m.world.channel n matches .file _ _ _ _

/-- Marks octets of a descriptor as read. Input that has been read far enough has also been
written. -/
def consume (m : Machine) (descriptor count : Nat) : Machine :=
  match m.channelOf? descriptor with
  | none => m
  | some n =>
    let world := m.world.consume n count
    let fed := match world.fed with
      | some t => some t
      | none =>
        if n = 0 ∧ World.isFed world.inputSize (world.available n).length then some world.elapsed
        else none
    { m with world := { world with fed } }

/-- Everything that a descriptor has to give. -/
def readAll (m : Machine) (descriptor : Nat) : Bytes × Machine :=
  let s := m.available descriptor
  (s, m.consume descriptor s.length)

/-! ## Variables -/

/-- A variable by name. -/
def variableOf (m : Machine) (name : String) : Option Variable := m.bindings.lookup name

/-- The value of a variable that is set. -/
def lookup? (m : Machine) (name : String) : Option String :=
  (m.variableOf name).bind Variable.value

/-- The value of a variable, empty if it is not set. -/
def value (m : Machine) (name : String) : String := (m.lookup? name).getD ""

/-- Puts a variable in its place, or behind the others if it is new. -/
def withVariable (name : String) (v : Variable) :
    List (String × Variable) → List (String × Variable)
  | [] => [(name, v)]
  | e :: rest => if e.1 == name then (name, v) :: rest else e :: withVariable name v rest

/-- Puts a variable in its place. -/
def putVariable (m : Machine) (name : String) (v : Variable) : Machine :=
  { m with bindings := withVariable name v m.bindings }

/-- Forgets a variable. -/
def dropVariable (m : Machine) (name : String) : Machine :=
  { m with bindings := m.bindings.filter (fun e => e.1 != name) }

/-- Sets a variable; one that is fixed is a fault that ends the shell. -/
def assign (m : Machine) (name value : String) : Machine :=
  match m.variableOf name with
  | some v =>
    if v.fixed then m.abort (name ++ ": is read only") else m.putVariable name { v with value }
  | none => m.putVariable name ⟨some value, m.has 'a', false⟩

/-- The letters of options in the order in which they are shown. -/
def shownOptions (m : Machine) : String :=
  String.ofList ("ubaCEVvxsnmiIfe".toList.filter m.options.contains)

/-- The place of a name among the groups that variables are kept in. -/
def bucket (name : String) : Nat :=
  let codes := name.toList.map Char.toNat
  (16 * codes.headD 0 + codes.foldl (· + ·) 0) % 39

/-- What programs get: group by group, each in the order in which its variables were made. -/
def environment (m : Machine) : List (String × String) :=
  let exported := m.bindings.filterMap (fun (name, v) =>
    if v.exported then v.value.map (fun s => (bucket name, name, s)) else none)
  (exported.mergeSort (fun a b => a.1 ≤ b.1)).map Prod.snd

/-- The characters that cut fields. -/
def separators (m : Machine) : String := (m.lookup? "IFS").getD " \t\n"

/-! ## Paths -/

/-- A path as the files know it. -/
def path (text : String) : String := Text.Octets.decode text

/-- A location as text. -/
def locationText (loc : Location) : String :=
  match loc with
  | [] => "/"
  | names => Text.Octets.encode (String.join (names.map (fun n => "/" ++ n)))

/-- Where the directory of the shell is, unless it has been removed. -/
def directory? (m : Machine) : Option String :=
  (m.world.files.locationOf? m.world.files.here).map locationText

/-- What the name at a path stands for, and where it is; a link is followed if asked, and if a slash
comes after it. -/
def look (m : Machine) (followed : Bool) (text : String) : Except IoCause (Location × Entry) := do
  let files := m.world.files
  let loc ← if followed || Files.endsWithSlash text then files.locate (path text)
    else files.reach (path text)
  match files.entryAt? loc with
  | some e => return (loc, e)
  | none => .error .notFound

/-- Opens a file: the number of its channel. -/
def openFile (m : Machine) (text : String) (access : World.Access) :
    Except IoCause (Nat × Machine) := do
  let (channel, world) ← m.world.openFile m.mask (path text) access
  let (n, world) := world.openChannel channel
  return (n, { m with world })

/-- Puts files in the place of the ones there are. -/
def withFiles (m : Machine) (files : Files) : Machine := { m with world := { m.world with files } }

/-- The octets of a file. -/
def readFile (m : Machine) (text : String) : Except IoCause (Bytes × Machine) :=
  if text = "/dev/stdin" ∨ text = "/dev/fd/0" then .ok (m.readAll 0)
  else (m.world.files.read (path text)).map (fun s => (s, m))

/-- The wording of a cause in the messages of utilities. -/
def wording : IoCause → String
  | .notFound => "No such file or directory"
  | .permissionDenied => "Permission denied"
  | .alreadyExists => "File exists"
  | .notADirectory => "Not a directory"
  | .isADirectory => "Is a directory"
  | .nameTooLong => "File name too long"
  | .tooManyLinks => "Too many levels of symbolic links"
  | .zeroInPath | .zeroInCommand | .notText => "Invalid argument"
  | .reported text => text

/-! ## Signals -/

/-- Signals by name. -/
def signals : List (String × Nat) :=
  [("EXIT", 0), ("HUP", 1), ("INT", 2), ("QUIT", 3), ("ILL", 4), ("TRAP", 5), ("ABRT", 6),
    ("BUS", 7),
    ("FPE", 8), ("KILL", 9), ("USR1", 10), ("SEGV", 11), ("USR2", 12), ("PIPE", 13), ("ALRM", 14),
    ("TERM", 15), ("CHLD", 17), ("CONT", 18), ("STOP", 19), ("TSTP", 20), ("TTIN", 21),
    ("TTOU", 22), ("URG", 23), ("XCPU", 24), ("XFSZ", 25), ("VTALRM", 26), ("PROF", 27),
    ("WINCH", 28), ("IO", 29), ("PWR", 30), ("SYS", 31)]

/-- The name of a signal; one without a name is called by its number. -/
def signalName (n : Nat) : String :=
  match signals.find? (fun s => s.2 == n) with
  | some (name, _) => name
  | none =>
    if n < 34 then Nat.repr n
    else if n = 34 then "RTMIN"
    else if n < 50 then "RTMIN+" ++ Nat.repr (n - 34)
    else if n < 64 then "RTMAX-" ++ Nat.repr (64 - n)
    else "RTMAX"

/-- How many signals there are, the end counted as one. -/
def signalCount : Nat := 65

/-- The number of a signal, not below `least`, by its name or its number. -/
def signal? (least : Nat) (text : String) : Option Nat :=
  if !text.isEmpty && text.toList.all Char.isDigit then
    (Numeral.count? text).bind (fun n => if n < signalCount then some n else none)
  else
    let wanted := text.map Char.toUpper
    (List.range signalCount).find? (fun n => least ≤ n && signalName n == wanted)

/-- Whether a process that does not take a signal itself is ended by it. -/
def isFatal (signal : Nat) : Bool := !([0, 17, 18, 19, 20, 21, 22, 23, 28].contains signal)

/-- Takes a signal: an action is put off until the current command is done, a signal without one has
its usual effect. Some signals cannot be taken. -/
def receive (m : Machine) (signal : Nat) : Machine :=
  let action := if signal = 9 ∨ signal = 19 then none else m.traps.lookup signal
  match action with
  | some "" => m
  | some _ => { m with pending := m.pending ++ [signal] }
  | none =>
    if isFatal signal then { m with flow := .ended (.signalled signal) }
    else if 19 ≤ signal ∧ signal ≤ 22 then { m with flow := .ended .timedOut }
    else m

/-- Takes the signals that have come from other processes. -/
def collect (m : Machine) : Machine :=
  let (mine, others) := m.world.posts.partition (fun p => p.1 == m.process)
  if mine.isEmpty then m
  else mine.foldl (fun m p => m.receive p.2) { m with world := { m.world with posts := others } }

/-- Sends a signal. A shell that it ends does not wait any longer for the process that sent it. -/
def post (m : Machine) (process signal : Nat) : Machine :=
  if process = m.process then m.receive signal
  else
    let sent := { m with world := { m.world with posts := m.world.posts ++ [(process, signal)] } }
    match m.world.guards.lookup process with
    | none => sent
    | some taken =>
      if (isFatal signal ∧ !taken.contains signal) ∨ signal = 9 then
        { sent with flow := .ended (.signalled signal) }
      else sent

/-- Notes which signals the shell takes itself. -/
def guarded (m : Machine) : Machine :=
  let entry := (m.process, m.traps.map Prod.fst)
  { m with
    world := { m.world with guards := entry :: m.world.guards.filter (fun g => g.1 != m.process) } }

/-- How many steps it takes to start a process. -/
def processSteps : Nat := 100

/-- A process of its own, started by the shell. -/
def spawn (m : Machine) : Machine :=
  let process := m.world.nextProcess
  { m with
    process
    parent := m.process
    world := { m.world with nextProcess := process + 1, budget := m.world.budget - processSteps } }

/-- What processes share after one of them has come to its end. -/
def withoutProcess (w : World) (process : Nat) : World :=
  { w with guards := w.guards.filter (fun g => g.1 != process) }

/-- The words for a signal that has ended a process. -/
def signalWords (signal : Nat) : String :=
  match [(1, "Hangup"), (3, "Quit"), (4, "Illegal instruction"), (5, "Trace/breakpoint trap"),
    (6, "Aborted"), (7, "Bus error"), (8, "Floating point exception"), (9, "Killed"),
    (10, "User defined signal 1"), (11, "Segmentation fault"), (12, "User defined signal 2"),
    (14, "Alarm clock"), (15, "Terminated"), (16, "Stack fault"), (24, "CPU time limit exceeded"),
    (25, "File size limit exceeded"), (26, "Virtual timer expired"),
    (27, "Profiling timer expired"), (29, "I/O possible"), (30, "Power failure"),
    (31, "Bad system call")].lookup signal with
  | some text => text
  | none => if 34 ≤ signal then "Real-time signal " ++ Nat.repr (signal - 34) else ""

end Machine

end BlockCoverage.Script
