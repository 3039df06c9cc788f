import BlockCoverage.Run.Ending
import BlockCoverage.Run.Executor

/-!
# Platforms

Targets run on a platform, which has files and whatever else there is to a system: processes,
clocks, names that are not taken. Hosts that act on a platform can be made of a launcher, which runs
a process from start to end in one go. As a host it decides everything when it is asked to start a
process, and its answers afterwards tell how that went.
-/

namespace BlockCoverage

open Text (Bytes)

/-- What targets run on. -/
structure Platform (κ : Type) where
  /-- Its files. -/
  files : Files
  /-- Whatever else it keeps. -/
  rest : κ
deriving DecidableEq

/-- The files of a platform. -/
def Platform.tree {κ : Type} : Part (Platform κ) Files where
  get := Platform.files
  set := fun files p => { p with files }
  get_set := fun _ _ => rfl
  set_get := fun _ => rfl
  set_set := fun _ _ _ => rfl

/-- What a process is started with. -/
structure Start where
  /-- The program. -/
  program : String
  /-- Its arguments. -/
  arguments : List String
  /-- Its environment. -/
  environment : List (String × String)
  /-- Its input. -/
  input : Bytes
  /-- Milliseconds after which it is stopped. -/
  limit : Nat

/-- What runs processes from start to end: how a process ends and what it leaves of the files, seen
from the directory that it is started in, unless it cannot be started. -/
abbrev Launcher := Start → Files → Except IoCause (Ending × Files)

namespace Launcher

/-- The file that an input is put in for a target that wants one. -/
def inputPath : String := "/tmp/.tmpInput"

/-- How a process looks that ended like this: one that is over its time is still there. -/
def exit? : Ending → Option Exit
  | .exited code => some (.code code)
  | .signalled signal => some (.signal signal)
  | .timedOut => none

/-- Runs the process of a command with further arguments and the given standard input. -/
def start (launch : Launcher) (c : TargetCommand) (extra : List String) (input : Bytes)
    (fs : Files) :
    Except IoCause (Ending × Files) :=
  match c.command with
  | [] => .error .notFound
  | program :: arguments =>
    if !c.isPassable extra then .error .zeroInCommand else do
      let seen ← c.startDirectory fs
      launch ⟨program, arguments ++ extra, c.fullEnvironment, input, c.timeout⟩ seen

/-- The host that a launcher makes of files. It keeps how its processes have ended, the first one
first, and their numbers are their places. -/
def host (launch : Launcher) : Host (Platform (List Ending)) where
  makeTemp := fun p =>
    match p.files.write inputPath [] with
    | .error cause => (.error cause, p)
    | .ok files => (.ok (Text.Utf8.encode inputPath), { p with files })
  fill := fun path input p =>
    match p.files.write (Text.Utf8.decodeLossy path) input with
    | .error cause => (some cause, p)
    | .ok files => (none, { p with files })
  spawn := fun c extra stdin p =>
    match launch.start c extra (stdin.getD []) p.files with
    | .error cause => (.error cause, p)
    | .ok (ending, after) =>
      (.ok p.rest.length, ⟨{ after with here := p.files.here }, p.rest ++ [ending]⟩)
  feed := fun _ _ p => (none, p)
  poll := fun child p => (.ok (p.rest[child]?.bind exit?), p)
  lag := fun p => (0, p)
  kill := fun _ p => (none, p)
  reap := fun _ p => p
  discard := fun path p =>
    { p with files := (p.files.remove (Text.Utf8.decodeLossy path)).toOption.getD p.files }

end Launcher

end BlockCoverage
