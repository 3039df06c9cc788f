import BlockCoverage.Files.Tree
import BlockCoverage.Text.Octets

/-!
# What processes share

The processes that a script starts share the files, the open channels and the time. A channel is
what a descriptor leads to: a pipe that holds what has been written and not yet read, or a file with
the place where reading or writing goes on. Two descriptors that lead to one channel move that place
together.

The input of a target comes through the first channel. Whoever writes it is held up while more than
a pipe holds is left unread, and the time of the target counts only from the moment when the writing
is done.
-/

namespace BlockCoverage.Script

open Text (Bytes)

/-- What a descriptor leads to. -/
inductive Channel where
  /-- Nothing to read; what is written is lost. -/
  | nothing
  /-- Zeros without end. -/
  | zeros
  /-- Nothing to read; nothing can be written. -/
  | full
  /-- What is to be read, what has been written since, the last part first, how much has been
  written in all, and after how much its writer is stopped, if it is ever. -/
  | pipe (front : Bytes) (back : List Bytes) (written : Nat) (limit : Option Nat)
  /-- A file by its number and the place in it, or always its end; what is read ahead from that
  place, with the version of the file that this is taken from. -/
  | file (number offset : Nat) (append : Bool) (ahead : Option (Nat × Bytes))
  /-- A directory, which can be opened and not read. -/
  | folder
deriving DecidableEq

/-- Files, channels and time. -/
structure World where
  /-- The files, seen from the directory of the current process. -/
  files : Files
  /-- The channels that have been opened. -/
  channels : Array Channel
  /-- Milliseconds that have passed. -/
  elapsed : Nat
  /-- How many octets of input there are. -/
  inputSize : Nat
  /-- When the input had been written, if it has been. -/
  fed : Option Nat
  /-- Milliseconds after that when the target is stopped. -/
  limit : Nat
  /-- Steps that may still be taken before the target counts as one that never ends. -/
  budget : Nat
  /-- The number of the next process. -/
  nextProcess : Nat
  /-- The signals that each shell takes itself, by process. -/
  guards : List (Nat × List Nat)
  /-- Signals on their way, by the process that they are for. -/
  posts : List (Nat × Nat)

namespace World

/-- What a pipe holds before its writer has to wait. -/
def pipeCapacity : Nat := 65536

/-- The parts that a pipe is emptied by. -/
def pipePage : Nat := 4096

/-- Whether input of which `left` octets of `all` are unread has been written to its end. -/
def isFed (all left : Nat) : Bool := all - (all - left) / pipePage * pipePage ≤ pipeCapacity

/-- The channel of a number. -/
def channel (w : World) (n : Nat) : Channel := w.channels.getD n .nothing

/-- After how much its writer is stopped, if a channel is a pipe that does so. -/
def limitOf (w : World) (n : Nat) : Option Nat :=
  match w.channel n with
  | .pipe _ _ _ limit => limit
  | _ => none

/-- Whether a channel is a pipe whose writer has been stopped. -/
def isCut (w : World) (n : Nat) : Bool :=
  match w.channel n with
  | .pipe _ _ written (some limit) => decide (limit < written)
  | _ => false

/-- How much has been written to a pipe. -/
def writtenTo (w : World) (n : Nat) : Nat :=
  match w.channel n with
  | .pipe _ _ written _ => written
  | _ => 0

/-- Opens a channel: its number. -/
def openChannel (w : World) (c : Channel) : Nat × World :=
  (w.channels.size, { w with channels := w.channels.push c })

/-- Puts a channel in the place of another. -/
def setChannel (w : World) (n : Nat) (c : Channel) : World :=
  { w with channels := w.channels.setIfInBounds n c }

/-- What a pipe has to give. -/
def unread (front : Bytes) (back : List Bytes) : Bytes :=
  if back.isEmpty then front else front ++ back.reverse.flatten

/-- The time of day, in milliseconds. -/
def now (w : World) : Nat := Inode.startTime + w.elapsed

/-- What can be read from a place in a file. -/
def rest (i : Inode) (offset : Nat) (ahead : Option (Nat × Bytes)) : Bytes :=
  match ahead with
  | some (version, s) => if version = i.version then s else i.contents.drop offset
  | none => i.contents.drop offset

/-- Everything that can be read from a channel now. -/
def available (w : World) (n : Nat) : Bytes :=
  match w.channel n with
  | .pipe front back _ _ => unread front back
  | .file number offset _ ahead => rest (w.files.inode number) offset ahead
  | .nothing | .zeros | .full | .folder => []

/-- Marks `count` octets of a channel as read. -/
def consume (w : World) (n count : Nat) : World :=
  match w.channel n with
  | .pipe front back written limit =>
    w.setChannel n (.pipe ((unread front back).drop count) [] written limit)
  | .file number offset append ahead =>
    let i := w.files.inode number
    let left := (rest i offset ahead).drop count
    w.setChannel n (.file number (offset + count) append (some (i.version, left)))
  | .nothing | .zeros | .full | .folder => w

/-- Writes to a channel. -/
def write (w : World) (n : Nat) (s : Bytes) : World :=
  match w.channel n with
  | .pipe front back written limit =>
    if s.isEmpty then w else w.setChannel n (.pipe front (s :: back) (written + s.length) limit)
  | .file number offset append _ =>
    if s.isEmpty then w
    else
      let place := if append then (w.files.inode number).size else offset
      let time := w.now
      let files := w.files.modifyInode number (fun i => { i.write place s with modified := time })
      { w with files }.setChannel n (.file number (place + s.length) append none)
  | .nothing | .zeros | .full | .folder => w

/-- How a file is opened. -/
inductive Access where
  /-- To be read. -/
  | read
  /-- To be written anew. -/
  | write
  /-- To be written at its end. -/
  | append
  /-- To be read and written as it is. -/
  | both
deriving DecidableEq

/-- The channel of a device. -/
def ofDevice : Device → Except IoCause Channel
  | .null => .ok .nothing
  | .zero | .random => .ok .zeros
  | .full => .ok .full
  | .terminal => .error (.reported "No such device or address")

/-- Opens a file, creating it if it is to be written, with the permissions that the mask leaves. -/
def openFile (w : World) (mask : Nat) (path : String) (access : Access) :
    Except IoCause (Channel × World) := do
  let loc ← if access == .read then w.files.locate path else w.files.locateForWriting path
  match w.files.entryAt? loc, access with
  | some (.device d), _ => return (← ofDevice d, w)
  | some (.directory _), _ => return (.folder, w)
  | some (.file n), .write =>
    let time := w.now
    let files := w.files.modifyInode n (fun i => { i.replace [] with modified := time })
    return (.file n 0 false none, { w with files })
  | some (.file n), .append => return (.file n (w.files.inode n).size true none, w)
  | some (.file n), _ => return (.file n 0 false none, w)
  | _, .read => .error .notFound
  | _, _ =>
    let mode := 438 - Nat.land 438 mask
    let (n, files) := w.files.add { Inode.ofBytes [] with mode, modified := w.now }
    return (.file n 0 (access == .append) none, { w with files := files.bind loc (.file n) })

end World

end BlockCoverage.Script
