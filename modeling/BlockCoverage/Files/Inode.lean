import BlockCoverage.Files.Cause
import BlockCoverage.Text.Utf8

/-!
# What names stand for

A name in a directory stands for a numbered file or directory, for a link that leads elsewhere, or
for a device. Several names may stand for one numbered file; what is written under one of them is
read under all of them, and the file is there as long as somebody uses it.
-/

namespace BlockCoverage

open Text (Bytes)

/-- A device. -/
inductive Device where
  /-- Nothing can be read and everything written is lost. -/
  | null
  /-- Zeros without end. -/
  | zero
  /-- Nothing can be written. -/
  | full
  /-- Octets without end. -/
  | random
  /-- A terminal, which is never there. -/
  | terminal
deriving DecidableEq, Repr

/-- What a name stands for. -/
inductive Entry where
  /-- A file by its number. -/
  | file (number : Nat)
  /-- A directory by its number. -/
  | directory (number : Nat)
  /-- A path to be followed instead. -/
  | link (target : String)
  /-- A device. -/
  | device (kind : Device)
deriving DecidableEq, Repr

/-- What keeps the contents of a file or a directory from being got at, although it is there and
what it is can be told: permissions, or a failing disk. -/
inductive Obstacle where
  /-- It cannot be opened. -/
  | opening (cause : IoCause)
  /-- It can be opened, but reading it breaks off. -/
  | reading (cause : IoCause)
deriving DecidableEq, Repr

/-- What the operating system says about it. -/
def Obstacle.cause : Obstacle → IoCause
  | opening cause | reading cause => cause

/-- A file apart from its names. The contents are kept in parts so that adding to the end is
cheap. -/
structure Inode where
  /-- The parts of the contents, the last first. -/
  parts : List Bytes
  /-- How many octets there are. -/
  size : Nat
  /-- The permissions. -/
  mode : Nat
  /-- When the contents were changed last, in milliseconds. -/
  modified : Nat
  /-- How often they have been changed. -/
  version : Nat
  /-- Why they cannot be got at, if they cannot. -/
  obstacle : Option Obstacle
deriving DecidableEq, Repr

namespace Inode

/-- The permissions of a new file. -/
def fileMode : Nat := 420

/-- The permissions of a new directory. -/
def directoryMode : Nat := 493

/-- The time at which everything starts, in milliseconds. -/
def startTime : Nat := 1767225600000

/-- A file with the given contents. -/
def ofBytes (s : Bytes) : Inode := ⟨[s], s.length, fileMode, startTime, 0, none⟩

/-- A directory. -/
def ofDirectory : Inode := ⟨[], 0, directoryMode, startTime, 0, none⟩

/-- The contents. -/
def contents (i : Inode) : Bytes :=
  match i.parts with
  | [] => []
  | [s] => s
  | parts => parts.reverse.flatten

/-- Puts contents in the place of the ones there are. -/
def replace (i : Inode) (s : Bytes) : Inode :=
  { i with parts := [s], size := s.length, version := i.version + 1 }

/-- The contents after octets have been written at a place in them; what is skipped is zeros. -/
def overwritten (s : Bytes) (offset : Nat) (t : Bytes) : Bytes :=
  s.take offset ++ List.replicate (offset - s.length) 0 ++ t ++ s.drop (offset + t.length)

/-- Writes octets at a place. -/
def write (i : Inode) (offset : Nat) (t : Bytes) : Inode :=
  if t.isEmpty then i
  else if offset = i.size then
    { i with parts := t :: i.parts, size := i.size + t.length, version := i.version + 1 }
  else i.replace (overwritten i.contents offset t)

end Inode

end BlockCoverage
