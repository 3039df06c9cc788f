import BlockCoverage.Files.Cause
import BlockCoverage.Files.Inode
import BlockCoverage.Ordered.Map
import BlockCoverage.Path

/-!
# A tree of files

The file system is a value: what the names stand for by their absolute location, the files by
number, and the directory that relative paths start from. A path is walked one stretch at a time;
every location on the way has to be a directory, two dots lead to the parent, and a link is replaced
by the path it holds. All operations are functions from trees to trees, so what a run leaves behind
can be compared and reasoned about.
-/

namespace BlockCoverage

open Text (Bytes)

/-- What stands at a location, links apart. -/
inductive Node where
  /-- A file with its contents. -/
  | file (contents : Bytes)
  /-- A directory. -/
  | directory
deriving DecidableEq, Repr

/-- An absolute location: the names from the root down. -/
abbrev Location := List String

/-- Names by location, files by number, and where relative paths start. The root is always a
directory and has the number zero. -/
structure Files where
  /-- What the names stand for. -/
  names : OrderedMap Location Entry
  /-- The files and directories by number. -/
  inodes : Array Inode
  /-- The number of the current directory. -/
  here : Nat
deriving DecidableEq

namespace Files

/-- What the name at a location stands for. -/
def entryAt? (fs : Files) (loc : Location) : Option Entry :=
  if loc = [] then some (.directory 0) else fs.names.get? loc

/-- A file by its number. -/
def inode (fs : Files) (n : Nat) : Inode := fs.inodes.getD n (Inode.ofBytes [])

/-- What stands at a location; a link is nothing by itself, and a device is an empty file. -/
def node? (fs : Files) (loc : Location) : Option Node :=
  match fs.entryAt? loc with
  | some (.file n) => some (.file (fs.inode n).contents)
  | some (.directory _) => some .directory
  | some (.device _) => some (.file [])
  | some (.link _) | none => none

/-- Where the directory of a number is, unless it has been removed. -/
def locationOf? (fs : Files) (n : Nat) : Option Location :=
  if n = 0 then some []
  else (fs.names.entries.find? (fun e => e.2 == .directory n)).map Prod.fst

/-- The most octets that a name can have. -/
def maxName : Nat := 255

/-- Follows the stretches of a path from a location. A link on the way is left to `jump`, with the
location it is seen from and what is to be followed from there; the last stretch counts as on the
way only if it is to be followed too. -/
def walkWith (fs : Files) (follow : Bool)
    (jump : Location → List String → Except IoCause Location) :
    Location → List String → Except IoCause Location
  | loc, [] => .ok loc
  | loc, part :: rest =>
    match fs.entryAt? loc with
    | none | some (.link _) => .error .notFound
    | some (.file _) | some (.device _) => .error .notADirectory
    | some (.directory _) =>
      if part = "." then walkWith fs follow jump loc rest
      else if part = ".." then walkWith fs follow jump loc.dropLast rest
      else if maxName < part.utf8ByteSize then .error .nameTooLong
      else match fs.entryAt? (loc ++ [part]) with
        | some (.link target) =>
          if !follow && rest.isEmpty then .ok (loc ++ [part])
          else if target = "" then .error .notFound
          else jump (if Path.isAbsolute target then [] else loc) (Path.stretches target ++ rest)
        | _ => walkWith fs follow jump (loc ++ [part]) rest

/-- Follows the stretches of a path from a location, through at most so many links. -/
def walk (fs : Files) (follow : Bool) : Nat → Location → List String → Except IoCause Location
  | 0 => walkWith fs follow (fun _ _ => .error .tooManyLinks)
  | n + 1 => walkWith fs follow (walk fs follow n)

/-- The most links that a path may go through. -/
def maxLinks : Nat := 40

/-- The fewest octets of a path that is too long to be used at all. -/
def pathLimit : Nat := 4096

/-- Follows given stretches of a path from where the path starts. -/
def follow (fs : Files) (last : Bool) (path : String) (stretches : List String) :
    Except IoCause Location :=
  if path = "" then .error .notFound
  else if path.toList.contains (Char.ofNat 0) then .error .zeroInPath
  else if pathLimit ≤ path.utf8ByteSize then .error .nameTooLong
  else match if Path.isAbsolute path then some [] else fs.locationOf? fs.here with
    | none => .error .notFound
    | some start => fs.walk last maxLinks start stretches

/-- The location that a path leads to, whatever stands there; a link at its end is not followed. -/
def reach (fs : Files) (path : String) : Except IoCause Location :=
  fs.follow false path (Path.stretches path)

/-- Whether a path ends with a slash, so that it can only name a directory. -/
def endsWithSlash (path : String) : Bool := path.toList.getLast? == some '/'

/-- The location that a path names, links followed, whether or not something stands there. -/
def locate (fs : Files) (path : String) : Except IoCause Location := do
  let loc ← fs.follow true path (Path.stretches path)
  match fs.entryAt? loc with
  | some (.file _) | some (.device _) =>
    if endsWithSlash path then .error .notADirectory else .ok loc
  | _ => .ok loc

/-- What keeps the contents of what stands at a location from being got at. -/
def obstacle? (fs : Files) (loc : Location) : Option Obstacle :=
  match fs.entryAt? loc with
  | some (.file n) | some (.directory n) => (fs.inode n).obstacle
  | some (.link _) | some (.device _) | none => none

/-- The contents of the file at `path`. -/
def read (fs : Files) (path : String) : Except IoCause Bytes := do
  let loc ← fs.locate path
  match fs.node? loc, fs.obstacle? loc with
  | none, _ => .error .notFound
  | some _, some (.opening cause) => .error cause
  | some .directory, _ => .error .isADirectory
  | some (.file _), some (.reading cause) => .error cause
  | some (.file contents), none => .ok contents

/-- The contents of the file at `path` as text. -/
def readText (fs : Files) (path : String) : Except IoCause String := do
  match Text.Utf8.decode? (← fs.read path) with
  | some text => .ok text
  | none => .error .notText

/-- Adds a file without a name: its number. -/
def add (fs : Files) (i : Inode) : Nat × Files :=
  (fs.inodes.size, { fs with inodes := fs.inodes.push i })

/-- Changes a file. -/
def modifyInode (fs : Files) (n : Nat) (change : Inode → Inode) : Files :=
  { fs with inodes := fs.inodes.modify n change }

/-- Makes the name at a location stand for something. -/
def bind (fs : Files) (loc : Location) (e : Entry) : Files :=
  { fs with names := fs.names.insert loc e }

/-- Forgets the name at a location. -/
def unbind (fs : Files) (loc : Location) : Files := { fs with names := fs.names.erase loc }

/-- Puts a node at a location. A file that is there gets the contents; a device loses them. -/
def put (fs : Files) (loc : Location) (node : Node) : Files :=
  match node, fs.entryAt? loc with
  | .file s, some (.file n) => fs.modifyInode n (fun i => i.replace s)
  | .file _, some (.device _) => fs
  | .file s, _ =>
    let (n, fs) := fs.add (.ofBytes s)
    fs.bind loc (.file n)
  | .directory, some (.directory _) => fs
  | .directory, _ =>
    let (n, fs) := fs.add .ofDirectory
    fs.bind loc (.directory n)

/-- The location that a file is written at. What ends with a slash is refused before its last name
is looked at. -/
def locateForWriting (fs : Files) (path : String) : Except IoCause Location := do
  if endsWithSlash path then
    let _ ← fs.follow true path ((Path.stretches path).dropLast ++ ["."])
    .error .isADirectory
  else
    let loc ← fs.follow true path (Path.stretches path)
    match fs.entryAt? loc with
    | some (.directory _) => .error .isADirectory
    | _ => .ok loc

/-- Makes `contents` the contents of the file at `path`, creating it if needed. -/
def write (fs : Files) (path : String) (contents : Bytes) : Except IoCause Files := do
  let loc ← fs.locateForWriting path
  return fs.put loc (.file contents)

/-- Removes the name `path` of a file or a link. -/
def remove (fs : Files) (path : String) : Except IoCause Files := do
  let loc ← fs.reach path
  match fs.entryAt? loc with
  | none => .error .notFound
  | some (.directory _) => .error .isADirectory
  | some _ => if endsWithSlash path then .error .notADirectory else .ok (fs.unbind loc)

/-- Creates the directory `path`; its parent has to exist. -/
def makeDirectory (fs : Files) (path : String) : Except IoCause Files := do
  let loc ← fs.reach path
  match fs.entryAt? loc with
  | some _ => .error .alreadyExists
  | none => .ok (fs.put loc .directory)

/-- What a path names, if anything. -/
def find? (fs : Files) (path : String) : Option Node :=
  match fs.locate path with
  | .ok loc => fs.node? loc
  | .error _ => none

/-- What the name at the end of a path stands for, links followed. -/
def lookup? (fs : Files) (path : String) : Option Entry :=
  match fs.locate path with
  | .ok loc => fs.entryAt? loc
  | .error _ => none

/-- Whether `path` names a file. -/
def isFile (fs : Files) (path : String) : Bool :=
  match fs.lookup? path with
  | some (.file _) => true
  | _ => false

/-- Whether `path` names a directory. -/
def isDirectory (fs : Files) (path : String) : Bool :=
  match fs.lookup? path with
  | some (.directory _) => true
  | _ => false

/-- Whether `path` names anything. -/
def exists? (fs : Files) (path : String) : Bool := (fs.lookup? path).isSome

/-- The names right below a location, in order. -/
def namesBelow (fs : Files) (loc : Location) : List String :=
  fs.names.keys.filterMap (fun k =>
    match k.getLast? with
    | some name => if k.dropLast = loc then some name else none
    | none => none)

/-- The names in the directory at `path`, in order. What is not a directory cannot be opened as
one. -/
def list (fs : Files) (path : String) : Except Obstacle (List String) := do
  let loc ← (fs.locate path).mapError .opening
  match fs.entryAt? loc with
  | some (.directory n) =>
    match (fs.inode n).obstacle with
    | some obstacle => .error obstacle
    | none => .ok (fs.namesBelow loc)
  | some (.file _) | some (.device _) => .error (.opening .notADirectory)
  | some (.link _) | none => .error (.opening .notFound)

/-- Creates every missing directory from a location down along the stretches of a path. -/
def makeBelow (fs : Files) (loc : Location) : List String → Except IoCause Files
  | [] => .ok fs
  | part :: rest => do
    let next ← fs.walk true maxLinks loc [part]
    match fs.entryAt? next with
    | some (.directory _) => makeBelow fs next rest
    | some (.file _) | some (.device _) =>
      if rest.isEmpty then .error .alreadyExists else .error .notADirectory
    | some (.link _) | none => makeBelow (fs.put next .directory) next rest

/-- Creates the directory `path` with all its parents. -/
def makeDirectories (fs : Files) (path : String) : Except IoCause Files := do
  let start ← fs.follow true path []
  fs.makeBelow start (Path.stretches path)

/-- Goes to the directory at a location; stays if there is none. -/
def enter (fs : Files) (loc : Location) : Files :=
  match fs.entryAt? loc with
  | some (.directory n) => { fs with here := n }
  | _ => fs

/-- Moves a name, with all that is below it, to another location. -/
def rename (fs : Files) (source target : Location) : Files :=
  let moved := fs.names.entries.filter (fun e => source.isPrefixOf e.1)
  let kept := fs.names.filter (fun k _ => !source.isPrefixOf k)
  { fs with
    names := moved.foldl (fun names e => names.insert (target ++ e.1.drop source.length) e.2) kept }

/-- How many names a file has. -/
def linkCount (fs : Files) (n : Nat) : Nat :=
  (fs.names.entries.filter (fun e => e.2 == .file n)).length

/-- The directories of a fresh system. -/
def freshDirectories : List Location :=
  [["bin"], ["dev"], ["etc"], ["home"], ["opt"], ["proc"], ["root"], ["sbin"], ["sys"], ["tmp"],
    ["usr"],
    ["usr", "bin"], ["usr", "local"], ["usr", "local", "bin"], ["usr", "local", "sbin"],
    ["usr", "sbin"], ["var"], ["var", "tmp"], ["work"]]

/-- The devices of a fresh system. -/
def freshDevices : List (Location × Device) :=
  [(["dev", "full"], .full), (["dev", "null"], .null), (["dev", "random"], .random),
    (["dev", "tty"], .terminal), (["dev", "urandom"], .random), (["dev", "zero"], .zero)]

/-- A fresh system, seen from its working directory. -/
def fresh : Files :=
  let empty : Files := ⟨∅, #[.ofDirectory], 0⟩
  let directories := freshDirectories.foldl (fun fs loc => fs.put loc .directory) empty
  let devices := freshDevices.foldl (fun fs d => fs.bind d.1 (.device d.2)) directories
  devices.enter ["work"]

end Files

end BlockCoverage
