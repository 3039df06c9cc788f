import BlockCoverage.Program
import BlockCoverage.Script.Run

/-!
# The outer layer

The program is a function on a tree of files. Here the tree below the working directory is read, the
program run on it, and what it changed written back. Its targets are scripts, which are run on the
tree too.
-/

namespace BlockCoverage.Main

/-- Reads everything below a directory, given how to list it. -/
partial def readBelow (listed : IO (Array IO.FS.DirEntry)) (loc : Location) (fs : Files) :
    IO Files := do
  let mut fs := fs
  for entry in ← listed do
    let below := loc ++ [entry.fileName]
    if ← entry.path.isDir then
      fs ← readBelow entry.path.readDir below (fs.put below .directory)
    else
      let contents ← IO.FS.readBinFile entry.path
      fs := fs.put below (.file contents.toList)
  return fs

/-- The directories from the root down to a location. -/
def ancestors : Location → List Location
  | [] => []
  | a :: rest => [a] :: (ancestors rest).map (a :: ·)

/-- The files below the working directory, and a directory for passing files on. -/
def readFiles : IO Files := do
  let here ← IO.currentDir
  let loc := Path.stretches here.toString
  let start := (ancestors loc).foldl (fun fs l => fs.put l .directory) Files.fresh
  readBelow here.readDir loc (start.enter loc)

/-- The path that a location has. -/
def pathOf (loc : Location) : String := String.join (loc.map ("/" ++ ·))

/-- Writes back what differs between two trees. -/
def writeFiles (before after : Files) : IO Unit := do
  for loc in after.names.keys do
    if before.node? loc != after.node? loc then
      match after.node? loc with
      | some .directory => IO.FS.createDirAll (pathOf loc)
      | some (.file contents) => IO.FS.writeBinFile (pathOf loc) ⟨contents.toArray⟩
      | none => pure ()
  for loc in before.names.keys do
    if (after.entryAt? loc).isNone && before.node? loc != some .directory then
      IO.FS.removeFile (pathOf loc)

/-- Reads a stream to its end. -/
partial def readAll (stream : IO.FS.Stream) (sofar : ByteArray) : IO ByteArray := do
  let chunk ← stream.read 4096
  if chunk.isEmpty then return sofar else readAll stream (sofar ++ chunk)

/-- What is typed, if a command line opens the shell. -/
def readTyped (arguments : List String) : IO Text.Bytes := do
  match CommandLine.read arguments with
  | .ok options =>
    if options.shell then return (← readAll (← IO.getStdin) .empty).toList else return []
  | .error _ => return []

end BlockCoverage.Main

open BlockCoverage in
/-- Runs the program. -/
def main (arguments : List String) : IO UInt32 := do
  let typed ← Main.readTyped arguments
  let before ← Main.readFiles
  let finish := Program.run Script.run arguments typed before
  (← IO.getStdout).putStr finish.output
  (← IO.getStderr).putStr finish.errorText
  Main.writeFiles before finish.files
  return UInt32.ofNat finish.exitCode
