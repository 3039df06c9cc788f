import BlockCoverage.Digest.Md5
import BlockCoverage.Files.Tree
import BlockCoverage.Ordered.Set
import BlockCoverage.Text.Quoted

/-!
# Input corpora

A corpus is the list of inputs that a batch replays. Files with the same contents give the same
trace, so of files with one digest only the first is kept; the others are counted. A load that fails
keeps what it had added before.
-/

namespace BlockCoverage

open Text (Bytes)

/-- An input file and the digest of its contents. -/
structure CorpusEntry where
  /-- The file, which is also what its runs are attributed to. -/
  path : String
  /-- The digest of its contents. -/
  digest : Bytes
deriving DecidableEq, Repr

/-- Why inputs could not be loaded. -/
inductive CorpusFault where
  /-- An input cannot be read. -/
  | unreadable (path : String) (cause : IoCause)
  /-- A directory cannot be listed. -/
  | unlistable (path : String) (cause : IoCause)
  /-- The listing of a directory breaks off. -/
  | cutListing (path : String) (cause : IoCause)
  /-- A path names neither a file nor a directory. -/
  | neither (path : String)
deriving DecidableEq, Repr

/-- The text of a fault. -/
def CorpusFault.message : CorpusFault → String
  | unreadable path cause =>
    "Corpus I/O error: Failed to read input file " ++ Text.quote path ++ ": " ++ cause.message
  | unlistable path cause =>
    "Corpus I/O error: Failed to read directory " ++ Text.quote path ++ ": " ++ cause.message
  | cutListing path cause =>
    "Corpus I/O error: Error reading entry in " ++ Text.quote path ++ ": " ++ cause.message
  | neither path => "Corpus path " ++ Text.quote path ++ " is neither a file nor a directory"

/-- The inputs of a batch, in order. -/
structure Corpus where
  /-- The inputs that are kept. -/
  entries : List CorpusEntry
  /-- The digests of contents that are present. -/
  known : OrderedSet Bytes
  /-- How many files were left out because their contents were known. -/
  duplicates : Nat
deriving DecidableEq

namespace Corpus

/-- The corpus without inputs. -/
def empty : Corpus := ⟨[], .empty, 0⟩

instance : Inhabited Corpus := ⟨empty⟩

/-- Whether contents with this digest are present. -/
def knows (c : Corpus) (digest : Bytes) : Bool := c.known.mem digest

/-- Adds a file that holds the given contents; also whether they are new. -/
def addContents (c : Corpus) (path : String) (contents : Bytes) : Bool × Corpus :=
  let digest := Digest.md5 contents
  if c.knows digest then (false, { c with duplicates := c.duplicates + 1 })
  else (true, { c with
    entries := c.entries ++ [⟨path, digest⟩]
    known := c.known.insert digest () })

/-- Adds a file; also whether its contents are new. -/
def addFile (c : Corpus) (fs : Files) (path : String) : Except CorpusFault Bool × Corpus :=
  match fs.read path with
  | .error cause => (.error (.unreadable path cause), c)
  | .ok contents =>
    let (new, c) := c.addContents path contents
    (.ok new, c)

/-- Runs loads one after the other up to the first that fails, and adds up what they brought. -/
def loadEach {α : Type} (load : Corpus → α → Except CorpusFault Nat × Corpus) :
    Corpus → List α → Except CorpusFault Nat × Corpus
  | c, [] => (.ok 0, c)
  | c, a :: rest =>
    match load c a with
    | (.error fault, c) => (.error fault, c)
    | (.ok n, c) =>
      match loadEach load c rest with
      | (.error fault, c) => (.error fault, c)
      | (.ok k, c) => (.ok (n + k), c)

/-- Adds a file and counts it if its contents are new. -/
def countFile (fs : Files) (c : Corpus) (path : String) : Except CorpusFault Nat × Corpus :=
  match c.addFile fs path with
  | (.error fault, c) => (.error fault, c)
  | (.ok new, c) => (.ok (if new then 1 else 0), c)

/-- The paths of what a directory holds, in name order. -/
def children (fs : Files) (dir : String) : Except CorpusFault (List String) :=
  match fs.list dir with
  | .error (.opening cause) => .error (.unlistable dir cause)
  | .error (.reading cause) => .error (.cutListing dir cause)
  | .ok names => .ok (names.map (Path.join dir))

/-- Adds the files right inside a directory whose paths satisfy `keep`. -/
def loadDirectory (fs : Files) (keep : String → Bool) (c : Corpus) (dir : String) :
    Except CorpusFault Nat × Corpus :=
  match children fs dir with
  | .error fault => (.error fault, c)
  | .ok paths => loadEach (countFile fs) c (paths.filter (fun p => fs.isFile p && keep p))

/-- Adds a file, or the files right inside a directory. -/
def loadPath (fs : Files) (c : Corpus) (path : String) : Except CorpusFault Nat × Corpus :=
  if fs.isFile path then countFile fs c path
  else if fs.isDirectory path then loadDirectory fs (fun _ => true) c path
  else (.error (.neither path), c)

/-- Adds files and the files right inside directories; also how many were new. -/
def loadPaths (fs : Files) (c : Corpus) (paths : List String) : Except CorpusFault Nat × Corpus :=
  loadEach (loadPath fs) c paths

/-- Whether a path is an input of a fuzzer rather than the note it leaves beside its crashes. -/
def isFuzzerInput (path : String) : Bool :=
  (Path.components path).getLast? != some (.name "README.txt")

/-- The directories of the fuzzer instances in an output directory: itself if it has a queue, else
those right inside it that have one. -/
def fuzzerInstances (fs : Files) (dir : String) : Except CorpusFault (List String) :=
  if fs.isDirectory (Path.join dir "queue") then .ok [dir]
  else match children fs dir with
    | .error fault => .error fault
    | .ok paths => .ok (paths.filter (fun p => fs.isDirectory (Path.join p "queue")))

/-- Adds the queue and the crashes of every fuzzer instance in an output directory. -/
def loadFuzzerOutput (fs : Files) (c : Corpus) (dir : String) : Except CorpusFault Nat × Corpus :=
  match fuzzerInstances fs dir with
  | .error fault => (.error fault, c)
  | .ok instances =>
    let folders := instances.flatMap (fun i => [Path.join i "queue", Path.join i "crashes"])
    loadEach (loadDirectory fs isFuzzerInput) c (folders.filter fs.isDirectory)

end Corpus

end BlockCoverage
