import BlockCoverage.Json.Writer
import BlockCoverage.StaticMap

/-!
# Snapshots

A snapshot keeps what the runs so far have shown, without which run showed it, so that work can go
on later from a document instead of from all inputs. Files on the denylist, such as the sources of
the coverage runtime itself, are left out.
-/

namespace BlockCoverage

/-- A block in a snapshot. -/
structure SnapshotBlock where
  /-- The number of the block. -/
  id : UInt32
  /-- The lines it stands for. -/
  lines : List SourceLine
  /-- The highest count of any run; the block is hit if it is positive. -/
  count : UInt64
deriving DecidableEq, Repr

namespace SnapshotBlock

/-- The fields of a block that have been read. -/
structure Draft where
  /-- The number. -/
  id : Option UInt32
  /-- The lines. -/
  lines : Option (List SourceLine)
  /-- The count. -/
  count : Option UInt64

/-- A block in a document; all fields are required. -/
def format : Json.Format Draft SnapshotBlock where
  name := "SnapshotBlock"
  fields := [
    ⟨"Id", Json.Reader.word32.map (fun v d => { d with id := some v }), fun d => d.id.isSome⟩,
    ⟨"CovInfo", (Json.Reader.list SourceLine.reader).map (fun v d => { d with lines := some v }),
      fun d => d.lines.isSome⟩,
    ⟨"CovIndex", Json.Reader.word64.map (fun v d => { d with count := some v }),
      fun d => d.count.isSome⟩]
  blank := ⟨none, none, none⟩
  finish := fun d =>
    match d.id, d.lines, d.count with
    | some id, some lines, some count => .ok ⟨id, lines, count⟩
    | none, _, _ => .error "Id"
    | some _, none, _ => .error "CovInfo"
    | some _, some _, none => .error "CovIndex"

/-- Reads a block. -/
def reader : Json.Reader SnapshotBlock := format.reader

/-- Writes a source line. -/
def lineWriter (l : SourceLine) : Json.Writer :=
  .object [("File", .text l.file), ("Line", .number l.line.toNat)]

/-- Writes a block. -/
def writer (b : SnapshotBlock) : Json.Writer :=
  .object [("Id", .number b.id.toNat), ("CovInfo", .list (b.lines.map lineWriter)),
    ("CovIndex", .number b.count.toNat)]

/-- What a snapshot keeps of a block. -/
def ofBlock (b : Block) : SnapshotBlock := ⟨b.id, b.lines, b.count⟩

/-- The block that a snapshot stands for, without origins. -/
def toBlock (b : SnapshotBlock) : Block := ⟨b.id, b.lines, decide (0 < b.count), b.count, []⟩

end SnapshotBlock

/-- Files left out of snapshots, in full or by their last components. -/
structure Denylist where
  /-- What is left out. -/
  files : List String
deriving DecidableEq, Repr

namespace Denylist

/-- The sources of the coverage runtimes, which every instrumented program contains. -/
def standard : Denylist := ⟨["bbcov_runtime.c", "tracepc_runtime.c", "runtimelib.c"]⟩

/-- Whether a file is left out. -/
def denies (d : Denylist) (file : String) : Bool :=
  d.files.any (fun entry => Path.matchesFile file entry)

end Denylist

/-- Blocks by function name, by file. -/
abbrev Snapshot := OrderedMap String (OrderedMap String (List SnapshotBlock))

namespace Snapshot

/-- Puts the blocks of a function under its file. -/
def add (doc : Snapshot) (f : FunctionId) (blocks : List SnapshotBlock) : Snapshot :=
  doc.insert f.file (((doc.get? f.file).getD .empty).insert f.name blocks)

/-- The snapshot of a model, denied files left out. -/
def dump (m : Model) (deny : Denylist) : Snapshot :=
  (m.functions.entries.filter (fun e => !deny.denies e.1.file)).foldl
    (fun doc e => add doc e.1 (e.2.map SnapshotBlock.ofBlock)) .empty

/-- The model that a snapshot stands for. -/
def load (doc : Snapshot) : Model :=
  .ofList (doc.entries.flatMap (fun file =>
    file.2.entries.map (fun f => (⟨file.1, f.1⟩, f.2.map SnapshotBlock.toBlock))))

/-- The document of a snapshot. -/
def render (doc : Snapshot) : String :=
  (Json.Writer.object (doc.entries.map (fun file =>
    (file.1, .object (file.2.entries.map (fun f =>
      (f.1, .list (f.2.map SnapshotBlock.writer)))))))).document

/-- Reads the document of a snapshot. -/
def parse (text : String) : Except Fault Snapshot :=
  match ((Json.Reader.list SnapshotBlock.reader).table.table).document text with
  | .ok doc => .ok doc
  | .error fault => .error (.malformedSnapshot fault)

end Snapshot

namespace Model

/-- The model as a document, denied files left out. -/
def toText (m : Model) (deny : Denylist) : String := (Snapshot.dump m deny).render

/-- Reads a model from the document of a snapshot. -/
def ofText (text : String) : Except Fault Model := (Snapshot.parse text).map Snapshot.load

/-- Writes the snapshot of a model to `path`. -/
def save (m : Model) (deny : Denylist) (fs : Files) (path : String) : Except Fault Files :=
  (fs.write path (Text.Utf8.encode (m.toText deny))).mapError (.io path)

/-- Reads the model from the snapshot at `path`. -/
def resume (fs : Files) (path : String) : Except Fault Model :=
  match fs.readText path with
  | .error cause => .error (.io path cause)
  | .ok text => ofText text

end Model

end BlockCoverage
