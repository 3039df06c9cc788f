import BlockCoverage.Files.Tree
import BlockCoverage.Json.Record
import BlockCoverage.Model.Basic

/-!
# Static maps

The instrumentation pass of a compiler describes a program as a document: for every source file the
functions declared in it, for every function its basic blocks with the source lines they stand for.
A static map is what a model starts from.
-/

namespace BlockCoverage

/-! ## Source lines in documents -/

namespace SourceLine

/-- The fields of a source line that have been read. -/
structure Draft where
  /-- The file. -/
  file : Option String
  /-- The line. -/
  line : Option UInt32

/-- A source line in a document. -/
def format : Json.Format Draft SourceLine where
  name := "SourceLocation"
  fields := [
    ⟨"File", Json.Reader.text.map (fun v d => { d with file := some v }), fun d => d.file.isSome⟩,
    ⟨"Line", Json.Reader.word32.map (fun v d => { d with line := some v }), fun d => d.line.isSome⟩]
  blank := ⟨none, none⟩
  finish := fun d =>
    match d.file, d.line with
    | some file, some line => .ok ⟨file, line⟩
    | none, _ => .error "File"
    | some _, none => .error "Line"

/-- Reads a source line. -/
def reader : Json.Reader SourceLine := format.reader

end SourceLine

/-! ## Descriptions -/

/-- A declared block. -/
structure BlockDeclaration where
  /-- The number of the block. -/
  id : UInt32
  /-- The lines it stands for. -/
  lines : List SourceLine
deriving DecidableEq, Repr

namespace BlockDeclaration

/-- The fields of a declared block that have been read. -/
structure Draft where
  /-- The number. -/
  id : Option UInt32
  /-- The lines. -/
  lines : Option (List SourceLine)

/-- A declared block in a document; without lines it stands for none. -/
def format : Json.Format Draft BlockDeclaration where
  name := "BlockDescriptor"
  fields := [
    ⟨"Id", Json.Reader.word32.map (fun v d => { d with id := some v }), fun d => d.id.isSome⟩,
    ⟨"Coverage", (Json.Reader.list SourceLine.reader).map (fun v d => { d with lines := some v }),
      fun d => d.lines.isSome⟩]
  blank := ⟨none, none⟩
  finish := fun d =>
    match d.id with
    | some id => .ok ⟨id, d.lines.getD []⟩
    | none => .error "Id"

/-- Reads a declared block. -/
def reader : Json.Reader BlockDeclaration := format.reader

/-- The block before any run. -/
def toBlock (b : BlockDeclaration) : Block := .fresh b.id b.lines

end BlockDeclaration

/-- A declared function. -/
structure FunctionDeclaration where
  /-- The name of the function. -/
  name : String
  /-- Its blocks. -/
  blocks : List BlockDeclaration
deriving DecidableEq, Repr

namespace FunctionDeclaration

/-- The fields of a declared function that have been read. -/
structure Draft where
  /-- The name. -/
  name : Option String
  /-- The blocks. -/
  blocks : Option (List BlockDeclaration)

/-- A declared function in a document; without blocks it has none. -/
def format : Json.Format Draft FunctionDeclaration where
  name := "FunctionDescriptor"
  fields := [
    ⟨"Function", Json.Reader.text.map (fun v d => { d with name := some v }),
      fun d => d.name.isSome⟩,
    ⟨"BasicBlocks",
      (Json.Reader.list BlockDeclaration.reader).map (fun v d => { d with blocks := some v }),
      fun d => d.blocks.isSome⟩]
  blank := ⟨none, none⟩
  finish := fun d =>
    match d.name with
    | some name => .ok ⟨name, d.blocks.getD []⟩
    | none => .error "Function"

/-- Reads a declared function. -/
def reader : Json.Reader FunctionDeclaration := format.reader

end FunctionDeclaration

/-- Declared functions by file. -/
structure StaticMap where
  /-- The functions of each file, in order of declaration. -/
  files : OrderedMap String (List FunctionDeclaration)
deriving DecidableEq

namespace StaticMap

/-- Reads a static map. -/
def parse (text : String) : Except Fault StaticMap :=
  match ((Json.Reader.list FunctionDeclaration.reader).table).document text with
  | .ok files => .ok ⟨files⟩
  | .error fault => .error (.malformedMap fault)

/-- The model before any run. A function declared twice in one file keeps its last declaration, and
blocks keep the numbers they were given. -/
def toModel (map : StaticMap) : Model :=
  .ofList (map.files.entries.flatMap (fun e =>
    e.2.map (fun d => (⟨e.1, d.name⟩, d.blocks.map BlockDeclaration.toBlock))))

/-- The model of the static map at `path`. -/
def load (fs : Files) (path : String) : Except Fault Model :=
  match fs.readText path with
  | .error cause => .error (.io path cause)
  | .ok text => (parse text).map toModel

end StaticMap

end BlockCoverage
