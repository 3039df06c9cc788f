import BlockCoverage.Files.Tree
import BlockCoverage.Model.Basic
import BlockCoverage.Text.Lines

/-!
# Source text of a function

The text of a function is the stretch of its own file from the first to the last line that its
blocks declare there. Lines of other files, such as inlined headers, and line zero do not count.
-/

namespace BlockCoverage

/-- A line of source text. -/
structure SourceRow where
  /-- The line, counted from one. -/
  line : UInt32
  /-- Its text. -/
  text : String
  /-- The file it was read from. -/
  path : String
deriving DecidableEq, Repr

namespace Model

/-- The lines that a function's blocks declare in its own file. -/
def ownLines (f : FunctionId) (blocks : List Block) : List UInt32 :=
  (blocks.flatMap (fun b =>
    (b.lines.filter (fun l => Path.matchesFile f.file l.file)).map SourceLine.line)).filter
      (fun line => decide (0 < line))

/-- The least and the greatest of some lines. -/
def span : List UInt32 → Option (UInt32 × UInt32)
  | [] => none
  | first :: rest => some (rest.foldl (fun s l => (min s.1 l, max s.2 l)) (first, first))

/-- The lines of a text from `first` to `last`, with their numbers. -/
def rowsBetween (first last : UInt32) (path : String) (lines : List String) : List SourceRow :=
  ((lines.zipIdx 1).map (fun e => SourceRow.mk (UInt32.ofNat e.2) e.1 path)).filter
    (fun r => decide (first ≤ r.line ∧ r.line ≤ last))

/-- The source text of a function; relative files are looked for below `root`. Nothing is read if
the function declares no line of its own file. -/
def sourceRows (m : Model) (fs : Files) (root : String) (f : FunctionId) :
    Except Fault (List SourceRow) := do
  match span (ownLines f (← m.blocks f)) with
  | none => return []
  | some (first, last) =>
    let path := Path.join root f.file
    match fs.read path with
    | .error cause => .error (.io path cause)
    | .ok bytes => return rowsBetween first last path (Text.lines (Text.Utf8.decodeLossy bytes))

end Model

end BlockCoverage
