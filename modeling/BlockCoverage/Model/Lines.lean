import BlockCoverage.Model.Basic

/-!
# Views of a model by line

Nothing here is stored: the class of a line, the runs that covered it and the functions that declare
it are read off the current state of the blocks.
-/

namespace BlockCoverage

/-- What the blocks of a function say about a line. -/
inductive LineClass where
  /-- Every block that declares the line is hit. -/
  | covered
  /-- No block that declares the line is hit. -/
  | uncovered
  /-- Some are hit and some are not. -/
  | mixed
  /-- No block declares the line. -/
  | unknown
deriving DecidableEq, Repr

/-- The declared lines of a function by class. -/
structure LineClasses where
  /-- Lines declared by hit blocks only. -/
  covered : OrderedSet UInt32
  /-- Lines declared by unhit blocks only. -/
  uncovered : OrderedSet UInt32
  /-- Lines declared by both. -/
  mixed : OrderedSet UInt32
deriving DecidableEq

namespace LineClasses

/-- The class of a line. -/
def classOf (c : LineClasses) (line : UInt32) : LineClass :=
  if c.covered.mem line then .covered
  else if c.uncovered.mem line then .uncovered
  else if c.mixed.mem line then .mixed
  else .unknown

/-- All declared lines in order. -/
def all (c : LineClasses) : OrderedSet UInt32 :=
  OrderedSet.ofList (c.covered.toList ++ c.uncovered.toList ++ c.mixed.toList)

/-- Sorts the lines of blocks into classes, by number alone: lines of different files are not told
apart. -/
def ofBlocks (blocks : List Block) : LineClasses :=
  let linesOf := fun (bs : List Block) =>
    OrderedSet.ofList (bs.flatMap (fun b => b.lines.map SourceLine.line))
  let hit := linesOf (blocks.filter (fun b => b.hit))
  let unhit := linesOf (blocks.filter (fun b => !b.hit))
  let mixed := hit.inter unhit
  ⟨hit.diff mixed, unhit.diff mixed, mixed⟩

end LineClasses

namespace Model

/-- The declared lines of a function by class. -/
def classify (m : Model) (f : FunctionId) : Except Fault LineClasses := do
  return .ofBlocks (← m.blocks f)

/-- The runs that covered a line of a function, in order; none for what is not declared. -/
def originsOfLine (m : Model) (f : FunctionId) (line : UInt32) : List String :=
  let blocks := (m.get? f).getD []
  (OrderedSet.ofList
    ((blocks.filter (fun b => b.hit && b.coversLine line)).flatMap Block.origins)).toList

/-- The functions with a block on a line of a file, in order. -/
def functionsAt (m : Model) (file : String) (line : UInt32) : List FunctionId :=
  (m.functions.entries.filter (fun e =>
    e.2.any (fun b =>
      b.lines.any (fun l => l.line == line && Path.matchesFile l.file file)))).map Prod.fst

end Model

end BlockCoverage
