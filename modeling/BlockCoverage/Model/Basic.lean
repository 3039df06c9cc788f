import BlockCoverage.Fault
import BlockCoverage.Model.Index
import BlockCoverage.Path

/-!
# The coverage model

A model holds, for every declared function, its basic blocks in order: which source lines a block
stands for, whether any run has hit it, the highest count any single run had for it, and the run
that hit it first. Which functions, blocks and lines there are is fixed when a model is made; only
the hit state changes afterwards. So the index of the functions by name is made once, with the
model, and handed on.
-/

namespace BlockCoverage

/-- A line of a source file. -/
structure SourceLine where
  /-- The file as declared. -/
  file : String
  /-- The line, counted from one; zero stands for none. -/
  line : UInt32
deriving DecidableEq, Repr

/-- A basic block and what runs have shown about it. -/
structure Block where
  /-- The number under which the block was declared. -/
  id : UInt32
  /-- The source lines that the block stands for. -/
  lines : List SourceLine
  /-- Whether a run has hit the block. -/
  hit : Bool
  /-- The highest count of any single run. -/
  count : UInt64
  /-- The origin of the run that hit the block first. -/
  origins : List String
deriving DecidableEq, Repr

namespace Block

/-- A block that no run has hit. -/
def fresh (id : UInt32) (lines : List SourceLine) : Block := ⟨id, lines, false, 0, []⟩

/-- Whether the block stands for the line, in any file. -/
def coversLine (b : Block) (line : UInt32) : Bool := b.lines.any (fun l => l.line == line)

/-- What a run with the given count for the block adds to it. A count of zero adds nothing, and the
first run with a positive count leaves its origin. -/
def record (b : Block) (count : UInt64) (origin : String) : Block :=
  if count = 0 then b
  else { b with
    count := if b.count < count then count else b.count
    hit := true
    origins := if b.hit then b.origins else b.origins ++ [origin] }

/-- Whether a run with the given count hits the block for the first time. -/
def gains (b : Block) (count : UInt64) : Bool := decide (count ≠ 0) && !b.hit

/-- The block as it was declared. -/
def clear (b : Block) : Block := fresh b.id b.lines

end Block

/-- The functions of a program with their blocks. -/
structure Model where
  /-- Blocks by function. -/
  functions : OrderedMap FunctionId (List Block)
  /-- The functions by name. -/
  index : NameIndex
  /-- The index was made from these functions. -/
  indexed : index = .ofFunctions functions.keys
deriving DecidableEq

namespace Model

/-- The model of the given functions. -/
def ofMap (functions : OrderedMap FunctionId (List Block)) : Model :=
  ⟨functions, .ofFunctions functions.keys, rfl⟩

@[simp]
theorem functions_ofMap (functions : OrderedMap FunctionId (List Block)) :
    (ofMap functions).functions = functions := rfl

/-- The model without functions. -/
def empty : Model := ofMap .empty

instance : Inhabited Model := ⟨empty⟩

/-- A model of the given functions; the last entry of a function wins. -/
def ofList (l : List (FunctionId × List Block)) : Model := ofMap (.ofList l)

/-- The model with other blocks for the same functions, whose index stays. -/
def withBlocks (m : Model) (functions : OrderedMap FunctionId (List Block))
    (same : functions.keys = m.functions.keys) : Model :=
  ⟨functions, m.index, by rw [same, m.indexed]⟩

@[simp]
theorem functions_withBlocks (m : Model) (functions : OrderedMap FunctionId (List Block))
    (same : functions.keys = m.functions.keys) :
    (m.withBlocks functions same).functions = functions :=
  rfl

/-- How many functions there are. -/
def size (m : Model) : Nat := m.functions.size

/-- The blocks of a function. -/
def get? (m : Model) (f : FunctionId) : Option (List Block) := m.functions.get? f

/-- The blocks of a function, or the fault that it is not declared. -/
def blocks (m : Model) (f : FunctionId) : Except Fault (List Block) :=
  match m.get? f with
  | some blocks => .ok blocks
  | none => .error (.unknown f)

/-- Every block that has been hit, by function and number, as a set in order. -/
def hitBlocks (m : Model) : List (FunctionId × UInt32) :=
  m.functions.entries.flatMap (fun e =>
    (OrderedSet.toList (OrderedSet.ofList ((e.2.filter Block.hit).map Block.id))).map
      (fun id => (e.1, id)))

/-- Changes the blocks of a function and leaves all else. -/
def modify (m : Model) (f : FunctionId) (change : List Block → List Block) : Model :=
  m.withBlocks (m.functions.modify f change) (OrderedMap.keys_modify _ _ _)

/-- Forgets what runs have shown. -/
def reset (m : Model) : Model :=
  m.withBlocks (m.functions.mapValues (fun _ blocks => blocks.map Block.clear))
    (OrderedMap.keys_mapValues _ _)

end Model

end BlockCoverage
