import BlockCoverage.Files.Cause
import BlockCoverage.FunctionId
import BlockCoverage.Json.Fault

/-!
# Faults

What can go wrong when coverage is loaded, merged or looked up. The wording of every fault is in one
place, `Fault.message`.
-/

namespace BlockCoverage

/-- Why coverage could not be loaded, merged or looked up. -/
inductive Fault where
  /-- The static map is not a document of the right shape. -/
  | malformedMap (fault : Json.Fault)
  /-- A snapshot is not a document of the right shape. -/
  | malformedSnapshot (fault : Json.Fault)
  /-- No function is declared under the name and file. -/
  | unknownFunction (name file : String)
  /-- A name stands for several functions. -/
  | ambiguousFunction (name : String) (candidates : List FunctionId)
  /-- A visited block lies outside the declared ones. -/
  | unknownBlock (function : FunctionId) (id : UInt32) (blocks : Nat)
  /-- A run counted more or fewer blocks than are declared. -/
  | countMismatch (function : FunctionId) (declared counted : Nat)
  /-- A declared block does not carry the number of its position. -/
  | idMismatch (function : FunctionId) (position : Nat) (id : UInt32)
  /-- Visited blocks cannot be assigned to one function. -/
  | ambiguousContext (functions : Nat)
  /-- A file could not be read or written. -/
  | io (path : String) (cause : IoCause)
deriving DecidableEq, Repr

namespace Fault

/-- The text of a fault. -/
def message : Fault → String
  | malformedMap fault => "Malformed static map: " ++ fault.message
  | malformedSnapshot fault => "Malformed snapshot: " ++ fault.message
  | unknownFunction name file =>
    "Function '" ++ name ++ "' (file: " ++ file ++ ") not found in coverage model"
  | ambiguousFunction name candidates =>
    "Function name '" ++ name ++ "' is ambiguous, candidates: [" ++
      String.intercalate ", " (candidates.map FunctionId.candidateText) ++ "]"
  | unknownBlock function id blocks =>
    "Block id " ++ Nat.repr id.toNat ++ " not declared for " ++ function.describe ++ " (" ++
      Nat.repr blocks ++ " blocks)"
  | countMismatch function declared counted =>
    "Block count mismatch for " ++ function.describe ++ ": trace has " ++ Nat.repr counted ++
      ", static map declares " ++ Nat.repr declared
  | idMismatch function position id =>
    "Coverage index mismatch for " ++ function.describe ++ " at index " ++ Nat.repr position ++
      ": block id is " ++ Nat.repr id.toNat
  | ambiguousContext functions =>
    "Trace-mode merge needs a single-function model, found " ++ Nat.repr functions ++ " functions"
  | io path cause => "I/O error on " ++ Text.quote path ++ ": " ++ cause.message

/-- A fault that was met in reading the file at `path`, where what failed to be read goes by the
name of the file. -/
def inFile (path : String) : Fault → Fault
  | io _ cause => .io path cause
  | fault => fault

/-- The fault for a function that is not declared. -/
def unknown (f : FunctionId) : Fault := .unknownFunction f.name f.file

end Fault

/-- A failure as it is shown to a user: what failed, and what caused it if that is known apart. -/
structure Complaint where
  /-- What failed. -/
  headline : String
  /-- The underlying cause. -/
  cause : Option String := none
deriving DecidableEq, Repr

namespace Complaint

/-- A fault as a complaint; a failed file operation names its cause apart. -/
def ofFault (f : Fault) : Complaint :=
  match f with
  | .io _ cause => ⟨f.message, some cause.message⟩
  | _ => ⟨f.message, none⟩

/-- Headline and cause on one line. -/
def line (c : Complaint) : String :=
  match c.cause with
  | none => c.headline
  | some cause => c.headline ++ ": " ++ cause

end Complaint

end BlockCoverage
