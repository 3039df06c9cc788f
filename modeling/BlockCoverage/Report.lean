import BlockCoverage.Listing
import BlockCoverage.Model.Lookup
import BlockCoverage.Model.Summary
import BlockCoverage.Session

/-!
# Reports

The texts that answer a user's questions. A report may fail half-way, for instance when source text
cannot be read; what was written before then stands.
-/

namespace BlockCoverage

/-- A text, and the complaint that cut it short if there is one. -/
structure Written where
  /-- What was written. -/
  text : String
  /-- Why no more was written. -/
  failure : Option Complaint := none
deriving DecidableEq, Repr

namespace Written

/-- A report that failed before its first letter. -/
def failed (c : Complaint) : Written := ⟨"", some c⟩

/-- A text in front of a report. -/
def after (text : String) (w : Written) : Written := ⟨text ++ w.text, w.failure⟩

end Written

namespace Report

/-- The share of blocks as a percentage. -/
def share (t : Tally) : String := Number.percent t.ratio ++ "%"

/-- One line of a summary. -/
def tallyLine (label : String) (t : Tally) : String :=
  label ++ ": " ++ Nat.repr t.covered ++ "/" ++ Nat.repr t.total ++ " blocks (" ++ share t ++ ")\n"

/-- The counts of a batch. -/
def batch (b : Batch) : Written :=
  ⟨"Runs: " ++ Nat.repr b.runs ++ ", Merged: " ++ Nat.repr b.merged ++ ", Untraced: " ++
      Nat.repr b.untraced ++ ", Merge failures: " ++ Nat.repr b.mergeFailures ++ "\n" ++
    "Crashes: " ++ Nat.repr b.crashes ++ ", Timeouts: " ++ Nat.repr b.timeouts ++
      ", New blocks: " ++ Nat.repr b.newBlocks ++ "\n", none⟩

/-- The tally of every function, and of all. -/
def summary (s : Summary) : Written :=
  ⟨String.join (s.functions.map (fun e => tallyLine e.1.describe e.2)) ++ tallyLine "Total" s.all,
    none⟩

/-- The blocks of a function: number, count and lines. -/
def blocks (m : Model) (f : FunctionId) : Written :=
  match m.get? f with
  | none => .failed ⟨"Unknown function " ++ f.describe, none⟩
  | some bs =>
    let place := fun (l : SourceLine) => l.file ++ ":" ++ Nat.repr l.line.toNat
    let line := fun (b : Block) =>
      "\t" ++ Nat.repr b.id.toNat ++ " : " ++ Nat.repr b.count.toNat ++ " : [" ++
        String.intercalate ", " (b.lines.map place) ++ "]\n"
    ⟨f.describe ++ " :\n" ++ String.join (bs.map line), none⟩

/-- The share of a function's blocks that is covered. -/
def ratio (m : Model) (f : FunctionId) : Written :=
  match m.coverageRatio f with
  | .error fault => .failed (.ofFault fault)
  | .ok r => ⟨f.describe ++ ": " ++ Number.percent r ++ "% of blocks covered\n", none⟩

/-- The source of a function, coloured by class. -/
def listing (m : Model) (fs : Files) (root : String) (f : FunctionId) : Written :=
  match m.classify f with
  | .error fault => .failed (.ofFault fault)
  | .ok classes =>
    match m.sourceRows fs root f with
    | .error fault => .failed (.ofFault fault)
    | .ok [] => ⟨"(no source lines declared for " ++ f.describe ++ ")\n", none⟩
    | .ok rows => ⟨Listing.render classes rows, none⟩

/-- The share of a function's blocks that is covered, and its source. -/
def function (m : Model) (fs : Files) (root : String) (f : FunctionId) : Written :=
  let head := ratio m f
  match head.failure with
  | some _ => head
  | none => (listing m fs root f).after head.text

/-- The runs that covered a line of a function. -/
def lineOrigins (m : Model) (f : FunctionId) (line : UInt32) : Written :=
  match m.originsOfLine f line with
  | [] => ⟨"No input covered line " ++ Nat.repr line.toNat ++ " of " ++ f.describe ++ "\n", none⟩
  | origins =>
    ⟨"Inputs covering line " ++ Nat.repr line.toNat ++ " of " ++ f.describe ++ ":\n" ++
      String.join (origins.map (fun o => "  " ++ o ++ "\n")), none⟩

/-- The functions with a block on a line of a file. -/
def functionsAt (m : Model) (file : String) (line : UInt32) : Written :=
  match m.functionsAt file line with
  | [] => ⟨"No function declares " ++ file ++ ":" ++ Nat.repr line.toNat ++ "\n", none⟩
  | functions =>
    ⟨"Functions declaring " ++ file ++ ":" ++ Nat.repr line.toNat ++ ":\n" ++
      String.join (functions.map (fun f => "  " ++ f.describe ++ "\n")), none⟩

end Report

end BlockCoverage
