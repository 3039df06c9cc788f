import BlockCoverage.Trace.Decode

/-!
# The layout of traces

The other direction: how a runtime writes what a run recorded.
-/

namespace BlockCoverage.Trace

open Text (Bytes)

/-- A name with its length in front. -/
def nameBytes (name : String) : Bytes :=
  let bytes := Text.Utf8.encode name
  Number.octets 4 bytes.length ++ bytes

/-- A function with its counters. -/
def functionBytes (name : String) (counters : List UInt64) : Bytes :=
  nameBytes name ++ Number.octets 4 counters.length ++
    counters.flatMap (fun c => Number.octets 8 c.toNat)

/-- A file record. `promised` functions beyond those that follow are announced, and the list is then
closed by a function name of length zero. -/
structure FileRecord where
  /-- The file. -/
  file : String
  /-- The functions with their counters. -/
  functions : List (String × List UInt64)
  /-- How many more functions are announced than follow. -/
  promised : Nat

/-- The octets of a file record. -/
def FileRecord.bytes (r : FileRecord) : Bytes :=
  nameBytes r.file ++ Number.octets 4 (r.functions.length + r.promised) ++
    r.functions.flatMap (fun f => functionBytes f.1 f.2) ++
    (if r.promised = 0 then [] else Number.octets 4 0)

/-- The entries that a file record stands for. -/
def FileRecord.entries (r : FileRecord) : List Entry :=
  r.functions.map (fun f => (⟨r.file, f.1⟩, f.2))

end BlockCoverage.Trace
