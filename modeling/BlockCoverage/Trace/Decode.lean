import BlockCoverage.Fault
import BlockCoverage.Files.Tree
import BlockCoverage.Number.Octets
import BlockCoverage.Trace.Mode
import BlockCoverage.Trace.Record
import BlockCoverage.Trace.Stream

/-!
# Decoding traces

A trace is written by a target that may be killed at any moment, so the end of the stream in the
middle of a value is a clean stop and what came before it counts. Lengths in the stream are honoured
exactly, whatever they promise.

A trace in trace mode is a sequence of words. One in profile mode is a sequence of file records: the
file's name, the number of functions, and for each function its name and counters. A function name
of length zero closes a file record early, a file name of length zero closes the stream. Names are
read leniently. What a profile stream says is first gathered as a list of entries in stream order,
`profileEntries`; the profile keeps the last entry of each function.
-/

namespace BlockCoverage

open Text (Bytes)

namespace Trace

/-- Reads a number of `n` octets; `none` at the end of the stream. -/
def readNumber (n : Nat) (s : Stream) : Except IoCause (Option Nat × Stream) :=
  match s.take n with
  | .error cause => .error cause
  | .ok (none, t) => .ok (none, t)
  | .ok (some bytes, t) => .ok (some (Number.ofOctets bytes), t)

theorem length_readNumber {n v : Nat} {s t : Stream} (h : readNumber n s = .ok (some v, t)) :
    t.content.length + n = s.content.length := by
  unfold readNumber at h
  split at h
  · simp at h
  · simp at h
  · rename_i ht
    simp only [Except.ok.injEq, Prod.mk.injEq] at h
    rw [← h.2]
    exact (Stream.length_take ht).2

/-- Reads the words of a trace. -/
def words (s : Stream) : Except IoCause (List UInt32) :=
  match _h : readNumber 4 s with
  | .error cause => .error cause
  | .ok (none, _) => .ok []
  | .ok (some v, t) =>
    match words t with
    | .error cause => .error cause
    | .ok rest => .ok (UInt32.ofNat v :: rest)
termination_by s.content.length
decreasing_by
  have := length_readNumber _h
  omega

/-- Reads a name of `n` octets. -/
def readName (n : Nat) (s : Stream) : Except IoCause (Option String × Stream) :=
  match s.take n with
  | .error cause => .error cause
  | .ok (none, t) => .ok (none, t)
  | .ok (some bytes, t) => .ok (some (Text.Utf8.decodeLossy bytes), t)

/-- Reads `n` counters; `none` if the stream ends before the last one. -/
def readCounters : Nat → Stream → Except IoCause (Option (List UInt64) × Stream)
  | 0, s => .ok (some [], s)
  | n + 1, s =>
    match readNumber 8 s with
    | .error cause => .error cause
    | .ok (none, t) => .ok (none, t)
    | .ok (some v, t) =>
      match readCounters n t with
      | .error cause => .error cause
      | .ok (none, u) => .ok (none, u)
      | .ok (some rest, u) => .ok (some (UInt64.ofNat v :: rest), u)

/-- An entry of a profile stream. -/
abbrev Entry := FunctionId × List UInt64

/-- Whether a stream may go on after a file record. -/
inductive After where
  /-- The record is complete. -/
  | more (rest : Stream)
  /-- The stream ended inside the record. -/
  | stop

/-- Reads up to `n` functions of a file record: the entries it holds, and how it ends. -/
def readFunctions (file : String) : Nat → Stream → Except IoCause (List Entry × After)
  | 0, s => .ok ([], .more s)
  | n + 1, s =>
    match readNumber 4 s with
    | .error cause => .error cause
    | .ok (none, _) => .ok ([], .stop)
    | .ok (some length, t) =>
      if length = 0 then .ok ([], .more t)
      else match readName length t with
        | .error cause => .error cause
        | .ok (none, _) => .ok ([], .stop)
        | .ok (some name, t) =>
          match readNumber 4 t with
          | .error cause => .error cause
          | .ok (none, _) => .ok ([], .stop)
          | .ok (some count, t) =>
            match readCounters count t with
            | .error cause => .error cause
            | .ok (none, _) => .ok ([], .stop)
            | .ok (some counters, t) =>
              match readFunctions file n t with
              | .error cause => .error cause
              | .ok (entries, after) => .ok ((⟨file, name⟩, counters) :: entries, after)

theorem length_take_le {s t : Stream} {n : Nat} {o : Option Bytes} (h : s.take n = .ok (o, t)) :
    o.isSome → t.content.length ≤ s.content.length := by
  intro ho
  obtain ⟨bytes, rfl⟩ := Option.isSome_iff_exists.mp ho
  have := (Stream.length_take h).2
  omega

theorem length_readName_le {s t : Stream} {n : Nat} {name : String}
    (h : readName n s = .ok (some name, t)) : t.content.length ≤ s.content.length := by
  unfold readName at h
  split at h
  · simp at h
  · simp at h
  · rename_i ht
    simp only [Except.ok.injEq, Prod.mk.injEq] at h
    rw [← h.2]
    exact length_take_le ht rfl

theorem length_readCounters_le {n : Nat} {s t : Stream} {counters : List UInt64}
    (h : readCounters n s = .ok (some counters, t)) : t.content.length ≤ s.content.length := by
  induction n generalizing s t counters with
  | zero =>
    simp only [readCounters, Except.ok.injEq, Prod.mk.injEq] at h
    simp [← h.2]
  | succ n ih =>
    rw [readCounters] at h
    split at h
    · simp at h
    · simp at h
    · rename_i hn
      have h1 := length_readNumber hn
      split at h
      · simp at h
      · simp at h
      · rename_i hr
        simp only [Except.ok.injEq, Prod.mk.injEq] at h
        have h2 := ih hr
        rw [← h.2]
        omega

theorem length_readFunctions_le {file : String} {n : Nat} {s t : Stream} {entries : List Entry}
    (h : readFunctions file n s = .ok (entries, .more t)) :
    t.content.length ≤ s.content.length := by
  induction n generalizing s entries with
  | zero =>
    simp only [readFunctions, Except.ok.injEq, Prod.mk.injEq, After.more.injEq] at h
    simp [← h.2]
  | succ n ih =>
    rw [readFunctions] at h
    split at h
    · simp at h
    · simp at h
    · rename_i hn
      have h1 := length_readNumber hn
      split at h
      · simp only [Except.ok.injEq, Prod.mk.injEq, After.more.injEq] at h
        rw [← h.2]
        omega
      · split at h
        · simp at h
        · simp at h
        · rename_i hname
          have h2 := length_readName_le hname
          split at h
          · simp at h
          · simp at h
          · rename_i hcount
            have h3 := length_readNumber hcount
            split at h
            · simp at h
            · simp at h
            · rename_i hcounters
              have h4 := length_readCounters_le hcounters
              split at h
              · simp at h
              · rename_i hrest
                simp only [Except.ok.injEq, Prod.mk.injEq] at h
                rw [h.2] at hrest
                have h5 := ih hrest
                omega

/-- The entries of a profile stream, in stream order. -/
def profileEntries (s : Stream) : Except IoCause (List Entry) :=
  match _h1 : readNumber 4 s with
  | .error cause => .error cause
  | .ok (none, _) => .ok []
  | .ok (some length, t) =>
    match _h2 : readName length t with
    | .error cause => .error cause
    | .ok (none, _) => .ok []
    | .ok (some file, u) =>
      if file = "" then .ok []
      else
        match _h3 : readNumber 4 u with
        | .error cause => .error cause
        | .ok (none, _) => .ok []
        | .ok (some count, v) =>
          match _h4 : readFunctions file count v with
          | .error cause => .error cause
          | .ok (entries, .stop) => .ok entries
          | .ok (entries, .more w) =>
            match profileEntries w with
            | .error cause => .error cause
            | .ok rest => .ok (entries ++ rest)
termination_by s.content.length
decreasing_by
  have h1 := length_readNumber _h1
  have h2 := length_readName_le _h2
  have h3 := length_readNumber _h3
  have h4 := length_readFunctions_le _h4
  omega

/-- Decodes a stream; a failing stream is named by its cause. -/
def decodeStream (mode : Mode) (s : Stream) : Except IoCause Record :=
  match mode with
  | .trace => (words s).map .trace
  | .profile => (profileEntries s).map (fun entries => .profile (OrderedMap.ofList entries))

/-- Decodes a stream that has no name. -/
def decode (mode : Mode) (s : Stream) : Except Fault Record :=
  (decodeStream mode s).mapError (.io "<trace stream>")

/-- Decodes a trace file. -/
def decodeFile (mode : Mode) (fs : Files) (path : String) : Except Fault Record :=
  match fs.read path with
  | .error cause => .error (.io path cause)
  | .ok bytes => (decode mode (.buffered bytes)).mapError (.inFile path)

end Trace

end BlockCoverage
