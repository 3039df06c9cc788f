import BlockCoverage.Proofs.Trace.Endings
import Mathlib.Algebra.BigOperators.Group.List.Basic

/-!
# A profile request by request

The three nested loops of the decoder of a profile come to one: it asks for some octets, at least
one, and what it is given decides what it asks for next. `Request` is where it stands between two
readings, `Request.answer` is one turn of the loop, and `transcript` is the whole conversation with
octets in memory. It gathers the entries of the profile (`entries_transcript_eq_scan`), and since
every turn is paid for by the octets that it takes, it is over after at most as many readings as
there are octets (`length_answers_le`), whatever lengths and counts they announce.
-/

namespace BlockCoverage.Trace

open Text (Bytes)

/-- What the decoder of a profile asks for next, and what it has to keep in mind meanwhile. `left`
functions of the file record come behind the one that is being read. -/
inductive Request where
  /-- The length of a file name. -/
  | fileLength
  /-- A file name of one octet and so many more. -/
  | fileName (more : Nat)
  /-- The number of functions in a file record. -/
  | functionCount (file : String)
  /-- The length of a function name. -/
  | functionLength (file : String) (left : Nat)
  /-- A function name of one octet and so many more. -/
  | functionName (file : String) (left more : Nat)
  /-- The number of counters of a function. -/
  | counterCount (file : String) (left : Nat) (name : String)
  /-- A counter, behind those so far; `missing` counters come behind it. -/
  | counter (file : String) (left : Nat) (name : String) (sofar : List UInt64) (missing : Nat)
deriving DecidableEq, Repr

namespace Request

/-- How many octets are asked for. -/
def size : Request → Nat
  | fileLength | functionCount _ | functionLength _ _ | counterCount _ _ _ => 4
  | fileName more | functionName _ _ more => more + 1
  | counter _ _ _ _ _ => 8

theorem size_pos (r : Request) : 0 < r.size := by
  cases r <;> exact Nat.succ_pos _

/-- What is asked for when so many functions of a file record are left. -/
def forFunctions (file : String) : Nat → Request
  | 0 => fileLength
  | left + 1 => functionLength file left

/-- What comes next when so many counters are missing: the entry is complete, or one more is asked
for. -/
def forCounters (file : String) (left : Nat) (name : String) (sofar : List UInt64) :
    Nat → List Entry × Option Request
  | 0 => ([(⟨file, name⟩, sofar)], some (forFunctions file left))
  | missing + 1 => ([], some (counter file left name sofar missing))

/-- One turn of the decoder: the entries that are complete with these octets, and what it asks for
next, if they do not close the profile. -/
def answer : Request → Bytes → List Entry × Option Request
  | fileLength, octets =>
    match Number.ofOctets octets with
    | 0 => ([], none)
    | more + 1 => ([], some (fileName more))
  | fileName _, octets => ([], some (functionCount (Text.Utf8.decodeLossy octets)))
  | functionCount file, octets => ([], some (forFunctions file (Number.ofOctets octets)))
  | functionLength file left, octets =>
    match Number.ofOctets octets with
    | 0 => ([], some fileLength)
    | more + 1 => ([], some (functionName file left more))
  | functionName file left _, octets =>
    ([], some (counterCount file left (Text.Utf8.decodeLossy octets)))
  | counterCount file left name, octets => forCounters file left name [] (Number.ofOctets octets)
  | counter file left name sofar missing, octets =>
    forCounters file left name (sofar ++ [UInt64.ofNat (Number.ofOctets octets)]) missing

end Request

/-- The conversation of the decoder with octets in memory, from a request on: what its readings are
given, the last of them maybe less than it asks for, and the entries that it gathers. A reading that
finds no octets left is given nothing and is not among them. -/
def transcript (r : Request) (b : Bytes) : List Bytes × List Entry :=
  match _h : cut r.size b with
  | none => (if b = [] then [] else [b], [])
  | some (octets, rest) =>
    match r.answer octets with
    | (entries, none) => ([octets], entries)
    | (entries, some next) =>
      let more := transcript next rest
      (octets :: more.1, entries ++ more.2)
termination_by b.length
decreasing_by
  have hcut := length_cut _h
  have hpos := r.size_pos
  simp only at hcut
  omega

/-! ## Every reading is paid for -/

theorem cut_eq_some {n : Nat} {b octets rest : Bytes} (h : cut n b = some (octets, rest)) :
    octets.length = n ∧ octets ++ rest = b := by
  rw [cut] at h
  split at h
  · obtain ⟨rfl, rfl⟩ := Prod.mk.inj (Option.some.inj h)
    exact ⟨by rw [List.length_take]; omega, List.take_append_drop n b⟩
  · cases h

/-- No octet is given twice, and none is passed over. -/
theorem flatten_answers_isPrefix (r : Request) (b : Bytes) : (transcript r b).1.flatten <+: b := by
  fun_induction transcript r b with
  | case1 r b hcut =>
    split
    · exact List.nil_prefix
    · have hall : [b].flatten = b := List.flatten_singleton
      exact ⟨[], (List.append_nil _).trans hall⟩
  | case2 r b octets rest hcut entries hanswer =>
    rw [List.flatten_singleton, ← (cut_eq_some hcut).2]
    exact List.prefix_append _ _
  | case3 r b octets rest hcut entries next hanswer more ih =>
    rw [List.flatten_cons, ← (cut_eq_some hcut).2]
    exact (List.prefix_append_right_inj octets).mpr ih

theorem ne_nil_of_mem_answers {r : Request} {b octets : Bytes} (h : octets ∈ (transcript r b).1) :
    octets ≠ [] := by
  have hcut_ne {r : Request} {b octets rest : Bytes} (hcut : cut r.size b = some (octets, rest)) :
      octets ≠ [] := by
    rw [← List.length_pos_iff, (cut_eq_some hcut).1]
    exact r.size_pos
  fun_induction transcript r b with
  | case1 r b hcut =>
    split at h
    · cases h
    · rename_i hb
      exact List.mem_singleton.mp h ▸ hb
  | case2 r b octets' rest hcut entries hanswer => exact List.mem_singleton.mp h ▸ hcut_ne hcut
  | case3 r b octets' rest hcut entries next hanswer more ih =>
    rcases List.mem_cons.mp h with rfl | h
    · exact hcut_ne hcut
    · exact ih h

theorem length_answers_le (r : Request) (b : Bytes) : (transcript r b).1.length ≤ b.length := by
  have hone : ∀ n ∈ (transcript r b).1.map List.length, 1 ≤ n := fun n hn => by
    obtain ⟨octets, hoctets, rfl⟩ := List.mem_map.mp hn
    exact List.length_pos_iff.mpr (ne_nil_of_mem_answers hoctets)
  calc (transcript r b).1.length
      = ((transcript r b).1.map List.length).length := by rw [List.length_map]
    _ ≤ ((transcript r b).1.map List.length).sum := List.length_le_sum_of_one_le _ hone
    _ = (transcript r b).1.flatten.length := List.length_flatten.symm
    _ ≤ b.length := (flatten_answers_isPrefix r b).length_le

/-! ## What the conversation gathers -/

/-- The entries that come of a turn, on the octets behind it. -/
def gathered (turn : List Entry × Option Request) (b : Bytes) : List Entry :=
  turn.1 ++ turn.2.elim [] fun next => (transcript next b).2

theorem gathered_none (next : Request) (b : Bytes) :
    gathered ([], some next) b = (transcript next b).2 := rfl

theorem entries_transcript (r : Request) (b : Bytes) :
    (transcript r b).2 =
      (cut r.size b).elim [] fun given => gathered (r.answer given.1) given.2 := by
  rw [transcript]
  split
  · rename_i h
    rw [h]
    rfl
  · rename_i octets rest h
    rw [h]
    split <;> rename_i hanswer <;> simp [gathered, hanswer]

/-- Counters are read one by one as they are in one go; an entry that lacks some is dropped. -/
theorem gathered_forCounters (file : String) (left : Nat) (name : String) (sofar : List UInt64)
    (n : Nat) (b : Bytes) :
    gathered (Request.forCounters file left name sofar n) b =
      (counters? n b).elim [] fun r =>
        (⟨file, name⟩, sofar ++ r.1) :: (transcript (Request.forFunctions file left) r.2).2 := by
  induction n generalizing sofar b with
  | zero => simp [gathered, Request.forCounters, counters?]
  | succ n ih =>
    rw [Request.forCounters, gathered_none, entries_transcript, counters?, number?]
    simp only [Request.size, Request.answer, ih]
    cases cut 8 b with
    | none => rfl
    | some given => cases h : counters? n given.2 <;> simp [h]

/-- A function is read in up to four turns and more, as it is in one go. -/
theorem entries_transcript_functionLength (file : String) (left : Nat) (b : Bytes) :
    (transcript (.functionLength file left) b).2 =
      match function? b with
      | none => []
      | some (none, rest) => (transcript .fileLength rest).2
      | some (some f, rest) =>
        (⟨file, f.1⟩, f.2) :: (transcript (Request.forFunctions file left) rest).2 := by
  rw [entries_transcript, function?, number?]
  simp only [Request.size, Request.answer]
  cases cut 4 b with
  | none => rfl
  | some length =>
  simp only [Option.elim_some, Option.map_some, Option.bind_some]
  cases hlength : Number.ofOctets length.1 with
  | zero => rfl
  | succ more =>
  simp only [Nat.succ_ne_zero, ↓reduceIte]
  rw [gathered_none, entries_transcript, name?]
  simp only [Request.size, Request.answer]
  cases cut (more + 1) length.2 with
  | none => rfl
  | some name =>
  simp only [Option.elim_some, Option.map_some, Option.bind_some]
  rw [gathered_none, entries_transcript, number?]
  simp only [Request.size, Request.answer]
  cases cut 4 name.2 with
  | none => rfl
  | some count =>
  simp only [Option.elim_some, Option.map_some, Option.bind_some, gathered_forCounters]
  cases counters? (Number.ofOctets count.1) count.2 <;> simp

/-- The functions of a file record are read as they are in one go, and then comes the next
record. -/
theorem entries_transcript_forFunctions (file : String) (n : Nat) (b : Bytes) :
    (transcript (Request.forFunctions file n) b).2 =
      (functions file n b).1 ++
        (functions file n b).2.elim [] fun rest => (transcript .fileLength rest).2 := by
  induction n generalizing b with
  | zero => rfl
  | succ n ih =>
    rw [functions, Request.forFunctions, entries_transcript_functionLength]
    cases function? b with
    | none => rfl
    | some f =>
      obtain ⟨f, rest⟩ := f
      cases f with
      | none => rfl
      | some f =>
        simp only [ih]
        rfl

/-- The header of a file record is read in three turns as it is in one go. -/
theorem entries_transcript_fileLength (b : Bytes) :
    (transcript .fileLength b).2 =
      match header? b with
      | none | some (none, _) => []
      | some (some record, rest) =>
        (transcript (Request.forFunctions record.1 record.2) rest).2 := by
  rw [entries_transcript, header?, number?]
  simp only [Request.size, Request.answer]
  cases cut 4 b with
  | none => rfl
  | some length =>
  simp only [Option.elim_some, Option.map_some, Option.bind_some]
  cases hlength : Number.ofOctets length.1 with
  | zero =>
    rw [name?_zero]
    rfl
  | succ more =>
  simp only [gathered_none]
  rw [entries_transcript]
  simp only [Request.size, Request.answer]
  cases hfile : cut (more + 1) length.2 with
  | none =>
    rw [name?, hfile]
    rfl
  | some name =>
  -- a name of some octets is not the empty one
  have hnonempty : Text.Utf8.decodeLossy name.1 ≠ "" := fun hempty => by
    have hlen := (cut_eq_some hfile).1
    rw [Text.Utf8.decodeLossy_eq_empty_iff.mp hempty] at hlen
    cases hlen
  rw [name?, hfile]
  simp only [Option.elim_some, Option.map_some, Option.bind_some, if_neg hnonempty]
  rw [gathered_none, entries_transcript, number?]
  simp only [Request.size, Request.answer]
  cases cut 4 name.2 <;> rfl

/-- Request by request the decoder gathers the entries that it scans for in nested loops. -/
theorem entries_transcript_eq_scan (b : Bytes) : (transcript .fileLength b).2 = (scan b).1 := by
  induction hn : b.length using Nat.strongRecOn generalizing b with
  | _ n ih =>
  subst hn
  rw [scan_eq, entries_transcript_fileLength]
  cases hheader : header? b with
  | none => rfl
  | some header =>
  obtain ⟨record, rest⟩ := header
  cases record with
  | none => rfl
  | some record =>
  simp only [entries_transcript_forFunctions]
  have hheaderOctets := length_header? hheader
  simp only at hheaderOctets
  cases hrecord : functions record.1 record.2 rest with
  | mk entries after =>
  cases after with
  | none => exact List.append_nil entries
  | some rest' =>
    have hrecordOctets := length_functions (congrArg Prod.snd hrecord)
    exact congrArg (entries ++ ·) (ih rest'.length (by omega) rest' rfl)

end BlockCoverage.Trace
