import BlockCoverage.Proofs.Ordered.Lookup
import BlockCoverage.Proofs.Text.Utf8
import BlockCoverage.Proofs.Trace.Delivery
import BlockCoverage.Trace.Layout

/-!
# A profile is read back as it was written

File records that keep to the widths of the layout are read back one by one: each reader takes
exactly the octets that were written for it and leaves the rest. A record that announces more
functions than follow is closed by a function name of length zero, and the whole may be closed by a
file name of length zero with anything after it. Both kinds of closing are exact too, so nothing
after a record is ever read as part of it (`functions_bytes`, `scan_bytes`).
-/

namespace BlockCoverage.Trace

open Text (Bytes)

/-- A name that the layout can hold: names of length zero are closings. -/
structure NameFits (name : String) : Prop where
  nonempty : name ≠ ""
  length : (Text.Utf8.encode name).length < 2 ^ 32

/-- A file record that the layout can hold. -/
structure FileRecord.WellFormed (r : FileRecord) : Prop where
  file : NameFits r.file
  names : ∀ f ∈ r.functions, NameFits f.1
  counters : ∀ f ∈ r.functions, f.2.length < 2 ^ 32
  announced : r.functions.length + r.promised < 2 ^ 32

instance (name : String) : Decidable (NameFits name) :=
  decidable_of_iff (name ≠ "" ∧ (Text.Utf8.encode name).length < 2 ^ 32)
    ⟨fun h => ⟨h.1, h.2⟩, fun h => ⟨h.nonempty, h.length⟩⟩

instance (r : FileRecord) : Decidable r.WellFormed :=
  decidable_of_iff
    (NameFits r.file ∧ (∀ f ∈ r.functions, NameFits f.1) ∧
      (∀ f ∈ r.functions, f.2.length < 2 ^ 32) ∧ r.functions.length + r.promised < 2 ^ 32)
    ⟨fun h => ⟨h.1, h.2.1, h.2.2.1, h.2.2.2⟩,
      fun h => ⟨h.file, h.names, h.counters, h.announced⟩⟩

/-- What may follow the last file record: nothing, or a file name of length zero and then anything.
-/
def closing : Option Bytes → Bytes
  | none => []
  | some junk => Number.octets 4 0 ++ junk

/-! ## One value -/

theorem cut_append {n : Nat} {a : Bytes} (h : a.length = n) (rest : Bytes) :
    cut n (a ++ rest) = some (a, rest) := by
  rw [cut, if_pos (by rw [List.length_append]; omega), List.take_left' h, List.drop_left' h]

theorem number?_octets {n v : Nat} (h : v < Nat.pow 256 n) (rest : Bytes) :
    number? n (Number.octets n v ++ rest) = some (v, rest) := by
  rw [number?, cut_append (Number.length_octets n v), Option.map_some, Number.ofOctets_octets h]

/-- A length of the layout takes four octets. -/
theorem number?_length {v : Nat} (h : v < 2 ^ 32) (rest : Bytes) :
    number? 4 (Number.octets 4 v ++ rest) = some (v, rest) :=
  number?_octets h rest

theorem name?_encode (name : String) (rest : Bytes) :
    name? (Text.Utf8.encode name).length (Text.Utf8.encode name ++ rest) = some (name, rest) := by
  rw [name?, cut_append rfl, Option.map_some, Text.Utf8.decodeLossy_encode]

theorem name?_zero (rest : Bytes) : name? 0 rest = some ("", rest) := by
  rw [name?, cut, if_pos (Nat.zero_le _), Option.map_some, List.take_zero, Text.Utf8.decodeLossy,
    Text.Utf8.parts]
  rfl

theorem counters?_octets (counters : List UInt64) (rest : Bytes) :
    counters? counters.length (counters.flatMap (fun c => Number.octets 8 c.toNat) ++ rest) =
      some (counters, rest) := by
  induction counters with
  | nil => rfl
  | cons c counters ih =>
    rw [List.flatMap_cons, List.append_assoc, List.length_cons, counters?,
      number?_octets c.toNat_lt, Option.bind_some, ih, Option.map_some, UInt64.ofNat_toNat]

/-- The length of a name of the layout is not that of a closing. -/
theorem NameFits.length_ne_zero {name : String} (h : NameFits name) :
    (Text.Utf8.encode name).length ≠ 0 := by
  intro hlen
  have hread := name?_encode name []
  rw [hlen, name?_zero, Option.some.injEq, Prod.mk.injEq] at hread
  exact h.nonempty hread.1.symm

/-! ## Functions of a file record -/

theorem function?_bytes {name : String} {counters : List UInt64} (hname : NameFits name)
    (hcounters : counters.length < 2 ^ 32) (rest : Bytes) :
    function? (functionBytes name counters ++ rest) = some (some (name, counters), rest) := by
  rw [function?, functionBytes, nameBytes]
  simp only [List.append_assoc]
  rw [number?_length hname.length, Option.bind_some, if_neg hname.length_ne_zero, name?_encode,
    Option.bind_some, number?_length hcounters, Option.bind_some, counters?_octets]
  rfl

theorem function?_zero (rest : Bytes) :
    function? (Number.octets 4 0 ++ rest) = some (none, rest) := by
  rw [function?, number?_length (by decide)]
  rfl

/-- The functions of a record are read in order, and what is announced beyond them is read from what
follows. -/
theorem functions_bytes (file : String) {fs : List (String × List UInt64)}
    (hnames : ∀ f ∈ fs, NameFits f.1) (hcounters : ∀ f ∈ fs, f.2.length < 2 ^ 32) (n : Nat)
    (rest : Bytes) :
    functions file (fs.length + n) (fs.flatMap (fun f => functionBytes f.1 f.2) ++ rest) =
      (fs.map (fun f => (⟨file, f.1⟩, f.2)) ++ (functions file n rest).1,
        (functions file n rest).2) := by
  induction fs with
  | nil => rw [List.length_nil, Nat.zero_add]; rfl
  | cons f fs ih =>
    have hf : f ∈ f :: fs := List.mem_cons_self
    have ih := ih (fun g hg => hnames g (List.mem_cons_of_mem f hg))
      (fun g hg => hcounters g (List.mem_cons_of_mem f hg))
    rw [List.length_cons, Nat.add_right_comm, List.flatMap_cons, List.append_assoc, functions,
      function?_bytes (hnames f hf) (hcounters f hf)]
    simp only [ih, List.map_cons, List.cons_append]

/-- The closing of a record that announced more functions than it holds ends it at once. -/
theorem functions_closing (file : String) (promised : Nat) (rest : Bytes) :
    functions file promised ((if promised = 0 then [] else Number.octets 4 0) ++ rest) =
      ([], some rest) := by
  cases promised with
  | zero => rfl
  | succ n => rw [if_neg (Nat.succ_ne_zero n), functions, function?_zero]

/-! ## File records -/

theorem header?_bytes {file : String} {count : Nat} (hfile : NameFits file)
    (hcount : count < 2 ^ 32) (rest : Bytes) :
    header? (nameBytes file ++ Number.octets 4 count ++ rest) =
      some (some (file, count), rest) := by
  rw [header?, nameBytes]
  simp only [List.append_assoc]
  rw [number?_length hfile.length, Option.bind_some, name?_encode, Option.bind_some,
    if_neg hfile.nonempty, number?_length hcount]
  rfl

theorem scan_record {r : FileRecord} (hr : r.WellFormed) (rest : Bytes) :
    scan (r.bytes ++ rest) = (r.entries ++ (scan rest).1, (scan rest).2) := by
  rw [scan_eq, FileRecord.bytes]
  simp only [List.append_assoc]
  rw [← List.append_assoc (nameBytes r.file), header?_bytes hr.file hr.announced]
  simp only [functions_bytes r.file hr.names hr.counters, functions_closing, List.append_nil]
  rfl

theorem header?_zero (rest : Bytes) : header? (Number.octets 4 0 ++ rest) = some (none, rest) := by
  rw [header?, number?_length (by decide), Option.bind_some]
  simp only
  rw [name?_zero, Option.bind_some, if_pos rfl]

theorem scan_closing (after : Option Bytes) : scan (closing after) = ([], after.isSome) := by
  rw [scan_eq]
  cases after with
  | none => rfl
  | some junk =>
    rw [closing, header?_zero]
    rfl

/-- The file records of a profile are read in order, up to the closing. -/
theorem scan_bytes {records : List FileRecord} (h : ∀ r ∈ records, r.WellFormed)
    (after : Option Bytes) :
    scan (records.flatMap FileRecord.bytes ++ closing after) =
      (records.flatMap FileRecord.entries, after.isSome) := by
  induction records with
  | nil => exact scan_closing after
  | cons r records ih =>
    rw [List.flatMap_cons, List.append_assoc, scan_record (h r List.mem_cons_self),
      ih (fun s hs => h s (List.mem_cons_of_mem r hs))]
    rfl

/-- Decoding undoes the layout, however the octets come in: the profile holds each function of the
file records once, in order, with the counters that the records give last. -/
theorem decode_bytes {records : List FileRecord} (hr : ∀ r ∈ records, r.WellFormed)
    (after : Option Bytes) {s : Stream}
    (hs : s.content = records.flatMap FileRecord.bytes ++ closing after) (hf : s.failure = none) :
    ∃ profile : Profile,
      decode .profile s = .ok (.profile profile) ∧
      profile = OrderedMap.ofList (records.flatMap FileRecord.entries) ∧
      profile.keys.Pairwise (fun f g => compare f g = .lt) ∧
      ∀ f counters, (f, counters) ∈ profile.entries ↔
        ∃ earlier later, records.flatMap FileRecord.entries = earlier ++ (f, counters) :: later ∧
          ∀ e ∈ later, e.1 ≠ f := by
  refine ⟨_, ?_, rfl, OrderedMap.ordered_keys _, fun f counters => ?_⟩
  · rw [decode, decodeStream, profileEntries_eq hf, hs, scan_bytes hr]
    rfl
  · rw [← OrderedMap.get?_eq_some_iff, OrderedMap.get?_ofList_eq_some_iff]

/-- One file twice, the second time with more functions announced than follow, and a function of the
first record given again. -/
theorem decode_bytes_repeated :
    let f : FileRecord := ⟨"a.c", [("main", [1, 0]), ("idle", [])], 0⟩
    let g : FileRecord := ⟨"a.c", [("main", [18446744073709551615])], 3⟩
    (∀ r ∈ [f, g], r.WellFormed) ∧
      ∃ profile : Profile,
        decode .profile (.ofBytes ([f, g].flatMap FileRecord.bytes ++ closing (some [7]))) =
          .ok (.profile profile) ∧
        profile.get? ⟨"a.c", "main"⟩ = some [18446744073709551615] := by
  intro f g
  have hr : ∀ r ∈ [f, g], r.WellFormed := by decide
  obtain ⟨profile, hdecode, hprofile, -, -⟩ :=
    decode_bytes hr (some [7]) (content_ofBytes _) (failure_ofBytes _)
  exact ⟨hr, profile, hdecode, by rw [hprofile]; decide⟩

end BlockCoverage.Trace
