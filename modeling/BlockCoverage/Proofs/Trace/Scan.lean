import BlockCoverage.Trace.Decode

/-!
# Traces as octets

The layout of a trace, read from octets instead of a stream. A reader of octets gives `none` when it
runs out, else what it read and the octets after it. `scan` reads the entries of a profile and
`wordsOf` the words of a trace; `scan_eq` and `wordsOf_eq` take them apart record by record and word
by word. Laws of the layout are proved about these; that decoding a stream comes to the same is the
business of deliveries.
-/

namespace BlockCoverage.Trace

open Text (Bytes)

/-! ## Readers of octets -/

/-- The first `n` octets and those after them. -/
def cut (n : Nat) (b : Bytes) : Option (Bytes × Bytes) :=
  if n ≤ b.length then some (b.take n, b.drop n) else none

/-- A number of `n` octets. -/
def number? (n : Nat) (b : Bytes) : Option (Nat × Bytes) :=
  (cut n b).map fun r => (Number.ofOctets r.1, r.2)

/-- A name of `n` octets. -/
def name? (n : Nat) (b : Bytes) : Option (String × Bytes) :=
  (cut n b).map fun r => (Text.Utf8.decodeLossy r.1, r.2)

/-- `n` counters. -/
def counters? : Nat → Bytes → Option (List UInt64 × Bytes)
  | 0, b => some ([], b)
  | n + 1, b =>
    (number? 8 b).bind fun v =>
      (counters? n v.2).map fun r => (UInt64.ofNat v.1 :: r.1, r.2)

/-- A function with its counters; nothing for the length zero that closes a file record. -/
def function? (b : Bytes) : Option (Option (String × List UInt64) × Bytes) :=
  (number? 4 b).bind fun length =>
    if length.1 = 0 then some (none, length.2)
    else
      (name? length.1 length.2).bind fun name =>
        (number? 4 name.2).bind fun count =>
          (counters? count.1 count.2).map fun r => (some (name.1, r.1), r.2)

/-- Up to `n` functions of a file record, and the octets after the record if it is complete. -/
def functions (file : String) : Nat → Bytes → List Entry × Option Bytes
  | 0, b => ([], some b)
  | n + 1, b =>
    match function? b with
    | none => ([], none)
    | some (none, rest) => ([], some rest)
    | some (some f, rest) =>
      let more := functions file n rest
      ((⟨file, f.1⟩, f.2) :: more.1, more.2)

/-- The file of a file record and its number of functions; nothing for the name that closes the
stream. -/
def header? (b : Bytes) : Option (Option (String × Nat) × Bytes) :=
  (number? 4 b).bind fun length =>
    (name? length.1 length.2).bind fun file =>
      if file.1 = "" then some (none, file.2)
      else (number? 4 file.2).map fun count => (some (file.1, count.1), count.2)

/-! ## Every reader consumes -/

theorem length_cut {n : Nat} {b : Bytes} {r : Bytes × Bytes} (h : cut n b = some r) :
    r.2.length + n = b.length := by
  rw [cut] at h
  split at h
  · simp only [Option.some.injEq] at h
    rw [← h, List.length_drop]
    omega
  · simp at h

theorem length_number? {n : Nat} {b : Bytes} {r : Nat × Bytes} (h : number? n b = some r) :
    r.2.length + n = b.length := by
  obtain ⟨c, hc, rfl⟩ := Option.map_eq_some_iff.mp h
  exact length_cut hc

theorem length_name? {n : Nat} {b : Bytes} {r : String × Bytes} (h : name? n b = some r) :
    r.2.length + n = b.length := by
  obtain ⟨c, hc, rfl⟩ := Option.map_eq_some_iff.mp h
  exact length_cut hc

theorem length_counters? {n : Nat} {b : Bytes} {r : List UInt64 × Bytes}
    (h : counters? n b = some r) : r.2.length + 8 * r.1.length = b.length ∧ r.1.length = n := by
  induction n generalizing b r with
  | zero =>
    simp only [counters?, Option.some.injEq] at h
    simp [← h]
  | succ n ih =>
    obtain ⟨v, hv, h⟩ := Option.bind_eq_some_iff.mp h
    obtain ⟨c, hc, rfl⟩ := Option.map_eq_some_iff.mp h
    have hlen := length_number? hv
    obtain ⟨h1, h2⟩ := ih hc
    simp only [List.length_cons]
    omega

theorem length_function? {b : Bytes} {r : Option (String × List UInt64) × Bytes}
    (h : function? b = some r) : r.2.length < b.length := by
  obtain ⟨length, hl, h⟩ := Option.bind_eq_some_iff.mp h
  have h1 := length_number? hl
  split at h
  · simp only [Option.some.injEq] at h
    rw [← h]
    simp only
    omega
  · obtain ⟨name, hn, h⟩ := Option.bind_eq_some_iff.mp h
    obtain ⟨count, hc, h⟩ := Option.bind_eq_some_iff.mp h
    obtain ⟨counters, hcs, rfl⟩ := Option.map_eq_some_iff.mp h
    have h2 := length_name? hn
    have h3 := length_number? hc
    have h4 := (length_counters? hcs).1
    simp only
    omega

theorem length_functions {file : String} {n : Nat} {b rest : Bytes}
    (h : (functions file n b).2 = some rest) : rest.length ≤ b.length := by
  induction n generalizing b with
  | zero =>
    simp only [functions, Option.some.injEq] at h
    exact Nat.le_of_eq (congrArg List.length h.symm)
  | succ n ih =>
    rw [functions] at h
    split at h
    · simp at h
    · rename_i hf
      simp only [Option.some.injEq] at h
      have := length_function? hf
      rw [← h]
      exact Nat.le_of_lt this
    · rename_i hf
      have h1 := length_function? hf
      have h2 := ih h
      exact Nat.le_trans h2 (Nat.le_of_lt h1)

theorem length_header? {b : Bytes} {r : Option (String × Nat) × Bytes} (h : header? b = some r) :
    r.2.length < b.length := by
  obtain ⟨length, hl, h⟩ := Option.bind_eq_some_iff.mp h
  obtain ⟨file, hf, h⟩ := Option.bind_eq_some_iff.mp h
  have h1 := length_number? hl
  have h2 := length_name? hf
  split at h
  · simp only [Option.some.injEq] at h
    rw [← h]
    simp only
    omega
  · obtain ⟨count, hc, rfl⟩ := Option.map_eq_some_iff.mp h
    have h3 := length_number? hc
    simp only
    omega

/-- The entries of a profile, and whether a file name of length zero closed it. -/
def scan (b : Bytes) : List Entry × Bool :=
  match _h1 : header? b with
  | none => ([], false)
  | some (none, _) => ([], true)
  | some (some record, rest) =>
    match _h2 : functions record.1 record.2 rest with
    | (entries, none) => (entries, false)
    | (entries, some rest) =>
      let more := scan rest
      (entries ++ more.1, more.2)
termination_by b.length
decreasing_by
  have h1 := length_header? _h1
  have h2 := length_functions (congrArg Prod.snd _h2)
  simp only at h1
  omega

/-- One file record of a scan. -/
theorem scan_eq (b : Bytes) :
    scan b =
      match header? b with
      | none => ([], false)
      | some (none, _) => ([], true)
      | some (some record, rest) =>
        match functions record.1 record.2 rest with
        | (entries, none) => (entries, false)
        | (entries, some rest) => (entries ++ (scan rest).1, (scan rest).2) := by
  rw [scan]
  split <;> rename_i h <;> rw [h]
  split <;> rename_i h <;> simp only [h]

/-! ## Words -/

/-- The words of a trace: every four octets are one, and octets that do not fill a word are left. -/
def wordsOf (b : Bytes) : List UInt32 :=
  (List.range (b.length / 4)).map fun i =>
    UInt32.ofNat (Number.ofOctets ((b.drop (4 * i)).take 4))

theorem wordsOf_eq (b : Bytes) :
    wordsOf b =
      match number? 4 b with
      | none => []
      | some (v, rest) => UInt32.ofNat v :: wordsOf rest := by
  rw [number?, cut]
  split
  · rename_i h
    split at h
    · simp at h
    · rename_i hlen
      rw [wordsOf, Nat.div_eq_of_lt (by omega)]
      rfl
  · rename_i h
    split at h
    · rename_i hlen
      simp only [Option.map_some, Option.some.injEq, Prod.mk.injEq] at h
      obtain ⟨rfl, rfl⟩ := h
      have hdiv : b.length / 4 = (b.length - 4) / 4 + 1 := by omega
      rw [wordsOf, wordsOf, hdiv, List.range_succ_eq_map, List.map_cons, List.map_map,
        List.length_drop]
      refine congrArg (List.cons _) (List.map_congr_left fun i _ => ?_)
      rw [Function.comp_apply, List.drop_drop, Nat.succ_eq_add_one, Nat.mul_add, Nat.add_comm]
    · simp at h

end BlockCoverage.Trace
