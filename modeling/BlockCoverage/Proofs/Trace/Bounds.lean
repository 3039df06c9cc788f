import BlockCoverage.Proofs.Ordered.Members
import BlockCoverage.Proofs.Trace.Requests
import Mathlib.Data.Finset.Card

/-!
# The size of a decoded profile

A stream can announce lengths and counts up to 2^32 - 1 on every level and hold next to nothing.
What is decoded is paid for by octets that are there: a file record takes nine of them for its
header at least, a function takes nine and its counters eight each (`leastOctets_functions`,
`leastOctets_scan`). A record whose octets run out is dropped, and a repeated function replaces an
earlier one, so a profile only ever holds less than has been paid for (`decode_bounded`).
-/

namespace BlockCoverage

open Text (Bytes)

/-! ## Gathering makes nothing more -/

namespace OrderedMap

variable {κ α : Type} [Ord κ]

theorem sum_place_le (f : κ × α → Nat) (k : κ) (a : α) (l : List (κ × α)) :
    ((place k a l).map f).sum ≤ f (k, a) + (l.map f).sum := by
  induction l with
  | nil => simp [place]
  | cons e l ih =>
    rw [place]
    split <;> simp only [List.map_cons, List.sum_cons] <;> omega

/-- A list that is gathered keeps one entry for each key, and these weigh no more than all of
them. -/
theorem sum_ofList_le [Std.TransOrd κ] [Std.LawfulEqOrd κ] (f : κ × α → Nat) (l : List (κ × α)) :
    ((ofList l).entries.map f).sum ≤ (l.map f).sum := by
  have hfold : ∀ m : OrderedMap κ α,
      ((l.foldl (fun m e => m.insert e.1 e.2) m).entries.map f).sum ≤
        (m.entries.map f).sum + (l.map f).sum := by
    induction l with
    | nil => exact fun m => Nat.le_refl _
    | cons e l ih =>
      intro m
      have hrest := ih (m.insert e.1 e.2)
      have hplace : ((m.insert e.1 e.2).entries.map f).sum ≤ f e + (m.entries.map f).sum :=
        sum_place_le f e.1 e.2 m.entries
      rw [List.foldl_cons, List.map_cons, List.sum_cons]
      omega
  exact Nat.le_trans (hfold empty) (Nat.le_of_eq (Nat.zero_add _))

end OrderedMap

namespace OrderedSet

variable {κ : Type} [Ord κ] [Std.TransOrd κ] [Std.LawfulEqOrd κ] [DecidableEq κ]

/-- A set has as many elements as there are different ones in a list of them. -/
theorem size_ofList (l : List κ) : (ofList l).size = l.toFinset.card := by
  have hsame : (ofList l).toList.toFinset = l.toFinset := by
    ext k
    rw [List.mem_toFinset, List.mem_toFinset, mem_toList_ofList]
  have hnodup : (ofList l).toList.Nodup := OrderedMap.nodup_keys _
  rw [← hsame, List.toFinset_card_of_nodup hnodup, toList, OrderedMap.keys, List.length_map,
    OrderedMap.size]

end OrderedSet

namespace Profile

/-- The files that have a function. -/
def files (p : Profile) : OrderedSet String := .ofList (p.keys.map FunctionId.file)

/-- How many counters the functions have in all. -/
def counterCount (p : Profile) : Nat := (p.entries.map fun e => e.2.length).sum

end Profile

namespace Trace

/-! ## What octets pay for -/

/-- The fewest octets that hold an entry: the length of its name, one octet of the name, the number
of its counters, and the counters. -/
def leastOctets (e : Entry) : Nat := 9 + 8 * e.2.length

theorem sum_leastOctets (entries : List Entry) :
    (entries.map leastOctets).sum =
      9 * entries.length + 8 * (entries.map fun e => e.2.length).sum := by
  induction entries with
  | nil => rfl
  | cons e entries ih =>
    simp only [List.map_cons, List.sum_cons, List.length_cons, ih, leastOctets]
    omega

theorem sum_leastOctets_profile (p : Profile) :
    (p.entries.map leastOctets).sum = 9 * p.size + 8 * p.counterCount :=
  sum_leastOctets p.entries

/-- The different files of some entries. -/
def filesOf (entries : List Entry) : Finset String := (entries.map fun e => e.1.file).toFinset

theorem files_ofList (entries : List Entry) :
    (Profile.files (OrderedMap.ofList entries)).size = (filesOf entries).card := by
  rw [Profile.files, OrderedSet.size_ofList, filesOf]
  congr 1
  ext file
  simp [OrderedMap.mem_keys_ofList]

theorem card_filesOf_append_le (entries more : List Entry) :
    (filesOf (entries ++ more)).card ≤ (filesOf entries).card + (filesOf more).card := by
  rw [filesOf, List.map_append, List.toFinset_append]
  exact Finset.card_union_le _ _

theorem leastOctets_function (file : String) {b rest : Bytes} {f : String × List UInt64}
    (h : function? b = some (some f, rest)) :
    leastOctets (⟨file, f.1⟩, f.2) + rest.length ≤ b.length := by
  obtain ⟨length, hlength, h⟩ := Option.bind_eq_some_iff.mp h
  split at h
  · cases h
  rename_i hpositive
  obtain ⟨name, hname, h⟩ := Option.bind_eq_some_iff.mp h
  obtain ⟨count, hcount, h⟩ := Option.bind_eq_some_iff.mp h
  obtain ⟨counters, hcounters, h⟩ := Option.map_eq_some_iff.mp h
  cases h
  have hlengthOctets := length_number? hlength
  have hnameOctets := length_name? hname
  have hcountOctets := length_number? hcount
  have hcountersOctets := (length_counters? hcounters).1
  simp only [leastOctets]
  omega

/-- The functions of a file record, complete or not, are paid for by the octets that they take. -/
theorem leastOctets_functions (file : String) (n : Nat) (b : Bytes) :
    ((functions file n b).1.map leastOctets).sum + ((functions file n b).2.elim 0 List.length) ≤
      b.length := by
  induction n generalizing b with
  | zero => simp [functions]
  | succ n ih =>
    rw [functions]
    cases hf : function? b with
    | none => exact Nat.zero_le _
    | some read =>
    obtain ⟨f, rest⟩ := read
    cases f with
    | none =>
      have hfirst := length_function? hf
      simp only [List.map_nil, List.sum_nil, Option.elim_some] at hfirst ⊢
      omega
    | some f =>
      have hfirst := leastOctets_function file hf
      have hothers := ih rest
      simp only [List.map_cons, List.sum_cons]
      omega

theorem file_of_mem_functions {file : String} {n : Nat} {b : Bytes} {e : Entry}
    (h : e ∈ (functions file n b).1) : e.1.file = file := by
  induction n generalizing b with
  | zero => cases h
  | succ n ih =>
    rw [functions] at h
    split at h
    · cases h
    · cases h
    · rcases List.mem_cons.mp h with rfl | h
      · rfl
      · exact ih h

/-- The functions of a file record are all in its file. -/
theorem card_filesOf_functions_le (file : String) (n : Nat) (b : Bytes) :
    (filesOf (functions file n b).1).card ≤ 1 := by
  have hsub : filesOf (functions file n b).1 ⊆ {file} := fun name hname => by
    obtain ⟨e, he, rfl⟩ := List.mem_map.mp (List.mem_toFinset.mp hname)
    exact Finset.mem_singleton.mpr (file_of_mem_functions he)
  exact Finset.card_le_card hsub

/-- The header of a file record has a name of one octet at least between its two numbers. -/
theorem nine_le_header {b rest : Bytes} {record : String × Nat}
    (h : header? b = some (some record, rest)) : 9 + rest.length ≤ b.length := by
  obtain ⟨length, hlength, h⟩ := Option.bind_eq_some_iff.mp h
  obtain ⟨file, hfile, h⟩ := Option.bind_eq_some_iff.mp h
  split at h
  · cases h
  rename_i hnonempty
  obtain ⟨count, hcount, h⟩ := Option.map_eq_some_iff.mp h
  cases h
  have hpositive : length.1 ≠ 0 := fun hzero => by
    rw [hzero, name?_zero] at hfile
    cases hfile
    exact hnonempty rfl
  have hlengthOctets := length_number? hlength
  have hnameOctets := length_name? hfile
  have hcountOctets := length_number? hcount
  omega

/-- The entries of a profile and their files are paid for by its octets. -/
theorem leastOctets_scan (b : Bytes) :
    9 * (filesOf (scan b).1).card + ((scan b).1.map leastOctets).sum ≤ b.length := by
  induction hn : b.length using Nat.strongRecOn generalizing b with
  | _ n ih =>
  subst hn
  rw [scan_eq]
  cases hheader : header? b with
  | none => exact Nat.zero_le _
  | some header =>
  obtain ⟨record, rest⟩ := header
  cases record with
  | none => exact Nat.zero_le _
  | some record =>
  have hheaderOctets := nine_le_header hheader
  have hrecordOctets := leastOctets_functions record.1 record.2 rest
  have hfile := card_filesOf_functions_le record.1 record.2 rest
  simp only
  cases hrecord : functions record.1 record.2 rest with
  | mk entries after =>
  rw [hrecord] at hrecordOctets hfile
  cases after with
  | none =>
    simp only [Option.elim_none] at hrecordOctets hfile ⊢
    omega
  | some rest' =>
    -- one file more at most, and its header has paid for it
    have hunion := card_filesOf_append_le entries (scan rest').1
    simp only [Option.elim_some] at hrecordOctets hfile
    have hscan := ih rest'.length (by omega) rest' rfl
    simp only [List.map_append, List.sum_append]
    omega

/-! ## Decoding -/

/-- Whatever lengths and counts octets announce, they are decoded to a profile that they have paid
for: nine octets for each file with a function, nine for each function and eight for each counter.
The decoder comes to it request by request. Each reading that is given octets is given the next
ones, one at least, so there are at most as many such readings as there are octets. -/
theorem decode_bounded (b : Bytes) :
    ∃ profile : Profile, decode .profile (.ofBytes b) = .ok (.profile profile) ∧
      9 * (profile.files.size + profile.size) + 8 * profile.counterCount ≤ b.length ∧
      ∃ answers entries, transcript .fileLength b = (answers, entries) ∧
        profile = OrderedMap.ofList entries ∧ answers.flatten <+: b ∧
        (∀ octets ∈ answers, octets ≠ []) ∧ answers.length ≤ b.length := by
  refine ⟨OrderedMap.ofList (scan b).1, decode_profile_ofBytes b, ?_, _, _, rfl, ?_,
    flatten_answers_isPrefix _ b, fun _ h => ne_nil_of_mem_answers h, length_answers_le _ b⟩
  · have hkept := OrderedMap.sum_ofList_le leastOctets (scan b).1
    have hscan := leastOctets_scan b
    rw [sum_leastOctets_profile] at hkept
    rw [files_ofList]
    omega
  · rw [entries_transcript_eq_scan]

end Trace

end BlockCoverage
