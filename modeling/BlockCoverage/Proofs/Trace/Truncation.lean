import BlockCoverage.Proofs.Ordered.Lookup
import BlockCoverage.Proofs.Trace.Delivery

/-!
# Cutting a trace short

A target may be killed at any octet, so a decoder may be given the front of a trace only. It then
finds a part of what the whole trace holds, and nothing else: the entries of a cut profile are the
first entries of the whole one, and the words of a cut trace are its first words.

The reason is that no reader looks past what it reads (`Sequential`), so one that succeeds on the
front of the octets does the same on all of them. A reader that runs out gives nothing, and the
entries before it stay.
-/

namespace BlockCoverage.Trace

open Text (Bytes)

/-! ## Readers that do not look ahead -/

/-- More octets after those that a reader takes change nothing for it. -/
def Sequential {α : Type} (read : Bytes → Option (α × Bytes)) : Prop :=
  ∀ ⦃b rest : Bytes⦄ ⦃a : α⦄, read b = some (a, rest) →
    ∀ more, read (b ++ more) = some (a, rest ++ more)

namespace Sequential

variable {α β : Type}

theorem pure (a : α) : Sequential fun b => some (a, b) := by
  intro b rest a' h more
  obtain ⟨rfl, rfl⟩ := Prod.mk.inj (Option.some.inj h)
  rfl

theorem bind {read : Bytes → Option (α × Bytes)} {next : α × Bytes → Option (β × Bytes)}
    (hread : Sequential read) (hnext : ∀ a, Sequential fun b => next (a, b)) :
    Sequential fun b => (read b).bind next := by
  intro b rest c h more
  obtain ⟨⟨a, t⟩, hr, h⟩ := Option.bind_eq_some_iff.mp h
  simp only [hread hr more, Option.bind_some]
  exact hnext a h more

theorem map {read : Bytes → Option (α × Bytes)} (f : α → β) (hread : Sequential read) :
    Sequential fun b => (read b).map fun r => (f r.1, r.2) := by
  intro b rest c h more
  obtain ⟨r, hr, h⟩ := Option.map_eq_some_iff.mp h
  obtain ⟨rfl, rfl⟩ := Prod.mk.inj h
  simp only [hread hr more, Option.map_some]

end Sequential

theorem sequential_cut (n : Nat) : Sequential (cut n) := by
  intro b rest a h more
  rw [cut] at h
  split at h
  · rename_i hlen
    obtain ⟨rfl, rfl⟩ := Prod.mk.inj (Option.some.inj h)
    rw [cut, if_pos (by rw [List.length_append]; omega), List.take_append_of_le_length hlen,
      List.drop_append_of_le_length hlen]
  · cases h

theorem sequential_number? (n : Nat) : Sequential (number? n) :=
  (sequential_cut n).map Number.ofOctets

theorem sequential_name? (n : Nat) : Sequential (name? n) :=
  (sequential_cut n).map Text.Utf8.decodeLossy

theorem sequential_counters? (n : Nat) : Sequential (counters? n) := by
  induction n with
  | zero => exact .pure []
  | succ n ih => exact (sequential_number? 8).bind fun v => ih.map (UInt64.ofNat v :: ·)

theorem sequential_function? : Sequential function? := by
  refine (sequential_number? 4).bind fun length => ?_
  by_cases hzero : length = 0
  · simp only [if_pos hzero]
    exact .pure none
  · simp only [if_neg hzero]
    refine (sequential_name? length).bind fun name => ?_
    dsimp only
    refine (sequential_number? 4).bind fun count => ?_
    exact (sequential_counters? count).map fun counters => some (name, counters)

theorem sequential_header? : Sequential header? := by
  refine (sequential_number? 4).bind fun length => (sequential_name? length).bind fun file => ?_
  by_cases hfile : file = ""
  · simp only [if_pos hfile]
    exact .pure none
  · simp only [if_neg hfile]
    exact (sequential_number? 4).map fun count => some (file, count)

/-! ## Profiles -/

/-- A file record that is complete stays as it is. -/
theorem functions_append {file : String} {n : Nat} {b rest : Bytes} {entries : List Entry}
    (h : functions file n b = (entries, some rest)) (more : Bytes) :
    functions file n (b ++ more) = (entries, some (rest ++ more)) := by
  induction n generalizing b entries with
  | zero =>
    obtain ⟨rfl, hrest⟩ := Prod.mk.inj h
    obtain rfl := Option.some.inj hrest
    rfl
  | succ n ih =>
    rw [functions] at h ⊢
    split at h
    · cases (Prod.mk.inj h).2
    · rename_i hf
      obtain ⟨rfl, hrest⟩ := Prod.mk.inj h
      obtain rfl := Option.some.inj hrest
      rw [sequential_function? hf more]
    · rename_i f rest' hf
      obtain ⟨rfl, hrest⟩ := Prod.mk.inj h
      rw [sequential_function? hf more]
      simp only [ih (Prod.ext rfl hrest)]

/-- The functions of a file record that is cut short are the first ones of the whole record. -/
theorem functions_isPrefix (file : String) (n : Nat) (b more : Bytes) :
    (functions file n b).1 <+: (functions file n (b ++ more)).1 := by
  induction n generalizing b with
  | zero => exact List.prefix_rfl
  | succ n ih =>
    rw [functions]
    split
    · exact List.nil_prefix
    · exact List.nil_prefix
    · rename_i f rest hf
      rw [functions, sequential_function? hf more]
      exact (List.prefix_cons_inj _).mpr (ih rest)

/-- The entries of a profile that is cut short are the first ones of the whole profile. -/
theorem scan_isPrefix (b more : Bytes) : (scan b).1 <+: (scan (b ++ more)).1 := by
  induction hn : b.length using Nat.strongRecOn generalizing b with
  | _ n ih =>
  subst hn
  rw [scan_eq b]
  split
  · exact List.nil_prefix
  · exact List.nil_prefix
  rename_i record rest hheader
  rw [scan_eq (b ++ more), sequential_header? hheader more]
  simp only
  split
  · -- the cut is inside this record, and whatever follows it comes after its first functions
    rename_i entries hcut
    have hfront := functions_isPrefix record.1 record.2 rest more
    rw [hcut] at hfront
    split
    · rename_i hwhole
      rwa [hwhole] at hfront
    · rename_i hwhole
      rw [hwhole] at hfront
      exact hfront.trans (List.prefix_append _ _)
  · rename_i entries rest' hcomplete
    have h1 := length_header? hheader
    have h2 := length_functions (congrArg Prod.snd hcomplete)
    rw [functions_append hcomplete more]
    exact (List.prefix_append_right_inj entries).mpr
      (ih rest'.length (by simp only at h1; omega) rest' rfl)

/-! ## Words -/

theorem wordsOf_take (b : Bytes) (n : Nat) : wordsOf (b.take n) = (wordsOf b).take (n / 4) := by
  have hlen : min n b.length / 4 = min (n / 4) (b.length / 4) := by omega
  rw [wordsOf, wordsOf, List.length_take, hlen, ← List.map_take, List.take_range]
  refine List.map_congr_left fun i hi => ?_
  have hi := List.mem_range.mp hi
  -- all four octets of a word that counts are before the cut
  rw [List.drop_take, List.take_take, Nat.min_eq_left (by omega)]

/-! ## Decoding -/

/-- The front of any octets is decoded to a part of what all of them are decoded to, in either mode.
-/
theorem decode_take (b : Bytes) (n : Nat) :
    (∃ entries whole,
      profileEntries (.ofBytes (b.take n)) = .ok entries ∧
      profileEntries (.ofBytes b) = .ok whole ∧
      entries <+: whole ∧
      decode .profile (.ofBytes (b.take n)) = .ok (.profile (OrderedMap.ofList entries)) ∧
      decode .profile (.ofBytes b) = .ok (.profile (OrderedMap.ofList whole)) ∧
      ∀ f ∈ (OrderedMap.ofList entries).keys, f ∈ (OrderedMap.ofList whole).keys) ∧
    decode .trace (.ofBytes b) = .ok (.trace (wordsOf b)) ∧
    decode .trace (.ofBytes (b.take n)) = .ok (.trace ((wordsOf b).take (n / 4))) := by
  have hfront := scan_isPrefix (b.take n) (b.drop n)
  rw [List.take_append_drop] at hfront
  refine ⟨⟨(scan (b.take n)).1, (scan b).1, ?_, ?_, hfront, decode_profile_ofBytes _,
    decode_profile_ofBytes b, fun f hf => ?_⟩, decode_trace_ofBytes b, ?_⟩
  · rw [profileEntries_eq (failure_ofBytes _), content_ofBytes, conclude_none]
  · rw [profileEntries_eq (failure_ofBytes b), content_ofBytes, conclude_none]
  · rw [OrderedMap.mem_keys_ofList] at hf ⊢
    exact (hfront.map Prod.fst).subset hf
  · rw [decode_trace_ofBytes, wordsOf_take]

end BlockCoverage.Trace
