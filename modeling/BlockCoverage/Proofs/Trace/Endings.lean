import BlockCoverage.Proofs.Trace.RoundTrip
import BlockCoverage.Proofs.Trace.Truncation

/-!
# How a stream ends

A decoder asks a stream for octets until the stream ends, and there the ending decides: a proper
end gives the record of what was delivered, a failure is passed on (`decode_eq`). How the octets
come in takes no part. Only a profile can be over before its stream is, when a file name of length
zero closes it (`Closed`). Then no octet behind the closing is asked for, so neither a failure there
nor more octets change the record.

`Closed` says by recursion on the file records where the decoder comes to such a name;
`closed_iff` says that it is where the scan of the octets stops.
-/

namespace BlockCoverage

open Text (Bytes)

/-- Every octet is in some part, so only the empty name is written with no octets. -/
theorem Text.Utf8.decodeLossy_eq_empty_iff {b : Bytes} : decodeLossy b = "" ↔ b = [] := by
  constructor
  · intro h
    cases b with
    | nil => rfl
    | cons octet rest =>
      rw [decodeLossy, parts, List.map_cons] at h
      have hchars := congrArg String.toList h
      rw [String.toList_ofList] at hchars
      cases hchars
  · rintro rfl
    rw [decodeLossy, parts]
    rfl

namespace Trace

/-! ## Closed profiles -/

/-- The decoder of a profile reads a file name of length zero: right away, or behind file records
that are complete. -/
inductive Closed : Bytes → Prop where
  /-- The length of the next file name is zero. -/
  | here {b rest : Bytes} (hzero : number? 4 b = some (0, rest)) : Closed b
  /-- The next file record is complete, and the profile is closed behind it. -/
  | later {b functionBytes rest : Bytes} {file : String} {count : Nat} {entries : List Entry}
      (hheader : header? b = some (some (file, count), functionBytes))
      (hrecord : functions file count functionBytes = (entries, some rest)) (hrest : Closed rest) :
      Closed b

/-- A file name is empty just when its length is zero. -/
theorem name?_empty_iff {n : Nat} {b rest : Bytes} :
    name? n b = some ("", rest) ↔ n = 0 ∧ rest = b := by
  constructor
  · intro h
    obtain ⟨⟨octets, tail⟩, hcut, hname⟩ := Option.map_eq_some_iff.mp h
    obtain ⟨hempty, rfl⟩ := Prod.mk.inj hname
    have hoctets : octets = [] := Text.Utf8.decodeLossy_eq_empty_iff.mp hempty
    have hlen := length_cut hcut
    rw [cut] at hcut
    split at hcut
    · obtain ⟨htake, rfl⟩ := Prod.mk.inj (Option.some.inj hcut)
      have hzero := congrArg List.length (htake.trans hoctets)
      rw [List.length_take, List.length_nil] at hzero
      have hn : n = 0 := by omega
      rw [hn]
      exact ⟨rfl, rfl⟩
    · cases hcut
  · rintro ⟨rfl, rfl⟩
    exact name?_zero rest

theorem header?_closing_iff {b rest : Bytes} :
    header? b = some (none, rest) ↔ number? 4 b = some (0, rest) := by
  constructor
  · intro h
    obtain ⟨⟨length, afterLength⟩, hlength, h⟩ := Option.bind_eq_some_iff.mp h
    obtain ⟨⟨file, afterFile⟩, hfile, h⟩ := Option.bind_eq_some_iff.mp h
    dsimp only at hfile h
    split at h
    · rename_i hempty
      obtain ⟨-, rfl⟩ := Prod.mk.inj (Option.some.inj h)
      rw [hempty] at hfile
      obtain ⟨rfl, rfl⟩ := name?_empty_iff.mp hfile
      exact hlength
    · obtain ⟨count, -, hcount⟩ := Option.map_eq_some_iff.mp h
      cases (Prod.mk.inj hcount).1
  · intro h
    rw [header?, h, Option.bind_some]
    dsimp only
    rw [name?_zero, Option.bind_some, if_pos rfl]

/-- The scan of a profile ends at a closing just if the profile is closed. -/
theorem closed_iff {b : Bytes} : Closed b ↔ (scan b).2 = true := by
  constructor
  · intro h
    induction h with
    | here hzero => rw [scan_eq, header?_closing_iff.mpr hzero]
    | later hheader hrecord _ ih =>
      rw [scan_eq, hheader]
      simp only [hrecord]
      exact ih
  · intro h
    induction hn : b.length using Nat.strongRecOn generalizing b with
    | _ n ih =>
    subst hn
    rw [scan_eq] at h
    split at h
    · cases h
    · rename_i rest hheader
      exact .here (header?_closing_iff.mp hheader)
    rename_i record rest hheader
    split at h
    · cases h
    · rename_i entries rest' hrecord
      -- the record takes at least its header off the octets
      have h1 := length_header? hheader
      have h2 := length_functions (congrArg Prod.snd hrecord)
      simp only at h1
      exact .later hheader hrecord (ih rest'.length (by omega) h rfl)

instance : DecidablePred Closed := fun _ => decidable_of_iff _ closed_iff.symm

/-- Nothing behind the closing of a profile is looked at. -/
theorem scan_append_of_closed {b : Bytes} (h : Closed b) (more : Bytes) :
    scan (b ++ more) = scan b := by
  induction h with
  | @here b rest hzero =>
    have hheader := header?_closing_iff.mpr hzero
    rw [scan_eq, scan_eq b, hheader, sequential_header? hheader more]
  | @later b _ _ _ _ _ hheader hrecord _ ih =>
    rw [scan_eq, scan_eq b, hheader, sequential_header? hheader more]
    simp only [hrecord, functions_append hrecord more, ih]

/-! ## Decoding -/

/-- Decoding depends on what a stream delivers in all and on how it ends, and on the latter only if
no closing of a profile has been delivered. -/
theorem decode_eq (mode : Mode) (s : Stream) :
    decode mode s =
      match s.failure with
      | none => .ok (recordOf mode s.content)
      | some cause =>
        if mode = .profile ∧ Closed s.content then .ok (recordOf mode s.content)
        else .error (.io "<trace stream>" cause) := by
  rw [decode]
  cases mode with
  | trace =>
    rw [decodeStream, words_eq rfl]
    cases s.failure <;> rfl
  | profile =>
    rw [decodeStream, profileEntries_eq rfl]
    simp only [closed_iff, recordOf]
    cases s.failure <;> cases (scan s.content) with
    | mk entries closed => cases closed <;> rfl

/-- What octets are decoded to does not depend on how they are delivered. A stream that fails after
`k` of them is answered by its failure, unless these hold the closing of a profile; then it is
decoded to the record of these octets, and so is any stream that goes on behind them. -/
theorem decode_delivered (mode : Mode) (data : Bytes) :
    ∃ record, decode mode (.ofBytes data) = .ok record ∧
      (∀ deliveries, (Stream.mk deliveries none).content = data →
        decode mode ⟨deliveries, none⟩ = .ok record) ∧
      ∀ k ≤ data.length, ∀ deliveries cause,
        (Stream.mk deliveries (some cause)).content = data.take k →
        if mode = .profile ∧ Closed (data.take k) then
          ∃ front, decode mode ⟨deliveries, some cause⟩ = .ok front ∧
            ∀ more, decode mode (.ofBytes (data.take k ++ more)) = .ok front
        else decode mode ⟨deliveries, some cause⟩ = .error (.io "<trace stream>" cause) := by
  refine ⟨recordOf mode data, decode_ofBytes mode data, fun deliveries hdata => ?_,
    fun k _ deliveries cause hdata => ?_⟩
  · rw [decode_of_ended mode rfl, hdata]
  split
  · rename_i hclosed
    refine ⟨recordOf mode (data.take k), ?_, fun more => ?_⟩
    · rw [decode_eq, hdata]
      exact if_pos hclosed
    · obtain ⟨rfl, hclosed⟩ := hclosed
      rw [decode_ofBytes, recordOf, recordOf, scan_append_of_closed hclosed]
  · rename_i hopen
    rw [decode_eq, hdata]
    exact if_neg hopen

/-- A stream that is lost behind the closing of a profile is decoded, one that is lost inside the
closing is not. -/
theorem decode_delivered_closed :
    let data : Bytes := [0, 0, 0, 0, 9, 9]
    let lost : IoCause := .reported "connection reset"
    (∃ front,
      decode .profile ⟨[.interrupted, .chunk 0 [0], .chunk 0 [0, 9]], some lost⟩ = .ok front ∧
      ∀ more, decode .profile (.ofBytes (data.take 5 ++ more)) = .ok front) ∧
    decode .profile ⟨[.chunk 0 [0], .interrupted, .chunk 0 []], some lost⟩ =
      .error (.io "<trace stream>" lost) := by
  intro data lost
  obtain ⟨-, -, -, hfailed⟩ := decode_delivered .profile data
  have hbehind := hfailed 5 (by decide) [.interrupted, .chunk 0 [0], .chunk 0 [0, 9]] lost rfl
  have hbefore := hfailed 3 (by decide) [.chunk 0 [0], .interrupted, .chunk 0 []] lost rfl
  have hclosed : Closed (data.take 5) := .here rfl
  have hopen : ¬Closed (data.take 3) := by decide +kernel
  rw [if_pos ⟨rfl, hclosed⟩] at hbehind
  rw [if_neg fun h => hopen h.2] at hbefore
  exact ⟨hbehind, hbefore⟩

end Trace

end BlockCoverage
