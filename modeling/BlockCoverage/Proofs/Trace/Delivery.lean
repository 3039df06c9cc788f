import BlockCoverage.Proofs.Trace.Scan

/-!
# Streams deliver octets

What a decoder makes of a stream depends only on the octets that the stream delivers and on how it
ends, not on how the octets come in. `profileEntries_eq` says that decoding a profile is scanning
the content: where the scan runs out of octets the stream's own ending decides, so a proper end
keeps the entries so far and a failure is passed on. `words_eq` says the same of words. So octets
have one record (`recordOf`), be they held in memory or read from a file through a buffer.

`Reads` ties each reader of a stream to the reader of octets, one lemma for each; the two decoders
follow by induction on the number of octets that are left.
-/

namespace BlockCoverage.Trace

open Text (Bytes)

/-- What a reader of a stream gives when the reader of octets gives `o` on the content: the same
value, and a stream with the rest of the content. Where the content runs out, the ending of the
stream decides. -/
inductive Reads {α : Type} (failure : Option IoCause) :
    Except IoCause (Option α × Stream) → Option (α × Bytes) → Prop where
  | read {a : α} {t : Stream} (h : t.failure = failure) :
      Reads failure (.ok (some a, t)) (some (a, t.content))
  | ended {t : Stream} (h : failure = none) : Reads failure (.ok (none, t)) none
  | failed {cause : IoCause} (h : failure = some cause) : Reads failure (.error cause) none

/-- Gathering takes octets off the front of what is delivered, or finds too few. -/
theorem gather_spec (failure : Option IoCause) (ds : List Delivery) (n : Nat) :
    match Stream.gather failure ds n with
    | .ok (some bytes, rest) =>
      bytes.length = n ∧ bytes ++ rest.flatMap Delivery.bytes = ds.flatMap Delivery.bytes
    | .ok (none, _) => (ds.flatMap Delivery.bytes).length < n ∧ failure = none
    | .error cause => (ds.flatMap Delivery.bytes).length < n ∧ failure = some cause := by
  induction ds generalizing n with
  | nil =>
    cases n with
    | zero => simp [Stream.gather]
    | succ n => cases failure <;> simp [Stream.gather]
  | cons d ds ih =>
    cases n with
    | zero => simp [Stream.gather]
    | succ n =>
      cases d with
      | interrupted => simpa [Stream.gather, Delivery.bytes] using ih (n + 1)
      | chunk head tail =>
        rw [Stream.gather]
        cases hdrop : tail.drop n with
        | cons next more =>
          -- the delivery holds more than is asked for
          have hlen := congrArg List.length hdrop
          rw [List.length_drop, List.length_cons] at hlen
          have happ := List.take_append_drop n tail
          rw [hdrop] at happ
          simp only [List.length_cons, List.length_take, List.flatMap_cons, Delivery.bytes,
            List.cons_append]
          refine ⟨by omega, congrArg (List.cons head) ?_⟩
          rw [← List.cons_append, ← List.append_assoc, happ]
        | nil =>
          have hlen := congrArg List.length hdrop
          rw [List.length_drop, List.length_nil] at hlen
          have hrest := ih (n - tail.length)
          revert hrest
          simp only [List.flatMap_cons, Delivery.bytes, List.length_append, List.length_cons]
          cases Stream.gather failure ds (n - tail.length) with
          | error cause => exact fun h => ⟨by omega, h.2⟩
          | ok r =>
            obtain ⟨_ | bytes, rest⟩ := r
            · exact fun h => ⟨by omega, h.2⟩
            · rintro ⟨h1, h2⟩
              refine ⟨by simp only [List.length_append, List.length_cons]; omega, ?_⟩
              rw [List.append_assoc, h2]

variable {failure : Option IoCause} {s : Stream}

theorem reads_take (hs : s.failure = failure) (n : Nat) :
    Reads failure (s.take n) (cut n s.content) := by
  have h := gather_spec s.failure s.deliveries n
  rw [Stream.take, Stream.content, cut]
  revert h
  cases Stream.gather s.failure s.deliveries n with
  | error cause =>
    rintro ⟨hlen, hf⟩
    rw [if_neg (by omega)]
    exact .failed (hs.symm.trans hf)
  | ok r =>
    obtain ⟨_ | bytes, rest⟩ := r
    · rintro ⟨hlen, hf⟩
      rw [if_neg (by omega)]
      exact .ended (hs.symm.trans hf)
    · rintro ⟨hlen, happ⟩
      rw [if_pos (by rw [← happ, List.length_append]; omega), ← happ]
      rw [List.take_left' hlen, List.drop_left' hlen]
      exact .read (t := ⟨rest, s.failure⟩) hs

theorem reads_readNumber (hs : s.failure = failure) (n : Nat) :
    Reads failure (readNumber n s) (number? n s.content) := by
  have h := reads_take hs n
  rw [readNumber, number?]
  generalize s.take n = r, cut n s.content = o at h ⊢
  cases h with
  | read ht => exact .read ht
  | ended hf => exact .ended hf
  | failed hf => exact .failed hf

theorem reads_readName (hs : s.failure = failure) (n : Nat) :
    Reads failure (readName n s) (name? n s.content) := by
  have h := reads_take hs n
  rw [readName, name?]
  generalize s.take n = r, cut n s.content = o at h ⊢
  cases h with
  | read ht => exact .read ht
  | ended hf => exact .ended hf
  | failed hf => exact .failed hf

theorem reads_readCounters (hs : s.failure = failure) (n : Nat) :
    Reads failure (readCounters n s) (counters? n s.content) := by
  induction n generalizing s with
  | zero => exact .read hs
  | succ n ih =>
    have h := reads_readNumber hs 8
    rw [readCounters, counters?]
    generalize readNumber 8 s = r, number? 8 s.content = o at h ⊢
    cases h with
    | ended hf => exact .ended hf
    | failed hf => exact .failed hf
    | read ht =>
      rename_i v t
      have h := ih ht
      simp only [Option.bind_some]
      generalize readCounters n t = r, counters? n t.content = o at h ⊢
      cases h with
      | read hu => exact .read hu
      | ended hf => exact .ended hf
      | failed hf => exact .failed hf

/-- A file record read from a stream when `o` is the record read from its content. -/
inductive ReadsRecord (failure : Option IoCause) :
    Except IoCause (List Entry × After) → List Entry × Option Bytes → Prop where
  | more {entries : List Entry} {t : Stream} (h : t.failure = failure) :
      ReadsRecord failure (.ok (entries, .more t)) (entries, some t.content)
  | ended {entries : List Entry} (h : failure = none) :
      ReadsRecord failure (.ok (entries, .stop)) (entries, none)
  | failed {entries : List Entry} {cause : IoCause} (h : failure = some cause) :
      ReadsRecord failure (.error cause) (entries, none)

theorem reads_readFunctions (hs : s.failure = failure) (file : String) (n : Nat) :
    ReadsRecord failure (readFunctions file n s) (functions file n s.content) := by
  induction n generalizing s with
  | zero => exact .more hs
  | succ n ih =>
    rw [readFunctions, functions, function?]
    have h := reads_readNumber hs 4
    generalize readNumber 4 s = r, number? 4 s.content = o at h ⊢
    cases h with
    | ended hf => exact .ended hf
    | failed hf => exact .failed hf
    | read hs =>
    rename_i length s
    simp only [Option.bind_some]
    by_cases hzero : length = 0
    · rw [if_pos hzero, if_pos hzero]
      exact .more hs
    rw [if_neg hzero, if_neg hzero]
    have h := reads_readName hs length
    generalize readName length s = r, name? length s.content = o at h ⊢
    cases h with
    | ended hf => exact .ended hf
    | failed hf => exact .failed hf
    | read hs =>
    rename_i name s
    simp only [Option.bind_some]
    have h := reads_readNumber hs 4
    generalize readNumber 4 s = r, number? 4 s.content = o at h ⊢
    cases h with
    | ended hf => exact .ended hf
    | failed hf => exact .failed hf
    | read hs =>
    rename_i count s
    simp only [Option.bind_some]
    have h := reads_readCounters hs count
    generalize readCounters count s = r, counters? count s.content = o at h ⊢
    cases h with
    | ended hf => exact .ended hf
    | failed hf => exact .failed hf
    | read hs =>
    rename_i counters s
    simp only [Option.map_some]
    have h := ih hs
    generalize readFunctions file n s = r, functions file n s.content = o at h ⊢
    cases h with
    | more hs => exact .more hs
    | ended hf => exact .ended hf
    | failed hf => exact .failed hf

/-- What the ending of a stream makes of a scan: a failure counts unless the profile was closed. -/
def conclude (failure : Option IoCause) (r : List Entry × Bool) : Except IoCause (List Entry) :=
  match failure, r.2 with
  | some cause, false => .error cause
  | _, _ => .ok r.1

theorem conclude_none (r : List Entry × Bool) : conclude none r = .ok r.1 := rfl

/-- One file record of a profile that is read from a stream. -/
theorem profileEntries_step (s : Stream) :
    profileEntries s =
      match readNumber 4 s with
      | .error cause => .error cause
      | .ok (none, _) => .ok []
      | .ok (some length, t) =>
        match readName length t with
        | .error cause => .error cause
        | .ok (none, _) => .ok []
        | .ok (some file, t) =>
          if file = "" then .ok []
          else
            match readNumber 4 t with
            | .error cause => .error cause
            | .ok (none, _) => .ok []
            | .ok (some count, t) =>
              match readFunctions file count t with
              | .error cause => .error cause
              | .ok (entries, .stop) => .ok entries
              | .ok (entries, .more t) => (profileEntries t).map (entries ++ ·) := by
  rw [profileEntries]
  split <;> rename_i h <;> rw [h]
  split <;> rename_i h <;> simp only [h]
  split
  · rfl
  split <;> rename_i h <;> simp only [h]
  split <;> rename_i h <;> simp only [h]
  cases profileEntries _ <;> rfl

/-- Decoding a profile is scanning what the stream delivers. -/
theorem profileEntries_eq (hs : s.failure = failure) :
    profileEntries s = conclude failure (scan s.content) := by
  induction hn : s.content.length using Nat.strongRecOn generalizing s with
  | _ n ih =>
  subst hn
  rw [profileEntries_step, scan_eq, header?]
  have h := reads_readNumber hs 4
  generalize readNumber 4 s = r, ho : number? 4 s.content = o at h ⊢
  cases h with
  | ended hf => rw [hf]; rfl
  | failed hf => rw [hf]; rfl
  | read hs =>
  rename_i length t
  have h1 := length_number? ho
  simp only [Option.bind_some]
  have h := reads_readName hs length
  generalize readName length t = r, ho : name? length t.content = o at h ⊢
  cases h with
  | ended hf => rw [hf]; rfl
  | failed hf => rw [hf]; rfl
  | read hs =>
  rename_i file u
  have h2 := length_name? ho
  simp only [Option.bind_some]
  by_cases hfile : file = ""
  · rw [if_pos hfile, if_pos hfile]
    cases failure <;> rfl
  rw [if_neg hfile, if_neg hfile]
  have h := reads_readNumber hs 4
  generalize readNumber 4 u = r, ho : number? 4 u.content = o at h ⊢
  cases h with
  | ended hf => rw [hf]; rfl
  | failed hf => rw [hf]; rfl
  | read hs =>
  rename_i count v
  have h3 := length_number? ho
  simp only [Option.map_some]
  have h := reads_readFunctions hs file count
  generalize readFunctions file count v = r, ho : functions file count v.content = o at h ⊢
  cases h with
  | ended hf => rw [hf]; rfl
  | failed hf => rw [hf]; rfl
  | more hs =>
  rename_i entries w
  have h4 := length_functions (congrArg Prod.snd ho)
  simp only
  -- the rest of the profile is shorter
  rw [ih w.content.length (by simp only at h1 h2 h3; omega) hs rfl]
  obtain ⟨rest, closed⟩ := scan w.content
  cases failure <;> cases closed <;> rfl

/-! ## Words -/

/-- One word of a trace that is read from a stream. -/
theorem words_step (s : Stream) :
    words s =
      match readNumber 4 s with
      | .error cause => .error cause
      | .ok (none, _) => .ok []
      | .ok (some v, t) => (words t).map (UInt32.ofNat v :: ·) := by
  rw [words]
  split <;> rename_i h <;> simp only [h]
  cases words _ <;> rfl

/-- Reading words takes all that the content has, and then the ending of the stream counts. -/
theorem words_eq (hs : s.failure = failure) :
    words s = failure.elim (.ok (wordsOf s.content)) .error := by
  induction hn : s.content.length using Nat.strongRecOn generalizing s with
  | _ n ih =>
  subst hn
  rw [words_step, wordsOf_eq]
  have h := reads_readNumber hs 4
  generalize readNumber 4 s = r, ho : number? 4 s.content = o at h ⊢
  cases h with
  | ended hf => rw [hf]; rfl
  | failed hf => rw [hf]; rfl
  | read hs =>
  rename_i v t
  have h1 := length_number? ho
  simp only
  rw [ih t.content.length (by simp only at h1; omega) hs rfl]
  cases failure <;> rfl

/-! ## Octets in memory and in files -/

@[simp]
theorem content_ofBytes (b : Bytes) : (Stream.ofBytes b).content = b := by
  cases b <;> simp [Stream.ofBytes, Stream.content, Delivery.ofBytes, Delivery.bytes]

theorem failure_ofBytes (b : Bytes) : (Stream.ofBytes b).failure = none := rfl

/-- Cutting octets into pieces loses none. -/
theorem flatMap_pieces (size : Nat) (b : Bytes) :
    (Delivery.pieces size b).flatMap Delivery.bytes = b := by
  induction hn : b.length using Nat.strongRecOn generalizing b with
  | _ n ih =>
  subst hn
  cases b with
  | nil => rw [Delivery.pieces, List.flatMap_nil]
  | cons head tail =>
    have hshorter : (tail.drop size).length < (head :: tail).length := by
      rw [List.length_drop, List.length_cons]
      omega
    rw [Delivery.pieces, List.flatMap_cons, ih _ hshorter _ rfl, Delivery.bytes, List.cons_append,
      List.take_append_drop]

@[simp]
theorem content_buffered (b : Bytes) : (Stream.buffered b).content = b := flatMap_pieces 8191 b

/-- The record that octets stand for. -/
def recordOf : Mode → Bytes → Record
  | .profile, b => .profile (OrderedMap.ofList (scan b).1)
  | .trace, b => .trace (wordsOf b)

/-- A stream that ends properly is decoded to the record of what it delivers. -/
theorem decode_of_ended (mode : Mode) {s : Stream} (h : s.failure = none) :
    decode mode s = .ok (recordOf mode s.content) := by
  cases mode with
  | profile =>
    rw [decode, decodeStream, profileEntries_eq h]
    rfl
  | trace =>
    rw [decode, decodeStream, words_eq h]
    rfl

theorem decode_ofBytes (mode : Mode) (b : Bytes) :
    decode mode (.ofBytes b) = .ok (recordOf mode b) := by
  rw [decode_of_ended mode (failure_ofBytes b), content_ofBytes]

theorem decode_profile_ofBytes (b : Bytes) :
    decode .profile (.ofBytes b) = .ok (.profile (OrderedMap.ofList (scan b).1)) :=
  decode_ofBytes .profile b

theorem decode_trace_ofBytes (b : Bytes) :
    decode .trace (.ofBytes b) = .ok (.trace (wordsOf b)) :=
  decode_ofBytes .trace b

/-- A file that can be read is decoded to the record of its contents, whatever these are. -/
theorem decodeFile_of_read (mode : Mode) {fs : Files} {path : String} {b : Bytes}
    (h : fs.read path = .ok b) : decodeFile mode fs path = .ok (recordOf mode b) := by
  have hdecode : decode mode (.buffered b) = .ok (recordOf mode b) := by
    rw [decode_of_ended mode rfl, content_buffered]
  rw [decodeFile, h]
  dsimp only
  rw [hdecode]
  rfl

end BlockCoverage.Trace
