import BlockCoverage.Proofs.Model.Skeleton
import BlockCoverage.Proofs.Model.Strict

/-!
# What fits a model

A run fits a function if the function is declared, if the run has a counter for every block, and if
every block carries the number of its position. `Fits` says so, and `Misfit` says of every fault
when it is the reason why a run does not fit: the three conditions are tried in this order, and a
block out of place is the first one that there is. For visited blocks only the blocks that are
visited count; `HasBlock` and `Stray` are the two sides there.

The functions that check decide these predicates (`checkCounters_eq_ok_iff` and its companions).
Over several functions or visits they stop at the first that does not fit (`forM_checkCounters`,
`checkVisits_eq_error_iff`).
-/

namespace BlockCoverage

namespace Model

/-! ## Counters of one function -/

/-- Counters fit a function: it is declared with a block for every counter, and every block carries
the number of its position. -/
def Fits (m : Model) (f : FunctionId) (counters : List UInt64) : Prop :=
  ∃ blocks, m.get? f = some blocks ∧ blocks.length = counters.length ∧
    ∀ (i : Nat) (b : Block), blocks[i]? = some b → b.id.toNat = i

/-- Why counters do not fit a function. -/
inductive Misfit (m : Model) (f : FunctionId) (counters : List UInt64) : Fault → Prop where
  /-- The function is not declared. -/
  | undeclared (hf : m.get? f = none) : Misfit m f counters (.unknownFunction f.name f.file)
  /-- There are more or fewer counters than blocks. -/
  | miscounted {blocks : List Block} (hf : m.get? f = some blocks)
      (hcount : blocks.length ≠ counters.length) :
      Misfit m f counters (.countMismatch f blocks.length counters.length)
  /-- There are as many, and this block is the first that does not carry the number of its
  position. -/
  | misplaced {blocks : List Block} {i : Nat} {b : Block} (hf : m.get? f = some blocks)
      (hcount : blocks.length = counters.length) (hb : blocks[i]? = some b) (hid : b.id.toNat ≠ i)
      (hfirst : ∀ j < i, ∀ c, blocks[j]? = some c → c.id.toNat = j) :
      Misfit m f counters (.idMismatch f i b.id)

theorem misplaced?_eq_none_iff {start : Nat} {blocks : List Block} :
    misplaced? start blocks = none ↔ ∀ i b, blocks[i]? = some b → b.id.toNat = start + i := by
  induction blocks generalizing start with
  | nil => simp [misplaced?]
  | cons b blocks ih =>
    rw [misplaced?]
    constructor
    · intro h
      split at h
      · rename_i hb
        intro i c hc
        cases i with
        | zero =>
          obtain rfl : b = c := Option.some.inj hc
          exact hb
        | succ i =>
          have hrest := ih.mp h i c hc
          omega
      · cases h
    · intro h
      have hb : b.id.toNat = start := h 0 b rfl
      rw [if_pos hb, ih]
      intro i c hc
      have hnext := h (i + 1) c hc
      omega

theorem misplaced?_eq_some_iff {start position : Nat} {blocks : List Block} {id : UInt32} :
    misplaced? start blocks = some (position, id) ↔
      ∃ i b, position = start + i ∧ blocks[i]? = some b ∧ b.id = id ∧ b.id.toNat ≠ start + i ∧
        ∀ j < i, ∀ c, blocks[j]? = some c → c.id.toNat = start + j := by
  induction blocks generalizing start with
  | nil => simp [misplaced?]
  | cons b blocks ih =>
    rw [misplaced?]
    split
    · rename_i hb
      rw [ih]
      constructor
      · rintro ⟨i, c, hposition, hc, hid, hne, hfirst⟩
        refine ⟨i + 1, c, by omega, hc, hid, by omega, ?_⟩
        intro j hj d hd
        cases j with
        | zero =>
          obtain rfl : b = d := Option.some.inj hd
          exact hb
        | succ j =>
          have hearlier := hfirst j (by omega) d hd
          omega
      · rintro ⟨i, c, hposition, hc, hid, hne, hfirst⟩
        cases i with
        | zero =>
          obtain rfl : b = c := Option.some.inj hc
          exact absurd hb hne
        | succ i =>
          refine ⟨i, c, by omega, hc, hid, by omega, ?_⟩
          intro j hj d hd
          have hearlier := hfirst (j + 1) (by omega) d hd
          omega
    · rename_i hb
      constructor
      · rintro h
        obtain ⟨rfl, rfl⟩ := Prod.mk.inj (Option.some.inj h)
        exact ⟨0, b, rfl, rfl, rfl, hb, fun j hj => absurd hj (Nat.not_lt_zero j)⟩
      · rintro ⟨i, c, rfl, hc, rfl, hne, hfirst⟩
        cases i with
        | zero =>
          obtain rfl : b = c := Option.some.inj hc
          rfl
        | succ i => exact absurd (hfirst 0 (Nat.succ_pos i) b rfl) hb

theorem checkCounters_eq_ok_iff {m : Model} {f : FunctionId} {counters : List UInt64} :
    m.checkCounters f counters = .ok () ↔ m.Fits f counters := by
  rw [checkCounters, Fits]
  cases hf : m.get? f with
  | none => simp
  | some blocks =>
    by_cases hcount : blocks.length = counters.length
    · simp only [hcount, ne_eq, not_true_eq_false, if_false]
      cases hplace : misplaced? 0 blocks with
      | none =>
        have hplaces := misplaced?_eq_none_iff.mp hplace
        simp only [Nat.zero_add] at hplaces
        exact ⟨fun _ => ⟨blocks, rfl, hcount, hplaces⟩, fun _ => rfl⟩
      | some place =>
        obtain ⟨i, b, -, hb, -, hne, -⟩ := misplaced?_eq_some_iff.mp hplace
        rw [Nat.zero_add] at hne
        constructor
        · intro h
          cases h
        · rintro ⟨_, ⟨⟩, -, hplaces⟩
          exact absurd (hplaces i b hb) hne
    · simp only [ne_eq, hcount, not_false_eq_true, if_true]
      constructor
      · intro h
        cases h
      · rintro ⟨_, ⟨⟩, hsame, -⟩
        exact absurd hsame hcount

theorem checkCounters_eq_error_iff {m : Model} {f : FunctionId} {counters : List UInt64}
    {fault : Fault} : m.checkCounters f counters = .error fault ↔ m.Misfit f counters fault := by
  constructor
  · intro h
    rw [checkCounters] at h
    cases hf : m.get? f with
    | none =>
      rw [hf] at h
      cases h
      exact .undeclared hf
    | some blocks =>
      simp only [hf] at h
      split at h
      · rename_i hcount
        cases h
        exact .miscounted hf hcount
      · rename_i hcount
        cases hplace : misplaced? 0 blocks with
        | none =>
          rw [hplace] at h
          cases h
        | some place =>
          rw [hplace] at h
          cases h
          obtain ⟨i, b, hposition, hb, hid, hne, hfirst⟩ := misplaced?_eq_some_iff.mp hplace
          simp only [Nat.zero_add] at hposition hne hfirst
          rw [hposition, ← hid]
          exact .misplaced hf (Decidable.not_not.mp hcount) hb hne hfirst
  · intro h
    rw [checkCounters]
    cases h with
    | undeclared hf =>
      rw [hf]
      rfl
    | miscounted hf hcount =>
      simp only [hf]
      rw [if_pos hcount]
    | @misplaced blocks i b hf hcount hb hid hfirst =>
      have hplace : misplaced? 0 blocks = some (i, b.id) := by
        refine misplaced?_eq_some_iff.mpr ⟨i, b, (Nat.zero_add i).symm, hb, rfl, ?_, ?_⟩
        · rwa [Nat.zero_add]
        · simpa only [Nat.zero_add] using hfirst
      simp only [hf, hplace]
      rw [if_neg (Decidable.not_not.mpr hcount)]

/-- Why counters do not fit a function; `none` if they do. -/
def misfit? (m : Model) (f : FunctionId) (counters : List UInt64) : Option Fault :=
  match m.checkCounters f counters with
  | .ok _ => none
  | .error fault => some fault

theorem misfit?_eq_none_iff {m : Model} {f : FunctionId} {counters : List UInt64} :
    m.misfit? f counters = none ↔ m.Fits f counters := by
  rw [← checkCounters_eq_ok_iff, misfit?]
  cases m.checkCounters f counters <;> simp

theorem misfit?_eq_some_iff {m : Model} {f : FunctionId} {counters : List UInt64} {fault : Fault} :
    m.misfit? f counters = some fault ↔ m.Misfit f counters fault := by
  rw [← checkCounters_eq_error_iff, misfit?]
  cases m.checkCounters f counters <;> simp

/-! ## Visited blocks -/

/-- The function has a block at the position that a visit names, under that number. -/
def HasBlock (blocks : List Block) (id : UInt32) : Prop :=
  ∃ b, blocks[id.toNat]? = some b ∧ b.id = id

/-- Why a visit does not belong to a function with these blocks. -/
inductive Stray (f : FunctionId) (blocks : List Block) (id : UInt32) : Fault → Prop where
  /-- There is no block at the position. -/
  | outside (hid : blocks.length ≤ id.toNat) : Stray f blocks id (.unknownBlock f id blocks.length)
  /-- The block at the position has another number. -/
  | renumbered {b : Block} (hb : blocks[id.toNat]? = some b) (hid : b.id ≠ id) :
      Stray f blocks id (.idMismatch f id.toNat b.id)

theorem checkVisits_eq_ok_iff {f : FunctionId} {blocks : List Block} {ids : List UInt32} :
    checkVisits f blocks ids = .ok () ↔ ∀ id ∈ ids, HasBlock blocks id := by
  induction ids with
  | nil => simp [checkVisits]
  | cons id ids ih =>
    rw [checkVisits, List.forall_mem_cons, ← ih, HasBlock]
    cases blocks[id.toNat]? with
    | none => simp
    | some b => by_cases hid : b.id = id <;> simp [hid]

theorem checkVisits_eq_error_iff {f : FunctionId} {blocks : List Block} {ids : List UInt32}
    {fault : Fault} :
    checkVisits f blocks ids = .error fault ↔
      ∃ before id after, ids = before ++ id :: after ∧ (∀ v ∈ before, HasBlock blocks v) ∧
        Stray f blocks id fault := by
  induction ids with
  | nil => simp [checkVisits]
  | cons id ids ih =>
    rw [checkVisits]
    constructor
    · intro h
      split at h
      · rename_i hnone
        cases h
        exact ⟨[], id, ids, rfl, by simp, .outside (List.getElem?_eq_none_iff.mp hnone)⟩
      · rename_i b hb
        split at h
        · rename_i hid
          obtain ⟨before, stray, after, rfl, hbefore, hstray⟩ := ih.mp h
          refine ⟨id :: before, stray, after, rfl, ?_, hstray⟩
          exact List.forall_mem_cons.mpr ⟨⟨b, hb, hid⟩, hbefore⟩
        · rename_i hid
          cases h
          exact ⟨[], id, ids, rfl, by simp, .renumbered hb hid⟩
    · rintro ⟨before, stray, after, hids, hbefore, hstray⟩
      cases before with
      | nil =>
        obtain ⟨rfl, rfl⟩ := List.cons.inj hids
        cases hstray with
        | outside hid => rw [List.getElem?_eq_none_iff.mpr hid]
        | renumbered hb hid =>
          simp only [hb]
          rw [if_neg hid]
      | cons first before =>
        obtain ⟨rfl, rfl⟩ := List.cons.inj hids
        obtain ⟨⟨b, hb, hid⟩, hrest⟩ := List.forall_mem_cons.mp hbefore
        simp only [hb]
        rw [if_pos hid]
        exact ih.mpr ⟨before, stray, after, rfl, hrest, hstray⟩

/-! ## Profiles -/

/-- The checks of a profile stop at the first function that does not fit. -/
theorem forM_checkCounters (m : Model) (l : List (FunctionId × List UInt64)) :
    (l.forM fun e => m.checkCounters e.1 e.2) =
      match l.findSome? fun e => m.misfit? e.1 e.2 with
      | none => .ok ()
      | some fault => .error fault := by
  induction l with
  | nil => rfl
  | cons e l ih =>
    have hcons : ((e :: l).forM fun e => m.checkCounters e.1 e.2) =
        m.checkCounters e.1 e.2 >>= fun _ => l.forM fun e => m.checkCounters e.1 e.2 := rfl
    rw [hcons, ih, List.findSome?_cons, misfit?]
    cases m.checkCounters e.1 e.2 <;> rfl

theorem mergeProfile_eq (m : Model) (p : Profile) (origin : String) :
    m.mergeProfile p origin =
      match p.entries.findSome? fun e => m.misfit? e.1 e.2 with
      | none => (.ok (m.applyProfile origin p.entries).2, (m.applyProfile origin p.entries).1)
      | some fault => (.error fault, m) := by
  rw [mergeProfile_eq_checks, forM_checkCounters]
  cases p.entries.findSome? fun e => m.misfit? e.1 e.2 <;> rfl

end Model

end BlockCoverage
