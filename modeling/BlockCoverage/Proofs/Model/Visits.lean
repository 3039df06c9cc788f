import BlockCoverage.Proofs.Model.Skeleton
import BlockCoverage.Proofs.Model.Strict

/-!
# Visits and counters

A merge of visited blocks takes two passes. The first counts the visits and notes every block when
it comes for the first time; the second goes through the blocks it noted and records what was
counted. This is the same as recording a counter for every block in its place, where a block that
was not visited has the counter zero (`recordVisits_eq`, `mergeTraceInto_eq`).

The first pass is a fold with the invariant `Visited.Tallies`: counts are numbers of visits, and a
block is noted once if it was visited and not otherwise. In the second pass the noted blocks are
written one after the other; as none of them comes twice, each is written once, and what is written
is the count for the whole run.
-/

namespace BlockCoverage

namespace Model

/-- The counter for the block at position `i`; zero if there is none. -/
def counterAt (counters : List UInt64) (i : Nat) : UInt64 := (counters[i]?).getD 0

/-- How often position `i` was visited. A counter stops at its largest value. -/
def visits (ids : List UInt32) (i : Nat) : UInt64 :=
  UInt64.ofNat (min (ids.countP (fun id => id.toNat == i)) 18446744073709551615)

/-- How often each of the first `n` positions was visited. -/
def visitCounts (n : Nat) (ids : List UInt32) : List UInt64 := (List.range n).map (visits ids)

theorem toNat_visits_eq_min (ids : List UInt32) (i : Nat) :
    (visits ids i).toNat =
      min (ids.countP (fun id => id.toNat == i)) 18446744073709551615 := by
  rw [visits, UInt64.toNat_ofNat']
  exact Nat.mod_eq_of_lt (by omega)

theorem counterAt_visitCounts {n i : Nat} (ids : List UInt32) (hi : i < n) :
    counterAt (visitCounts n ids) i = visits ids i := by
  simp [counterAt, visitCounts, hi]

theorem visits_eq_zero {ids : List UInt32} {i : Nat} (h : ∀ id ∈ ids, id.toNat ≠ i) :
    visits ids i = 0 := by
  have hnone : ids.countP (fun id => id.toNat == i) = 0 := by
    rw [List.countP_eq_zero]
    intro id hid
    rw [beq_iff_eq]
    exact h id hid
  rw [visits, hnone]
  rfl

end Model

/-! ## Counting visits -/

namespace Visited

open Model

theorem toNat_next (count : UInt64) :
    (next count).toNat = min (count.toNat + 1) 18446744073709551615 := by
  have hlt := count.toNat_lt
  rw [next]
  split
  · rename_i hmax
    rw [hmax]
    decide
  · rename_i hmax
    have hne : count.toNat ≠ 18446744073709551615 := fun h => hmax (UInt64.toNat_inj.mp h)
    rw [UInt64.toNat_add]
    simp only [UInt64.reduceToNat]
    omega

theorem count_add (v : Visited) (id i : UInt32) :
    (v.add id).count i = if i = id then next (v.count id) else v.count i := by
  rw [count, add, OrderedMap.get?_insert]
  split
  · rfl
  · rw [count]

theorem visits_concat (ids : List UInt32) (id i : UInt32) :
    visits (ids ++ [id]) i.toNat =
      if i = id then next (visits ids id.toNat) else visits ids i.toNat := by
  apply UInt64.toNat_inj.mp
  rw [toNat_visits_eq_min, List.countP_append, List.countP_singleton]
  by_cases hi : i = id
  · rw [if_pos hi, hi, toNat_next, toNat_visits_eq_min, if_pos (beq_self_eq_true _)]
    omega
  · have hne : ¬(id.toNat == i.toNat) = true := by
      rw [beq_iff_eq, UInt32.toNat_inj]
      exact fun h => hi h.symm
    rw [if_neg hi, toNat_visits_eq_min, if_neg hne, Nat.add_zero]

/-- What was counted are the visits of a list, and what was noted are the blocks that it visits. -/
structure Tallies (v : Visited) (ids : List UInt32) : Prop where
  /-- A block is counted as often as it was visited. -/
  count : ∀ id, v.count id = visits ids id.toNat
  /-- No block is noted twice. -/
  nodup : v.order.Nodup
  /-- The noted blocks are those that were visited. -/
  mem : ∀ id, id ∈ v.order ↔ id ∈ ids

theorem tallies_none : none.Tallies [] := ⟨fun _ => rfl, .nil, fun _ => Iff.rfl⟩

/-- A block counts as visited from its first visit on. -/
theorem Tallies.count_eq_zero_iff {v : Visited} {ids : List UInt32} (h : v.Tallies ids)
    (id : UInt32) : v.count id = 0 ↔ id ∉ v.order := by
  rw [h.count, h.mem]
  constructor
  · intro hzero hid
    have hpos : 0 < ids.countP fun i => i.toNat == id.toNat :=
      List.countP_pos_iff.mpr ⟨id, hid, beq_self_eq_true _⟩
    have hcount := toNat_visits_eq_min ids id.toNat
    rw [hzero, UInt64.toNat_zero] at hcount
    omega
  · intro hid
    refine visits_eq_zero fun i hi heq => hid ?_
    rwa [← UInt32.toNat_inj.mp heq]

/-- One more visit keeps the tally, whether its block was visited before or not. -/
theorem Tallies.add {v : Visited} {ids : List UInt32} (h : v.Tallies ids) (id : UInt32) :
    (v.add id).Tallies (ids ++ [id]) := by
  have hcount : ∀ i, (v.add id).count i = visits (ids ++ [id]) i.toNat := by
    intro i
    rw [count_add, visits_concat, h.count, h.count]
  by_cases hnew : id ∈ v.order
  · have horder : (v.add id).order = v.order :=
      if_neg fun hzero => (h.count_eq_zero_iff id).mp hzero hnew
    refine ⟨hcount, ?_, ?_⟩
    · rw [horder]
      exact h.nodup
    · intro i
      rw [horder, h.mem, List.mem_append, List.mem_singleton]
      constructor
      · exact .inl
      · rintro (hi | rfl)
        · exact hi
        · exact (h.mem i).mp hnew
  · have horder : (v.add id).order = v.order ++ [id] := if_pos ((h.count_eq_zero_iff id).mpr hnew)
    refine ⟨hcount, ?_, ?_⟩
    · rw [horder, List.nodup_append]
      refine ⟨h.nodup, List.pairwise_singleton _ id, ?_⟩
      intro i hi j hj heq
      rw [heq, List.mem_singleton.mp hj] at hi
      exact hnew hi
    · intro i
      rw [horder, List.mem_append, List.mem_append, h.mem]

theorem Tallies.foldl {v : Visited} {before : List UInt32} (h : v.Tallies before)
    (ids : List UInt32) : (ids.foldl Visited.add v).Tallies (before ++ ids) := by
  induction ids generalizing v before with
  | nil => rwa [List.append_nil]
  | cons id ids ih =>
    have hnext := ih (h.add id)
    rwa [List.append_assoc] at hnext

theorem tallies_ofList (ids : List UInt32) : (ofList ids).Tallies ids := tallies_none.foldl ids

end Visited

/-! ## Recording what was counted -/

theorem Block.hit_record (b : Block) (count : UInt64) (origin : String) :
    (if (b.record count origin).hit = true then 1 else 0) =
      (if b.hit = true then 1 else 0) + if b.gains count = true then 1 else 0 := by
  by_cases hc : count = 0
  · simp [hc, gains]
  · cases hb : b.hit <;> simp [record, gains, hc, hb]

namespace Model

theorem getElem?_recordAll (origin : String) (blocks : List Block) (counters : List UInt64)
    (i : Nat) :
    (recordAll origin blocks counters)[i]? =
      (blocks[i]?).map (·.record (counterAt counters i) origin) := by
  induction blocks generalizing counters i with
  | nil => simp [recordAll]
  | cons b blocks ih =>
    cases counters with
    | nil => simp [recordAll, counterAt]
    | cons c counters =>
      cases i with
      | zero => rfl
      | succ i => exact ih counters i

theorem countP_hit_recordAll (origin : String) (blocks : List Block) (counters : List UInt64) :
    (recordAll origin blocks counters).countP Block.hit =
      blocks.countP Block.hit + countGains blocks counters := by
  induction blocks generalizing counters with
  | nil => simp [recordAll, countGains]
  | cons b blocks ih =>
    cases counters with
    | nil => simp [recordAll, countGains]
    | cons c counters =>
      rw [recordAll, countGains, List.countP_cons, List.countP_cons, ih, Block.hit_record]
      omega

/-- A position that was not noted is left alone. -/
theorem getElem?_recordVisits_of_ne {order : List UInt32} {i : Nat} (h : ∀ id ∈ order, id.toNat ≠ i)
    (visited : Visited) (origin : String) (blocks : List Block) :
    (recordVisits visited origin order blocks).1[i]? = blocks[i]? := by
  induction order generalizing blocks with
  | nil => rfl
  | cons id order ih =>
    obtain ⟨hid, hrest⟩ := List.forall_mem_cons.mp h
    rw [recordVisits]
    split
    · exact ih hrest blocks
    · exact (ih hrest _).trans (List.getElem?_set_ne hid)

/-- A noted block is written once, since it was noted once. -/
theorem getElem?_recordVisits_of_mem {order : List UInt32} (horder : order.Nodup) {id : UInt32}
    (hid : id ∈ order) (visited : Visited) (origin : String) (blocks : List Block) :
    (recordVisits visited origin order blocks).1[id.toNat]? =
      (blocks[id.toNat]?).map (·.record (visited.count id) origin) := by
  induction order generalizing blocks with
  | nil => cases hid
  | cons first order ih =>
    obtain ⟨hfirst, hrest⟩ := List.nodup_cons.mp horder
    rw [recordVisits]
    rcases List.mem_cons.mp hid with rfl | hid
    · have hlater : ∀ later ∈ order, later.toNat ≠ id.toNat := by
        intro later hmem heq
        rw [UInt32.toNat_inj.mp heq] at hmem
        exact hfirst hmem
      split
      · rename_i hnone
        rw [getElem?_recordVisits_of_ne hlater, hnone, Option.map_none]
      · rename_i b hb
        have hlt := (List.getElem?_eq_some_iff.mp hb).1
        show (recordVisits visited origin order _).1[id.toNat]? = _
        rw [getElem?_recordVisits_of_ne hlater, List.getElem?_set_self hlt, hb, Option.map_some]
    · have hne : first.toNat ≠ id.toNat := by
        intro heq
        rw [UInt32.toNat_inj.mp heq] at hfirst
        exact hfirst hid
      split
      · exact ih hrest hid blocks
      · show (recordVisits visited origin order _).1[id.toNat]? = _
        rw [ih hrest hid, List.getElem?_set_ne hne]

/-- After both passes every block has been given the number of its visits. -/
theorem getElem?_recordVisits {visited : Visited} {ids : List UInt32} (h : visited.Tallies ids)
    (origin : String) (blocks : List Block) (i : Nat) :
    (recordVisits visited origin visited.order blocks).1[i]? =
      (blocks[i]?).map (·.record (visits ids i) origin) := by
  by_cases hi : ∃ id ∈ visited.order, id.toNat = i
  · obtain ⟨id, hid, rfl⟩ := hi
    rw [getElem?_recordVisits_of_mem h.nodup hid, h.count]
  · have hne : ∀ id ∈ visited.order, id.toNat ≠ i := fun id hid heq => hi ⟨id, hid, heq⟩
    have hzero : visits ids i = 0 := visits_eq_zero fun id hid => hne id ((h.mem id).mpr hid)
    rw [getElem?_recordVisits_of_ne hne, hzero]
    simp only [Block.record_zero, Option.map_id_fun', id_eq]

/-- The second pass counts the blocks that it adds to those that are hit. -/
theorem countP_hit_recordVisits (visited : Visited) (origin : String) (order : List UInt32)
    (blocks : List Block) :
    (recordVisits visited origin order blocks).1.countP Block.hit =
      blocks.countP Block.hit + (recordVisits visited origin order blocks).2 := by
  induction order generalizing blocks with
  | nil => rfl
  | cons id order ih =>
    rw [recordVisits]
    split
    · exact ih blocks
    · rename_i b hb
      obtain ⟨hlt, hget⟩ := List.getElem?_eq_some_iff.mp hb
      have hset := List.countP_set (p := Block.hit) (a := b.record (visited.count id) origin) hlt
      have hrecord := b.hit_record (visited.count id) origin
      have hhit : (if b.hit = true then 1 else 0) ≤ blocks.countP Block.hit := by
        split
        · rename_i hbhit
          exact List.countP_pos_iff.mpr ⟨b, List.mem_of_getElem? hb, hbhit⟩
        · exact Nat.zero_le _
      rw [hget] at hset
      simp only [ih]
      omega

theorem recordVisits_eq (origin : String) (blocks : List Block) (ids : List UInt32) :
    recordVisits (.ofList ids) origin (Visited.ofList ids).order blocks =
      (recordAll origin blocks (visitCounts blocks.length ids),
        countGains blocks (visitCounts blocks.length ids)) := by
  have hafter : (recordVisits (.ofList ids) origin (Visited.ofList ids).order blocks).1 =
      recordAll origin blocks (visitCounts blocks.length ids) := by
    apply List.ext_getElem?
    intro i
    rw [getElem?_recordVisits (Visited.tallies_ofList ids), getElem?_recordAll]
    by_cases hi : i < blocks.length
    · rw [counterAt_visitCounts ids hi]
    · rw [List.getElem?_eq_none_iff.mpr (Nat.not_lt.mp hi)]
      rfl
  refine Prod.ext hafter ?_
  -- the same blocks are hit afterwards, so as many were added
  have hvisits := countP_hit_recordVisits (.ofList ids) origin (Visited.ofList ids).order blocks
  have hcounters := countP_hit_recordAll origin blocks (visitCounts blocks.length ids)
  rw [hafter] at hvisits
  exact Nat.add_left_cancel (hvisits.symm.trans hcounters)

/-- Visited blocks are merged as one counter for every block. -/
theorem mergeTraceInto_eq (m : Model) (f : FunctionId) (ids : List UInt32) (origin : String) :
    m.mergeTraceInto f ids origin =
      match m.blocks f with
      | .error fault => (.error fault, m)
      | .ok blocks =>
        match checkVisits f blocks ids with
        | .error fault => (.error fault, m)
        | .ok _ =>
          let (merged, gain) := m.applyCounters f (visitCounts blocks.length ids) origin
          (.ok { gain with functions := if ids.isEmpty then 0 else 1 }, merged) := by
  rw [mergeTraceInto_eq_checks, blocks]
  cases hf : m.get? f with
  | none => rfl
  | some blocks =>
    have hmodify : m.modify f (fun _ => recordAll origin blocks (visitCounts blocks.length ids)) =
        m.modify f (fun blocks' => recordAll origin blocks' (visitCounts blocks.length ids)) := by
      ext g : 1
      rw [get?_modify, get?_modify]
      split
      · rename_i hg
        rw [← hg, hf]
        rfl
      · rfl
    cases hchecks : checkVisits f blocks ids with
    | error fault => simp only [hchecks]
    | ok _ => simp only [hchecks, recordVisits_eq, applyCounters, hf, hmodify]

end Model

end BlockCoverage
