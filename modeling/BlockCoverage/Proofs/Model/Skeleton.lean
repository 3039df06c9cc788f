import BlockCoverage.Model.Merge
import BlockCoverage.Proofs.Ordered.Lookup

/-!
# The skeleton of a model

The skeleton of a model is what `Model.reset` leaves: functions, blocks and lines without hits.
Every check that a merge makes reads the skeleton only, and no merge changes it. So whether a merge
succeeds does not depend on the runs before it.
-/

namespace BlockCoverage

theorem max_eq_ite_lt (a b : UInt64) : max a b = if a < b then b else a := by
  show (if a ≤ b then b else a) = _
  by_cases h : a < b
  · rw [if_pos h, if_pos (UInt64.le_of_lt h)]
  · rw [if_neg h]
    have hba : b ≤ a := UInt64.not_lt.mp h
    split
    · exact UInt64.le_antisymm hba ‹_›
    · rfl

namespace Block

@[simp]
theorem record_zero (b : Block) (origin : String) : b.record 0 origin = b := by
  simp [record]

/-- Recording a count takes the larger of two counts, also when it is zero. -/
theorem record_eq (b : Block) (count : UInt64) (origin : String) :
    b.record count origin =
      { b with
        count := max b.count count
        hit := b.hit || decide (0 < count)
        origins := if b.hit || !decide (0 < count) then b.origins else b.origins ++ [origin] } := by
  rw [max_eq_ite_lt]
  by_cases hc : count = 0
  · simp [hc]
  · simp [record, hc, UInt64.pos_iff_ne_zero.mpr hc]

/-- Recording a run does not touch what was declared. -/
@[simp]
theorem clear_record (b : Block) (count : UInt64) (origin : String) :
    (b.record count origin).clear = b.clear := by
  rw [record]
  split <;> rfl

@[simp]
theorem clear_clear (b : Block) : b.clear.clear = b.clear := rfl

@[simp]
theorem id_clear (b : Block) : b.clear.id = b.id := rfl

end Block

namespace Model

@[simp]
theorem get?_reset (m : Model) (f : FunctionId) :
    m.reset.get? f = (m.get? f).map (List.map Block.clear) :=
  OrderedMap.get?_mapValues _ _ _

@[simp]
theorem keys_reset (m : Model) : m.reset.functions.keys = m.functions.keys :=
  OrderedMap.keys_mapValues _ _

@[simp]
theorem size_reset (m : Model) : m.reset.size = m.size :=
  OrderedMap.size_mapValues _ _

theorem get?_modify (m : Model) (f g : FunctionId) (change : List Block → List Block) :
    (m.modify f change).get? g = if f = g then (m.get? g).map change else m.get? g :=
  OrderedMap.get?_modify _ _ _ _

@[ext]
theorem ext_get? {m n : Model} (h : ∀ f, m.get? f = n.get? f) : m = n := by
  obtain ⟨functions, index, hindex⟩ := m
  obtain ⟨others, index', hindex'⟩ := n
  obtain rfl : functions = others := OrderedMap.ext_get? h
  obtain rfl : index = index' := hindex.trans hindex'.symm
  rfl

theorem reset_reset (m : Model) : m.reset.reset = m.reset := by
  ext f : 1
  rw [get?_reset, get?_reset]
  cases m.get? f with
  | none => rfl
  | some blocks => simp

/-! ## Checks read the skeleton -/

@[simp]
theorem misplaced?_clear (start : Nat) (blocks : List Block) :
    misplaced? start (blocks.map Block.clear) = misplaced? start blocks := by
  induction blocks generalizing start with
  | nil => rfl
  | cons b blocks ih => simp [misplaced?, ih]

@[simp]
theorem checkCounters_reset (m : Model) (f : FunctionId) (counters : List UInt64) :
    m.reset.checkCounters f counters = m.checkCounters f counters := by
  rw [checkCounters, checkCounters, get?_reset]
  cases m.get? f <;> simp

@[simp]
theorem checkVisits_clear (f : FunctionId) (blocks : List Block) (ids : List UInt32) :
    checkVisits f (blocks.map Block.clear) ids = checkVisits f blocks ids := by
  induction ids with
  | nil => rfl
  | cons id ids ih =>
    simp only [checkVisits, List.getElem?_map, List.length_map, ih]
    cases blocks[id.toNat]? <;> rfl

@[simp]
theorem traceContext_reset (m : Model) : m.reset.traceContext = m.traceContext := by
  simp [traceContext]

/-- Models of one skeleton agree on what fits them. -/
theorem checkCounters_congr {m n : Model} (h : m.reset = n.reset) (f : FunctionId)
    (counters : List UInt64) : m.checkCounters f counters = n.checkCounters f counters := by
  rw [← checkCounters_reset, h, checkCounters_reset]

/-! ## Merges keep the skeleton -/

theorem clear_recordAll (origin : String) (blocks : List Block) (counters : List UInt64) :
    (recordAll origin blocks counters).map Block.clear = blocks.map Block.clear := by
  induction blocks generalizing counters with
  | nil => simp [recordAll]
  | cons b blocks ih =>
    cases counters with
    | nil => rfl
    | cons c counters => simp [recordAll, ih]

theorem get?_applyCounters (m : Model) (f g : FunctionId) (counters : List UInt64)
    (origin : String) :
    (m.applyCounters f counters origin).1.get? g =
      if f = g then (m.get? g).map (recordAll origin · counters) else m.get? g := by
  rw [applyCounters]
  split
  · rename_i hf
    by_cases h : f = g
    · simp [← h, hf]
    · simp [h]
  · exact m.get?_modify f g _

@[simp]
theorem reset_applyCounters (m : Model) (f : FunctionId) (counters : List UInt64)
    (origin : String) : (m.applyCounters f counters origin).1.reset = m.reset := by
  ext g : 1
  rw [get?_reset, get?_reset, get?_applyCounters]
  split
  · simp [Function.comp_def, clear_recordAll]
  · rfl

@[simp]
theorem reset_applyProfile (m : Model) (origin : String) (l : List (FunctionId × List UInt64)) :
    (m.applyProfile origin l).1.reset = m.reset := by
  induction l generalizing m with
  | nil => rfl
  | cons e l ih => simp [applyProfile, ih]

@[simp]
theorem reset_mergeFitting (m : Model) (origin : String) (l : List (FunctionId × List UInt64)) :
    (m.mergeFitting origin l).model.reset = m.reset := by
  induction l generalizing m with
  | nil => rfl
  | cons e l ih =>
    rw [mergeFitting]
    split
    · exact ih m
    · exact (ih _).trans (reset_applyCounters ..)

end Model

end BlockCoverage
