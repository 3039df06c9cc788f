import BlockCoverage.Proofs.Model.Visits

/-!
# What a merge does to one block

`Model.block?` is the block at a position of a function. Each merge is described by the count that
it records for that block: strict and lenient merges of a profile record the block's counter, a
merge of visited blocks records how often the position was visited, and recording zero changes
nothing.
-/

namespace BlockCoverage

namespace Model

/-- The block at position `i` of a function. -/
def block? (m : Model) (f : FunctionId) (i : Nat) : Option Block :=
  (m.get? f).bind (·[i]?)

theorem block?_applyCounters (m : Model) (f g : FunctionId) (counters : List UInt64)
    (origin : String) (i : Nat) :
    (m.applyCounters f counters origin).1.block? g i =
      (m.block? g i).map (·.record (if f = g then counterAt counters i else 0) origin) := by
  rw [block?, block?, get?_applyCounters]
  split
  · cases m.get? g <;> simp [getElem?_recordAll]
  · simp

/-- Recording a profile gives every block the counter that the profile holds for it. -/
theorem block?_applyProfile (m : Model) (origin : String) {l : List (FunctionId × List UInt64)}
    (hl : (l.map Prod.fst).Nodup) (f : FunctionId) (i : Nat) :
    (m.applyProfile origin l).1.block? f i =
      (m.block? f i).map
        (·.record (((OrderedMap.lookup f l).map (counterAt · i)).getD 0) origin) := by
  induction l generalizing m with
  | nil => simp [applyProfile, OrderedMap.lookup]
  | cons e l ih =>
    obtain ⟨hhead, htail⟩ := List.nodup_cons.mp hl
    simp only [applyProfile, ih _ htail, block?_applyCounters, OrderedMap.lookup, Option.map_map,
      Std.LawfulEqCmp.compare_eq_iff_eq]
    by_cases h : f = e.1
    · -- the head holds the counter, and the function does not come again
      subst h
      simp [OrderedMap.lookup_eq_none hhead, Function.comp_def]
    · simp [h, Ne.symm h, Function.comp_def]

/-- A lenient merge gives every block of a function that fits the counter that the profile holds for
it. -/
theorem block?_mergeFitting (m : Model) (origin : String) {l : List (FunctionId × List UInt64)}
    (hl : (l.map Prod.fst).Nodup) (f : FunctionId) (i : Nat) :
    (m.mergeFitting origin l).model.block? f i =
      (m.block? f i).map (·.record
        (((OrderedMap.lookup f l).map fun counters =>
          if (m.checkCounters f counters).isOk then counterAt counters i else 0).getD 0)
        origin) := by
  induction l generalizing m with
  | nil => simp [mergeFitting, OrderedMap.lookup]
  | cons e l ih =>
    obtain ⟨hhead, htail⟩ := List.nodup_cons.mp hl
    rw [mergeFitting, OrderedMap.lookup]
    simp only [Std.LawfulEqCmp.compare_eq_iff_eq]
    cases hc : m.checkCounters e.1 e.2 with
    | error fault =>
      rw [ih m htail]
      by_cases h : f = e.1
      · subst h
        simp [OrderedMap.lookup_eq_none hhead, hc, Except.isOk, Except.toBool]
      · simp [h]
    | ok _ =>
      -- what fits is decided by the skeleton, which the recorded head leaves alone
      have hcheck : ∀ counters, (m.applyCounters e.1 e.2 origin).1.checkCounters f counters =
          m.checkCounters f counters := fun _ => checkCounters_congr (reset_applyCounters ..) _ _
      simp only [ih _ htail, block?_applyCounters, hcheck, Option.map_map]
      by_cases h : f = e.1
      · subst h
        simp [OrderedMap.lookup_eq_none hhead, hc, Except.isOk, Except.toBool, Function.comp_def]
      · simp [h, Ne.symm h, Function.comp_def]

/-! ## Merges of visited blocks -/

/-- What a merge of visited blocks that succeeds has checked, and the model it gives. -/
theorem mergeTraceInto_ok {m n : Model} {f : FunctionId} {ids : List UInt32} {origin : String}
    {gain : Gain} (h : m.mergeTraceInto f ids origin = (.ok gain, n)) :
    ∃ blocks, m.get? f = some blocks ∧ checkVisits f blocks ids = .ok () ∧
      n = (m.applyCounters f (visitCounts blocks.length ids) origin).1 := by
  rw [mergeTraceInto_eq, Model.blocks] at h
  cases hf : m.get? f with
  | none =>
    rw [hf] at h
    cases h
  | some blocks =>
    cases hc : checkVisits f blocks ids with
    | error fault =>
      simp only [hf, hc] at h
      cases h
    | ok _ =>
      simp only [hf, hc] at h
      exact ⟨blocks, rfl, hc, (congrArg Prod.snd h).symm⟩

/-- Visited blocks that are not merged leave the model as it is. -/
theorem mergeTraceInto_error {m : Model} {f : FunctionId} {ids : List UInt32} {origin : String}
    {fault : Fault} (h : (m.mergeTraceInto f ids origin).1 = .error fault) :
    (m.mergeTraceInto f ids origin).2 = m := by
  rw [mergeTraceInto_eq] at h ⊢
  cases hblocks : m.blocks f with
  | error _ => rfl
  | ok blocks =>
    simp only [hblocks] at h ⊢
    cases hc : checkVisits f blocks ids with
    | error _ => rfl
    | ok _ =>
      simp only [hc] at h
      cases h

/-- Whether visited blocks fit a function is decided by the skeleton. -/
theorem isOk_mergeTraceInto (m : Model) (f : FunctionId) (ids : List UInt32) (origin : String) :
    (m.mergeTraceInto f ids origin).1.isOk =
      (m.get? f).any fun blocks => (checkVisits f blocks ids).isOk := by
  rw [mergeTraceInto_eq, Model.blocks]
  cases m.get? f with
  | none => rfl
  | some blocks => cases hc : checkVisits f blocks ids <;> simp [hc] <;> rfl

theorem block?_mergeTraceInto (m : Model) (f g : FunctionId) (ids : List UInt32) (origin : String)
    (i : Nat) :
    (m.mergeTraceInto f ids origin).2.block? g i =
      (m.block? g i).map (·.record
        (if f = g ∧ (m.mergeTraceInto f ids origin).1.isOk then visits ids i else 0) origin) := by
  rcases h : m.mergeTraceInto f ids origin with ⟨fault | gain, n⟩
  · obtain rfl : n = m := by
      have hstays := mergeTraceInto_error (congrArg Prod.fst h)
      rwa [h] at hstays
    simp [Except.isOk, Except.toBool]
  · obtain ⟨blocks, hf, -, hn⟩ := mergeTraceInto_ok h
    simp only [hn, block?_applyCounters, Except.isOk, Except.toBool, and_true]
    split
    · rename_i hg
      -- the function has a counter for every position that it has a block for
      rw [← hg, block?, hf, Option.bind_some]
      by_cases hi : i < blocks.length
      · rw [counterAt_visitCounts ids hi]
      · simp [hi]
    · rfl

end Model

end BlockCoverage
