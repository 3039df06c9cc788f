import BlockCoverage.Model.Summary
import BlockCoverage.Proofs.Model.Blocks
import Mathlib.Algebra.GroupWithZero.Nat

/-!
# What a merge reports

A merge reports how many blocks it hit for the first time and which parts of a run it left out. The
first is the growth of the number of covered blocks (`covered_mergeRecord`), so over many merges the
reports add up to the growth of the whole. The second is read off the skeleton
(`faults_mergeRecord_congr`), so it does not depend on earlier runs at all.

Covered blocks are a sum over the functions, and recording into one function exchanges one summand
(`sum_modify`).
-/

namespace BlockCoverage

namespace OrderedMap

variable {κ α : Type} [Ord κ] [Std.LawfulEqOrd κ]

/-- Changing a value exchanges one summand of a sum over the values. -/
theorem sum_modify {m : OrderedMap κ α} {k : κ} {a : α} (h : m.get? k = some a) (f : α → α)
    (size : α → Nat) :
    ((m.modify k f).entries.map fun e => size e.2).sum + size a =
      (m.entries.map fun e => size e.2).sum + size (f a) := by
  have hkeys : (m.entries.map Prod.fst).Nodup := m.nodup_keys
  rw [get?] at h
  rw [modify, mapValues, List.map_map]
  generalize m.entries = l at hkeys h ⊢
  induction l with
  | nil => cases h
  | cons e l ih =>
    obtain ⟨hhead, htail⟩ := List.nodup_cons.mp hkeys
    rw [lookup] at h
    simp only [List.map_cons, List.sum_cons, Function.comp_apply]
    split at h
    · rename_i hk
      obtain rfl := Option.some.inj h
      obtain rfl : k = e.1 := Std.LawfulEqCmp.eq_of_compare hk
      -- the key does not come again, so the rest of the sum stays
      have hrest : l.map ((fun e => size e.2) ∘
          fun d => (d.1, if compare e.1 d.1 = .eq then f d.2 else d.2)) =
          l.map fun d => size d.2 := by
        refine List.map_congr_left fun d hd => ?_
        have hne : e.1 ≠ d.1 := fun he => hhead (List.mem_map.mpr ⟨d, hd, he.symm⟩)
        rw [Function.comp_apply, if_neg fun hc => hne (Std.LawfulEqCmp.eq_of_compare hc)]
      rw [if_pos hk, hrest]
      omega
    · rename_i hk
      have hsum := ih htail h
      rw [if_neg hk]
      omega

end OrderedMap

/-- Adding tallies up adds up covered blocks and declared blocks. -/
theorem Tally.foldl_add (l : List (FunctionId × Tally)) (t : Tally) :
    l.foldl (fun t e => t.add e.2) t =
      ⟨t.covered + (l.map fun e => e.2.covered).sum, t.total + (l.map fun e => e.2.total).sum⟩ := by
  induction l generalizing t with
  | nil => rfl
  | cons e l ih =>
    rw [List.foldl_cons, ih, List.map_cons, List.sum_cons, List.map_cons, List.sum_cons]
    simp only [add, Nat.add_assoc]

namespace Model

/-- The blocks of a model, counted function by function. -/
theorem all_summarize (m : Model) :
    m.summarize.all =
      ⟨(m.functions.entries.map fun e => e.2.countP Block.hit).sum,
        (m.functions.entries.map fun e => e.2.length).sum⟩ := by
  rw [summarize]
  simp only [Tally.foldl_add, List.map_map, Nat.zero_add]
  rfl

theorem covered_eq_sum (m : Model) :
    m.summarize.all.covered = (m.functions.entries.map fun e => e.2.countP Block.hit).sum := by
  rw [all_summarize]

/-- How many blocks there are is a matter of the skeleton. -/
theorem total_reset (m : Model) : m.reset.summarize.all.total = m.summarize.all.total := by
  rw [all_summarize, all_summarize, reset, functions_withBlocks, OrderedMap.mapValues]
  simp only [List.map_map, Function.comp_def, List.length_map]

/-! ## Blocks that are hit for the first time -/

theorem covered_applyCounters (m : Model) (f : FunctionId) (counters : List UInt64)
    (origin : String) :
    (m.applyCounters f counters origin).1.summarize.all.covered =
      m.summarize.all.covered + (m.applyCounters f counters origin).2.blocks := by
  rw [covered_eq_sum, covered_eq_sum, applyCounters]
  cases h : m.get? f with
  | none => rfl
  | some blocks =>
    have hsum := OrderedMap.sum_modify h (recordAll origin · counters) (List.countP Block.hit)
    rw [countP_hit_recordAll] at hsum
    simp only [modify, functions_withBlocks] at hsum ⊢
    omega

theorem covered_mergeFitting (m : Model) (origin : String) (l : List (FunctionId × List UInt64)) :
    (m.mergeFitting origin l).model.summarize.all.covered =
      m.summarize.all.covered + (m.mergeFitting origin l).gain.blocks := by
  induction l generalizing m with
  | nil => rfl
  | cons e l ih =>
    rw [mergeFitting]
    split
    · exact ih m
    · have hhead := covered_applyCounters m e.1 e.2 origin
      have htail := ih (m.applyCounters e.1 e.2 origin).1
      simp only [Gain.add]
      omega

theorem covered_mergeTraceInto (m : Model) (f : FunctionId) (ids : List UInt32) (origin : String) :
    (m.mergeTraceInto f ids origin).2.summarize.all.covered =
      m.summarize.all.covered + (Merged.ofResult (m.mergeTraceInto f ids origin)).gain.blocks := by
  rw [mergeTraceInto_eq]
  cases m.blocks f with
  | error fault => rfl
  | ok blocks =>
    simp only
    cases checkVisits f blocks ids with
    | error fault => rfl
    | ok _ => exact covered_applyCounters m f (visitCounts blocks.length ids) origin

theorem covered_applyProfile (m : Model) (origin : String) (l : List (FunctionId × List UInt64)) :
    (m.applyProfile origin l).1.summarize.all.covered =
      m.summarize.all.covered + (m.applyProfile origin l).2.blocks := by
  induction l generalizing m with
  | nil => rfl
  | cons e l ih =>
    have hhead := covered_applyCounters m e.1 e.2 origin
    have htail := ih (m.applyCounters e.1 e.2 origin).1
    simp only [applyProfile, Gain.add]
    omega

theorem covered_merge (m : Model) (record : Record) (origin : String) :
    (m.merge record origin).2.summarize.all.covered =
      m.summarize.all.covered + (Merged.ofResult (m.merge record origin)).gain.blocks := by
  cases record with
  | profile counters =>
    rw [merge_profile_eq, mergeProfile_eq_checks]
    cases counters.entries.forM fun e => m.checkCounters e.1 e.2 with
    | error fault => rfl
    | ok _ => exact covered_applyProfile m origin counters.entries
  | trace ids =>
    rw [merge_trace_eq]
    cases m.traceContext with
    | error fault => rfl
    | ok f => exact covered_mergeTraceInto m f ids origin

theorem covered_mergeLenient (m : Model) (record : Record) (origin : String) :
    (m.mergeLenient record origin).model.summarize.all.covered =
      m.summarize.all.covered + (m.mergeLenient record origin).gain.blocks := by
  cases record with
  | profile counters => exact covered_mergeFitting m origin counters.entries
  | trace ids =>
    rw [mergeLenient, model_ofResult]
    exact covered_merge m (.trace ids) origin

/-- A merge reports as many new blocks as the model has more covered blocks after it. -/
theorem covered_mergeRecord (m : Model) (record : Record) (context : Option FunctionId)
    (origin : String) :
    (m.mergeRecord record context origin).model.summarize.all.covered =
      m.summarize.all.covered + (m.mergeRecord record context origin).gain.blocks := by
  cases record with
  | profile counters => exact covered_mergeFitting m origin counters.entries
  | trace ids =>
    cases context with
    | some f =>
      rw [mergeRecord, model_ofResult]
      exact covered_mergeTraceInto m f ids origin
    | none => exact covered_mergeLenient m (.trace ids) origin

/-! ## Parts that are left out -/

theorem faults_mergeFitting_congr {m n : Model} (h : m.reset = n.reset) (o p : String)
    (l : List (FunctionId × List UInt64)) :
    (m.mergeFitting o l).faults = (n.mergeFitting p l).faults := by
  induction l generalizing m n with
  | nil => rfl
  | cons e l ih =>
    rw [mergeFitting, mergeFitting, checkCounters_congr h]
    cases n.checkCounters e.1 e.2 with
    | error fault => simp only [ih h]
    | ok _ =>
      refine ih ?_
      rw [reset_applyCounters, reset_applyCounters, h]

theorem faults_mergeTraceInto_congr {m n : Model} (h : m.reset = n.reset) (f : FunctionId)
    (ids : List UInt32) (o p : String) :
    (Merged.ofResult (m.mergeTraceInto f ids o)).faults =
      (Merged.ofResult (n.mergeTraceInto f ids p)).faults := by
  have hf : m.reset.get? f = n.reset.get? f := by rw [h]
  rw [get?_reset, get?_reset] at hf
  rw [mergeTraceInto_eq, mergeTraceInto_eq, blocks, blocks]
  cases hm : m.get? f with
  | none =>
    rw [hm, Option.map_none, eq_comm, Option.map_eq_none_iff] at hf
    rw [hf]
    rfl
  | some bs =>
    rw [hm, Option.map_some, eq_comm, Option.map_eq_some_iff] at hf
    obtain ⟨cs, hn, hclear⟩ := hf
    have hvisits : checkVisits f bs ids = checkVisits f cs ids := by
      rw [← checkVisits_clear, ← hclear, checkVisits_clear]
    simp only [hn, hvisits]
    cases checkVisits f cs ids <;> rfl

/-- What is left out of a run depends on the skeleton only. -/
theorem faults_mergeRecord_congr {m n : Model} (h : m.reset = n.reset) (record : Record)
    (context : Option FunctionId) (o p : String) :
    (m.mergeRecord record context o).faults = (n.mergeRecord record context p).faults := by
  cases record with
  | profile counters => exact faults_mergeFitting_congr h o p counters.entries
  | trace ids =>
    cases context with
    | some f => exact faults_mergeTraceInto_congr h f ids o p
    | none =>
      have hcontext : m.traceContext = n.traceContext := by
        rw [← traceContext_reset, h, traceContext_reset]
      show (Merged.ofResult (m.merge (.trace ids) o)).faults =
        (Merged.ofResult (n.merge (.trace ids) p)).faults
      rw [merge_trace_eq, merge_trace_eq, hcontext]
      cases n.traceContext with
      | error fault => rfl
      | ok f => exact faults_mergeTraceInto_congr h f ids o p

end Model

end BlockCoverage
