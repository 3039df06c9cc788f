import BlockCoverage.Proofs.Model.Aggregate
import BlockCoverage.Proofs.Model.Fitting

/-!
# The fault of a merge

A strict merge checks a whole run before it records anything. So it succeeds just when everything
fits, and otherwise gives the reason of the first thing that does not fit: the least function of a
profile (`mergeProfile_eq_error_iff`), the earliest visit of a trace
(`mergeTraceInto_eq_error_iff`). The model that a failed merge leaves behind is then the one that it
was given (`merge_error`).
-/

namespace BlockCoverage

namespace FunctionId

/-- Functions are listed by file, then by name. -/
def Precedes (f g : FunctionId) : Prop := f.file < g.file ∨ f.file = g.file ∧ f.name < g.name

theorem compare_eq_lt_iff {f g : FunctionId} : compare f g = .lt ↔ f.Precedes g := by
  show (compare f.file g.file).then (compare f.name g.name) = .lt ↔ _
  have hfile : compare f.file g.file = .lt ↔ f.file < g.file := compareOfLessAndEq_eq_lt
  have hname : compare f.name g.name = .lt ↔ f.name < g.name := compareOfLessAndEq_eq_lt
  rw [Ordering.then_eq_lt, Std.LawfulEqCmp.compare_eq_iff_eq, hfile, hname]
  exact Iff.rfl

end FunctionId

namespace Model

/-! ## Profiles -/

theorem mergeProfile_eq_ok_iff {m : Model} {p : Profile} {origin : String} {gain : Gain}
    {n : Model} :
    m.mergeProfile p origin = (.ok gain, n) ↔
      (∀ f counters, p.get? f = some counters → m.Fits f counters) ∧
        (n, gain) = m.applyProfile origin p.entries := by
  have hall : (p.entries.findSome? fun e => m.misfit? e.1 e.2) = none ↔
      ∀ f counters, p.get? f = some counters → m.Fits f counters := by
    rw [List.findSome?_eq_none_iff]
    constructor
    · intro h f counters hf
      exact misfit?_eq_none_iff.mp (h (f, counters) (OrderedMap.get?_eq_some_iff.mp hf))
    · intro h e he
      exact misfit?_eq_none_iff.mpr (h e.1 e.2 (OrderedMap.get?_eq_some_iff.mpr he))
  rw [← hall, mergeProfile_eq]
  cases p.entries.findSome? fun e => m.misfit? e.1 e.2 with
  | none => simp [Prod.ext_iff, eq_comm, and_comm]
  | some fault => simp

theorem mergeProfile_eq_error_iff {m : Model} {p : Profile} {origin : String} {fault : Fault} :
    (m.mergeProfile p origin).1 = .error fault ↔
      ∃ f counters, p.get? f = some counters ∧ m.Misfit f counters fault ∧
        ∀ g others, p.get? g = some others → g.Precedes f → m.Fits g others := by
  have hfirst := OrderedMap.findSome?_entries_eq_some_iff (m := p) (g := m.misfit?) (b := fault)
  simp only [misfit?_eq_some_iff, misfit?_eq_none_iff, FunctionId.compare_eq_lt_iff] at hfirst
  rw [← hfirst, mergeProfile_eq]
  cases p.entries.findSome? fun e => m.misfit? e.1 e.2 <;> simp

/-! ## Visited blocks -/

theorem mergeTraceInto_of_none {m : Model} {f : FunctionId} (hf : m.get? f = none)
    (ids : List UInt32) (origin : String) :
    (m.mergeTraceInto f ids origin).1 = .error (.unknown f) := by
  rw [mergeTraceInto_eq, Model.blocks, hf]

theorem mergeTraceInto_eq_error_iff {m : Model} {f : FunctionId} {blocks : List Block}
    (hf : m.get? f = some blocks) {ids : List UInt32} {origin : String} {fault : Fault} :
    (m.mergeTraceInto f ids origin).1 = .error fault ↔
      ∃ before id after, ids = before ++ id :: after ∧ (∀ v ∈ before, HasBlock blocks v) ∧
        Stray f blocks id fault := by
  rw [← checkVisits_eq_error_iff, mergeTraceInto_eq, Model.blocks, hf]
  cases hc : checkVisits f blocks ids <;> simp [hc]

theorem isOk_mergeTraceInto_iff {m : Model} {f : FunctionId} {blocks : List Block}
    (hf : m.get? f = some blocks) {ids : List UInt32} {origin : String} :
    (m.mergeTraceInto f ids origin).1.isOk ↔ ∀ id ∈ ids, HasBlock blocks id := by
  rw [← checkVisits_eq_ok_iff (f := f), isOk_mergeTraceInto, hf, Option.any_some]
  cases checkVisits f blocks ids <;> simp [Except.isOk, Except.toBool]

/-- The only fault of visited blocks that names no block is that their function is not declared. -/
theorem mergeTraceInto_eq_unknown_iff {m : Model} {f : FunctionId} {ids : List UInt32}
    {origin : String} :
    (m.mergeTraceInto f ids origin).1 = .error (.unknown f) ↔ m.get? f = none := by
  constructor
  · intro h
    cases hf : m.get? f with
    | none => rfl
    | some blocks =>
      obtain ⟨_, _, _, -, -, hstray⟩ := (mergeTraceInto_eq_error_iff hf).mp h
      cases hstray
  · intro hf
    exact mergeTraceInto_of_none hf ids origin

theorem mergeTraceInto_ne_ambiguous (m : Model) (f : FunctionId) (ids : List UInt32)
    (origin : String) (n : Nat) :
    (m.mergeTraceInto f ids origin).1 ≠ .error (.ambiguousContext n) := by
  intro h
  cases hf : m.get? f with
  | none =>
    rw [mergeTraceInto_of_none hf] at h
    cases h
  | some blocks =>
    obtain ⟨_, _, _, -, -, hstray⟩ := (mergeTraceInto_eq_error_iff hf).mp h
    cases hstray

/-! ## Strict merges -/

/-- Visited blocks have to be named a function unless there is only one. -/
theorem merge_trace_eq_ambiguous_iff {m : Model} {ids : List UInt32} {origin : String} {n : Nat} :
    (m.merge (.trace ids) origin).1 = .error (.ambiguousContext n) ↔ m.size ≠ 1 ∧ n = m.size := by
  have hsize : m.functions.keys.length = m.size := List.length_map _
  rw [← hsize, merge_trace_eq, traceContext]
  rcases hkeys : m.functions.keys with _ | ⟨f, _ | ⟨g, rest⟩⟩
  · simp [← hsize, hkeys, eq_comm]
  · -- the only function takes the visits, and may fail for another reason
    have hother := m.mergeTraceInto_ne_ambiguous f ids origin n
    simpa using hother
  · simp [← hsize, hkeys, eq_comm]

/-- A strict merge that fails leaves the model as it was given. -/
theorem merge_error {m : Model} {record : Record} {origin : String} {fault : Fault}
    (h : (m.merge record origin).1 = .error fault) : (m.merge record origin).2 = m := by
  cases record with
  | profile counters =>
    rw [merge_profile_eq, mergeProfile_eq] at h ⊢
    cases hfirst : counters.entries.findSome? fun e => m.misfit? e.1 e.2 with
    | some _ => rfl
    | none =>
      rw [hfirst] at h
      cases h
  | trace ids =>
    rw [merge_trace_eq] at h ⊢
    cases hcontext : m.traceContext with
    | error _ => rfl
    | ok f =>
      rw [hcontext] at h
      exact mergeTraceInto_error h

/-- A strict merge records a run as a whole, or fails with the reason of the first thing that does
not fit and leaves the model as it is. For a profile that is the least function that does not fit,
for visits the earliest one that is no block; visits that name no function need a model of one. -/
theorem merge_first_fault (m : Model) (origin : String) :
    (∀ p : Profile,
      ((m.merge (.profile p) origin).1.isOk ↔
        ∀ f counters, p.get? f = some counters → m.Fits f counters) ∧
      (∀ n gain, m.merge (.profile p) origin = (.ok gain, n) → ∀ f i, n.block? f i =
        (m.block? f i).map (·.record (((p.get? f).map (counterAt · i)).getD 0) origin)) ∧
      ∀ fault, (m.merge (.profile p) origin).1 = .error fault ↔
        ∃ f counters, p.get? f = some counters ∧ m.Misfit f counters fault ∧
          ∀ g others, p.get? g = some others → g.Precedes f → m.Fits g others) ∧
    (∀ ids : List UInt32,
      (∀ n, (m.merge (.trace ids) origin).1 = .error (.ambiguousContext n) ↔
        m.size ≠ 1 ∧ n = m.size) ∧
      ∀ f, m.functions.keys = [f] → m.merge (.trace ids) origin = m.mergeTraceInto f ids origin) ∧
    (∀ (f : FunctionId) (ids : List UInt32),
      ((m.mergeTraceInto f ids origin).1 = .error (.unknown f) ↔ m.get? f = none) ∧
      ∀ blocks, m.get? f = some blocks →
        ((m.mergeTraceInto f ids origin).1.isOk ↔ ∀ id ∈ ids, HasBlock blocks id) ∧
        ∀ fault, (m.mergeTraceInto f ids origin).1 = .error fault ↔
          ∃ before id after, ids = before ++ id :: after ∧ (∀ v ∈ before, HasBlock blocks v) ∧
            Stray f blocks id fault) ∧
    (∀ record fault, (m.merge record origin).1 = .error fault →
      (m.merge record origin).2 = m) ∧
    ∀ f ids fault, (m.mergeTraceInto f ids origin).1 = .error fault →
      (m.mergeTraceInto f ids origin).2 = m := by
  refine ⟨?profiles, ?traces, ?visits, fun _ _ => merge_error, fun _ _ _ => mergeTraceInto_error⟩
  case profiles =>
    intro p
    refine ⟨?_, ?_, fun fault => mergeProfile_eq_error_iff⟩
    · have hok : (m.mergeProfile p origin).1.isOk ↔
          ∃ gain n, m.mergeProfile p origin = (.ok gain, n) := by
        rcases m.mergeProfile p origin with ⟨_ | _, _⟩ <;> simp [Except.isOk, Except.toBool]
      rw [merge_profile_eq, hok]
      constructor
      · rintro ⟨gain, n, hn⟩
        exact (mergeProfile_eq_ok_iff.mp hn).1
      · intro hfits
        exact ⟨_, _, mergeProfile_eq_ok_iff.mpr ⟨hfits, rfl⟩⟩
    · intro n gain hn f i
      have hn' := (mergeProfile_eq_ok_iff.mp hn).2
      have happly := block?_applyProfile m origin p.nodup_keys f i
      rwa [← hn', ← OrderedMap.get?] at happly
  case traces =>
    intro ids
    refine ⟨fun n => merge_trace_eq_ambiguous_iff, ?_⟩
    intro f hkeys
    rw [merge_trace_eq, traceContext, hkeys]
  case visits =>
    intro f ids
    refine ⟨mergeTraceInto_eq_unknown_iff, ?_⟩
    intro blocks hf
    exact ⟨isOk_mergeTraceInto_iff hf, fun fault => mergeTraceInto_eq_error_iff hf⟩

/-- Two functions of a profile do not fit, and the reason given is that of the lesser one, whose
second block is out of place; two visits do not fit, and the reason given is that of the earlier
one. -/
theorem merge_first_fault_two :
    let f : FunctionId := ⟨"a.c", "f"⟩
    let m := ofList [(f, [.fresh 0 [], .fresh 7 []]), (⟨"b.c", "g"⟩, [.fresh 0 []])]
    let p : Profile := .ofList [(⟨"b.c", "h"⟩, [4]), (⟨"b.c", "g"⟩, [2]), (f, [1, 1])]
    m.merge (.profile p) "x" = (.error (.idMismatch f 1 7), m) ∧
      m.merge (.trace []) "x" = (.error (.ambiguousContext 2), m) ∧
      m.mergeTraceInto f [0, 5, 1] "x" = (.error (.unknownBlock f 5 2), m) := by
  intro f m p
  obtain ⟨hprofile, htrace, hvisits, hrecord, hinto⟩ := merge_first_fault m "x"
  have hblocks : m.get? f = some [.fresh 0 [], .fresh 7 []] := by decide +kernel
  have hmisfit : m.Misfit f [1, 1] (.idMismatch f 1 7) := by
    refine .misplaced (i := 1) (b := .fresh 7 []) hblocks rfl rfl (by decide) ?_
    intro j hj c hc
    obtain rfl : j = 0 := by omega
    obtain rfl : Block.fresh 0 [] = c := Option.some.inj hc
    rfl
  have hleast : ∀ e ∈ p.entries, compare e.1 f ≠ .lt := by decide +kernel
  have hmerge : (m.merge (.profile p) "x").1 = .error (.idMismatch f 1 7) := by
    refine ((hprofile p).2.2 _).mpr ⟨f, [1, 1], by decide +kernel, hmisfit, ?_⟩
    intro g others hg hlt
    have hmem := OrderedMap.get?_eq_some_iff.mp hg
    exact absurd (FunctionId.compare_eq_lt_iff.mpr hlt) (hleast (g, others) hmem)
  have hfirst : ∀ id ∈ [(0 : UInt32)], HasBlock [.fresh 0 [], .fresh 7 []] id := by
    intro id hid
    rw [List.mem_singleton.mp hid]
    exact ⟨.fresh 0 [], rfl, rfl⟩
  have hstray : (m.mergeTraceInto f [0, 5, 1] "x").1 = .error (.unknownBlock f 5 2) :=
    (((hvisits f [0, 5, 1]).2 _ hblocks).2 _).mpr ⟨[0], 5, [1], rfl, hfirst, .outside (by decide)⟩
  have hcontext : (m.merge (.trace []) "x").1 = .error (.ambiguousContext 2) :=
    ((htrace []).1 2).mpr ⟨by decide +kernel, by decide +kernel⟩
  exact ⟨Prod.ext hmerge (hrecord _ _ hmerge), Prod.ext hcontext (hrecord _ _ hcontext),
    Prod.ext hstray (hinto _ _ _ hstray)⟩

end Model

end BlockCoverage
