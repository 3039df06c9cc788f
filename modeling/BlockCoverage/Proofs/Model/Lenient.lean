import BlockCoverage.Proofs.Model.Faults

/-!
# What a lenient merge leaves out

A lenient merge goes through a profile once: it checks a function, records it if it fits, and goes
on with the model that this leaves. No recording changes the skeleton, and the checks read nothing
else, so they come out as they do on the model before the merge (`mergeFitting_eq`). What is
recorded is therefore the part of the profile that fits, as a strict merge of that part records it,
and the faults are those of the rest.
-/

namespace BlockCoverage.Model

theorem misfit?_eq_none_iff_isOk {m : Model} {f : FunctionId} {counters : List UInt64} :
    m.misfit? f counters = none ↔ (m.checkCounters f counters).isOk := by
  rw [misfit?]
  cases m.checkCounters f counters <;> simp [Except.isOk, Except.toBool]

theorem mergeFitting_eq {m n : Model} (h : n.reset = m.reset) (origin : String)
    (l : List (FunctionId × List UInt64)) :
    let fitting := l.filter fun e => (m.checkCounters e.1 e.2).isOk
    n.mergeFitting origin l =
      ⟨(n.applyProfile origin fitting).1, (n.applyProfile origin fitting).2,
        l.filterMap fun e => m.misfit? e.1 e.2⟩ := by
  intro fitting
  induction l generalizing n with
  | nil => rfl
  | cons e l ih =>
    have hcheck : n.checkCounters e.1 e.2 = m.checkCounters e.1 e.2 := checkCounters_congr h e.1 e.2
    rw [mergeFitting, hcheck]
    cases hc : m.checkCounters e.1 e.2 with
    | error fault =>
      have hfitting : fitting = l.filter fun e => (m.checkCounters e.1 e.2).isOk :=
        List.filter_cons_of_neg (by simp [hc, Except.isOk, Except.toBool])
      have hfault : m.misfit? e.1 e.2 = some fault := by rw [misfit?, hc]
      simp only [ih h, hfitting, List.filterMap_cons, hfault]
    | ok _ =>
      have hfitting : fitting = e :: l.filter fun e => (m.checkCounters e.1 e.2).isOk :=
        List.filter_cons_of_pos (by simp [hc, Except.isOk, Except.toBool])
      have hnone : m.misfit? e.1 e.2 = none := by rw [misfit?, hc]
      -- the rest is checked on the model with the head recorded
      have hrest : (n.applyCounters e.1 e.2 origin).1.reset = m.reset := by
        rw [reset_applyCounters, h]
      simp only [ih hrest, hfitting, List.filterMap_cons, hnone, applyProfile]

/-- If there is no fault, the part that fits is the whole profile. -/
theorem filter_fitting_eq_self {m : Model} {p : Profile}
    (h : (p.entries.filterMap fun e => m.misfit? e.1 e.2) = []) :
    (p.filter fun f counters => (m.checkCounters f counters).isOk) = p := by
  apply OrderedMap.ext
  refine List.filter_eq_self.mpr ?_
  intro e he
  exact misfit?_eq_none_iff_isOk.mp (List.filterMap_eq_nil_iff.mp h e he)

/-- The part that fits has no misfit. -/
theorem findSome?_misfit?_fitting (m : Model) (p : Profile) :
    ((p.filter fun f counters => (m.checkCounters f counters).isOk).entries.findSome?
      fun e => m.misfit? e.1 e.2) = none := by
  rw [List.findSome?_eq_none_iff]
  intro e he
  exact misfit?_eq_none_iff_isOk.mpr (List.mem_filter.mp he).2

/-- A lenient merge of a profile records what a strict merge of the part that fits records, and
names every function that is left out, in order; so the strict merge of the whole succeeds just when
nothing is left out, and fails with the first fault otherwise. A lenient merge of visited blocks is
the strict one, a failure seen as one fault and no change. -/
theorem mergeLenient_eq_merge (m : Model) (origin : String) :
    (∀ p : Profile,
      let fitting : Profile := p.filter fun f counters => (m.checkCounters f counters).isOk
      let lenient := m.mergeLenient (.profile p) origin
      m.merge (.profile fitting) origin = (.ok lenient.gain, lenient.model) ∧
      lenient.faults = (p.entries.filterMap fun e => m.misfit? e.1 e.2) ∧
      ((m.merge (.profile p) origin).1.isOk ↔ lenient.faults = []) ∧
      m.merge (.profile p) origin =
        match lenient.faults with
        | [] => (.ok lenient.gain, lenient.model)
        | fault :: _ => (.error fault, m)) ∧
    ∀ ids : List UInt32,
      m.mergeLenient (.trace ids) origin =
        match m.merge (.trace ids) origin with
        | (.ok gain, n) => ⟨n, gain, []⟩
        | (.error fault, _) => ⟨m, .none, [fault]⟩ := by
  constructor
  · intro p fitting lenient
    have hlenient : lenient = ⟨(m.applyProfile origin fitting.entries).1,
        (m.applyProfile origin fitting.entries).2,
        p.entries.filterMap fun e => m.misfit? e.1 e.2⟩ := mergeFitting_eq rfl origin p.entries
    have hfaults : lenient.faults = p.entries.filterMap fun e => m.misfit? e.1 e.2 := by
      rw [hlenient]
    have hpart : m.merge (.profile fitting) origin = (.ok lenient.gain, lenient.model) := by
      rw [merge_profile_eq, mergeProfile_eq, m.findSome?_misfit?_fitting p, hlenient]
    have hwhole : m.merge (.profile p) origin =
        match lenient.faults with
        | [] => (.ok lenient.gain, lenient.model)
        | fault :: _ => (.error fault, m) := by
      have hhead : lenient.faults.head? = p.entries.findSome? fun e => m.misfit? e.1 e.2 := by
        rw [hfaults, List.head?_filterMap]
      rw [merge_profile_eq, mergeProfile_eq, ← hhead]
      cases hf : lenient.faults with
      | nil =>
        have hall : fitting = p := filter_fitting_eq_self (hfaults.symm.trans hf)
        rw [hlenient, hall]
        rfl
      | cons fault faults => rfl
    refine ⟨hpart, hfaults, ?_, hwhole⟩
    rw [hwhole]
    cases lenient.faults <;> simp [Except.isOk, Except.toBool]
  · intro ids
    rw [mergeLenient]
    rcases hmerge : m.merge (.trace ids) origin with ⟨fault | gain, n⟩
    · have hstays := merge_error (congrArg Prod.fst hmerge)
      rw [hmerge] at hstays
      rw [← hstays]
      rfl
    · rfl

end BlockCoverage.Model
