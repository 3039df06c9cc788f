import BlockCoverage.Proofs.Model.Blocks

/-!
# The aggregate of a run of merges

A run of merges is a list of calls, each applied to the model that the calls before it left; a call
that fails leaves the model as it was. `Call.contribution` is what a call says about one block: the
count it records for it, or zero. The main statement, `run_block`, gives every block after a run in
closed form: the largest of its count and all contributions, hit if it was or if some contribution
is positive, and the origin of the first positive contribution behind the origins it had if it was
not hit before.

The proof is one step and one fold. A call records its contribution (`block?_apply`), and a fold of
records has the closed form (`foldl_record`). Whether a call succeeds is read off the skeleton,
which no call changes, so the contributions of a whole run are those that the first model gives.
-/

namespace BlockCoverage

namespace Model

/-- A request to merge a run into a model. -/
inductive Call where
  /-- Merge the record as a whole. -/
  | strict (record : Record) (origin : String)
  /-- Merge what fits of the record. -/
  | lenient (record : Record) (origin : String)
  /-- Merge visited blocks into the named function. -/
  | into (function : FunctionId) (ids : List UInt32) (origin : String)

namespace Call

/-- The run that the call is made for. -/
def origin : Call → String
  | strict _ origin => origin
  | lenient _ origin => origin
  | into _ _ origin => origin

/-- The model after a call, whether or not it fails. -/
def apply (m : Model) : Call → Model
  | strict record origin => (m.merge record origin).2
  | lenient record origin => (m.mergeLenient record origin).model
  | into f ids origin => (m.mergeTraceInto f ids origin).2

/-- What visited blocks merged into `g` contribute to position `i` of `f`: how often the position
was visited, if the merge succeeds and is into that function. -/
def visitContribution (m : Model) (g : FunctionId) (ids : List UInt32) (origin : String)
    (f : FunctionId) (i : Nat) : UInt64 :=
  if g = f ∧ (m.mergeTraceInto g ids origin).1.isOk then visits ids i else 0

/-- What a call made on the model `m` contributes to position `i` of the function `f`. -/
def contribution (m : Model) (f : FunctionId) (i : Nat) : Call → UInt64
  | strict (.profile profile) origin =>
    match profile.get? f with
    | some counters =>
      if (m.mergeProfile profile origin).1.isOk then counterAt counters i else 0
    | none => 0
  | lenient (.profile profile) _ =>
    match profile.get? f with
    | some counters => if (m.checkCounters f counters).isOk then counterAt counters i else 0
    | none => 0
  | strict (.trace ids) origin | lenient (.trace ids) origin =>
    match m.traceContext with
    | .ok g => visitContribution m g ids origin f i
    | .error _ => 0
  | into g ids origin => visitContribution m g ids origin f i

end Call

/-- The model after the calls, one after the other. -/
def run (m : Model) (calls : List Call) : Model := calls.foldl Call.apply m

theorem run_append (m : Model) (before after : List Call) :
    run m (before ++ after) = run (run m before) after :=
  List.foldl_append

/-- What the calls of a run contribute to position `i` of `f`, each on the model it is made on, with
the origins of the calls. -/
def contributions (f : FunctionId) (i : Nat) : Model → List Call → List (UInt64 × String)
  | _, [] => []
  | m, call :: rest =>
    (call.contribution m f i, call.origin) :: contributions f i (call.apply m) rest

/-! ## One call -/

theorem isOk_mergeProfile (m : Model) (profile : Profile) (origin : String) :
    (m.mergeProfile profile origin).1.isOk =
      (profile.entries.forM fun e => m.checkCounters e.1 e.2).isOk := by
  rw [mergeProfile_eq_checks]
  cases profile.entries.forM fun e => m.checkCounters e.1 e.2 <;> rfl

theorem block?_mergeProfile (m : Model) (profile : Profile) (origin : String) (f : FunctionId)
    (i : Nat) :
    (m.mergeProfile profile origin).2.block? f i =
      (m.block? f i).map
        (·.record (Call.contribution m f i (.strict (.profile profile) origin)) origin) := by
  rw [Call.contribution, mergeProfile_eq_checks]
  cases hc : profile.entries.forM fun e => m.checkCounters e.1 e.2 with
  | error fault => cases profile.get? f <;> simp [Except.isOk, Except.toBool]
  | ok _ =>
    have happly := block?_applyProfile m origin profile.nodup_keys f i
    rw [← OrderedMap.get?] at happly
    cases hf : profile.get? f <;> simpa [hf, Except.isOk, Except.toBool] using happly

/-- Visited blocks merged as a whole go to the only function there is. -/
theorem block?_mergeTrace (m : Model) (ids : List UInt32) (origin : String) (f : FunctionId)
    (i : Nat) :
    (m.merge (.trace ids) origin).2.block? f i =
      (m.block? f i).map
        (·.record (Call.contribution m f i (.strict (.trace ids) origin)) origin) := by
  rw [Call.contribution, merge_trace_eq]
  cases hg : m.traceContext with
  | error fault => simp
  | ok g => exact block?_mergeTraceInto m g f ids origin i

/-- Visited blocks are merged leniently as they are strictly. -/
theorem model_mergeLenient_trace (m : Model) (ids : List UInt32) (origin : String) :
    (m.mergeLenient (.trace ids) origin).model = (m.merge (.trace ids) origin).2 := by
  rw [mergeLenient]
  exact model_ofResult _

/-- A call records its contribution, block by block. -/
theorem block?_apply (m : Model) (call : Call) (f : FunctionId) (i : Nat) :
    (call.apply m).block? f i =
      (m.block? f i).map (·.record (call.contribution m f i) call.origin) := by
  cases call with
  | strict record origin =>
    cases record with
    | profile counters => exact block?_mergeProfile m counters origin f i
    | trace ids => exact block?_mergeTrace m ids origin f i
  | lenient record origin =>
    cases record with
    | profile counters =>
      have hfit := block?_mergeFitting m origin counters.nodup_keys f i
      rw [← OrderedMap.get?] at hfit
      cases hf : counters.get? f <;>
        simpa [hf, Call.apply, Call.contribution, mergeLenient, Call.origin] using hfit
    | trace ids =>
      rw [Call.apply, model_mergeLenient_trace]
      exact block?_mergeTrace m ids origin f i
  | into g ids origin => exact block?_mergeTraceInto m g f ids origin i

/-! ## Success is read off the skeleton -/

theorem isOk_mergeTraceInto_reset (m : Model) (f : FunctionId) (ids : List UInt32)
    (origin : String) :
    (m.reset.mergeTraceInto f ids origin).1.isOk = (m.mergeTraceInto f ids origin).1.isOk := by
  rw [isOk_mergeTraceInto, isOk_mergeTraceInto, get?_reset]
  cases m.get? f <;> simp

theorem isOk_mergeProfile_reset (m : Model) (profile : Profile) (origin : String) :
    (m.reset.mergeProfile profile origin).1.isOk = (m.mergeProfile profile origin).1.isOk := by
  simp only [isOk_mergeProfile, checkCounters_reset]

theorem contribution_reset (m : Model) (f : FunctionId) (i : Nat) (call : Call) :
    call.contribution m.reset f i = call.contribution m f i := by
  cases call with
  | strict record origin | lenient record origin =>
    cases record <;>
      simp only [Call.contribution, Call.visitContribution, traceContext_reset,
        isOk_mergeTraceInto_reset, isOk_mergeProfile_reset, checkCounters_reset]
  | into g ids origin =>
    simp only [Call.contribution, Call.visitContribution, isOk_mergeTraceInto_reset]

theorem reset_mergeTraceInto (m : Model) (f : FunctionId) (ids : List UInt32) (origin : String) :
    (m.mergeTraceInto f ids origin).2.reset = m.reset := by
  rcases h : m.mergeTraceInto f ids origin with ⟨fault | gain, n⟩
  · have hstays := mergeTraceInto_error (congrArg Prod.fst h)
    rw [h] at hstays
    exact congrArg reset hstays
  · obtain ⟨blocks, -, -, hn⟩ := mergeTraceInto_ok h
    exact (congrArg reset hn).trans (reset_applyCounters ..)

theorem reset_merge (m : Model) (record : Record) (origin : String) :
    (m.merge record origin).2.reset = m.reset := by
  cases record with
  | profile counters =>
    rw [merge_profile_eq, mergeProfile_eq_checks]
    cases counters.entries.forM fun e => m.checkCounters e.1 e.2 with
    | error fault => rfl
    | ok _ => exact reset_applyProfile m origin counters.entries
  | trace ids =>
    rw [merge_trace_eq]
    cases m.traceContext with
    | error fault => rfl
    | ok f => exact reset_mergeTraceInto m f ids origin

/-- No call changes what is declared. -/
theorem reset_apply (m : Model) (call : Call) : (call.apply m).reset = m.reset := by
  cases call with
  | strict record origin => exact reset_merge m record origin
  | lenient record origin =>
    cases record with
    | profile counters => exact reset_mergeFitting m origin counters.entries
    | trace ids =>
      rw [Call.apply, model_mergeLenient_trace]
      exact reset_merge m (.trace ids) origin
  | into f ids origin => exact reset_mergeTraceInto m f ids origin

/-- The contributions of a run are those that the calls make on its first model. -/
theorem contributions_eq_map (f : FunctionId) (i : Nat) (m : Model) (calls : List Call) :
    contributions f i m calls = calls.map fun call => (call.contribution m f i, call.origin) := by
  -- the head may change hits, but the skeleton it leaves is the one the tail is measured by
  suffices h : ∀ n : Model, n.reset = m.reset →
      contributions f i n calls = calls.map fun call => (call.contribution m f i, call.origin) from
    h m rfl
  induction calls with
  | nil => exact fun _ _ => rfl
  | cons call rest ih =>
    intro n hn
    have hcall : call.contribution n f i = call.contribution m f i := by
      rw [← contribution_reset, hn, contribution_reset]
    rw [contributions, List.map_cons, hcall, ih _ ((reset_apply n call).trans hn)]

/-! ## The closed form -/

/-- A fold of records keeps the largest count and the first origin with a positive count. -/
theorem foldl_record (b : Block) (counts : List (UInt64 × String)) :
    counts.foldl (fun b c => b.record c.1 c.2) b =
      { b with
        hit := b.hit || counts.any (fun c => decide (0 < c.1))
        count := (counts.map Prod.fst).foldl max b.count
        origins := if b.hit then b.origins
          else b.origins ++ ((counts.find? (fun c => decide (0 < c.1))).map Prod.snd).toList } := by
  induction counts generalizing b with
  | nil => cases b; simp
  | cons c counts ih =>
    rw [List.foldl_cons, ih, Block.record_eq]
    by_cases hc : 0 < c.1 <;> cases hb : b.hit <;> simp [hc]

theorem block?_run (m : Model) (calls : List Call) (f : FunctionId) (i : Nat) :
    (run m calls).block? f i = (m.block? f i).map fun b =>
      (contributions f i m calls).foldl (fun b c => b.record c.1 c.2) b := by
  induction calls generalizing m with
  | nil => simp [run, contributions]
  | cons call rest ih =>
    rw [run, List.foldl_cons, ← run, ih, block?_apply, Option.map_map]
    rfl

theorem reset_run (m : Model) (calls : List Call) : (run m calls).reset = m.reset := by
  induction calls generalizing m with
  | nil => rfl
  | cons call rest ih => exact (ih _).trans (reset_apply m call)

/-- What a call contributes does not depend on the run before it. -/
theorem contribution_run (m : Model) (calls : List Call) (f : FunctionId) (i : Nat) (call : Call) :
    call.contribution (run m calls) f i = call.contribution m f i := by
  rw [← contribution_reset, reset_run, contribution_reset]

/-- Every block after a run of merges, in closed form; what is declared stays. What the calls
contribute is measured along the run, and is the same as if each of them were made on the first
model. -/
theorem run_block (m : Model) (calls : List Call) (f : FunctionId) (i : Nat) :
    (contributions f i m calls =
      calls.map fun call => (call.contribution m f i, call.origin)) ∧
    ((run m calls).block? f i = (m.block? f i).map fun b =>
      { id := b.id
        lines := b.lines
        hit := b.hit || (contributions f i m calls).any (fun c => decide (0 < c.1))
        count := ((contributions f i m calls).map Prod.fst).foldl max b.count
        origins := if b.hit then b.origins
          else b.origins ++
            (((contributions f i m calls).find? (fun c => decide (0 < c.1))).map
              Prod.snd).toList }) ∧
    (run m calls).reset = m.reset := by
  refine ⟨contributions_eq_map f i m calls, ?_, reset_run m calls⟩
  rw [block?_run]
  simp only [foldl_record]

end Model

end BlockCoverage
