import BlockCoverage.Proofs.Model.Attribution
import BlockCoverage.Proofs.Snapshot.RoundTrip

/-!
# Going on from a snapshot

A model and what is loaded from its snapshot are not the same: denied files are gone, and so is the
origin of every hit. Calls that name the functions they are made for cannot tell the two apart on
what is left. Whether such a call fits a function, and what it contributes to it, is read off that
function alone (`contribution_congr`), so a call that fails in one model for the sake of a denied
file still does the same to every other file.

So the snapshot of a run that was interrupted is the snapshot of the run that was not
(`run_load_dump`).
-/

namespace BlockCoverage

namespace Model

/-- A call that names the functions it is made for: what fits of a profile, or visited blocks with
their function. -/
def Call.NamesFunctions : Call → Prop
  | .lenient (.profile _) _ | .into _ _ _ => True
  | .strict _ _ | .lenient (.trace _) _ => False

instance : DecidablePred Call.NamesFunctions
  | .lenient (.profile _) _ | .into _ _ _ => inferInstanceAs (Decidable True)
  | .strict _ _ | .lenient (.trace _) _ => inferInstanceAs (Decidable False)

/-! ## A function is checked by itself -/

theorem checkCounters_congr_get? {m n : Model} {f : FunctionId}
    (h : m.reset.get? f = n.reset.get? f) (counters : List UInt64) :
    m.checkCounters f counters = n.checkCounters f counters := by
  rw [← checkCounters_reset m, ← checkCounters_reset n, checkCounters, checkCounters, h]

theorem isOk_mergeTraceInto_congr {m n : Model} {f : FunctionId}
    (h : m.reset.get? f = n.reset.get? f) (ids : List UInt32) (origin : String) :
    (m.mergeTraceInto f ids origin).1.isOk = (n.mergeTraceInto f ids origin).1.isOk := by
  rw [← isOk_mergeTraceInto_reset m, ← isOk_mergeTraceInto_reset n, isOk_mergeTraceInto,
    isOk_mergeTraceInto, h]

/-- What such a call contributes to a function does not depend on any other function. -/
theorem contribution_congr {m n : Model} {f : FunctionId} {call : Call}
    (hcall : call.NamesFunctions)
    (h : m.reset.get? f = n.reset.get? f) (i : Nat) :
    call.contribution m f i = call.contribution n f i := by
  cases call with
  | strict record origin => exact absurd hcall id
  | lenient record origin =>
    cases record with
    | trace ids => exact absurd hcall id
    | profile profile =>
      rw [Call.contribution, Call.contribution]
      cases profile.get? f with
      | none => rfl
      | some counters => simp only [checkCounters_congr_get? h]
  | into g ids origin =>
    rw [Call.contribution, Call.contribution, Call.visitContribution, Call.visitContribution]
    by_cases hg : g = f
    · rw [hg, isOk_mergeTraceInto_congr h]
    · rw [if_neg (fun hand => hg hand.1), if_neg (fun hand => hg hand.1)]

/-! ## Snapshots -/

/-- What a snapshot keeps of a function is the function without origins. -/
theorem get?_unattributed_kept {m : Model} {deny : Denylist} {f : FunctionId}
    (hf : deny.denies f.file = false) :
    (m.kept deny).unattributed.get? f = m.unattributed.get? f := by
  rw [get?_unattributed, get?_kept, hf, get?_unattributed]
  cases m.get? f with
  | none => rfl
  | some blocks =>
    simp only [Bool.false_eq_true, if_false, Option.map_some, List.map_map]
    rfl

theorem kept_eq_of_unattributed {m n : Model} {deny : Denylist}
    (h : ∀ f, deny.denies f.file = false → m.unattributed.get? f = n.unattributed.get? f) :
    m.kept deny = n.kept deny := by
  ext f : 1
  rw [get?_kept, get?_kept]
  cases hf : deny.denies f.file with
  | true => rfl
  | false =>
    have hfun := h f hf
    rw [get?_unattributed, get?_unattributed] at hfun
    exact hfun

/-- Calls made after loading the snapshot of a model give every function that is not denied the
blocks that the same calls on the model itself give it, but for the origins; and the snapshots of
the two are the same. -/
theorem run_load_dump (map : StaticMap) (before : List Call) (deny : Denylist) {after : List Call}
    (hafter : ∀ call ∈ after, call.NamesFunctions) :
    let m := run map.toModel before
    let resumed := Snapshot.load (Snapshot.dump m deny)
    (∀ f, deny.denies f.file = false →
      (run resumed after).unattributed.get? f = (run m after).unattributed.get? f) ∧
    Snapshot.dump (run resumed after) deny = Snapshot.dump (run m after) deny := by
  intro m resumed
  have hcounted : m.HitsCounted := hitsCounted_run map.hitsCounted_toModel before
  have hresumed : resumed = m.kept deny := load_dump hcounted deny
  have hagree : ∀ f, deny.denies f.file = false →
      (run resumed after).unattributed.get? f = (run m after).unattributed.get? f := by
    intro f hf
    have hstart : resumed.unattributed.get? f = m.unattributed.get? f := by
      rw [hresumed, get?_unattributed_kept hf]
    have hdeclared : resumed.reset.get? f = m.reset.get? f := by
      rw [← reset_unattributed, get?_reset, hstart, ← get?_reset, reset_unattributed]
    refine get?_unattributed_run hstart fun i => .of_eq (List.map_congr_left fun call hcall => ?_)
    exact contribution_congr (hafter call hcall) hdeclared i
  refine ⟨hagree, ?_⟩
  rw [← dump_kept, kept_eq_of_unattributed hagree, dump_kept]

/-- A file that is left out of the snapshot, a run that does not fit as a whole, and a visit to a
function that only the first model still has. -/
theorem run_load_dump_denied :
    let map : StaticMap := ⟨.ofList [
      ("a.c", [⟨"f", [⟨0, [⟨"a.c", 1⟩]⟩, ⟨1, []⟩]⟩]), ("runtimelib.c", [⟨"g", [⟨0, []⟩]⟩])]⟩
    let before := [Call.strict (.profile (.ofList [(⟨"a.c", "f"⟩, [4, 0])])) "first"]
    let after := [
      Call.lenient (.profile (.ofList [(⟨"a.c", "f"⟩, [1, 2]), (⟨"runtimelib.c", "g"⟩, [1, 1])]))
        "x",
      Call.into ⟨"runtimelib.c", "g"⟩ [0] "y"]
    let m := run map.toModel before
    let resumed := Snapshot.load (Snapshot.dump m .standard)
    (∀ call ∈ after, call.NamesFunctions) ∧
      Snapshot.dump (run resumed after) .standard = Snapshot.dump (run m after) .standard := by
  intro map before after m resumed
  have hafter : ∀ call ∈ after, call.NamesFunctions := by decide
  exact ⟨hafter, (run_load_dump map before .standard hafter).2⟩

end Model

end BlockCoverage
