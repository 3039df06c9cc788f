import BlockCoverage.Model.Merge

/-!
# Strict merges as computations on a model

A strict merge works on a model in place, and the model that it leaves is part of its result whether
or not it fails. It is made of questions, which leave the model as it is (`on_ask`), and of one
change, which does not fail (`on_change`). All its questions come before its change, so a merge that
fails is found with the model it was given (`mergeProfile_eq`, `mergeTraceInto_eq_checks`,
`merge_trace_eq`).
-/

namespace BlockCoverage.Model

namespace Merging

variable {α β : Type} (m : Model)

theorem on_bind (merging : Merging α) (next : α → Merging β) :
    (merging >>= next).on m =
      match merging.on m with
      | (.ok a, n) => (next a).on n
      | (.error fault, n) => (.error fault, n) := by
  show (match (merging.on m : Except Fault α × Model) with
    | (r, n) => (ExceptT.bindCont next r : StateM Model (Except Fault β)) n) = _
  rcases merging.on m with ⟨_ | a, n⟩ <;> rfl

/-- A question leaves the model as it is, whatever the answer. -/
theorem on_ask (question : Model → Except Fault α) : (ask question).on m = (question m, m) := by
  have hanswer : (ask question).on m = (MonadExcept.ofExcept (question m) : Merging α).on m := rfl
  rw [hanswer]
  cases question m <;> rfl

theorem on_change (step : Model → Model × Gain) :
    (change step).on m = (.ok (step m).2, (step m).1) := rfl

/-- Checking leaves the model as it is, so every check is made on the model of the first. -/
theorem on_checkAll (l : List (FunctionId × List UInt64)) :
    (checkAll l).on m = (l.forM fun e => m.checkCounters e.1 e.2, m) := by
  induction l with
  | nil => rfl
  | cons e l ih =>
    rw [checkAll, on_bind, on_ask]
    show _ = (m.checkCounters e.1 e.2 >>= fun _ => l.forM fun e => m.checkCounters e.1 e.2, m)
    cases m.checkCounters e.1 e.2 with
    | error fault => rfl
    | ok _ => exact ih

end Merging

open Merging

/-- A profile is recorded if all checks succeed on the model as it was given. -/
theorem mergeProfile_eq_checks (m : Model) (p : Profile) (origin : String) :
    m.mergeProfile p origin =
      match p.entries.forM fun e => m.checkCounters e.1 e.2 with
      | .ok _ => (.ok (m.applyProfile origin p.entries).2, (m.applyProfile origin p.entries).1)
      | .error fault => (.error fault, m) := by
  rw [mergeProfile, profile, on_bind, on_checkAll]
  cases p.entries.forM fun e => m.checkCounters e.1 e.2 with
  | error fault => rfl
  | ok _ => exact on_change _ _

/-- Visited blocks are recorded if all of them are blocks of the function as it was given. -/
theorem mergeTraceInto_eq_checks (m : Model) (f : FunctionId) (ids : List UInt32)
    (origin : String) :
    m.mergeTraceInto f ids origin =
      match m.blocks f with
      | .error fault => (.error fault, m)
      | .ok blocks =>
        match checkVisits f blocks ids with
        | .error fault => (.error fault, m)
        | .ok _ =>
          let visited := Visited.ofList ids
          let (after, gains) := recordVisits visited origin visited.order blocks
          (.ok ⟨gains, if ids.isEmpty then 0 else 1⟩, m.modify f fun _ => after) := by
  rw [mergeTraceInto, traceInto, on_bind, on_ask]
  cases m.blocks f with
  | error fault => rfl
  | ok blocks =>
    simp only [on_bind, on_ask]
    cases checkVisits f blocks ids <;> rfl

/-- Visited blocks go to the only function there is. -/
theorem merge_trace_eq (m : Model) (ids : List UInt32) (origin : String) :
    m.merge (.trace ids) origin =
      match m.traceContext with
      | .ok f => m.mergeTraceInto f ids origin
      | .error fault => (.error fault, m) := by
  rw [merge, ofRecord, on_bind, on_ask]
  cases m.traceContext <;> rfl

theorem model_ofResult (result : Except Fault Gain × Model) :
    (Merged.ofResult result).model = result.2 := by
  rcases result with ⟨_ | _, _⟩ <;> rfl

theorem merge_profile_eq (m : Model) (p : Profile) (origin : String) :
    m.merge (.profile p) origin = m.mergeProfile p origin := rfl

end BlockCoverage.Model
