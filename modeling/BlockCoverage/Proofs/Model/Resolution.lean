import BlockCoverage.Proofs.Model.Addressing
import BlockCoverage.Proofs.Model.Partition
import BlockCoverage.Report

/-!
# What a lookup finds

A lookup goes through the name index, and what it should find is said by a scan of the functions
themselves (`Model.scan`). The two give the same list (`candidates_eq`), because the index was made
from the functions and no merge or reset declares a function or forgets one. So a lookup succeeds
just when the scan finds one function, and fails by the number of functions that it finds; and a
function that was found is declared, so that no view of it can fail for want of it.
-/

namespace BlockCoverage.Model

/-- The functions of a name whose file matches the hint, by going through all functions. -/
def scan (m : Model) (name : String) (hint : Option String) : List FunctionId :=
  m.functions.keys.filter fun f => f.name == name && hint.all (Path.matchesFile f.file)

theorem candidates_eq (m : Model) (name : String) (hint : Option String) :
    m.candidates name hint = m.scan name hint := by
  cases hint with
  | none => simp [candidates, scan, named_eq]
  | some file => simp [candidates, scan, named_eq, List.filter_filter, Bool.and_comm]

/-- The scan lists functions by file, each of them once. -/
theorem ordered_scan (m : Model) (name : String) (hint : Option String) :
    (m.scan name hint).Pairwise fun f g => compare f.file g.file = .lt := by
  have hordered := m.ordered_candidates name hint
  rw [candidates_eq] at hordered
  refine hordered.imp_of_mem fun {f g} hf hg hlt => ?_
  have hname : f.name = g.name := by
    simp only [scan, List.mem_filter, Bool.and_eq_true, beq_iff_eq] at hf hg
    rw [hf.2.1, hg.2.1]
  -- functions of one name can only be told apart by their files
  change (compare f.file g.file).then (compare f.name g.name) = .lt at hlt
  have hsame : compare g.name g.name = .eq := Std.ReflCmp.compare_self
  rw [hname, hsame, Ordering.then_eq] at hlt
  exact hlt

theorem resolve_eq_unknown_iff {m : Model} {name : String} {hint : Option String} :
    m.resolve name hint = .error (.unknownFunction name (hint.getD "<any>")) ↔
      m.candidates name hint = [] := by
  rw [resolve]
  split
  · rename_i hnil
    simp [hnil]
  · rename_i f hone
    simp [hone]
  · rename_i hnil hone
    constructor
    · intro h
      cases h
    · intro h
      exact absurd h hnil

theorem mem_keys_of_resolve {m : Model} {name : String} {hint : Option String} {f : FunctionId}
    (h : m.resolve name hint = .ok f) : f ∈ m.functions.keys := by
  have hmem : f ∈ m.candidates name hint := by
    rw [resolve_eq_ok_iff.mp h]
    exact List.mem_singleton.mpr rfl
  rw [candidates_eq] at hmem
  exact (List.mem_filter.mp hmem).1

/-- The views of a function by itself: none of them fails. -/
structure Viewable (m : Model) (f : FunctionId) : Prop where
  /-- The function has blocks. -/
  found : (m.get? f).isSome
  /-- Its lines can be sorted into classes. -/
  classified : (m.classify f).isOk
  /-- It has a share of covered blocks. -/
  measured : (m.coverageRatio f).isOk
  /-- Its blocks can be listed. -/
  listed : (Report.blocks m f).failure = none
  /-- Its share can be reported. -/
  reported : (Report.ratio m f).failure = none

theorem viewable_of_get? {m : Model} {f : FunctionId} {blocks : List Block}
    (hf : m.get? f = some blocks) : m.Viewable f := by
  have hratio : m.coverageRatio f = .ok (Tally.ofBlocks blocks).ratio := by
    rw [coverageRatio, Model.blocks, hf]
    rfl
  refine ⟨?found, ?classified, ?measured, ?listed, ?reported⟩
  case found => rw [hf]; rfl
  case classified => rw [classify_of_get? hf]; rfl
  case measured => rw [hratio]; rfl
  case listed => rw [Report.blocks, hf]
  case reported => rw [Report.ratio, hratio]

/-- Whatever was loaded, merged and forgotten, a lookup by name agrees with the functions that there
are: it lists those of the name by file, each once, and a lookup for one function comes to it, to
nothing or to several just as a scan finds one, none or several. What it comes to can be viewed. -/
theorem resolve_exact (m : Model) (name : String) :
    m.named name = m.scan name none ∧
    ∀ hint, (m.scan name hint).Pairwise (fun f g => compare f.file g.file = .lt) ∧
      (∀ f, m.resolve name hint = .ok f ↔ m.scan name hint = [f]) ∧
      (m.resolve name hint = .error (.unknownFunction name (hint.getD "<any>")) ↔
        m.scan name hint = []) ∧
      (m.resolve name hint = .error (.ambiguousFunction name (m.scan name hint)) ↔
        2 ≤ (m.scan name hint).length) ∧
      ∀ f, m.resolve name hint = .ok f → m.Viewable f := by
  refine ⟨m.candidates_eq name none, fun hint => ⟨m.ordered_scan name hint, ?_, ?_, ?_, ?_⟩⟩
  · intro f
    rw [resolve_eq_ok_iff, candidates_eq]
  · rw [resolve_eq_unknown_iff, candidates_eq]
  · rw [resolve_eq_ambiguous_iff, candidates_eq]
    exact and_iff_right rfl
  · intro f hresolve
    obtain ⟨blocks, hblocks⟩ :=
      Option.isSome_iff_exists.mp (OrderedMap.mem_keys_iff.mp (mem_keys_of_resolve hresolve))
    exact viewable_of_get? hblocks

/-- A function that is declared twice in one file, and once in another, is listed once for each
file. -/
example :
    (ofList [(⟨"b.c", "f"⟩, []), (⟨"a.c", "f"⟩, []), (⟨"b.c", "f"⟩, [.fresh 0 []])]).named "f" =
      [⟨"a.c", "f"⟩, ⟨"b.c", "f"⟩] := by
  decide +kernel

end BlockCoverage.Model
