import BlockCoverage.Proofs.Listing.Colours
import BlockCoverage.Proofs.Ordered.Lookup
import Mathlib.Data.List.Nodup
import Mathlib.Order.Bounds.Basic

/-!
# The rows of a listing

A function is listed from the first to the last line that its blocks declare in its own file. The
two are found in one pass over the declared lines (`isLeast_span`), and the lines of the text are
numbered from one and cut to what lies between them (`map_line_rowsBetween`). Numbers are kept in 32
bits, so they are the places of the lines only in a text of fewer than `2 ^ 32` lines.
-/

namespace BlockCoverage.Model

/-! ## The declared lines -/

/-- The lines that the blocks of a function declare in its own file; line zero stands for none. -/
def declaredLines (f : FunctionId) (blocks : List Block) : Set UInt32 :=
  {n | 0 < n ∧ ∃ b ∈ blocks, b.DeclaresIn f.file n}

theorem mem_ownLines {f : FunctionId} {blocks : List Block} {n : UInt32} :
    n ∈ ownLines f blocks ↔ n ∈ declaredLines f blocks := by
  simp only [ownLines, declaredLines, Block.DeclaresIn, List.mem_filter, List.mem_flatMap,
    List.mem_map, decide_eq_true_eq, Set.mem_ofPred_eq]
  constructor
  · rintro ⟨⟨b, hb, l, ⟨hl, hfile⟩, rfl⟩, hpos⟩
    exact ⟨hpos, b, hb, l, hl, rfl, hfile⟩
  · rintro ⟨hpos, b, hb, l, hl, rfl, hfile⟩
    exact ⟨⟨b, hb, l, ⟨hl, hfile⟩, rfl⟩, hpos⟩

theorem isLeast_min {S : Set UInt32} {a : UInt32} (h : IsLeast S a) (n : UInt32) :
    IsLeast (insert n S) (min a n) := by
  have hmin : min a n = if a ≤ n then a else n := rfl
  rw [hmin]
  split
  · rename_i hle
    exact ⟨Set.mem_insert_of_mem n h.1, Set.forall_mem_insert.mpr ⟨hle, h.2⟩⟩
  · rename_i hle
    have hlt : n ≤ a := UInt32.le_of_lt (UInt32.not_le.mp hle)
    refine ⟨Set.mem_insert n S, Set.forall_mem_insert.mpr ⟨UInt32.le_refl n, fun k hk => ?_⟩⟩
    exact UInt32.le_trans hlt (h.2 hk)

theorem isGreatest_max {S : Set UInt32} {a : UInt32} (h : IsGreatest S a) (n : UInt32) :
    IsGreatest (insert n S) (max a n) := by
  have hmax : max a n = if a ≤ n then n else a := rfl
  rw [hmax]
  split
  · rename_i hle
    refine ⟨Set.mem_insert n S, Set.forall_mem_insert.mpr ⟨UInt32.le_refl n, fun k hk => ?_⟩⟩
    exact UInt32.le_trans (h.2 hk) hle
  · rename_i hle
    have hlt : n ≤ a := UInt32.le_of_lt (UInt32.not_le.mp hle)
    exact ⟨Set.mem_insert_of_mem n h.1, Set.forall_mem_insert.mpr ⟨hlt, h.2⟩⟩

/-- The pass over the lines keeps the least and the greatest of those that it has seen. -/
theorem isLeast_foldl {S : Set UInt32} {s : UInt32 × UInt32} (hleast : IsLeast S s.1)
    (hgreatest : IsGreatest S s.2) (l : List UInt32) :
    let t := l.foldl (fun s n => (min s.1 n, max s.2 n)) s
    IsLeast (S ∪ {n | n ∈ l}) t.1 ∧ IsGreatest (S ∪ {n | n ∈ l}) t.2 := by
  induction l generalizing S s with
  | nil => simpa using ⟨hleast, hgreatest⟩
  | cons n l ih =>
    have hseen : S ∪ {k | k ∈ n :: l} = insert n S ∪ {k | k ∈ l} := by
      ext k
      simp only [Set.mem_union, Set.mem_ofPred_eq, List.mem_cons, Set.mem_insert_iff]
      tauto
    rw [hseen, List.foldl_cons]
    exact ih (isLeast_min hleast n) (isGreatest_max hgreatest n)

theorem isLeast_span {l : List UInt32} {first last : UInt32} (h : span l = some (first, last)) :
    IsLeast {n | n ∈ l} first ∧ IsGreatest {n | n ∈ l} last := by
  cases l with
  | nil => cases h
  | cons n l =>
    have hleast : IsLeast {n} n := ⟨rfl, fun k hk => hk ▸ UInt32.le_refl n⟩
    have hgreatest : IsGreatest {n} n := ⟨rfl, fun k hk => hk ▸ UInt32.le_refl n⟩
    have hspan := isLeast_foldl (s := (n, n)) hleast hgreatest l
    have hall : {k | k ∈ n :: l} = {n} ∪ {k | k ∈ l} := by
      ext k
      simp
    rw [Option.some.inj h] at hspan
    rwa [hall]

/-- The span is that of the declared lines, and there is none if no line is declared. -/
theorem span_ownLines (f : FunctionId) (blocks : List Block) :
    (declaredLines f blocks = ∅ ∧ span (ownLines f blocks) = none) ∨
      ∃ first last, span (ownLines f blocks) = some (first, last) ∧
        IsLeast (declaredLines f blocks) first ∧ IsGreatest (declaredLines f blocks) last := by
  have hdeclared : declaredLines f blocks = {n | n ∈ ownLines f blocks} :=
    Set.ext fun _ => mem_ownLines.symm
  rw [hdeclared]
  cases hspan : span (ownLines f blocks) with
  | none =>
    refine .inl ⟨?_, rfl⟩
    cases hown : ownLines f blocks with
    | nil => simp
    | cons n l =>
      rw [hown] at hspan
      cases hspan
  | some s => exact .inr ⟨s.1, s.2, rfl, isLeast_span hspan⟩

/-! ## The numbered lines -/

theorem filter_range' (first last n : Nat) (hfirst : 0 < first) :
    (List.range' 1 n).filter (fun k => decide (first ≤ k ∧ k ≤ last)) =
      List.range' first (min last n + 1 - first) := by
  have hordered : ∀ s len : Nat, (List.range' s len).Pairwise fun a b => compare a b = .lt :=
    fun s len => (List.pairwise_lt_range' 1).imp Nat.compare_eq_lt.mpr
  -- both lists are increasing, so their members are all there is to compare
  refine OrderedMap.eq_of_ordered_of_mem_iff ((hordered 1 n).filter _) (hordered _ _) fun k => ?_
  simp only [List.mem_filter, List.mem_range'_1, decide_eq_true_eq]
  omega

variable {first last : UInt32} {path : String} {lines : List String}

theorem toNat_place {n : Nat} (hlines : lines.length < UInt32.size)
    (hn : n ∈ List.range' 1 lines.length) : (UInt32.ofNat n).toNat = n := by
  rw [List.mem_range'_1] at hn
  exact UInt32.toNat_ofNat_of_lt (by omega)

/-- The rows are numbered without a gap, from the first line to the last or to the end of the
text. -/
theorem map_line_rowsBetween (hlines : lines.length < UInt32.size) (hfirst : 0 < first) :
    (rowsBetween first last path lines).map (fun r => r.line.toNat) =
      List.range' first.toNat (min last.toNat lines.length + 1 - first.toNat) := by
  rw [← filter_range' _ _ _ (UInt32.lt_iff_toNat_lt.mp hfirst), ← List.zipIdx_map_snd 1 lines,
    rowsBetween, List.filter_map, List.filter_map, List.map_map]
  -- the bounds are compared in 32 bits, and the text is short enough for that
  have hplace : ∀ e ∈ lines.zipIdx 1, (UInt32.ofNat e.2).toNat = e.2 := fun e he =>
    toNat_place hlines (List.zipIdx_map_snd 1 lines ▸ List.mem_map_of_mem he)
  rw [List.filter_congr (q := (fun k => decide (first.toNat ≤ k ∧ k ≤ last.toNat)) ∘ Prod.snd)
    fun e he => ?_]
  · exact List.map_congr_left fun e he => hplace e (List.mem_filter.mp he).1
  · simp only [Function.comp_apply, UInt32.le_iff_toNat_le, hplace e he]

theorem text_of_mem_rowsBetween {r : SourceRow} (hlines : lines.length < UInt32.size)
    (hr : r ∈ rowsBetween first last path lines) :
    lines[r.line.toNat - 1]? = some r.text ∧ r.path = path := by
  obtain ⟨e, he, rfl⟩ := List.mem_map.mp (List.mem_filter.mp hr).1
  have hplace : (UInt32.ofNat e.2).toNat = e.2 :=
    toNat_place hlines (List.zipIdx_map_snd 1 lines ▸ List.mem_map_of_mem he)
  exact ⟨by rw [hplace, (List.mem_zipIdx_iff_le_and_getElem?_sub.mp he).2], rfl⟩

/-- Every line between the two ends and within the text has just one row. -/
theorem count_line_rowsBetween {n : UInt32} (hlines : lines.length < UInt32.size)
    (hfirst : 0 < first)
    (hlow : first ≤ n) (hhigh : n ≤ last) (hn : n.toNat ≤ lines.length) :
    ((rowsBetween first last path lines).map SourceRow.line).count n = 1 := by
  have hnumbers := @map_line_rowsBetween first last path lines hlines hfirst
  have hnodup :
      (((rowsBetween first last path lines).map SourceRow.line).map UInt32.toNat).Nodup := by
    rw [List.map_map]
    exact hnumbers ▸ List.nodup_range' 1
  have hmem : n.toNat ∈ (rowsBetween first last path lines).map (fun r => r.line.toNat) := by
    rw [UInt32.le_iff_toNat_le] at hlow hhigh
    rw [hnumbers, List.mem_range'_1]
    omega
  obtain ⟨r, hr, hline⟩ := List.mem_map.mp hmem
  refine List.count_eq_one_of_mem (List.Nodup.of_map _ hnodup) ?_
  exact List.mem_map.mpr ⟨r, hr, UInt32.toNat_inj.mp hline⟩

/-! ## The source of a function -/

theorem sourceRows_of_span {m : Model} {f : FunctionId} {blocks : List Block}
    (hf : m.get? f = some blocks) (fs : Files) (root : String) :
    m.sourceRows fs root f =
      match span (ownLines f blocks) with
      | none => .ok []
      | some (first, last) =>
        match fs.read (Path.join root f.file) with
        | .error cause => .error (.io (Path.join root f.file) cause)
        | .ok bytes => .ok (rowsBetween first last (Path.join root f.file)
            (Text.lines (Text.Utf8.decodeLossy bytes))) := by
  have hblocks : m.blocks f = .ok blocks := by rw [Model.blocks, hf]
  rw [sourceRows, hblocks]
  rfl

/-- A function that declares no line of its own file has no rows, whatever files there are. Any
other is listed from its first declared line to its last one or to the end of the file: every line
between the two has one row, in order, with the text that the line has in the file. -/
theorem sourceRows_declared {m : Model} {f : FunctionId} {blocks : List Block}
    (hf : m.get? f = some blocks) (root : String) :
    (declaredLines f blocks = ∅ → ∀ fs, m.sourceRows fs root f = .ok []) ∧
    ((declaredLines f blocks).Nonempty → ∃ first last,
      IsLeast (declaredLines f blocks) first ∧ IsGreatest (declaredLines f blocks) last ∧
      ∀ (fs : Files) (bytes : Text.Bytes), fs.read (Path.join root f.file) = .ok bytes →
        let lines := Text.lines (Text.Utf8.decodeLossy bytes)
        lines.length < UInt32.size → ∃ rows, m.sourceRows fs root f = .ok rows ∧
          rows.map (fun r => r.line.toNat) =
            List.range' first.toNat (min last.toNat lines.length + 1 - first.toNat) ∧
          (∀ r ∈ rows,
            lines[r.line.toNat - 1]? = some r.text ∧ r.path = Path.join root f.file) ∧
          (∀ n ∈ declaredLines f blocks, n.toNat ≤ lines.length →
            (rows.map SourceRow.line).count n = 1) ∧
          (lines.length < first.toNat → rows = [])) := by
  rcases span_ownLines f blocks with ⟨hnone, hspan⟩ | ⟨first, last, hspan, hleast, hgreatest⟩
  · refine ⟨fun _ fs => ?_, fun hsome => absurd hnone hsome.ne_empty⟩
    rw [sourceRows_of_span hf, hspan]
  refine ⟨fun hnone => ?_, fun _ => ⟨first, last, hleast, hgreatest, ?_⟩⟩
  · exact absurd hleast.1 (hnone ▸ Set.notMem_empty first)
  intro fs bytes hread lines hlines
  have hpos : 0 < first := hleast.1.1
  have hnumbers := @map_line_rowsBetween first last (Path.join root f.file) lines hlines hpos
  refine ⟨rowsBetween first last (Path.join root f.file) lines, ?_, hnumbers, ?_, ?_, ?_⟩
  · rw [sourceRows_of_span hf, hspan, hread]
  · exact fun r hr => text_of_mem_rowsBetween hlines hr
  · intro n hn hle
    exact count_line_rowsBetween hlines hpos (hleast.2 hn) (hgreatest.2 hn) hle
  · intro hlt
    rw [show min last.toNat lines.length + 1 - first.toNat = 0 by omega] at hnumbers
    exact List.map_eq_nil_iff.mp hnumbers

/-- Declared are the second line and the fifth, line zero, and a line of a header; the text has
three lines, the last of which is not well formed. -/
theorem sourceRows_declared_short :
    let f : FunctionId := ⟨"k.c", "f"⟩
    let blocks : List Block :=
      [.fresh 0 [⟨"k.c", 5⟩, ⟨"h.h", 1⟩], .fresh 1 [⟨"k.c", 0⟩, ⟨"k.c", 2⟩]]
    let m : Model := .ofList [(f, blocks)]
    let bytes : Text.Bytes := [97, 10, 98, 13, 10, 255]
    let fs : Files := ⟨.ofList [(["k.c"], .file 1)], #[.ofDirectory, .ofBytes bytes], 0⟩
    let lines := Text.lines (Text.Utf8.decodeLossy bytes)
    m.get? f = some blocks ∧ (declaredLines f blocks).Nonempty ∧
      fs.read (Path.join "/" f.file) = .ok bytes ∧ lines.length < UInt32.size ∧
      lines = ["a", "b", "\ufffd"] ∧
      ∃ rows, m.sourceRows fs "/" f = .ok rows ∧ rows.map (fun r => r.line.toNat) = [2, 3] ∧
        ∀ r ∈ rows, lines[r.line.toNat - 1]? = some r.text ∧ r.path = Path.join "/" f.file := by
  intro f blocks m bytes fs lines
  have hf : m.get? f = some blocks := by decide +kernel
  have hread : fs.read (Path.join "/" f.file) = .ok bytes := by decide +kernel
  have hlines : lines = ["a", "b", "\ufffd"] := by decide +kernel
  have hshort : lines.length < UInt32.size := by
    rw [hlines]
    decide
  have hown : ownLines f blocks = [5, 2] := by decide +kernel
  have hdeclared : ∀ n, n ∈ declaredLines f blocks ↔ n ∈ [5, 2] := fun n => by
    rw [← mem_ownLines, hown]
  have hrange : ∀ n ∈ [(5 : UInt32), 2], 2 ≤ n ∧ n ≤ 5 :=
    List.forall_mem_cons.mpr ⟨by decide, List.forall_mem_singleton.mpr (by decide)⟩
  have hbounds : ∀ n ∈ declaredLines f blocks, 2 ≤ n ∧ n ≤ 5 := fun n hn =>
    hrange n ((hdeclared n).mp hn)
  have htwo : 2 ∈ declaredLines f blocks := (hdeclared 2).mpr (by decide)
  have hfive : 5 ∈ declaredLines f blocks := (hdeclared 5).mpr (by decide)
  obtain ⟨first, last, hleast, hgreatest, hall⟩ := (sourceRows_declared hf "/").2 ⟨2, htwo⟩
  obtain ⟨rows, hrows, hnumbers, htexts, -⟩ := hall fs bytes hread hshort
  have hfirst : first = 2 := UInt32.le_antisymm (hleast.2 htwo) (hbounds first hleast.1).1
  have hlast : last = 5 := UInt32.le_antisymm (hbounds last hgreatest.1).2 (hgreatest.2 hfive)
  have hlength : (Text.lines (Text.Utf8.decodeLossy bytes)).length = 3 :=
    congrArg List.length hlines
  rw [hfirst, hlast, hlength] at hnumbers
  exact ⟨hf, ⟨2, htwo⟩, hread, hshort, hlines, rows, hrows, hnumbers, htexts⟩

end BlockCoverage.Model
