import BlockCoverage.Model.Lines
import BlockCoverage.Proofs.Model.Aggregate
import BlockCoverage.Proofs.Ordered.Members

/-!
# Line classes under merges

The class of a line is a matter of two questions: whether some hit block declares it, and whether
some block that was not hit does (`classOf_ofBlocks`). Merges keep what is declared, and a block
that was hit stays hit by the same run. So the first answer can only turn to yes and the second only
to no, never both away from a line that is declared: the class can only improve.

`Block.Advances` is what a merge may do to one block, and `Model.Advances` to all. One call advances
a model (`advances_apply`), so a run does (`advances_run`), and what follows for lines is read off
`Model.Advances` alone.
-/

namespace BlockCoverage

/-! ## Classes by existence -/

namespace LineClass

/-- The class of a line, given whether a hit block declares it and whether one that is not hit
does. -/
def ofWitnesses : Bool → Bool → LineClass
  | true, false => covered
  | false, true => uncovered
  | true, true => mixed
  | false, false => unknown

/-- What can become of a line when blocks are hit. -/
inductive ImprovesTo : LineClass → LineClass → Prop where
  /-- Nothing changes for the line. -/
  | same (c : LineClass) : ImprovesTo c c
  /-- The first of several blocks is hit. -/
  | begun : ImprovesTo uncovered mixed
  /-- The last of several blocks is hit. -/
  | completed : ImprovesTo mixed covered
  /-- All blocks are hit. -/
  | coveredAtOnce : ImprovesTo uncovered covered

theorem improvesTo_ofWitnesses {hit unhit hit' unhit' : Bool} (hhit : hit = true → hit' = true)
    (hunhit : unhit' = true → unhit = true) (hdeclared : (hit' || unhit') = (hit || unhit)) :
    (ofWitnesses hit unhit).ImprovesTo (ofWitnesses hit' unhit') := by
  cases hit <;> cases unhit <;> cases hit' <;> cases unhit' <;> simp at hhit hunhit hdeclared <;>
    first
      | exact .same _
      | exact .begun
      | exact .completed
      | exact .coveredAtOnce

end LineClass

namespace Block

theorem coversLine_iff {b : Block} {line : UInt32} :
    b.coversLine line = true ↔ line ∈ b.lines.map SourceLine.line := by
  rw [coversLine, List.any_eq_true, List.mem_map]
  simp only [beq_iff_eq]

/-- Whether a hit block declares the line. -/
def hitOn (blocks : List Block) (line : UInt32) : Bool :=
  blocks.any fun b => b.hit && b.coversLine line

/-- Whether a block that was not hit declares the line. -/
def unhitOn (blocks : List Block) (line : UInt32) : Bool :=
  blocks.any fun b => !b.hit && b.coversLine line

/-- A block that declares the line was hit or was not. -/
theorem hitOn_or_unhitOn (blocks : List Block) (line : UInt32) :
    (hitOn blocks line || unhitOn blocks line) = blocks.any fun b => b.coversLine line := by
  induction blocks with
  | nil => rfl
  | cons b blocks ih =>
    rw [hitOn, unhitOn, List.any_cons, List.any_cons, List.any_cons, ← ih, hitOn, unhitOn]
    cases b.hit <;> cases b.coversLine line <;> simp

theorem mem_lines (blocks : List Block) (line : UInt32) :
    (OrderedSet.ofList (blocks.flatMap fun b => b.lines.map SourceLine.line)).mem line =
      blocks.any fun b => b.coversLine line := by
  rw [Bool.eq_iff_iff, OrderedSet.mem_ofList, List.mem_flatMap, List.any_eq_true]
  simp only [coversLine_iff]

theorem mem_lines_hit (blocks : List Block) (line : UInt32) :
    (OrderedSet.ofList ((blocks.filter fun b => b.hit).flatMap fun b =>
      b.lines.map SourceLine.line)).mem line = hitOn blocks line := by
  rw [mem_lines, List.any_filter, hitOn]

theorem mem_lines_unhit (blocks : List Block) (line : UInt32) :
    (OrderedSet.ofList ((blocks.filter fun b => !b.hit).flatMap fun b =>
      b.lines.map SourceLine.line)).mem line = unhitOn blocks line := by
  rw [mem_lines, List.any_filter, unhitOn]

end Block

namespace LineClasses

open Block

theorem mem_covered_ofBlocks (blocks : List Block) (line : UInt32) :
    (ofBlocks blocks).covered.mem line = (hitOn blocks line && !unhitOn blocks line) := by
  simp only [ofBlocks, OrderedSet.mem_diff, OrderedSet.mem_inter, mem_lines_hit, mem_lines_unhit]
  cases hitOn blocks line <;> simp

theorem mem_uncovered_ofBlocks (blocks : List Block) (line : UInt32) :
    (ofBlocks blocks).uncovered.mem line = (unhitOn blocks line && !hitOn blocks line) := by
  simp only [ofBlocks, OrderedSet.mem_diff, OrderedSet.mem_inter, mem_lines_hit, mem_lines_unhit]
  cases unhitOn blocks line <;> simp

theorem mem_mixed_ofBlocks (blocks : List Block) (line : UInt32) :
    (ofBlocks blocks).mixed.mem line = (hitOn blocks line && unhitOn blocks line) := by
  simp only [ofBlocks, OrderedSet.mem_inter, mem_lines_hit, mem_lines_unhit]

theorem classOf_ofBlocks (blocks : List Block) (line : UInt32) :
    (ofBlocks blocks).classOf line = .ofWitnesses (hitOn blocks line) (unhitOn blocks line) := by
  rw [classOf, mem_covered_ofBlocks, mem_uncovered_ofBlocks, mem_mixed_ofBlocks]
  cases hitOn blocks line <;> cases unhitOn blocks line <;> rfl

/-- The three classes together hold the lines that are declared. -/
theorem all_ofBlocks (blocks : List Block) :
    (ofBlocks blocks).all =
      OrderedSet.ofList (blocks.flatMap fun b => b.lines.map SourceLine.line) := by
  apply OrderedSet.ext_mem
  intro line
  rw [mem_lines, ← hitOn_or_unhitOn, Bool.eq_iff_iff, all, OrderedSet.mem_ofList]
  simp only [List.mem_append, OrderedSet.mem_toList_iff, mem_covered_ofBlocks,
    mem_uncovered_ofBlocks, mem_mixed_ofBlocks]
  cases hitOn blocks line <;> cases unhitOn blocks line <;> simp

end LineClasses

/-! ## Advancing blocks -/

/-- A later state of a block: it is declared alike, and if it was hit it still is, by the same
run. -/
structure Block.Advances (b c : Block) : Prop where
  /-- The lines stay. -/
  lines : c.lines = b.lines
  /-- A hit stays, and so does who made it. -/
  kept : b.hit = true → c.hit = true ∧ c.origins = b.origins

namespace Block

theorem Advances.refl (b : Block) : b.Advances b := ⟨rfl, fun hhit => ⟨hhit, rfl⟩⟩

theorem Advances.trans {b c d : Block} (h : b.Advances c) (h' : c.Advances d) : b.Advances d := by
  refine ⟨h'.lines.trans h.lines, ?_⟩
  intro hhit
  obtain ⟨hc, horigins⟩ := h.kept hhit
  obtain ⟨hd, horigins'⟩ := h'.kept hc
  exact ⟨hd, horigins'.trans horigins⟩

theorem advances_record (b : Block) (count : UInt64) (origin : String) :
    b.Advances (b.record count origin) := by
  rw [record_eq]
  refine ⟨rfl, ?_⟩
  intro hhit
  simp [hhit]

theorem Advances.coversLine {b c : Block} (h : b.Advances c) (line : UInt32) :
    c.coversLine line = b.coversLine line := by
  rw [Block.coversLine, Block.coversLine, h.lines]

end Block

namespace Model

/-- A later state of a model: the same is declared, and every block has advanced. -/
structure Advances (m n : Model) : Prop where
  /-- Functions, blocks and lines stay. -/
  declared : n.reset = m.reset
  /-- Every block is there in a later state. -/
  blocks : ∀ f i b, m.block? f i = some b → ∃ c, n.block? f i = some c ∧ b.Advances c

theorem Advances.refl (m : Model) : m.Advances m := ⟨rfl, fun _ _ b hb => ⟨b, hb, .refl b⟩⟩

theorem Advances.trans {m n k : Model} (h : m.Advances n) (h' : n.Advances k) : m.Advances k := by
  refine ⟨h'.declared.trans h.declared, ?_⟩
  intro f i b hb
  obtain ⟨c, hc, hbc⟩ := h.blocks f i b hb
  obtain ⟨d, hd, hcd⟩ := h'.blocks f i c hc
  exact ⟨d, hd, hbc.trans hcd⟩

/-- A call advances the model, whether it succeeds or fails. -/
theorem advances_apply (m : Model) (call : Call) : m.Advances (call.apply m) := by
  refine ⟨reset_apply m call, ?_⟩
  intro f i b hb
  refine ⟨b.record (call.contribution m f i) call.origin, ?_, b.advances_record _ _⟩
  rw [block?_apply, hb, Option.map_some]

theorem advances_run (m : Model) (calls : List Call) : m.Advances (run m calls) := by
  induction calls generalizing m with
  | nil => exact .refl m
  | cons call rest ih => exact (advances_apply m call).trans (ih (call.apply m))

/-! ## Lines of an advancing function -/

section Lines

variable {m n : Model} {f : FunctionId} {bs cs : List Block}

theorem Advances.clear_eq (h : m.Advances n) (hm : m.get? f = some bs) (hn : n.get? f = some cs) :
    cs.map Block.clear = bs.map Block.clear := by
  have hdeclared : n.reset.get? f = m.reset.get? f := by rw [h.declared]
  rw [get?_reset, get?_reset, hm, hn] at hdeclared
  exact Option.some.inj hdeclared

theorem Advances.later (h : m.Advances n) (hm : m.get? f = some bs) (hn : n.get? f = some cs)
    {b : Block} (hb : b ∈ bs) : ∃ c ∈ cs, b.Advances c := by
  obtain ⟨i, hi⟩ := List.getElem?_of_mem hb
  have hblock : m.block? f i = some b := by rw [block?, hm, Option.bind_some, hi]
  obtain ⟨c, hc, hbc⟩ := h.blocks f i b hblock
  rw [block?, hn, Option.bind_some] at hc
  exact ⟨c, List.mem_of_getElem? hc, hbc⟩

theorem Advances.earlier (h : m.Advances n) (hm : m.get? f = some bs) (hn : n.get? f = some cs)
    {c : Block} (hc : c ∈ cs) : ∃ b ∈ bs, b.Advances c := by
  obtain ⟨i, hi⟩ := List.getElem?_of_mem hc
  -- both functions have as many blocks, so there is one at this position before
  have hlength : cs.length = bs.length := by
    simpa only [List.length_map] using congrArg List.length (h.clear_eq hm hn)
  have hlt : i < bs.length := by
    rw [← hlength]
    exact (List.getElem?_eq_some_iff.mp hi).1
  have hblock : m.block? f i = some bs[i] := by
    rw [block?, hm, Option.bind_some, List.getElem?_eq_getElem hlt]
  obtain ⟨d, hd, hbd⟩ := h.blocks f i bs[i] hblock
  rw [block?, hn, Option.bind_some, hi] at hd
  obtain rfl := Option.some.inj hd
  exact ⟨bs[i], List.getElem_mem hlt, hbd⟩

theorem Advances.all_ofBlocks (h : m.Advances n) (hm : m.get? f = some bs)
    (hn : n.get? f = some cs) : (LineClasses.ofBlocks cs).all = (LineClasses.ofBlocks bs).all := by
  have hlines : ∀ blocks : List Block, (blocks.flatMap fun b => b.lines.map SourceLine.line) =
      (blocks.map Block.clear).flatMap fun b => b.lines.map SourceLine.line := by
    intro blocks
    rw [List.flatMap_map]
    rfl
  rw [LineClasses.all_ofBlocks, LineClasses.all_ofBlocks, hlines, h.clear_eq hm hn, ← hlines]

theorem Advances.improvesTo (h : m.Advances n) (hm : m.get? f = some bs)
    (hn : n.get? f = some cs) (line : UInt32) :
    ((LineClasses.ofBlocks bs).classOf line).ImprovesTo
      ((LineClasses.ofBlocks cs).classOf line) := by
  rw [LineClasses.classOf_ofBlocks, LineClasses.classOf_ofBlocks]
  apply LineClass.improvesTo_ofWitnesses
  · intro hhit
    obtain ⟨b, hb, hline⟩ := List.any_eq_true.mp hhit
    obtain ⟨hbhit, hbline⟩ := Bool.and_eq_true_iff.mp hline
    obtain ⟨c, hc, hbc⟩ := h.later hm hn hb
    refine List.any_eq_true.mpr ⟨c, hc, ?_⟩
    rw [(hbc.kept hbhit).1, hbc.coversLine, hbline]
    rfl
  · intro hunhit
    obtain ⟨c, hc, hline⟩ := List.any_eq_true.mp hunhit
    obtain ⟨hcunhit, hcline⟩ := Bool.and_eq_true_iff.mp hline
    obtain ⟨b, hb, hbc⟩ := h.earlier hm hn hc
    refine List.any_eq_true.mpr ⟨b, hb, ?_⟩
    rw [← hbc.coversLine, hcline, Bool.and_true]
    -- had the block been hit before, it would be now
    cases hbhit : b.hit with
    | false => rfl
    | true =>
      rw [(hbc.kept hbhit).1] at hcunhit
      cases hcunhit
  · rw [Block.hitOn_or_unhitOn, Block.hitOn_or_unhitOn, ← Block.mem_lines, ← Block.mem_lines,
      ← LineClasses.all_ofBlocks, ← LineClasses.all_ofBlocks, h.all_ofBlocks hm hn]

theorem mem_originsOfLine (hm : m.get? f = some bs) (line : UInt32) (origin : String) :
    origin ∈ m.originsOfLine f line ↔
      ∃ b ∈ bs, b.hit = true ∧ b.coversLine line = true ∧ origin ∈ b.origins := by
  rw [originsOfLine, OrderedSet.mem_toList_ofList, hm, Option.getD_some, List.mem_flatMap]
  constructor
  · rintro ⟨b, hb, horigin⟩
    obtain ⟨hmem, hline⟩ := List.mem_filter.mp hb
    obtain ⟨hhit, hcovers⟩ := Bool.and_eq_true_iff.mp hline
    exact ⟨b, hmem, hhit, hcovers, horigin⟩
  · rintro ⟨b, hmem, hhit, hcovers, horigin⟩
    exact ⟨b, List.mem_filter.mpr ⟨hmem, by rw [hhit, hcovers]; rfl⟩, horigin⟩

theorem Advances.originsOfLine_subset (h : m.Advances n) (hm : m.get? f = some bs)
    (hn : n.get? f = some cs) (line : UInt32) :
    m.originsOfLine f line ⊆ n.originsOfLine f line := by
  intro origin horigin
  obtain ⟨b, hb, hhit, hcovers, hmem⟩ := (mem_originsOfLine hm line origin).mp horigin
  obtain ⟨c, hc, hbc⟩ := h.later hm hn hb
  obtain ⟨hchit, horigins⟩ := hbc.kept hhit
  refine (mem_originsOfLine hn line origin).mpr ⟨c, hc, hchit, ?_, ?_⟩
  · rw [hbc.coversLine, hcovers]
  · rw [horigins]
    exact hmem

end Lines

/-- Whatever is merged, or fails to be, the lines of a function stay the same ones, each keeps its
class or goes from uncovered towards covered, and the runs that covered it stay among those that
did. -/
theorem run_lines_improve {m : Model} {f : FunctionId} (hf : f ∈ m.functions.keys)
    (calls : List Call) :
    ∃ before after, m.classify f = .ok before ∧ (run m calls).classify f = .ok after ∧
      after.all = before.all ∧
      ∀ line, (before.classOf line).ImprovesTo (after.classOf line) ∧
        m.originsOfLine f line ⊆ (run m calls).originsOfLine f line := by
  have h := advances_run m calls
  obtain ⟨bs, hm⟩ := Option.isSome_iff_exists.mp (OrderedMap.mem_keys_iff.mp hf)
  rw [← keys_reset, ← h.declared, keys_reset] at hf
  obtain ⟨cs, hn⟩ := Option.isSome_iff_exists.mp (OrderedMap.mem_keys_iff.mp hf)
  refine ⟨.ofBlocks bs, .ofBlocks cs, ?_, ?_, h.all_ofBlocks hm hn, ?_⟩
  · rw [classify, Model.blocks, get?, hm]
    rfl
  · rw [classify, Model.blocks, get?, hn]
    rfl
  · intro line
    exact ⟨h.improvesTo hm hn line, h.originsOfLine_subset hm hn line⟩

/-- Two blocks share a line and one of them is hit. A run does not fit, and the next hits the
other. -/
theorem run_lines_improve_shared :
    let f : FunctionId := ⟨"a.c", "f"⟩
    let m : Model := .ofList [(f, [⟨0, [⟨"a.c", 5⟩, ⟨"a.c", 6⟩], true, 2, ["x"]⟩,
      .fresh 1 [⟨"a.c", 5⟩, ⟨"a.c", 7⟩]])]
    let calls : List Call := [.strict (.profile (.ofList [(f, [1])])) "y", .into f [1] "z"]
    let before : LineClasses := ⟨.ofList [6], .ofList [7], .ofList [5]⟩
    let after : LineClasses := ⟨.ofList [5, 6, 7], .empty, .empty⟩
    f ∈ m.functions.keys ∧ m.classify f = .ok before ∧ (run m calls).classify f = .ok after ∧
      after.all = before.all ∧ (before.classOf 5).ImprovesTo (after.classOf 5) ∧
      before.classOf 5 = .mixed ∧ after.classOf 5 = .covered ∧
      m.originsOfLine f 5 ⊆ (run m calls).originsOfLine f 5 ∧
      (run m calls).originsOfLine f 5 = ["x", "z"] := by
  intro f m calls before after
  have hf : f ∈ m.functions.keys := by decide +kernel
  obtain ⟨c, d, hc, hd, hall, hlines⟩ := run_lines_improve hf calls
  have hbefore : (m.classify f).toOption = some before := by decide +kernel
  have hafter : ((run m calls).classify f).toOption = some after := by decide +kernel
  rw [hc] at hbefore
  rw [hd] at hafter
  obtain rfl := Option.some.inj hbefore
  obtain rfl := Option.some.inj hafter
  obtain ⟨himproves, horigins⟩ := hlines 5
  exact ⟨hf, hc, hd, hall, himproves, by decide +kernel, by decide +kernel, horigins,
    by decide +kernel⟩

end Model

end BlockCoverage
