import BlockCoverage.Proofs.Model.LineClasses

/-!
# What the class of a line means

The lines of a function are sorted by two sets, those of the blocks that were hit and those of the
others, and a line may be in both. `LineClass.Says` is what a class says about the blocks of a
function, without sets: whether there are blocks that declare the line, and which of them were hit.
A line has a class just when the class says the truth (`classOf_eq_iff`), so exactly one class does.
The three sets are then a partition of the declared lines.

Both sides are functions of two facts, whether a hit block declares the line and whether one that
was not hit does; the proofs go through these four cases.
-/

namespace BlockCoverage

namespace Block

/-- The block stands for a line of this number. -/
def Declares (b : Block) (line : UInt32) : Prop := ∃ l ∈ b.lines, l.line = line

instance (b : Block) (line : UInt32) : Decidable (b.Declares line) :=
  inferInstanceAs (Decidable (∃ l ∈ b.lines, l.line = line))

theorem coversLine_iff_declares {b : Block} {line : UInt32} :
    b.coversLine line = true ↔ b.Declares line := by
  rw [coversLine_iff, List.mem_map, Declares]

theorem hitOn_iff {blocks : List Block} {line : UInt32} :
    hitOn blocks line = true ↔ ∃ b ∈ blocks, b.Declares line ∧ b.hit = true := by
  rw [hitOn, List.any_eq_true]
  simp only [Bool.and_eq_true, coversLine_iff_declares, and_comm]

theorem unhitOn_iff {blocks : List Block} {line : UInt32} :
    unhitOn blocks line = true ↔ ∃ b ∈ blocks, b.Declares line ∧ b.hit = false := by
  rw [unhitOn, List.any_eq_true]
  simp only [Bool.and_eq_true, coversLine_iff_declares, Bool.not_eq_true', and_comm]

theorem exists_declares_iff {blocks : List Block} {line : UInt32} :
    (∃ b ∈ blocks, b.Declares line) ↔ (hitOn blocks line || unhitOn blocks line) = true := by
  rw [hitOn_or_unhitOn, List.any_eq_true]
  simp only [coversLine_iff_declares]

theorem all_hit_iff {blocks : List Block} {line : UInt32} :
    (∀ b ∈ blocks, b.Declares line → b.hit = true) ↔ unhitOn blocks line = false := by
  rw [← Bool.not_eq_true, unhitOn_iff]
  constructor
  · rintro hall ⟨b, hb, hline, hunhit⟩
    rw [hall b hb hline] at hunhit
    cases hunhit
  · intro hnone b hb hline
    cases hhit : b.hit with
    | true => rfl
    | false => exact absurd ⟨b, hb, hline, hhit⟩ hnone

theorem none_hit_iff {blocks : List Block} {line : UInt32} :
    (∀ b ∈ blocks, b.Declares line → b.hit = false) ↔ hitOn blocks line = false := by
  rw [← Bool.not_eq_true, hitOn_iff]
  constructor
  · rintro hall ⟨b, hb, hline, hhit⟩
    rw [hall b hb hline] at hhit
    cases hhit
  · intro hnone b hb hline
    cases hhit : b.hit with
    | true => exact absurd ⟨b, hb, hline, hhit⟩ hnone
    | false => rfl

end Block

open Block

/-- What the class of a line says about the blocks of a function. -/
def LineClass.Says (blocks : List Block) (line : UInt32) : LineClass → Prop
  | covered => (∃ b ∈ blocks, b.Declares line) ∧ ∀ b ∈ blocks, b.Declares line → b.hit = true
  | uncovered => (∃ b ∈ blocks, b.Declares line) ∧ ∀ b ∈ blocks, b.Declares line → b.hit = false
  | mixed => (∃ b ∈ blocks, b.Declares line ∧ b.hit = true) ∧
      ∃ b ∈ blocks, b.Declares line ∧ b.hit = false
  | unknown => ¬∃ b ∈ blocks, b.Declares line

theorem LineClass.says_iff {blocks : List Block} {line : UInt32} {c : LineClass} :
    c.Says blocks line ↔ ofWitnesses (hitOn blocks line) (unhitOn blocks line) = c := by
  cases c <;>
    simp only [Says, exists_declares_iff, all_hit_iff, none_hit_iff, ← hitOn_iff, ← unhitOn_iff] <;>
    cases hitOn blocks line <;> cases unhitOn blocks line <;> simp [ofWitnesses]

namespace LineClasses

/-- The sets are a partition of the lines that the blocks declare. -/
structure Partitions (c : LineClasses) (blocks : List Block) : Prop where
  /-- No line is both covered and uncovered. -/
  covered_uncovered : ∀ line, ¬(c.covered.mem line = true ∧ c.uncovered.mem line = true)
  /-- No line is both covered and mixed. -/
  covered_mixed : ∀ line, ¬(c.covered.mem line = true ∧ c.mixed.mem line = true)
  /-- No line is both uncovered and mixed. -/
  uncovered_mixed : ∀ line, ¬(c.uncovered.mem line = true ∧ c.mixed.mem line = true)
  /-- A line is in one of the sets just when a block declares it. -/
  union : ∀ line, (c.covered.mem line = true ∨ c.uncovered.mem line = true ∨
    c.mixed.mem line = true) ↔
    ∃ b ∈ blocks, b.Declares line
  /-- The lines of all sets are listed together. -/
  all : ∀ line, line ∈ c.all.toList ↔ ∃ b ∈ blocks, b.Declares line

theorem partitions_ofBlocks (blocks : List Block) : (ofBlocks blocks).Partitions blocks := by
  refine ⟨?_, ?_, ?_, ?_, ?_⟩
  · intro line
    rw [mem_covered_ofBlocks, mem_uncovered_ofBlocks]
    cases hitOn blocks line <;> cases unhitOn blocks line <;> decide
  · intro line
    rw [mem_covered_ofBlocks, mem_mixed_ofBlocks]
    cases hitOn blocks line <;> cases unhitOn blocks line <;> decide
  · intro line
    rw [mem_uncovered_ofBlocks, mem_mixed_ofBlocks]
    cases hitOn blocks line <;> cases unhitOn blocks line <;> decide
  · intro line
    rw [mem_covered_ofBlocks, mem_uncovered_ofBlocks, mem_mixed_ofBlocks, exists_declares_iff]
    cases hitOn blocks line <;> cases unhitOn blocks line <;> decide
  · intro line
    rw [OrderedSet.mem_toList_iff, all_ofBlocks, mem_lines, ← hitOn_or_unhitOn, exists_declares_iff]

/-- A line has a class just when the class says the truth about the blocks. -/
theorem classOf_eq_iff {blocks : List Block} {line : UInt32} {c : LineClass} :
    (ofBlocks blocks).classOf line = c ↔ c.Says blocks line := by
  rw [classOf_ofBlocks, LineClass.says_iff]

end LineClasses

namespace Model

theorem classify_of_get? {m : Model} {f : FunctionId} {blocks : List Block}
    (hf : m.get? f = some blocks) : m.classify f = .ok (.ofBlocks blocks) := by
  rw [classify, Model.blocks, hf]
  rfl

/-- The lines of a declared function are sorted into a partition of what its blocks declare, where
every class says of a line what it means; a function that is not declared cannot be sorted. -/
theorem classify_partitions (m : Model) (f : FunctionId) :
    (∀ blocks, m.get? f = some blocks → ∃ classes, m.classify f = .ok classes ∧
      classes.Partitions blocks ∧ ∀ line c, classes.classOf line = c ↔ c.Says blocks line) ∧
    (m.get? f = none → m.classify f = .error (.unknownFunction f.name f.file)) := by
  constructor
  · intro blocks hf
    refine ⟨.ofBlocks blocks, classify_of_get? hf, LineClasses.partitions_ofBlocks blocks, ?_⟩
    intro line c
    exact LineClasses.classOf_eq_iff
  · intro hf
    rw [classify, Model.blocks, hf]
    rfl

/-- Four blocks share their lines in a ring, one of them declares a line twice, and two are hit. -/
theorem classify_partitions_ring :
    let f : FunctionId := ⟨"f.c", "f"⟩
    let line : UInt32 → SourceLine := fun n => ⟨"f.c", n⟩
    let blocks : List Block := [⟨0, [line 1, line 2], true, 1, ["s"]⟩,
      ⟨1, [line 2, line 2], true, 3, ["s"]⟩, .fresh 2 [line 3, line 4], .fresh 3 [line 4, line 1]]
    let classes : LineClasses := ⟨.ofList [2], .ofList [3, 4], .ofList [1]⟩
    let m : Model := .ofList [(f, blocks)]
    m.classify f = .ok classes ∧ classes.Partitions blocks ∧ LineClass.mixed.Says blocks 1 ∧
      LineClass.covered.Says blocks 2 ∧ LineClass.uncovered.Says blocks 4 ∧
      LineClass.unknown.Says blocks 9 ∧
      m.classify ⟨"g.c", "f"⟩ = .error (.unknownFunction "f" "g.c") := by
  intro f line blocks classes m
  have hf : m.get? f = some blocks := by decide +kernel
  obtain ⟨c, hc, hpartitions, hmeaning⟩ := (classify_partitions m f).1 blocks hf
  have hclasses : (m.classify f).toOption = some classes := by decide +kernel
  rw [hc] at hclasses
  obtain rfl := Option.some.inj hclasses
  have hnone : m.get? ⟨"g.c", "f"⟩ = none := by decide +kernel
  exact ⟨hc, hpartitions, (hmeaning 1 _).mp (by decide +kernel),
    (hmeaning 2 _).mp (by decide +kernel),
    (hmeaning 4 _).mp (by decide +kernel), (hmeaning 9 _).mp (by decide +kernel),
    (classify_partitions m ⟨"g.c", "f"⟩).2 hnone⟩

end Model

end BlockCoverage
