import BlockCoverage.Script.Utility.Basic

/-!
# Programs that copy their input
-/

namespace BlockCoverage.Script.Utility

open Text (Bytes)
open Machine (wording)

/-- An octet as it is shown when it cannot be printed. -/
def visible (keepTabs : Bool) (b : UInt8) : Bytes :=
  let low := fun (b : UInt8) => if b = 9 ∧ keepTabs then [b]
    else if b < 32 then [94, b + 64] else if b = 127 then [94, 63] else [b]
  if b < 128 then low b
  else [77, 45] ++ (if b < 160 then [94, b - 64] else if b = 255 then [94, 63] else [b - 128])

/-- Whether the output goes to the file at a path and is not yet past its end. -/
def writesTo (m : Machine) (operand : String) : Bool :=
  match m.channelOf? 1, m.look true operand with
  | some n, .ok (_, .file number) =>
    match m.world.channel n with
    | .file other offset append _ =>
      let size := (m.world.files.inode number).size
      other == number && size != 0 && (append || decide (offset < size))
    | _ => false
  | _, _ => false

/-- Numbers lines in front, all or those that are not empty. -/
def numbered (all : Bool) : Nat → List Bytes → List Bytes
  | _, [] => []
  | n, l :: rest =>
    if all ∨ !l.isEmpty then
      let digits := Nat.repr n
      let front := String.ofList (List.replicate (6 - digits.length) ' ') ++ digits ++ "\t"
      (Text.Octets.ofText front ++ l) :: numbered all (n + 1) rest
    else l :: numbered all n rest

/-- Leaves out empty lines after an empty line. -/
def squeezed : Bool → List Bytes → List Bytes
  | _, [] => []
  | before, l :: rest =>
    if before && l.isEmpty then squeezed true rest else l :: squeezed l.isEmpty rest

/-- Writes the input or files to the output. -/
def cat : Utility :=
  withSwitches "cat" "AbeEnstTuv" [("show-all", 'A'), ("number-nonblank", 'b'), ("show-ends", 'E'),
    ("number", 'n'), ("squeeze-blank", 's'), ("show-tabs", 'T'), ("show-nonprinting", 'v')] 1
  (fun switches operands m =>
    let has := Switches.given switches
    let plain := switches.all (fun s => s.letter == 'u')
    if plain then
      let one := fun (m : Machine) (operand : String) =>
        match source operand m with
        | .error cause => fail "cat" (operand ++ ": " ++ wording cause) 1 m
        | .ok (s, read) =>
          if operand ≠ "-" ∧ writesTo m operand then
            fail "cat" (operand ++ ": input file is output file") 1 m
          else read.emit s
      (if operands.isEmpty then ["-"] else operands).foldl one (m.leave 0)
    else
      let (s, m) := allSources "cat" 1 operands (m.leave 0)
      let (ls, complete) := lines s
      let ls := if has 's' then squeezed false ls else ls
      let shows := has 'v' || has 'A' || has 'e' || has 't'
      let tabs := has 'T' || has 'A' || has 't'
      let ends := has 'E' || has 'A' || has 'e'
      let shownLine := fun (l : Bytes) => l.flatMap (fun b =>
        if b = 9 ∧ tabs then [94, 73] else if shows then visible true b else [b])
      let ls := ls.map shownLine
      let ls := if has 'b' then numbered false 1 ls else if has 'n' then numbered true 1 ls else ls
      let last := ls.length - 1
      m.emit ((ls.zipIdx.map (fun (l, i) =>
        if i = last && !complete then l else l ++ (if ends then [36] else []) ++ [10])).flatten))

/-- Writes the input to the output and to files. -/
def tee : Utility :=
  withSwitches "tee" "aip" [("append", 'a'), ("ignore-interrupts", 'i')] 1
    (fun switches operands m =>
    let (s, m) := m.readAll 0
    let append := Switches.given switches 'a'
    let one := fun (m : Machine) (operand : String) =>
      match m.openFile operand (if append then .append else .write) with
      | .error cause => fail "tee" (operand ++ ": " ++ wording cause) 1 m
      | .ok (n, m) => { m with world := m.world.write n s }
    operands.foldl one ((m.emit s).leave 0))

end BlockCoverage.Script.Utility
