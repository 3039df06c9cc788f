import BlockCoverage.Script.Utility.Names

/-!
# Parts of paths
-/

namespace BlockCoverage.Script.Utility

/-- The last name of a path, without an ending. -/
def basename : Utility :=
  withSwitches "basename" "as:z" [("multiple", 'a'), ("suffix", 's'), ("zero", 'z')] 1
    (fun switches operands m =>
    let strip := fun (ending text : String) =>
      if ending ≠ "" ∧ ending ≠ text ∧ ending.toList.isSuffixOf text.toList then
        String.ofList (text.toList.take (text.length - ending.length))
      else text
    let several := switches.any (fun s => s.letter != 'z')
    let sayLines := fun (names : List String) (m : Machine) =>
      sayNames (Switches.given switches 'z') names m
    match operands with
    | [] => misuse "basename" "missing operand" 1 m
    | _ =>
      if several then
        let ending := (Switches.value? switches 's').getD ""
        sayLines (operands.map (fun o => strip ending (lastName o))) (m.leave 0)
      else match operands with
        | [o] => sayLines [lastName o] (m.leave 0)
        | [o, ending] => sayLines [strip ending (lastName o)] (m.leave 0)
        | _ => misuse "basename" ("extra operand " ++ shown ((operands.drop 2).headD "")) 1 m)

/-- A path without its last name. -/
def parentOf (operand : String) : String :=
  let isSlash := fun (c : Char) => c == '/'
  let trimmed := operand.toList.reverse.dropWhile isSlash
  let up := (trimmed.dropWhile (fun c => !isSlash c)).dropWhile isSlash
  if trimmed.isEmpty then (if operand = "" then "." else "/")
  else if up.isEmpty then (if operand.toList.head? = some '/' then "/" else ".")
  else String.ofList up.reverse

/-- Writes paths without their last names. -/
def dirname : Utility :=
  withSwitches "dirname" "z" [("zero", 'z')] 1 (fun switches operands m =>
    if operands.isEmpty then misuse "dirname" "missing operand" 1 m
    else sayNames (Switches.given switches 'z') (operands.map parentOf) (m.leave 0))

/-- Writes the path of the directory: without links, unless the path that the shell knows is asked
for. -/
def pwd : Utility :=
  withSwitches "pwd" "LP" [("logical", 'L'), ("physical", 'P')] 1 (fun switches operands m =>
    let m := if operands.isEmpty then m else note "pwd" "ignoring non-option arguments" m
    let logical := switches.getLast?.map Switch.letter == some 'L'
    match logical, m.directory? with
    | true, _ => (m.say (m.place ++ "\n")).leave 0
    | false, some text => (m.say (text ++ "\n")).leave 0
    | false, none => fail "pwd" "couldn't find directory entry in '..' with matching i-node" 1 m)

end BlockCoverage.Script.Utility
