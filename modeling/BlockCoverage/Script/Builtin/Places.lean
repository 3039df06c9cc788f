import BlockCoverage.Script.Builtin.Variables

/-!
# Places and limits

Commands about the directory of the shell, the permissions of new files and the limits of processes.
-/

namespace BlockCoverage.Script.Machine

/-- The stretches of a path with two dots taking back the stretch before them, the last first. -/
def logicalStretches (before : List String) (parts : List String) : List String :=
  parts.foldl (fun acc part =>
    if part = "." then acc else if part = ".." then acc.drop 1 else part :: acc) before

/-- The path that another one means by its names alone, seen from a place. -/
def logicalPath (place text : String) : String :=
  let absolute := Path.isAbsolute text
  let before := if absolute then [] else (Path.stretches place).reverse
  let doubled := match (if absolute then text else place).toList with
    | '/' :: '/' :: c :: _ => c != '/'
    | _ => false
  let names := (logicalStretches before (Path.stretches text)).reverse
  (if doubled then "//" else "/") ++ String.intercalate "/" names

/-- Goes to a directory, if it is one: by the names of the path alone, or by where its links
lead. -/
def enter? (m : Machine) (physical : Bool) (target : String) : Option Machine :=
  let wanted := if physical || m.place = "" then target else logicalPath m.place target
  match m.look true wanted with
  | .ok (loc, .directory number) =>
    let before := m.place
    let place := if physical || m.place = "" then locationText loc else wanted
    let moved := { m.withFiles { m.world.files with here := number } with place }
    let exported := fun (m : Machine) (name value : String) =>
      let v := (m.variableOf name).getD ⟨none, false, false⟩
      m.putVariable name { v with value := some value, exported := true }
    some (exported (exported moved "OLDPWD" before) "PWD" place)
  | _ => none

/-- The paths that a name can mean under a list of directories. -/
def candidates (list target : String) : List (String × Bool) :=
  ((Text.pieces (fun c => decide (c = ':')) list.toList).map String.ofList).map (fun dir =>
    if dir = "" then (target, false) else (Path.join dir target, true))

/-- Goes to another directory. -/
def changeDirectory (m : Machine) (args : List String) : Machine :=
  match Switches.split "LP" args with
  | .error text => m.refuse "cd" text
  | .ok (switches, targets) =>
    let physical := (switches.getLast?.map Switch.letter) = some 'P'
    let given := targets.head?
    let dest := match given with
      | none => m.value "HOME"
      | some "-" => m.value "OLDPWD"
      | some t => t
    let fixed := dest.toList.head? = some '/' ∨
      ["", ".", ".."].contains (String.ofList (dest.toList.takeWhile (fun c => c != '/')))
    let target := if dest = "" then "." else dest
    let tried := if fixed then [(target, false)]
      else match m.lookup? "CDPATH" with
        | some list => candidates list target ++ [(target, false)]
        | none => [(target, false)]
    let entered :=
      tried.findSome? (fun (p, shown) => (m.enter? physical p).map (fun m => (m, shown)))
    match entered with
    | none => m.refuse "cd" ("can't cd to " ++ dest)
    | some (m, shown) =>
      let m := m.leave 0
      if shown ∨ given = some "-" then m.report "cd" (m.place ++ "\n") else m

/-- Writes the directory. -/
def printDirectory (m : Machine) (args : List String) : Machine :=
  match Switches.split "LP" args with
  | .error text => m.refuse "pwd" text
  | .ok (switches, _) =>
    let physical := (switches.getLast?.map Switch.letter) = some 'P'
    let text := if physical then m.directory?.getD m.place else m.place
    (m.leave 0).report "pwd" (text ++ "\n")

/-! ## Permissions -/

/-- The letters of three permission bits. -/
def permissionLetters (bits : Nat) : String :=
  (if bits / 4 % 2 = 1 then "r" else "") ++ (if bits / 2 % 2 = 1 then "w" else "") ++
    (if bits % 2 = 1 then "x" else "")

/-- A number in octal with four digits. -/
def octal4 (n : Nat) : String :=
  let digits := Nat.toDigits 8 n
  String.ofList (List.replicate (4 - digits.length) '0' ++ digits)

/-- Applies one clause of a symbolic mode to permission bits. -/
def applyClause? (mode : Nat) (clause : List Char) : Option Nat :=
  let who := clause.takeWhile (fun c => ['u', 'g', 'o', 'a'].contains c)
  match clause.drop who.length with
  | op :: letters =>
    if !(['=', '+', '-'].contains op) ∨ !letters.all (fun c => ['r', 'w', 'x'].contains c) then none
    else
      let bits := (if letters.contains 'r' then 4 else 0) +
        (if letters.contains 'w' then 2 else 0) +
        (if letters.contains 'x' then 1 else 0)
      let all := who.isEmpty ∨ who.contains 'a'
      let change := fun (old : Nat) =>
        if op = '=' then bits
        else if op = '+' then Nat.lor old bits
        else old - Nat.land old bits
      let part := fun (letter : Char) (shift : Nat) =>
        let old := mode / shift % 8
        (if all ∨ who.contains letter then change old else old) * shift
      some (part 'u' 64 + part 'g' 8 + part 'o' 1)
  | [] => none

/-- Applies a symbolic mode to permission bits. -/
def applyMode? (mode : Nat) (text : String) : Option Nat :=
  (Text.pieces (fun c => decide (c = ',')) text.toList).foldlM applyClause? mode

/-- Shows or changes the permissions that new files do not get. -/
def umask (m : Machine) (args : List String) : Machine :=
  match Switches.split "S" args with
  | .error text => m.refuse "umask" text
  | .ok (switches, []) =>
    let shown := 511 - m.mask
    let text := if switches.isEmpty then octal4 m.mask
      else "u=" ++ permissionLetters (shown / 64) ++ ",g=" ++ permissionLetters (shown / 8 % 8) ++
        ",o=" ++ permissionLetters (shown % 8)
    (m.leave 0).report "umask" (text ++ "\n")
  | .ok (_, text :: _) =>
    if (text.toList.head?.map Char.isDigit).getD false then
      if text.toList.all (fun c => Format.isOctal c) then
        { m.leave 0 with mask := (Numeral.digits 8 0 text.toList).1 % 512 }
      else m.refuse "umask" ("Illegal number: " ++ text)
    else match applyMode? (511 - m.mask) text with
      | some mode => { m.leave 0 with mask := 511 - mode }
      | none => m.refuse "umask" ("Illegal mode: " ++ text)

/-- Shows or changes a limit. Nothing here comes near one. -/
def ulimit (m : Machine) (args : List String) : Machine :=
  match Switches.split "HSatfdscmlpnvwr" args with
  | .error text => m.refuse "ulimit" text
  | .ok (_, []) => (m.leave 0).report "ulimit" "unlimited\n"
  | .ok (_, text :: _) =>
    if text = "unlimited" ∨ (Numeral.count? text).isSome then m.leave 0
    else m.refuse "ulimit" "bad number"

end BlockCoverage.Script.Machine
