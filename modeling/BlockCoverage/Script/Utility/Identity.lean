import BlockCoverage.Script.Utility.Paths

/-!
# Who and where

What programs say about the user and the system. There is one user, the superuser, in one group, and
no terminal.
-/

namespace BlockCoverage.Script.Utility

/-- The user, who is also the only member of a group of the same name. -/
def user : String := "root"

/-- A program that takes no operands and does one thing. -/
def withoutOperands (name : String) (body : Machine → Machine) : Utility :=
  withSwitches name "" [] 1 (fun _ operands m =>
    match operands with
    | [] => body m
    | extra :: _ => misuse name ("extra operand " ++ shown extra) 1 m)

/-- A program that writes a fixed line. -/
def fixedLine (name text : String) : Utility :=
  withoutOperands name (fun m => (m.say (text ++ "\n")).leave 0)

/-- Says who a user is, by number or by name. -/
def identity : Utility :=
  withSwitches "id" "agGnruzZ" [("group", 'g'), ("groups", 'G'), ("name", 'n'), ("real", 'r'),
      ("user", 'u'), ("zero", 'z'), ("context", 'Z')] 1 (fun switches operands m =>
    let has := Switches.given switches
    let chosen := ['u', 'g', 'G'].filter has
    if 1 < chosen.length then fail "id" "cannot print \"only\" of more than one choice" 1 m
    else if chosen.isEmpty ∧ (has 'n' ∨ has 'r') then
      fail "id" "cannot print only names or real IDs in default format" 1 m
    else if chosen.isEmpty ∧ has 'z' then
      fail "id" "option --zero not permitted in default format" 1 m
    else
      let text :=
        if chosen.isEmpty then "uid=0(root) gid=0(root) groups=0(root)"
        else if has 'n' then user else "0"
      let one := fun (m : Machine) (operand : String) =>
        if operand = user ∨ operand = "0" ∨ operand = "+0" then sayNames (has 'z') [text] m
        else fail "id" (shown operand ++ ": no such user") 1 m
      if operands.isEmpty then sayNames (has 'z') [text] (m.leave 0)
      else operands.foldl one (m.leave 0))

/-- Says which groups users are in. -/
def groups : Utility :=
  withSwitches "groups" "" [] 1 (fun _ operands m =>
    let one := fun (m : Machine) (operand : String) =>
      if operand = user then m.say (operand ++ " : " ++ user ++ "\n")
      else fail "groups" (shown operand ++ ": no such user") 1 m
    if operands.isEmpty then (m.say (user ++ "\n")).leave 0 else operands.foldl one (m.leave 0))

/-- Says that there is no terminal. -/
def tty : Utility :=
  withSwitches "tty" "s" [("silent", 's'), ("quiet", 's')] 2 (fun switches operands m =>
    match operands with
    | [] => (if switches.isEmpty then m.say "not a tty\n" else m).leave 1
    | extra :: _ => misuse "tty" ("extra operand " ++ shown extra) 2 m)

/-- What the system says about itself, by letter, in the order in which it is written. -/
def systemParts : List (Char × String) :=
  [('s', "Linux"), ('n', "localhost"), ('r', "6.1.0"), ('v', "#1 SMP"), ('m', "x86_64"),
    ('p', "x86_64"),
    ('i', "x86_64"), ('o', "GNU/Linux")]

/-- What the system says about itself. -/
def uname : Utility :=
  withSwitches "uname" "asnrvmpio" [("all", 'a'), ("kernel-name", 's'), ("nodename", 'n'),
      ("kernel-release", 'r'), ("kernel-version", 'v'), ("machine", 'm'), ("processor", 'p'),
      ("hardware-platform", 'i'), ("operating-system", 'o')] 1 (fun switches operands m =>
    match operands with
    | extra :: _ => misuse "uname" ("extra operand " ++ shown extra) 1 m
    | [] =>
      let has := Switches.given switches
      let wanted :=
        systemParts.filter (fun p => has 'a' || has p.1 || (switches.isEmpty && p.1 == 's'))
      (m.say (String.intercalate " " (wanted.map Prod.snd) ++ "\n")).leave 0)

/-- Writes the environment, or some of it. -/
def printenv : Utility := fun args m =>
  match Switches.among false "0" [("null", '0')] (args.length + 1) args with
  | .error text => misuse "printenv" text 2 m
  | .ok (switches, names) =>
    let say := sayNames (!switches.isEmpty)
    if names.isEmpty then say (m.environment.map (fun (k, v) => k ++ "=" ++ v)) (m.leave 0)
    else
      let values := names.map (fun a => m.environment.lookup a)
      say (values.filterMap id) (m.leave (if values.all Option.isSome then 0 else 1))

/-- Writes everything to the disk; names are only looked for. -/
def sync : Utility :=
  withSwitches "sync" "df" [("data", 'd'), ("file-system", 'f')] 1 (fun _ operands m =>
    let one := fun (m : Machine) (operand : String) =>
      match m.look true operand with
      | .ok _ => m
      | .error cause =>
        fail "sync" ("error opening " ++ shown operand ++ ": " ++ Machine.wording cause) 1 m
    operands.foldl one (m.leave 0))

end BlockCoverage.Script.Utility
