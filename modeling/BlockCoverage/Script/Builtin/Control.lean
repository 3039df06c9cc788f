import BlockCoverage.Script.Builtin.Output

/-!
# Control

Commands that change where a script goes on: out of loops, functions and the script itself, and what
happens on signals.
-/

namespace BlockCoverage.Script.Machine

/-- Leaves loops, or goes on with their next round. -/
def leaveLoops (m : Machine) (name : String) (args : List String) : Machine :=
  let go := fun (n : Nat) =>
    let loops := min n m.loops
    if loops = 0 then m.leave 0
    else { m.leave 0 with flow := if name = "break" then .breaking loops else .continuing loops }
  match args with
  | [] => go 1
  | text :: _ =>
    match Numeral.count? text with
    | some (n + 1) => go (n + 1)
    | _ => m.refuse name ("Illegal number: " ++ text)

/-- Leaves a function, with a status or the last one. -/
def leaveFunction (m : Machine) (args : List String) : Machine :=
  match args with
  | [] => { m with flow := .returning }
  | text :: _ =>
    match Numeral.count? text with
    | some n => { m.leave n with flow := .returning }
    | none => m.refuse "return" ("Illegal number: " ++ text)

/-- Ends the shell, with a status or the last one; in an action that is the one from before it. -/
def exit (m : Machine) (args : List String) : Machine :=
  match args with
  | [] => m.quit (m.resumed.getD m.status)
  | text :: _ =>
    match Numeral.count? text with
    | some n => m.quit n
    | none => m.refuse "exit" ("Illegal number: " ++ text)

/-! ## Signals -/

/-- The actions as they are. -/
def trapListing (m : Machine) (quote : String → String) : String :=
  String.join ((List.range signalCount).map (fun n =>
    match m.traps.lookup n with
    | some action => "trap -- " ++ quote action ++ " " ++ signalName n ++ "\n"
    | none => ""))

/-- Sets or takes away the actions of signals. -/
def setTraps (action : Option String) : List String → Machine → Machine
  | [], m => m
  | text :: rest, m =>
    match signal? 0 text with
    | none => (m.warn ("trap: " ++ text ++ ": bad trap\n")).leave 1
    | some n =>
      let others := m.traps.filter (fun t => t.1 != n)
      let traps := match action with
        | some a => (n, a) :: others
        | none => others
      setTraps action rest { m with traps }

/-- Lists, sets or takes away actions. A first argument that is the number of a signal is none, and
neither is one that stands alone. -/
def trap (m : Machine) (quote : String → String) (args : List String) : Machine :=
  match Switches.split "" args with
  | .error text => m.refuse "trap" text
  | .ok (_, []) => (m.leave 0).report "trap" (m.trapListing quote)
  | .ok (_, [only]) => (setTraps none [only] (m.leave 0)).guarded
  | .ok (_, first :: rest) =>
    let isNumber := !first.isEmpty && first.toList.all Char.isDigit && (signal? 0 first).isSome
    if isNumber then (setTraps none (first :: rest) (m.leave 0)).guarded
    else (setTraps (if first = "-" then none else some first) rest (m.leave 0)).guarded

/-- Sends a signal to a command in the background: it stops, unless it takes the signal itself or
the signal does nothing. -/
def signalJob (m : Machine) (process signal : Nat) : Machine :=
  let change := fun (j : Job) =>
    if j.process ≠ process ∨ !j.isRunning m.world.elapsed then j
    else match if signal = 9 then none else j.state.traps.lookup signal with
      | some "" => j
      | some _ => { j with state := { j.state with pending := j.state.pending ++ [signal] } }
      | none =>
        if isFatal signal then
          { j with
            left := []
            status := 128 + signal
            signal := some signal
            clock := m.world.elapsed }
        else j
  { m with jobs := m.jobs.map change }

/-- Sends a signal to a process: whether there is such a process. -/
def signalProcess (m : Machine) (process signal : Nat) : Bool × Machine :=
  match m.jobs.find? (fun j => j.process == process) with
  | some j => if j.noticed then (false, m) else (true, m.signalJob process signal)
  | none =>
    if process = m.process ∨ (m.world.guards.lookup process).isSome then
      (true, m.post process signal)
    else (false, m)

/-- The command in the background that a text after a percent sign means. -/
def jobNamed (m : Machine) (name : List Char) : Except String Job :=
  let text := String.ofList name
  let current := text = "" ∨ text = "%" ∨ text = "+"
  let found := if current then m.jobs.head?
    else if text = "-" then (m.jobs.drop 1).head?
    else (Numeral.count? text).bind (fun n => m.jobs.find? (fun j => j.number == n))
  match found with
  | some j => .ok j
  | none =>
    .error (if current then "No current job" else if text = "-" then "No previous job"
      else "No such job: %" ++ text)

/-- Sends a signal to each of the given processes. Commands in the background have no group of their
own that could be sent one. -/
def signalEach (signal : Nat) : List String → Machine → Machine
  | [], m => m
  | text :: rest, m =>
    let target : Except String (Option Nat) :=
      match text.toList with
      | '%' :: name => (m.jobNamed name).map (fun _ => none)
      | _ =>
        match Numeral.count? text with
        | some n => .ok (some n)
        | none => .error ("Illegal number: " ++ text)
    match target with
    | .error message => m.refuse "kill" message
    | .ok process =>
      let (found, m) := match process with
        | some n => m.signalProcess n signal
        | none => (false, m)
      signalEach signal rest (if found then m else (m.complain "kill: No such process\n").leave 1)

/-- The line that lists a command in the background. -/
def jobLine (m : Machine) (j : Job) (mark : Char) (shown : List Char) : String :=
  let process := Nat.repr j.process
  if shown.contains 'p' then process ++ "\n"
  else
    let state := if j.isRunning m.world.elapsed then "Running"
      else match j.signal with
        | some s => signalWords s
        | none => if j.status = 0 then "Done" else "Done(" ++ Nat.repr j.status ++ ")"
    let text := "[" ++ Nat.repr j.number ++ "] " ++ String.singleton mark ++ " " ++
      (if shown.contains 'l' then process ++ " " else "") ++ state
    text ++ String.ofList (List.replicate (max 1 (33 - text.length)) ' ') ++ "\n"

/-- Lists commands in the background; those that have come to their end are then forgotten. -/
def listJobs (m : Machine) (args : List String) : Machine :=
  match Switches.split "lp" args with
  | .error text => m.refuse "jobs" text
  | .ok (switches, names) =>
    let wanted := names.map (fun n => match n.toList with
      | '%' :: name => m.jobNamed name
      | name => match m.jobs.find? (fun j => some j.process == Numeral.count? n) with
        | some j => .ok j
        | none => .error ("No such job: " ++ String.ofList name))
    match wanted.findSome? (fun (w : Except String Job) => match w with
      | .error text => some text
      | .ok _ => none) with
    | some text => m.refuse "jobs" text
    | none =>
      let marks := '+' :: '-' :: List.replicate m.jobs.length ' '
      let chosen := wanted.filterMap (fun w => w.toOption.map Job.process)
      let listed :=
        (m.jobs.zip marks).filter (fun p => names.isEmpty || chosen.contains p.1.process)
      let text := String.join (listed.map (fun p => m.jobLine p.1 p.2 (switches.map Switch.letter)))
      let ended := listed.filterMap (fun p => if p.1.isRunning m.world.elapsed then
        none else some p.1.process)
      { (m.leave 0).report "jobs" text with
        jobs := m.jobs.filter (fun j => !ended.contains j.process) }

/-- How the command is used. -/
def killUsage : String :=
  "Usage: kill [-s sigspec | -signum | -sigspec] [pid | job]... or\nkill -l [exitstatus]"

/-- Sends signals, or lists them. -/
def kill (m : Machine) (args : List String) : Machine :=
  let m := m.leave 0
  let send := fun (signal : Nat) (targets : List String) =>
    if targets.isEmpty then m.refuse "kill" killUsage else signalEach signal targets m
  match args with
  | [] => m.refuse "kill" killUsage
  | first :: rest =>
    match first.toList with
    | '-' :: name =>
      match signal? 1 (String.ofList name) with
      | some n => send n rest
      | none =>
        match Switches.split "ls:" args with
        | .error text => m.refuse "kill" text
        | .ok (switches, targets) =>
          match switches.find? (fun s => s.letter == 's' && (signal? 1 s.value).isNone) with
          | some s => m.refuse "kill" ("invalid signal number or name: " ++ s.value)
          | none =>
            let named := (switches.filter (fun s => s.letter == 's')).getLast?.bind
              (fun s => signal? 1 s.value)
            if switches.any (fun s => s.letter == 'l') then
              match targets with
              | [] =>
                m.report "kill" ("0\n" ++ String.join ((List.range (signalCount - 1)).map
                  (fun n => signalName (n + 1) ++ "\n")))
              | text :: _ =>
                match Numeral.count? text with
                | none => m.refuse "kill" ("Illegal number: " ++ text)
                | some n =>
                  let signal := if 128 < n then n - 128 else n
                  if 0 < signal ∧ signal < signalCount then
                    m.report "kill" (signalName signal ++ "\n")
                  else m.refuse "kill" ("invalid signal number or exit status: " ++ text)
            else send (named.getD 15) targets
    | _ => send 15 args

end BlockCoverage.Script.Machine
