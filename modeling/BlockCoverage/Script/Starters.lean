import BlockCoverage.Script.Process

/-!
# Programs that start others

A program that starts another one chooses its arguments, its environment and how long it may run,
and makes its own status from that of the other. How a program is started is given to it.
-/

namespace BlockCoverage.Script

open Text (Bytes)

namespace Machine

/-- How a process came to its end, and the machine that it leaves. -/
abbrev Ended := Ending × Machine

/-- How a machine has ended that ran a program. One that would have read or written without end, and
that nothing has stopped, does not come to its end. -/
def ended (m : Machine) : Ended :=
  match m.flow with
  | .ended e => (e, m)
  | _ => (if m.unending then .timedOut else .exited (m.status % 256), m)

/-- What starting programs needs to know about. -/
abbrev Starter := String → List String → List (String × String) → Machine → Ended

/-- Starts a program in a process of its own and waits for it. -/
def launch (start : Starter) (name : String) (args : List String)
    (environment : List (String × String))
    (m : Machine) : Ended :=
  let child := m.spawn
  let (ending, after) := start name args environment child
  (ending, { m with world := withoutProcess after.world child.process })

/-- What a program says that cannot start another one. -/
def cannotStart (program name : String) (l : Lead) (m : Machine) : Ended :=
  let denied := l == .denied
  let reason := if denied then "Permission denied" else "No such file or directory"
  (.exited (if denied then 126 else 127),
    m.warn (program ++ ": " ++ name ++ ": " ++ reason ++ "\n"))

/-- Whether a name leads to something that can be started. -/
def canStart : Lead → Bool
  | .program _ | .file _ => true
  | _ => false

/-! ## The environment -/

/-- Cuts a text into words; quotes and backslashes keep characters together. The words, and a quote
that has not been closed, which ends them. -/
def quotedWords (cuts : Char → Bool) : List Char → Option Char → Option (List Char) → List String →
    List String × Option Char
  | [], quote, word, acc =>
    let unclosed := quote.filter (fun q => q != '\\')
    (match word with
      | some w => if unclosed.isSome then acc.reverse else (String.ofList w.reverse :: acc).reverse
      | none => acc.reverse, unclosed)
  | c :: rest, quote, word, acc =>
    match quote with
    | some '\\' => quotedWords cuts rest none (some (c :: word.getD [])) acc
    | some q =>
      if c = q then quotedWords cuts rest none (some (word.getD [])) acc
      else if c = '\n' then (acc.reverse, some q)
      else quotedWords cuts rest quote (some (c :: word.getD [])) acc
    | none =>
      if c = '\'' ∨ c = '"' ∨ c = '\\' then quotedWords cuts rest (some c) (some (word.getD [])) acc
      else if cuts c then
        match word with
        | some w => quotedWords cuts rest none none (String.ofList w.reverse :: acc)
        | none => quotedWords cuts rest none none acc
      else quotedWords cuts rest none (some (c :: word.getD [])) acc

/-- Sets a variable in an environment: in its place if it is there, else at the end. -/
def withSetting (env : List (String × String)) (setting : String) : List (String × String) :=
  let (name, value) := binding setting
  if env.any (fun e => e.1 == name) then
    env.map (fun e => if e.1 == name then (name, value.getD "") else e)
  else env ++ [(name, value.getD "")]

/-- Runs a program with a changed environment, or shows that. -/
def env (start : Starter) (args : List String) (environment : List (String × String))
    (m : Machine) :
    Ended :=
  let long := [("ignore-environment", 'i'), ("null", '0'), ("unset", 'u'), ("chdir", 'C'),
    ("split-string", 'S'), ("debug", 'v')]
  match Switches.among false "iu:0C:S:v" long (args.length + 1) args with
  | .error text => ended (Utility.misuse "env" text 125 m)
  | .ok (switches, operands) =>
    let has := Switches.given switches
    let split := ((switches.filter (fun s => s.letter == 'S')).map (fun s =>
      (quotedWords Utility.isFieldBlank s.value.toList none none []).1)).flatten
    let operands := split ++ operands
    let dashed := operands.head? = some "-"
    let rest := if dashed then operands.drop 1 else operands
    let base := if has 'i' ∨ dashed then [] else environment
    let gone := switches.filterMap (fun s => if s.letter = 'u' then some s.value else none)
    let left := base.filter (fun e => !gone.contains e.1)
    let settings := rest.takeWhile (fun a => a.toList.contains '=')
    let changed := settings.foldl withSetting left
    let refused := fun (text : String) (explained : Bool) =>
      ended (if explained then Utility.misuse "env" text 125 m else Utility.fail "env" text 125 m)
    match rest.drop settings.length, Switches.value? switches 'C' with
    | [], some _ => refused "must specify command with --chdir (-C)" true
    | [], none =>
      let ending := if has '0' then String.singleton (Char.ofNat 0) else "\n"
      ended ((m.say (String.join (changed.map (fun (k, v) => k ++ "=" ++ v ++ ending)))).leave 0)
    | name :: args, place =>
      if has '0' then refused "cannot specify --null (-0) with command" true
      else
        let moved : Except IoCause Machine := match place with
          | none => .ok m
          | some dir =>
            match m.look true dir with
            | .ok (_, .directory here) =>
              .ok { m with world := { m.world with files := { m.world.files with here } } }
            | .ok _ => .error .notADirectory
            | .error cause => .error cause
        match moved with
        | .error cause =>
          refused ("cannot change directory to " ++ Utility.shown (place.getD "") ++ ": " ++
            wording cause) false
        | .ok m =>
          let search := (changed.lookup "PATH").getD "/bin:/usr/bin"
          let m := m.putVariable "PATH" ⟨some search, true, false⟩
          let lead := m.leadOf name
          if canStart lead then start name args changed m
          else cannotStart "env" (Utility.shown name) lead m

/-! ## Arguments from the input -/

/-- Groups of at most `n` words, and of at most `room` characters with one more for each word. The
number of words is enough fuel. -/
def groupsOf (n room : Nat) : Nat → List String → Nat → Nat → List String → List (List String)
  | 0, _, _, _, _ => []
  | _ + 1, [], _, _, group => if group.isEmpty then [] else [group.reverse]
  | fuel + 1, w :: rest, count, used, group =>
    let size := w.length + 1
    if !group.isEmpty ∧ (n ≤ count ∨ room < used + size) then
      group.reverse :: groupsOf n room fuel (w :: rest) 0 0 []
    else groupsOf n room fuel rest (count + 1) (used + size) (w :: group)

/-- Lines in groups of `n`; a line with a blank at its end goes on with the next. The number of
lines is enough fuel. -/
def lineGroups (n : Nat) : Nat → List (List Char) → Nat → List Char → List (List Char)
  | 0, _, _, _ => []
  | _ + 1, [], _, group => if group.isEmpty then [] else [group]
  | fuel + 1, l :: rest, count, group =>
    if l.all (fun c => c == ' ' || c == '\t') then lineGroups n fuel rest count group
    else
      let ends := !(l.getLast? == some ' ' || l.getLast? == some '\t')
      let joined := group ++ (if group.isEmpty then [] else [' ']) ++ l
      if ends ∧ n ≤ count + 1 then joined :: lineGroups n fuel rest 0 []
      else lineGroups n fuel rest (if ends then count + 1 else count) joined

/-- The room that a command line has. -/
def lineRoom : Nat := 131072

/-- The long names of the switches for arguments from the input. -/
def argumentNames : List (String × Char) :=
  [("null", '0'), ("arg-file", 'a'), ("delimiter", 'd'), ("eof", 'e'), ("replace", 'i'),
    ("max-lines", 'l'),
    ("max-args", 'n'), ("max-procs", 'P'), ("interactive", 'p'), ("no-run-if-empty", 'r'),
    ("max-chars", 's'), ("verbose", 't'), ("exit", 'x')]

/-- The arguments of each command that is run, and a quote that has not been closed. -/
def argumentGroups (switches : List Switch) (name : String) (front : List String)
    (text : List Char) :
    List (List String) × Option Char :=
  let value := Switches.value? switches
  let mark := (switches.reverse.find? (fun s => s.letter == 'I' || s.letter == 'i')).map
    (fun s => if s.value = "" then "\x7b\x7d" else s.value)
  let count := (value 'n').bind Numeral.count?
  let perLine := ((value 'L').or (value 'l')).map (fun t => ((Numeral.count? t).getD 1))
  let fixed := ((name :: front).map (fun (a : String) => a.length + 1)).foldl (· + ·) 0
  let room := ((value 's').bind Numeral.count?).getD lineRoom - fixed
  let cut := fun (c : Char) =>
    let parts := (Text.pieces (fun d => decide (d = c)) text).map String.ofList
    if parts.getLast? = some "" then parts.dropLast else parts
  let separate := if Switches.given switches '0' then some (Char.ofNat 0)
    else (value 'd').bind (fun t => (Format.spell t).1.toList.head?)
  let upTo := fun (ws : List String) => match (value 'E').or (value 'e') with
    | some stop => if stop = "" then ws else ws.takeWhile (fun w => w != stop)
    | none => ws
  match mark, separate with
  | some m, _ =>
    let lines := match separate with
      | some c => (cut c, none)
      | none =>
        let blank := fun (c : Char) => c == ' ' || c == '\t'
        let trimmed :=
          (Text.pieces (fun d => decide (d = '\n')) text).map (fun l => List.dropWhile blank l)
        quotedWords (fun c => c == '\n') (trimmed.intersperse ['\n']).flatten none none []
    ((upTo lines.1).map (fun i =>
      front.map (fun (a : String) => String.intercalate i (a.splitOn m))), lines.2)
  | none, some c =>
    ((groupsOf (count.getD text.length) room (2 * text.length + 2) (cut c) 0 0 []).map
      (fun g => front ++ g), none)
  | none, none =>
    match perLine with
    | some n =>
      let lines := Text.pieces (fun d => decide (d = '\n')) text
      let groups := lineGroups (max n 1) (lines.length + 1) lines 0 []
      (groups.map (fun g => front ++ (quotedWords Utility.isFieldBlank g none none []).1), none)
    | none =>
      let (ws, unclosed) := quotedWords Utility.isFieldBlank text none none []
      ((groupsOf (count.getD (text.length + 1)) room (2 * text.length + 2) (upTo ws) 0 0 []).map
        (fun g => front ++ g), unclosed)

/-- Runs a program with arguments that are read from the input. -/
def xargs (start : Starter) (args : List String) (environment : List (String × String))
    (m : Machine) :
    Ended :=
  match Switches.among false "0a:d:E:e::I:i::L:l::n:P:prs:tx" argumentNames (args.length + 1)
    args with
  | .error text => ended (Utility.misuse "xargs" text 1 m)
  | .ok (switches, operands) =>
    let name := operands.headD "echo"
    let file := Switches.value? switches 'a'
    let wrong := switches.findSome? (fun s =>
      if !(['n', 'L', 's', 'P'].contains s.letter) then none
      else match Numeral.count? s.value with
        | none =>
          some ("invalid number \"" ++ s.value ++ "\" for -" ++ String.singleton s.letter ++
          " option")
        | some 0 => if s.letter = 'P' then none
          else some ("value 0 for -" ++ String.singleton s.letter ++ " option should be >= 1")
        | some _ => none)
    let read : Except IoCause (Bytes × Machine) := match file with
      | some f => m.readFile f
      | none => .ok (m.readAll 0)
    match wrong, read with
    | some text, _ => ended (Utility.misuse "xargs" text 1 m)
    | none, .error cause =>
      ended (Utility.fail "xargs" ("Cannot open input file " ++ Utility.shown (file.getD "") ++
        ": " ++
        wording cause) 1 m)
    | none, .ok (s, m) =>
      let (groups, unclosed) :=
        argumentGroups switches name (operands.drop 1) (Text.Octets.toText s).toList
      let replaces := Switches.given switches 'I' || Switches.given switches 'i'
      let calls := if groups.isEmpty && !Switches.given switches 'r' && !replaces &&
        unclosed.isNone then
          [operands.drop 1] else groups
      let lead := m.leadOf name
      let (n, world) := m.world.openChannel .nothing
      let quiet := if file.isSome then m else { m with world }.attach 0 n
      let (ending, after) := if !canStart lead ∧ !calls.isEmpty then cannotStart "xargs" name lead m
        else
          let one := fun (acc : Ended) (args : List String) =>
            match acc.1 with
            | .exited code =>
              if 124 ≤ code then acc
              else
                let told := if Switches.given switches 't' then
                    acc.2.warn (String.intercalate " " (name :: args) ++ "\n") else acc.2
                let (ending, after) := launch start name args environment { told with status := 0 }
                let back := { quiet with world := after.world }
                match ending with
                | .exited 0 => (.exited code, back)
                | .exited 255 =>
                  (.exited 124,
                    back.warn ("xargs: " ++ name ++ ": exited with status 255; aborting\n"))
                | .exited _ => (.exited 123, back)
                | .signalled signal =>
                  (.exited 125, back.warn ("xargs: " ++ name ++ ": terminated by signal " ++
                    Nat.repr signal ++ "\n"))
                | .timedOut => (.timedOut, after)
            | _ => acc
          calls.foldl one (.exited 0, quiet)
      match unclosed, ending with
      | some q, .exited _ =>
        let kind := if q = '"' then "double" else "single"
        (.exited 1, after.warn ("xargs: unmatched " ++ kind ++
          " quote; by default quotes are special to " ++
          "xargs unless you use the -0 option\n"))
      | _, _ => (ending, after)

/-! ## Time -/

/-- The steps that a program takes in a millisecond at least. -/
def stepsPerMillisecond : Nat := 500

/-- Runs a program for a limited time. -/
def timeout (start : Starter) (args : List String) (environment : List (String × String))
    (m : Machine) : Ended :=
  let long := [("signal", 's'), ("kill-after", 'k'), ("foreground", 'f'), ("verbose", 'v'),
    ("preserve-status", 'p')]
  match Switches.among false "s:k:fvp" long (args.length + 1) args with
  | .error text => ended (Utility.misuse "timeout" text 125 m)
  | .ok (switches, duration :: name :: rest) =>
    let wanted := (Switches.value? switches 's').map (fun text =>
      (text, signal? 1 (if text.startsWith "SIG" then String.ofList (text.toList.drop 3)
        else text)))
    match Utility.milliseconds? duration, wanted with
    | none, _ =>
      ended (Utility.misuse "timeout" ("invalid time interval " ++ Utility.shown duration) 125 m)
    | _, some (text, none) =>
      ended (Utility.misuse "timeout" (Utility.shown text ++ ": invalid signal") 125 m)
    | some ms, _ =>
      let lead := m.leadOf name
      if !canStart lead then
        cannotStart "timeout" ("failed to run command " ++ Utility.shown name) lead m
      else
        let begun := m.world.elapsed
        let outer := m.deadline?
        let inner := if ms = 0 then outer
          else some (match outer with
            | some limit => min limit (begun + ms)
            | none => begun + ms)
        let budget := m.world.budget
        let share := if ms = 0 then budget else min (budget / 2) (ms * stepsPerMillisecond)
        let limited := match inner with
          | some limit =>
            { m.world with fed := some begun, limit := limit - begun, budget := share }
          | none => m.world
        let (ending, after) := launch start name rest environment { m with world := limited }
        let world := { after.world with
          fed := m.world.fed, limit := m.world.limit
          budget := if inner.isSome then budget - (share - after.world.budget)
            else after.world.budget }
        let after := { after with world }
        let cut := ending = .timedOut ∧ ms ≠ 0 ∧ outer.all (fun limit => begun + ms < limit)
        if cut then
          let stopped := { after with world := { world with elapsed := begun + ms } }
          let signal := (wanted.bind Prod.snd).getD 15
          let said := if Switches.given switches 'v' then
              stopped.warn ("timeout: sending signal " ++ signalName signal ++ " to command " ++
                Utility.shown name ++ "\n")
            else stopped
          if signal = 9 then (.signalled 9, said)
          else (.exited (if Switches.given switches 'p' then 128 + signal else 124), said)
        else match ending with
          | .signalled s => (.exited (128 + s), after)
          | other => (other, after)
  | .ok _ =>
    (.exited 125, m.warn "Try 'timeout --help' for more information.\n")

/-- Runs a program at another priority. -/
def nice (start : Starter) (args : List String) (environment : List (String × String))
    (m : Machine) :
    Ended :=
  let args := match args with
    | word :: rest =>
      match word.toList with
      | '-' :: c :: more => if c.isDigit then "-n" :: String.ofList (c :: more) :: rest else args
      | _ => args
    | [] => args
  match Switches.among false "n:" [("adjustment", 'n')] (args.length + 1) args with
  | .error text => ended (Utility.misuse "nice" text 125 m)
  | .ok (switches, operands) =>
    match switches.find? (fun s => (Numeral.whole? false s.value).isNone), operands with
    | some s, _ =>
      ended (Utility.fail "nice" ("invalid adjustment " ++ Utility.shown s.value) 125 m)
    | none, [] =>
      if switches.isEmpty then ended ((m.say "0\n").leave 0)
      else ended (Utility.misuse "nice" "a command must be given with an adjustment" 125 m)
    | none, name :: rest =>
      let lead := m.leadOf name
      if canStart lead then start name rest environment m
      else cannotStart "nice" (Utility.shown name) lead m

/-- Lets time pass. -/
def sleep (go : Runner) (args : List String) (m : Machine) : Ended :=
  let times := args.map (fun a => (a, Utility.milliseconds? a))
  match times.find? (fun t => t.2.isNone) with
  | some (a, _) =>
    match a.toList with
    | '-' :: c :: _ =>
      ended (Utility.misuse "sleep" ("invalid option -- '" ++ String.singleton c ++ "'") 1 m)
    | _ => ended (Utility.misuse "sleep" ("invalid time interval " ++ Utility.shown a) 1 m)
  | none =>
    if times.isEmpty then ended (Utility.misuse "sleep" "missing operand" 1 m)
    else ended (pass go ((times.filterMap Prod.snd).foldl (· + ·) 0) (m.leave 0))

end Machine

end BlockCoverage.Script
