import BlockCoverage.Script.Find

/-!
# Starting programs

A program is started in a process of its own. The shell is a program too: it gets the exported
variables of the one that starts it and its descriptors, and nothing else.
-/

namespace BlockCoverage.Script

open Text (Bytes)

namespace Machine

/-! ## Shells -/

/-- Where a shell gets its script from. -/
inductive Origin where
  /-- From an argument. -/
  | text (script : String)
  /-- From a file. -/
  | file (path : String)
  /-- From its input. -/
  | input
deriving DecidableEq, Repr

/-- What the arguments of a shell ask for. -/
structure Call where
  /-- The name that it is called by. -/
  name : String
  /-- The options that are on. -/
  options : List Char
  /-- Where the script is. -/
  script : Origin
  /-- The arguments of the script. -/
  arguments : List String

/-- Takes the letters of one word. -/
def callLetters (on : Bool) :
    List Char → List Char → List String → Except String (List Char × List String)
  | [], options, rest => .ok (options, rest)
  | 'o' :: more, options, rest =>
    match rest with
    | [] => callLetters on more options []
    | name :: left =>
      match optionNames.lookup name with
      | some c =>
        callLetters on more (if on then c :: options else options.filter (fun d => d != c)) left
      | none => .error ("Illegal option -o " ++ name)
  | c :: more, options, rest =>
    if c = 'c' ∨ ((optionNames.map Prod.snd).contains c ∧ !c.isDigit) then
      callLetters on more (if on then c :: options else options.filter (fun d => d != c)) rest
    else .error ("Illegal option -" ++ String.singleton c)

/-- Reads the options of a shell: those that are on, and the arguments after them. The number of
arguments is enough fuel. -/
def callOptions : Nat → List Char → List String → Except String (List Char × List String)
  | 0, options, args => .ok (options, args)
  | fuel + 1, options, args =>
    match args with
    | [] => .ok (options, [])
    | word :: rest =>
      match word.toList with
      | ['-'] | ['-', '-'] => .ok (options, rest)
      | '-' :: letters => do
        let (options, left) ← callLetters true letters options rest
        callOptions fuel options left
      | '+' :: letters => do
        let (options, left) ← callLetters false letters options rest
        callOptions fuel options left
      | _ => .ok (options, args)

/-- Reads the arguments of a shell. -/
def call (name : String) (args : List String) : Except String Call := do
  let (options, rest) ← callOptions (args.length + 1) [] args
  let kept := (options.filter (fun c => c != 'c')).eraseDups
  if options.contains 'c' then
    match rest with
    | [] => .error "-c requires an argument"
    | script :: more => return ⟨more.headD name, kept, .text script, more.drop 1⟩
  else match rest with
    | file :: more =>
      if kept.contains 's' then return ⟨name, kept, .input, rest⟩
      else return ⟨file, kept, .file file, more⟩
    | [] => return ⟨name, if kept.contains 's' then kept else 's' :: kept, .input, []⟩

/-- Where a shell looks for programs if nothing else is said. -/
def usualSearch : String := "/usr/local/sbin:/usr/local/bin:/usr/sbin:/usr/bin:/sbin:/bin"

/-- The variables of a new shell: what it gets, and what every shell has. -/
def firstVariables (environment : List (String × String)) (directory : String) (parent : Nat) :
    List (String × Variable) :=
  let usable := environment.filter (fun e => isName e.1)
  let own : List (String × String) :=
    [("IFS", " \t\n"), ("OPTIND", "1"), ("PS1", "# "), ("PS2", "> "), ("PS4", "+ ")]
  let search : Variable := match usable.lookup "PATH" with
    | some text => ⟨some text, true, false⟩
    | none => ⟨some usualSearch, false, false⟩
  let names := ["PATH", "PPID"] ++ own.map Prod.fst
  let given := (usable.filter (fun e => !names.contains e.1)).map (fun (k, v) =>
    (k, (⟨some (if k = "PWD" then directory else v), true, false⟩ : Variable)))
  let place := if (usable.lookup "PWD").isSome then []
    else [("PWD", (⟨some directory, true, false⟩ : Variable))]
  ("PATH", search) :: own.map (fun (k, v) => (k, ⟨some v, false, false⟩)) ++ given ++
    [("PPID", ⟨some (Nat.repr parent), false, false⟩)] ++ place

/-- A new shell in the place of a process. -/
def newShell (c : Call) (environment : List (String × String)) (m : Machine) : Machine :=
  let process := m.process
  let physical := m.directory?.getD ""
  let place := match environment.lookup "PWD" with
    | some text =>
      if Path.isAbsolute text && (m.look true text).toOption.map Prod.snd ==
        some (.directory m.world.files.here) then text else physical
    | none => physical
  let fresh : Machine :=
    { descriptors := m.descriptors
      bindings := firstVariables environment place m.parent
      functions := []
      aliases := []
      name := c.name
      arguments := c.arguments
      self := process
      process
      parent := m.parent
      options := c.options
      status := 0
      substituted := 0
      flow := .going
      faulty := false
      unending := false
      aborted := false
      context := ""
      traps := m.traps.filter (fun t => t.2 == "")
      pending := []
      resumed := none
      isPart := false
      loops := 0
      calls := 0
      frames := []
      documents := []
      nextDocument := 0
      line := 0
      latest := none
      place
      mask := m.mask
      optionOffset := 0
      world := m.world
      jobs := [] }
  fresh.guarded

/-- Runs a shell with the given arguments and environment. -/
def shell (go : Runner) (name : String) (args : List String) (environment : List (String × String))
    (m : Machine) : Ended :=
  let refused := fun (text : String) =>
    (.exited 2, m.warn (name ++ ": 0: " ++ text ++ "\n"))
  match call name args with
  | .error text => refused text
  | .ok c =>
    let run := fun (text : String) (last : Bool) (m : Machine) =>
      let started := newShell c environment m
      finish go (evaluate go ⟨false, last⟩ text { started with line := 1 })
    match c.script with
    | .text script => run script true m
    | .input =>
      let (s, m) := m.readAll 0
      run (Text.Octets.toText s) false m
    | .file file =>
      if m.world.files.isDirectory (path file) then run "" false m
      else match m.readFile file with
        | .ok (s, m) => run (Text.Octets.toText s) false m
        | .error cause =>
          let reason := match cause with
            | .notFound | .notADirectory => "No such file"
            | other => wording other
          refused ("cannot open " ++ file ++ ": " ++ reason)

/-! ## Programs -/

/-- The interpreter that the first line of a script names, and its argument. -/
def interpreter? (text : String) : Option (String × List String) :=
  match text.toList with
  | '#' :: '!' :: rest =>
    let line := (rest.takeWhile (fun c => c != '\n')).dropWhile (fun c => c == ' ' || c == '\t')
    let name := line.takeWhile (fun c => !(c == ' ' || c == '\t'))
    let argument :=
      ((line.drop name.length).dropWhile (fun c => c == ' ' || c == '\t')).reverse.dropWhile
      (fun c => c == ' ' || c == '\t')
    some (String.ofList name, if argument.isEmpty then [] else [String.ofList argument.reverse])
  | _ => none

/-- Whether the contents of a file cannot be a script: it is marked as a program for the machine, or
there is a zero in its first line. -/
def isBinary (s : Bytes) : Bool :=
  [127, 69, 76, 70].isPrefixOf s || ((s.take 256).takeWhile (fun b => b != 10)).contains 0

/-- Starts a program by name in a process of its own, with an environment; scripts may name others
as their interpreter, at most `fuel` deep. -/
def start (go : Runner) : Nat → Starter
  | 0, _, _, _, m => (.timedOut, m)
  | fuel + 1, name, args, environment, m =>
    let m := { m with flow := .going, status := 0, faulty := false, unending := false }
    match m.leadOf name with
    | .missing =>
      (.exited 127,
        m.complain (name ++ (if name = "" then ": Permission denied" else ": not found")))
    | .denied =>
      (.exited (if name.toList.contains '/' then 126 else 127),
        m.complain (name ++ ": Permission denied"))
    | .file file =>
      match m.readFile file with
      | .error cause => (.exited 126, m.complain (name ++ ": " ++ wording cause))
      | .ok (s, m) =>
        match interpreter? (Text.Octets.toText s) with
        | none =>
          if isBinary s then (.exited 126, m.complain (name ++ ": Exec format error"))
          else shell go name (file :: args) environment m
        | some (program, extra) =>
          match m.leadOfPath program with
          | .program p => start go fuel p (extra ++ file :: args) environment m
          | _ => (.exited 127, m.complain (name ++ ": not found"))
    | .program p =>
      let again := start go fuel
      match p with
      | "sh" | "dash" | "bash" => shell go p args environment m
      | "env" => env again args environment m
      | "xargs" => xargs again args environment m
      | "timeout" => timeout again args environment m
      | "find" => find again args environment m
      | "sleep" => sleep go args m
      | "which" => ended (Utility.which m.pathOf? args (m.leave 0))
      | "nohup" | "setsid" =>
        match args with
        | inner :: rest =>
          if canStart (m.leadOf inner) then again inner rest environment m
          else cannotStart p ("failed to run command " ++ Utility.shown inner) (m.leadOf inner) m
        | [] => ended (Utility.misuse p "missing operand" 125 m)
      | "nice" => nice again args environment m
      | _ =>
        match Utility.table.lookup p with
        | some utility =>
          let bindings := environment.map (fun (k, v) => (k, (⟨some v, true, false⟩ : Variable)))
          ended (utility args { m with bindings })
        | none => (.exited 127, m.complain (name ++ ": not found"))

end Machine

end BlockCoverage.Script
