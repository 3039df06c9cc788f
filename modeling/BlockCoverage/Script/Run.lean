import BlockCoverage.Run.Platform
import BlockCoverage.Script.Launch

/-!
# Running scripts

Commands run in order, each on the machine that the one before left, as long as the control goes on.
One step runs one command with the help of a function that runs the commands in it; the interpreter
is that step with itself put in, down to a depth that no script reaches that comes to its end.
-/

namespace BlockCoverage.Script

open Text (Bytes)

namespace Machine

/-! ## Simple commands -/

/-- What the words of a simple command ask for. -/
inductive Request where
  /-- Nothing but assignments and redirections. -/
  | nothing
  /-- A command of the shell; whether a misuse ends the script. -/
  | builtin (name : String) (args : List String) (special : Bool)
  /-- A function. -/
  | function (body : Command) (args : List String)
  /-- A program. -/
  | program (name : String) (args : List String)

/-- The words after `command` and its switches, unless these ask for something else. -/
def afterCommand : List String → Option (List String)
  | "-p" :: rest => afterCommand rest
  | "--" :: rest => some rest
  | word :: rest =>
    if word.toList.head? = some '-' ∧ 1 < word.length then none else some (word :: rest)
  | [] => none

/-- What words ask for; after `command`, functions do not count and nothing is special. The number
of words is enough fuel. -/
def request (m : Machine) : Nat → Bool → List String → Request
  | 0, _, _ => .nothing
  | _ + 1, _, [] => .nothing
  | fuel + 1, plain, name :: args =>
    let function := if plain then none else m.functions.lookup name
    match function with
    | some body => .function body args
    | none =>
      if name = "command" then
        match afterCommand args with
        | some words => m.request fuel true words
        | none => .builtin name args false
      else if specialBuiltins.contains name then .builtin name args !plain
      else if plainBuiltins.contains name then .builtin name args false
      else .program name args

/-- Whether the first of the fields makes the words after it assignments. -/
def takesAssignments : List String → Bool
  | "command" :: rest => takesAssignments rest
  | name :: _ => ["export", "readonly", "local"].contains name
  | [] => false

/-- The fields that the words of a simple command make. -/
def expandWords (go : Runner) : List Word → List String → StateM Machine (List String)
  | [], fields => return fields
  | w :: rest, fields => do
    let front ← match if takesAssignments fields then Grammar.assignment? w else none with
      | some (name, value) => do
        let text ← Expand.assigned (capture go) expansionDepth value
        pure [name ++ "=" ++ text]
      | none => Expand.word (capture go) expansionDepth w
    if (← get).isGoing then expandWords go rest (fields ++ front) else return []

/-- Makes assignments; those in front of a program are exported. -/
def assignAll (go : Runner) (exported : Bool) : List (String × Word) → Machine → Machine
  | [], m => m
  | (name, w) :: rest, m =>
    if !m.isGoing then m
    else
      let (text, m) := (Expand.assigned (capture go) expansionDepth w).run m
      if !m.isGoing then m
      else
        let set := m.assign name text
        let marked := match set.variableOf name with
          | some v =>
            if exported && set.isGoing then set.putVariable name { v with exported := true }
            else set
          | none => set
        let reset := if name = "OPTIND" then { marked with optionOffset := 0 } else marked
        assignAll go exported rest reset

/-- Puts variables back to what they were. -/
def restoreVariables (saved : List (String × Option Variable)) (m : Machine) : Machine :=
  saved.foldl (fun m (name, v) => match v with
    | some v => m.putVariable name v
    | none => m.dropVariable name) m

/-- The most functions that can be open. -/
def maxCalls : Nat := 1000

/-- Calls a function. -/
def callFunction (go : Runner) (tested : Bool) (body : Command) (args : List String) (m : Machine) :
    Machine :=
  if maxCalls ≤ m.calls then
    m.abort ("Maximum function recursion depth (" ++ Nat.repr maxCalls ++ ") reached")
  else
    let inside := { m with
      arguments := args
      loops := 0
      calls := m.calls + 1
      frames := [] :: m.frames }
    let after := go ⟨tested, false⟩ body inside
    let restored := match after.frames with
      | frame :: _ => restoreVariables frame after
      | [] => after
    let flow := match after.flow with
      | .returning => .going
      | other => other
    { restored with
      arguments := m.arguments, loops := m.loops, calls := m.calls, frames := m.frames, flow }

/-- Whether an action is set for some signal. -/
def hasTraps (m : Machine) : Bool := m.traps.any (fun t => t.2 != "")

/-- How many scripts may name one another as their interpreter. -/
def interpreterDepth : Nat := 8

/-- Starts a program and waits for it. What is last in a process takes its place. -/
def runProgram (go : Runner) (last : Bool) (name : String) (args : List String) (m : Machine) :
    Machine :=
  let m := m.readied go
  let inPlace := last && !m.hasTraps
  let (ending, after) := start go interpreterDepth name args m.environment (if inPlace then m
    else m.spawn)
  if inPlace then
    match ending with
    | .exited code => { m.rejoin after ending with flow := .ended (.exited code) }
    | .signalled signal =>
      { m.rejoin after (.exited 0) with status := 128 + signal, flow := .ended (.signalled signal) }
    | .timedOut => m.rejoin after ending
  else
    let joined := m.rejoin after ending
    if joined.isGoing then runJobs go joined.world.elapsed jobRounds joined else joined

/-- Reads a script in the place where it is called. -/
def source (go : Runner) (args : List String) (m : Machine) : Machine :=
  match args with
  | [] => m.leave 0
  | name :: _ =>
    let found := if name.toList.contains '/' then some name
      else ((m.leads name).find? (fun l => m.world.files.isFile (path l.1))).map Prod.fst
    match found with
    | none => m.refuse "." (name ++ ": not found")
    | some file =>
      match m.readFile file with
      | .error .isADirectory => m.leave 0
      | .error cause =>
        let reason := match cause with
          | .notFound | .notADirectory => "No such file"
          | other => wording other
        m.refuse "." ("cannot open " ++ file ++ ": " ++ reason)
      | .ok (s, m) =>
        let after :=
          evaluate go ⟨false, false⟩ (Text.Octets.toText s) { m.leave 0 with context := file }
        let back := { after with context := m.context }
        if after.flow = .returning then { back with flow := .going } else back

/-- Puts a program in the place of the shell. -/
def replaceBy (go : Runner) (args : List String) (m : Machine) : Machine :=
  match args with
  | [] => m.leave 0
  | name :: rest =>
    let lead := m.leadOf name
    if canStart lead then
      let (ending, after) := start go interpreterDepth name rest m.environment m
      let gone := { m.rejoin after (.exited 0) with traps := m.traps.filter (fun t => t.1 != 0) }
      match ending with
      | .exited code => gone.quit code
      | other => { gone with flow := .ended other }
    else
      let denied := lead = .denied ∨ name = ""
      let reason := if denied then "Permission denied" else "not found"
      (m.complain ("exec: " ++ name ++ ": " ++ reason)).quit (if denied then 126 else 127)

/-- Says what a name stands for. -/
def aboutCommand (m : Machine) (args : List String) : Machine :=
  match Switches.split "pvV" args with
  | .error text => m.refuse "command" text
  | .ok (switches, names) =>
    let brief := (switches.filter (fun s => s.letter != 'p')).getLast?.map Switch.letter = some 'v'
    match names with
    | [] => m.leave 0
    | name :: _ =>
      match m.describe brief quote name with
      | some text => (m.leave 0).report "command" (text ++ "\n")
      | none => if brief then m.leave 127
          else (m.warn (name ++ ": not found\n")).leave 127

/-- Runs a command of the shell, which names itself in its messages. -/
def runBuiltin (go : Runner) (tested : Bool) (name : String) (args : List String) (m : Machine) :
    Machine :=
  let context := m.context
  match name with
  | "eval" =>
    if args.isEmpty then m.leave 0
    else
      let line := m.line
      let text := String.intercalate " " args
      let after := evaluate go ⟨tested, false⟩ text { m.leave 0 with context := "eval" }
      { after with line, context }
  | _ =>
    let named := { m with context := "" }
    let after := match name with
      | "." => source go args named
      | "exec" => replaceBy go args named
      | "wait" => wait go args named
      | "command" => named.aboutCommand args
      | _ =>
        match builtin? name with
        | some run => run named args
        | none => named.leave 127
    { after with context }

/-- What becomes of a fault in a command of the shell that is not a special one: the script goes
on. -/
def survived (m : Machine) : Machine :=
  if m.aborted && m.flow == .ended (.exited 2) then { m with flow := .going, aborted := false }
  else m

/-- Writes a command before it is run, if that is asked for. -/
def traced (assignments : List (String × String)) (fields : List String) (m : Machine) : Machine :=
  if !m.has 'x' then m
  else
    let front := assignments.map (fun (name, value) => name ++ "=" ++ value)
    m.warn (m.value "PS4" ++ String.intercalate " " (front ++ fields) ++ "\n")

/-- Runs what the words of a simple command ask for, after its redirections. -/
def runRequest (go : Runner) (mode : Mode) (assignments : List (String × Word))
    (fields : List String)
    (r : Request) (m : Machine) : Machine :=
  let kept := match r with
    | .nothing => true
    | .builtin _ _ special => special
    | _ => false
  let exported := match r with
    | .nothing => false
    | .builtin name args special => !special || (name == "exec" && !args.isEmpty)
    | _ => true
  let saved := if kept then [] else assignments.map (fun a => (a.1, m.variableOf a.1))
  let set := assignAll go exported assignments m
  if !set.isGoing then set
  else
    let set := set.traced (assignments.map (fun a => (a.1, set.value a.1))) fields
    let after := match r with
      | .nothing => set.leave set.substituted
      | .builtin name args special =>
        let ran := runBuiltin go mode.tested name args set
        let settled := { ran with faulty := false }
        if !special then settled.survived
        else if ran.faulty then { settled.quit 2 with aborted := true }
        else settled
      | .function body args => callFunction go mode.tested body args set
      | .program name args => runProgram go mode.last name args set
    restoreVariables saved.reverse after

/-- Runs a simple command: its words are expanded, then its redirections are made, then its
assignments. -/
def runSimple (go : Runner) (mode : Mode) (line : Nat) (assignments : List (String × Word))
    (words : List Word) (redirects : List Redirect) (m : Machine) : Machine :=
  let (fields, m) := (expandWords go words []).run { m with line, substituted := 0 }
  if !m.isGoing then m
  else
    let r := m.request (fields.length + 1) false fields
    let special := match r with
      | .builtin _ _ special => special
      | _ => false
    let lasting := match r with
      | .builtin "exec" _ _ => true
      | _ => false
    let (ps, m) := (Redirection.expandAll (capture go) expansionDepth redirects).run m
    if !m.isGoing then m
    else
      let (pointed, made) := Redirection.pointAll ps m
      let after := if made then runRequest go mode assignments fields r pointed
        else if special then { pointed.quit 2 with aborted := true } else pointed
      if made && lasting then after else Redirection.restore m.descriptors ps after

/-! ## Compound commands -/

/-- Runs something with redirections. -/
def redirected (go : Runner) (redirects : List Redirect) (body : Machine → Machine) (m : Machine) :
    Machine :=
  if redirects.isEmpty then body m
  else
    let (ps, m) := (Redirection.expandAll (capture go) expansionDepth redirects).run m
    if !m.isGoing then m
    else
      let (pointed, made) := Redirection.pointAll ps m
      Redirection.restore m.descriptors ps (if made then body pointed else pointed)

/-- What comes of a way out of loops when one of them has been left: the control there, and whether
the loop goes on. -/
def afterRound : Flow → Flow × Bool
  | .going => (.going, true)
  | .breaking n => (if n ≤ 1 then .going else .breaking (n - 1), false)
  | .continuing n => if n ≤ 1 then (.going, true) else (.continuing (n - 1), false)
  | other => (other, false)

/-- Goes round as long as each round says so; out of rounds, the target is stopped. -/
def rounds (turn : Machine × Nat → (Machine × Nat) × Bool) : Nat → Machine × Nat → Machine × Nat
  | 0, (m, status) => ({ m with flow := .ended .timedOut }, status)
  | n + 1, state =>
    let (next, more) := turn state
    if more then rounds turn n next else next

/-- Runs a loop with a condition. Its status is that of the last round, or success if there was
none. -/
def runRepeated (go : Runner) (tested wanted : Bool) (condition body : List Command) (m : Machine) :
    Machine :=
  let turn := fun (state : Machine × Nat) =>
    let asked := inOrder go ⟨true, false⟩ condition state.1
    let (flow, more) := afterRound asked.flow
    if asked.flow ≠ .going then
      let status := if asked.flow = .returning then asked.status else state.2
      (({ asked with flow }, status), more)
    else if (asked.status == 0) != wanted then ((asked, state.2), false)
    else
      let ran := inOrder go ⟨tested, false⟩ body asked
      let (flow, more) := afterRound ran.flow
      (({ ran with flow }, ran.status), more)
  let (after, status) := rounds turn (m.world.budget + 1) ({ m with loops := m.loops + 1 }, 0)
  let left := { after with loops := m.loops }
  match after.flow with
  | .ended _ => left
  | _ => left.leave status

/-- Runs a loop over fields. -/
def runEach (go : Runner) (tested : Bool) (name : String) (body : List Command) :
    List String → Machine → Machine
  | [], m => m
  | field :: rest, m =>
    let set := m.assign name field
    if !set.isGoing then set
    else
      let ran := inOrder go ⟨tested, false⟩ body set
      let (flow, more) := afterRound ran.flow
      if more then runEach go tested name body rest { ran with flow } else { ran with flow }

/-- Whether one of the patterns matches. -/
def anyMatch (go : Runner) (subject : String) : List Word → StateM Machine Bool
  | [] => return false
  | w :: rest => do
    let p ← Expand.pattern (capture go) expansionDepth w
    if !(← get).isGoing then return false
    if Pattern.isMatch p subject then return true else anyMatch go subject rest

/-- The first arm of a choice of which a pattern matches. -/
def chosenArm (go : Runner) (subject : String) :
    List (List Word × List Command) → StateM Machine (Option (List Command))
  | [] => return none
  | (patterns, body) :: rest => do
    if ← anyMatch go subject patterns then return some body
    else if (← get).isGoing then chosenArm go subject rest
    else return none

/-- Runs the links of a chain, each if the outcome so far asks for it. -/
def runLinks (go : Runner) (mode : Mode) : List (Bool × Command) → Machine → Machine
  | [], m => m
  | (wanted, c) :: rest, m =>
    if !m.isGoing then m
    else
      let isLast := rest.isEmpty
      let due := (m.status == 0) == wanted
      let inner : Mode := ⟨mode.tested || !isLast, mode.last && isLast⟩
      runLinks go mode rest (if due then go inner c m else m)

/-- Ends the script after a failure that nobody looks at, if that is asked for. -/
def checked (mode : Mode) (m : Machine) : Machine :=
  if m.isGoing && !mode.tested && m.status != 0 && m.has 'e' then m.quit m.status else m

/-- Runs the actions of the signals that have come. -/
def runTraps (go : Runner) (m : Machine) : Machine :=
  if m.pending.isEmpty || !m.isGoing then m
  else
    let one := fun (m : Machine) (signal : Nat) =>
      match m.traps.lookup signal with
      | some action =>
        if !m.isGoing || action = "" then m
        else
          let before := m.resumed.getD m.status
          let after := evaluate go ⟨false, false⟩ action { m with resumed := some before }
          let back := { after with resumed := m.resumed }
          if after.flow = .returning then back else back.leave before
      | none => m
    m.pending.foldl one { m with pending := [] }

/-- Runs one command, with `go` for the commands in it. -/
def step (go : Runner) (mode : Mode) (c : Command) (m : Machine) : Machine :=
  let m := m.spend
  if !m.isGoing || m.has 'n' then m
  else
    let ran := match c with
      | .simple line assignments words redirects =>
        (runSimple go mode line assignments words redirects m).checked mode
      | .pipe stages => (runPipe go mode.tested stages reaches (m.readied go)).checked mode
      | .negate inner =>
        let ran := go ⟨true, false⟩ inner m
        if ran.isGoing then ran.leave (if ran.status = 0 then 1 else 0) else ran
      | .chain first rest => runLinks go mode rest (go ⟨true, false⟩ first m)
      | .background inner => startJob go inner m
      | .apart body redirects =>
        (inPart go (redirected go redirects (inOrder go ⟨mode.tested, true⟩ body)) m).checked mode
      | .group body redirects =>
        redirected go redirects
          (inOrder go ⟨mode.tested, mode.last && redirects.isEmpty⟩ body) m
      | .branch condition yes no redirects =>
        let inner : Mode := ⟨mode.tested, mode.last && redirects.isEmpty⟩
        redirected go redirects (fun m =>
          let asked := inOrder go ⟨true, false⟩ condition m
          if !asked.isGoing then asked
          else if asked.status = 0 then inOrder go inner yes asked
          else if no.isEmpty then asked.leave 0
          else inOrder go inner no asked) m
      | .repeated wanted condition body redirects =>
        redirected go redirects (runRepeated go mode.tested wanted condition body) m
      | .each name words body redirects =>
        redirected go redirects (fun m =>
          let (fields, m) := match words with
            | some ws => (Expand.words (capture go) expansionDepth ws).run m
            | none => (m.arguments, m)
          if !m.isGoing then m
          else if fields.isEmpty then m.leave 0
          else
            let after := runEach go mode.tested name body fields { m with loops := m.loops + 1 }
            { after with loops := m.loops }) m
      | .choose subject arms redirects =>
        let inner : Mode := ⟨mode.tested, mode.last && redirects.isEmpty⟩
        redirected go redirects (fun m =>
          let (text, m) := (Expand.text (capture go) expansionDepth subject).run m
          if !m.isGoing then m
          else
            let (arm, m) := (chosenArm go text arms).run m
            if !m.isGoing then m
            else match arm with
              | some (c :: rest) => inOrder go inner (c :: rest) m
              | _ => m.leave 0) m
      | .define name body =>
        { m.leave 0 with functions := (name, body) :: m.functions.filter (fun f => f.1 != name) }
    runTraps go ran

/-- Runs one command nested at most `depth` deep. -/
def run : Nat → Runner
  | 0, _, _, m => { m with flow := .ended .timedOut }
  | depth + 1, mode, c, m => step (run depth) mode c m

/-- How deep commands may be nested. -/
def maxDepth : Nat := 20000

end Machine

/-- The steps that a script may take before it counts as one that does not end: as many as are taken
in the time that it has, up to a number that no script reaches that comes to its end. -/
def maxSteps (limit : Nat) : Nat := min 2000000 (1000 * limit)

/-- The process that starts another one. -/
def starter (s : Start) (files : Files) : Machine :=
  let size := s.input.length
  let encode := Text.Octets.encode
  { descriptors := [(0, 0), (1, 1), (2, 1)]
    bindings := s.environment.map (fun (k, v) => (encode k, ⟨some (encode v), true, false⟩))
    functions := []
    aliases := []
    name := "sh"
    arguments := []
    self := 3999
    process := 3999
    parent := 1
    options := []
    status := 0
    substituted := 0
    flow := .going
    faulty := false
    unending := false
    aborted := false
    context := ""
    traps := []
    pending := []
    resumed := none
    isPart := false
    loops := 0
    calls := 0
    frames := []
    documents := []
    nextDocument := 0
    line := 0
    latest := none
    place := ""
    mask := 18
    optionOffset := 0
    world :=
      { files
        channels := #[.pipe s.input [] 0 none, .nothing]
        elapsed := 0
        inputSize := size
        fed := if World.isFed size size then some 0 else none
        limit := s.limit
        budget := maxSteps s.limit
        nextProcess := 4000
        guards := []
        posts := [] }
    jobs := [] }

/-- Why a program cannot be started that a name leads to, if so. -/
def startFault? (m : Machine) (program : String) : Option IoCause :=
  match m.leadOf (Text.Octets.encode program) with
  | .program _ | .file _ => none
  | .denied => some .permissionDenied
  | .missing =>
    if program = "" then some .notFound
    else if program.toList.contains '/' then
      match m.world.files.locate program with
      | .error cause => some cause
      | .ok _ => some .notFound
    else if Files.maxName < program.utf8ByteSize then some .nameTooLong
    else some .notFound

/-- Runs a program on files seen from the directory it is started in: how it ends, and what it
leaves, unless it cannot be started. -/
def run : Launcher := fun s files =>
  let m := starter s files
  match startFault? m s.program with
  | some cause => .error cause
  | none =>
    let go := Machine.run Machine.maxDepth
    let (ending, after) := Machine.start go Machine.interpreterDepth (Text.Octets.encode s.program)
      (s.arguments.map Text.Octets.encode) m.environment m.spawn
    .ok (ending, { after.world.files with here := files.here })

end BlockCoverage.Script
