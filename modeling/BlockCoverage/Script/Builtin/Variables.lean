import BlockCoverage.Script.Builtin.Output
import BlockCoverage.Script.Expand

/-!
# Variables, arguments and options

Commands that change what the shell remembers.
-/

namespace BlockCoverage.Script.Machine

/-- A text between single quotes, where a quote is written outside of them. -/
def quote (text : String) : String :=
  let inside := text.toList.flatMap (fun c => if c = '\'' then "'\"'\"'".toList else [c])
  "'" ++ String.ofList inside ++ "'"

/-- The name and the value of an argument that sets a variable. -/
def binding (arg : String) : String × Option String :=
  let name := arg.toList.takeWhile (fun c => c != '=')
  match arg.toList.drop name.length with
  | _ :: value => (String.ofList name, some (String.ofList value))
  | [] => (arg, none)

/-- Sets a variable for a command of the shell, unless it cannot be set. -/
def bind (m : Machine) (command name : String) (value : Option String) : Machine :=
  if !isName name then m.refuse command (name ++ ": bad variable name")
  else match m.variableOf name, value with
    | some v, some text =>
      if v.fixed then m.refuse command (name ++ ": is read only")
      else m.putVariable name { v with value := some text }
    | some _, none => m
    | none, _ => m.putVariable name ⟨value, m.has 'a', false⟩

/-- The variables in the order of their names. -/
def sortedVariables (m : Machine) : List (String × Variable) :=
  m.bindings.mergeSort (fun a b => decide (a.1 ≤ b.1))

/-- The lines that would set variables again. -/
def listing (m : Machine) (command : String) (shown : Variable → Bool) : String :=
  String.join (m.sortedVariables.map (fun (name, v) =>
    if shown v then
      command ++ name ++ (match v.value with
        | some text => "=" ++ quote text
        | none => "") ++ "\n"
    else ""))

/-- Marks variables as exported or as fixed, setting those that come with a value. -/
def mark (m : Machine) (command : String) (change : Variable → Variable) (shown : Variable → Bool)
    (args : List String) : Machine :=
  match Switches.split "p" args with
  | .error text => m.refuse command text
  | .ok (switches, names) =>
    if !switches.isEmpty ∨ names.isEmpty then
      (m.leave 0).report command (m.listing (command ++ " ") shown)
    else
      let one := fun (m : Machine) (arg : String) =>
        if m.faulty then m
        else
          let (name, value) := binding arg
          let bound := m.bind command name value
          match bound.faulty, bound.variableOf name with
          | false, some v => bound.putVariable name (change v)
          | _, _ => bound
      names.foldl one (m.leave 0)

/-- Makes variables ones that programs get. -/
def exportVariables (m : Machine) (args : List String) : Machine :=
  m.mark "export" (fun v => { v with exported := true }) Variable.exported args

/-- Makes variables ones that cannot be changed. -/
def fixVariables (m : Machine) (args : List String) : Machine :=
  m.mark "readonly" (fun v => { v with fixed := true }) Variable.fixed args

/-- Makes variables ones of the function that is open. -/
def localVariables (m : Machine) (args : List String) : Machine :=
  let one := fun (m : Machine) (arg : String) =>
    if m.faulty then m
    else
      let (name, value) := binding arg
      match m.frames with
      | [] => m.refuse "local" "not in a function"
      | frame :: outer =>
        let kept := if (frame.lookup name).isSome then frame else (name, m.variableOf name) :: frame
        { m with frames := kept :: outer }.bind "local" name value
  if m.frames.isEmpty ∨ m.calls = 0 then m.refuse "local" "not in a function"
  else args.foldl one (m.leave 0)

/-- Forgets variables or functions. -/
def unset (m : Machine) (args : List String) : Machine :=
  match Switches.split "vf" args with
  | .error text => m.refuse "unset" text
  | .ok (switches, names) =>
    let functions := switches.getLast?.map Switch.letter = some 'f'
    let one := fun (m : Machine) (name : String) =>
      if m.faulty then m
      else if functions then { m with functions := m.functions.filter (fun f => f.1 != name) }
      else if !isName name then m.refuse "unset" (name ++ ": bad variable name")
      else match m.variableOf name with
        | some v =>
          if v.fixed then m.refuse "unset" (name ++ ": is read only") else m.dropVariable name
        | none => m
    names.foldl one (m.leave 0)

/-! ## Options -/

/-- The long names of the options, in the order in which they are listed. -/
def optionNames : List (String × Char) :=
  [("errexit", 'e'), ("noglob", 'f'), ("ignoreeof", 'I'), ("interactive", 'i'), ("monitor", 'm'),
    ("noexec", 'n'), ("stdin", 's'), ("xtrace", 'x'), ("verbose", 'v'), ("vi", 'V'), ("emacs", 'E'),
    ("noclobber", 'C'), ("allexport", 'a'), ("notify", 'b'), ("nounset", 'u'), ("privileged", 'p'),
    ("nolog", '1'), ("debug", '2')]

/-- Turns an option on or off. -/
def switch (m : Machine) (on : Bool) (letter : Char) : Machine :=
  let others := m.options.filter (fun c => c != letter)
  { m with options := if on then letter :: others else others }

/-- The commands that would set the options as they are. -/
def optionCommands (m : Machine) : String :=
  String.join (optionNames.map (fun (name, letter) =>
    "set " ++ (if m.has letter then "-" else "+") ++ "o " ++ name ++ "\n"))

/-- The options as they are. -/
def optionListing (m : Machine) : String :=
  "Current option settings\n" ++ String.join (optionNames.map (fun (name, letter) =>
    name ++ String.ofList (List.replicate (16 - name.length) ' ') ++
      (if m.has letter then "on" else "off") ++ "\n"))

/-- Turns the options of one word on or off; the long name may be the first of the words after
it. -/
def switchWord (command : String) (on : Bool) : List Char → List String → Machine →
    Machine × List String
  | [], rest, m => (m, rest)
  | 'o' :: more, rest, m =>
    match rest with
    | [] =>
      switchWord command on more []
        (m.report command (if on then m.optionListing else m.optionCommands))
    | name :: left =>
      match optionNames.lookup name with
      | some letter => switchWord command on more left (m.switch on letter)
      | none => (m.refuse command ("Illegal option -o " ++ name), left)
  | c :: more, rest, m =>
    if (optionNames.map Prod.snd).contains c && !c.isDigit then
      switchWord command on more rest (m.switch on c)
    else (m.refuse command ("Illegal option -" ++ String.singleton c), rest)

/-- Takes the options in front of arguments: the arguments after them, or nothing if there was no
sign that they are to be set. The number of arguments is enough fuel. -/
def switchWords (command : String) : Nat → List String → Machine → Machine × Option (List String)
  | 0, args, m => (m, some args)
  | fuel + 1, args, m =>
    match args with
    | [] => (m, none)
    | word :: rest =>
      match word.toList with
      | ['-', '-'] => (m, some rest)
      | ['-'] => ((m.switch false 'x').switch false 'v', if rest.isEmpty then none else some rest)
      | '-' :: letters =>
        let (m, left) := switchWord command true letters rest m
        if m.faulty then (m, none) else switchWords command fuel left m
      | '+' :: c :: letters =>
        let (m, left) := switchWord command false (c :: letters) rest m
        if m.faulty then (m, none) else switchWords command fuel left m
      | _ => (m, some args)

/-- Sets options and arguments, or lists the variables. -/
def setOptions (m : Machine) (args : List String) : Machine :=
  if args.isEmpty then (m.leave 0).report "set" (m.listing "" (fun v => v.value.isSome))
  else
    let (m, arguments) := switchWords "set" (args.length + 1) args (m.leave 0)
    match arguments with
    | some arguments => { m with arguments, optionOffset := 0 }
    | none => m

/-- Drops the first arguments. -/
def shift (m : Machine) (args : List String) : Machine :=
  let drop := fun (n : Nat) =>
    if m.arguments.length < n then m.refuse "shift" "can't shift that many"
    else { m.leave 0 with arguments := m.arguments.drop n, optionOffset := 0 }
  match args with
  | [] => drop 1
  | text :: _ =>
    match Numeral.count? text with
    | some n => drop n
    | none => m.refuse "shift" ("Illegal number: " ++ text)

/-! ## Options of scripts -/

/-- Takes the next option from the arguments of a script. -/
def getopts (m : Machine) (args : List String) : Machine :=
  match args with
  | allowed :: name :: given =>
    let words := if given.isEmpty then m.arguments else given
    let index := (Numeral.count? (m.value "OPTIND")).getD 1
    let current := if index ≤ 1 ∨ m.optionOffset = 0 then []
      else ((words[index - 2]?).getD "").toList.drop m.optionOffset
    let silent := allowed.toList.head? = some ':'
    let finish := fun (m : Machine) (letter : String) (index offset status : Nat) =>
      let m := (m.assign "OPTIND" (Nat.repr index)).bind "getopts" name (some letter)
      if m.faulty then m else { m.leave status with optionOffset := offset }
    let start := if !current.isEmpty then some (current, index, m.optionOffset)
      else match (words[index - 1]?).map String.toList with
        | some ('-' :: c :: more) =>
          if c = '-' ∧ more.isEmpty then none else some (c :: more, index + 1, 1)
        | _ => none
    match start with
    | none =>
      let ended := words[index - 1]? = some "--" ∧ current.isEmpty
      finish m "?" (if ended then index + 1 else index) 0 1
    | some (cs, index, offset) =>
      let c := cs.headD '?'
      let more := cs.drop 1
      let shown := String.singleton c
      match if c = ':' then none else Switches.taking? allowed.toList c with
      | none =>
        let m := if silent then m.assign "OPTARG" shown
          else (m.warn ("Illegal option -" ++ shown ++ "\n")).dropVariable "OPTARG"
        finish m "?" index (if more.isEmpty then 0 else offset + 1) 0
      | some .nothing =>
        finish (m.assign "OPTARG" "") shown index (if more.isEmpty then 0 else offset + 1) 0
      | some _ =>
        if !more.isEmpty then finish (m.assign "OPTARG" (String.ofList more)) shown index 0 0
        else match words[index - 1]? with
          | some value => finish (m.assign "OPTARG" value) shown (index + 1) 0 0
          | none =>
            if silent then finish (m.assign "OPTARG" shown) ":" index 0 0
            else
              finish ((m.warn ("No arg for -" ++ shown ++ " option\n")).dropVariable "OPTARG") "?"
                index 0 0
  | _ => m.refuse "getopts" "Usage: getopts optstring var [arg...]"

/-! ## Reading -/

/-- What a line is made of when it is read: its atoms, how much has been used up, and whether it
came to an end. Unless `raw`, a backslash takes the meaning of the character after it, and joins
lines. -/
def lineAtoms (raw : Bool) : Text.Bytes → Bool → Nat → List Atom → List Atom × Nat × Bool
  | [], _, used, acc => (acc.reverse, used, false)
  | b :: rest, escaped, used, acc =>
    let c := Char.ofNat b.toNat
    if b = 0 then lineAtoms raw rest escaped (used + 1) acc
    else if escaped then
      lineAtoms raw rest false (used + 1) (if c = '\n' then acc else .char c false false :: acc)
    else if c = '\\' ∧ !raw then lineAtoms raw rest true (used + 1) acc
    else if c = '\n' then (acc.reverse, used + 1, true)
    else lineAtoms raw rest false (used + 1) (.char c true false :: acc)

/-- Takes a line of the input into variables. -/
def readLine (m : Machine) (args : List String) : Machine :=
  match Switches.split "p:r" args with
  | .error text => m.refuse "read" text
  | .ok (_, []) => m.refuse "read" "arg count"
  | .ok (switches, names) =>
    let raw := switches.any (fun s => s.letter == 'r')
    let (line, used, complete) := lineAtoms raw (m.available 0) false 0 []
    let fields := (Expand.fields m.separators (some names.length) line).map Expand.textOf
    let one := fun (m : Machine) (entry : String × String) =>
      if m.faulty then m else m.bind "read" entry.1 (some entry.2)
    let values := fields ++ List.replicate (names.length - fields.length) ""
    (names.zip values).foldl one ((m.consume 0 used).leave (if complete then 0 else 1))

end BlockCoverage.Script.Machine
