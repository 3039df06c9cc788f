import BlockCoverage.Script.Starters

/-!
# Searching through directories

A search walks through a directory and everything below it and puts a question to each name that it
meets. A question is made of tests, joined by "and", "or" and "not"; some of its parts also do
something with the name: show it, remove it, or start a program on it.
-/

namespace BlockCoverage.Script

open Text (Bytes)

namespace Find

/-- How a number compares with a given one. -/
inductive Measure where
  /-- It is more. -/
  | more (n : Nat)
  /-- It is less. -/
  | less (n : Nat)
  /-- It is the same. -/
  | exactly (n : Nat)
deriving DecidableEq, Repr

/-- Whether a number is as asked for. -/
def Measure.holds : Measure → Nat → Bool
  | .more n, k => decide (n < k)
  | .less n, k => decide (k < n)
  | .exactly n, k => decide (k = n)

/-- What a search asks about a name. -/
inductive Question where
  /-- An answer that does not depend on the name. -/
  | always (answer : Bool)
  /-- Whether the name, or the whole path, matches a pattern; whether case counts. -/
  | named (whole folded : Bool) (pattern : String)
  /-- Whether a link leads to a text that matches. -/
  | leadsTo (pattern : String)
  /-- Whether it is of one of some kinds, links followed if asked. -/
  | kind (followed : Bool) (letters : List Char)
  /-- Whether it has a size, counted in units. -/
  | size (unit : Nat) (measure : Measure)
  /-- Whether there is nothing in it. -/
  | empty
  /-- Whether it was changed after a time. -/
  | newer (time : Nat)
  /-- Whether it was changed so many units of time ago. -/
  | age (unit : Nat) (measure : Measure)
  /-- Whether its permissions are these, contain these, or have one of these. -/
  | mode (how : Option Char) (bits : Nat)
  /-- Whether it has so many names. -/
  | links (measure : Measure)
  /-- Whether it is the same as something else. -/
  | same (entry : Entry)
  /-- Shows its path. -/
  | print (ending : String)
  /-- Shows its properties. -/
  | format (text : String)
  /-- Removes it. -/
  | delete
  /-- Does not go below it. -/
  | prune
  /-- Ends the search. -/
  | quit
  /-- Starts a program on it. -/
  | run (words : List String)
  /-- Starts a program on all that have come this far. -/
  | gather (words : List String)
  /-- The opposite. -/
  | no (q : Question)
  /-- The first, and then the second. -/
  | both (q r : Question)
  /-- The first, or else the second. -/
  | either (q r : Question)
  /-- The second, after the first. -/
  | after (q r : Question)

/-- Whether a question does something with names, so that they are not shown without being asked. -/
def Question.acts : Question → Bool
  | .print _ | .format _ | .delete | .run _ | .gather _ | .quit => true
  | .no q => q.acts
  | .both q r | .either q r | .after q r => q.acts || r.acts
  | _ => false

/-- Whether a question removes names. -/
def Question.removes : Question → Bool
  | .delete => true
  | .no q => q.removes
  | .both q r | .either q r | .after q r => q.removes || r.removes
  | _ => false

/-- What holds for the whole search. -/
structure Limits where
  /-- The least depth. -/
  least : Nat
  /-- The greatest depth. -/
  most : Option Nat
  /-- Whether what is inside comes first. -/
  inward : Bool

/-- Reads a number with a sign. -/
def measure? (text : String) : Option Measure :=
  match text.toList with
  | '+' :: rest => (Numeral.count? (String.ofList rest)).map .more
  | '-' :: rest => (Numeral.count? (String.ofList rest)).map .less
  | _ => (Numeral.count? text).map .exactly

/-- Reads a size with a sign and a unit. -/
def size? (text : String) : Option (Nat × Measure) :=
  let units := [('c', 1), ('w', 2), ('b', 512), ('k', 1024), ('M', 1048576), ('G', 1073741824)]
  match text.toList.getLast? with
  | some c =>
    match units.lookup c with
    | some u => (measure? (String.ofList text.toList.dropLast)).map (fun m => (u, m))
    | none => (measure? text).map (fun m => (512, m))
  | none => none

/-- A reader of the words of a search: what it has read, the limits, and the words that are left. -/
abbrev Read := Except String (Question × Limits × List String)

/-- Tests and actions that take one word. -/
def withWord (m : Machine) (name value : String) (l : Limits) :
    Except String (Option (Question × Limits)) :=
  let missing := fun (text : String) (cause : IoCause) =>
    "'" ++ text ++ "': " ++ Machine.wording cause
  let number := fun (q : Measure → Question) =>
    match measure? value with
    | some n => .ok (some (q n, l))
    | none => .error ("invalid argument " ++ Utility.shown value ++ " to " ++ Utility.shown name)
  let depth := fun (set : Nat → Limits) =>
    match Numeral.count? value with
    | some n => .ok (some (.always true, set n))
    | none => .error ("Expected a positive decimal integer argument to " ++ name ++ ", but got " ++
        Utility.shown value)
  match name with
  | "-name" => .ok (some (.named false false value, l))
  | "-iname" => .ok (some (.named false true value, l))
  | "-path" | "-wholename" => .ok (some (.named true false value, l))
  | "-ipath" | "-iwholename" => .ok (some (.named true true value, l))
  | "-lname" => .ok (some (.leadsTo value, l))
  | "-type" | "-xtype" =>
    let letters := (Text.pieces (fun c => decide (c = ',')) value.toList).filterMap List.head?
    match letters.find? (fun c => !"bcdpflsD".toList.contains c) with
    | some c => .error ("Unknown argument to " ++ name ++ ": " ++ String.singleton c)
    | none => .ok (some (.kind (name == "-xtype") letters, l))
  | "-size" =>
    match size? value with
    | some (unit, n) => .ok (some (.size unit n, l))
    | none => .error ("invalid -size type " ++ String.singleton (Char.ofNat 96) ++
        String.singleton (value.toList.getLastD ' ') ++ "'")
  | "-newer" =>
    match m.look true value with
    | .ok (_, e) => .ok (some (.newer (Utility.timeOf m e), l))
    | .error cause => .error (missing value cause)
  | "-samefile" =>
    match m.look false value with
    | .ok (_, e) => .ok (some (.same e, l))
    | .error cause => .error (missing value cause)
  | "-mtime" | "-atime" | "-ctime" => number (.age 86400000)
  | "-mmin" | "-amin" | "-cmin" => number (.age 60000)
  | "-links" => number .links
  | "-perm" =>
    let (how, text) := match value.toList with
      | '-' :: rest => (some '-', String.ofList rest)
      | '/' :: rest => (some '/', String.ofList rest)
      | _ => (none, value)
    match Permissions.parse? 0 text with
    | some change => .ok (some (.mode how (change false 0), l))
    | none => .error ("invalid mode " ++ Utility.shown value)
  | "-user" | "-group" => .ok (some (.always (value == "root" || value == "0"), l))
  | "-uid" | "-gid" => .ok (some (.always (value == "0"), l))
  | "-printf" => .ok (some (.format value, l))
  | "-maxdepth" => depth (fun n => { l with most := some n })
  | "-mindepth" => depth (fun n => { l with least := n })
  | _ => .ok none

/-- The words of a program up to the one that ends them, whether it is to be gathered, and what is
left. -/
def programWords : List String → List String → Option (List String × Bool × List String)
  | [], _ => none
  | ";" :: rest, words => some (words.reverse, false, rest)
  | "+" :: rest, words =>
    if words.head? = some "\x7b\x7d" then some (words.reverse, true, rest)
    else programWords rest ("+" :: words)
  | w :: rest, words => programWords rest (w :: words)

/-- A word between quotes as messages of a search show it. -/
def quoted (text : String) : String := String.singleton (Char.ofNat 96) ++ text ++ "'"

/-- Names of tests and actions that take one word. -/
def takingWord : List String :=
  ["-name", "-iname", "-path", "-wholename", "-ipath", "-iwholename", "-lname", "-type", "-xtype",
    "-size",
    "-newer", "-samefile", "-mtime", "-atime", "-ctime", "-mmin", "-amin", "-cmin", "-links",
      "-perm", "-user",
    "-group", "-uid", "-gid", "-printf", "-maxdepth", "-mindepth"]

mutual

/-- Reads one test or action, or a question in brackets. -/
def readOne (m : Machine) : Nat → Limits → List String → Read
  | 0, _, _ => .error "invalid expression"
  | fuel + 1, l, words =>
    match words with
    | [] => .error "invalid expression"
    | "!" :: rest | "-not" :: rest => do
      if rest.isEmpty then
        .error ("expected an expression after " ++ Utility.shown (words.headD ""))
      let (q, l, left) ← readOne m fuel l rest
      return (.no q, l, left)
    | "(" :: rest => do
      if rest.head? = some ")" then .error "invalid expression; empty parentheses are not allowed."
      let (q, l, left) ← readEither m fuel l rest
      match left with
      | ")" :: more => return (q, l, more)
      | _ =>
        .error "invalid expression; I was expecting to find a ')' somewhere but did not see one."
    | "-true" :: rest => .ok (.always true, l, rest)
    | "-false" :: rest => .ok (.always false, l, rest)
    | "-empty" :: rest => .ok (.empty, l, rest)
    | "-print" :: rest => .ok (.print "\n", l, rest)
    | "-print0" :: rest => .ok (.print "\x00", l, rest)
    | "-delete" :: rest => .ok (.delete, { l with inward := true }, rest)
    | "-prune" :: rest => .ok (.prune, l, rest)
    | "-quit" :: rest => .ok (.quit, l, rest)
    | "-depth" :: rest | "-d" :: rest => .ok (.always true, { l with inward := true }, rest)
    | "-xdev" :: rest | "-mount" :: rest | "-noleaf" :: rest | "-follow" :: rest | "-nowarn" :: rest
    | "-readable" :: rest | "-writable" :: rest => .ok (.always true, l, rest)
    | "-executable" :: rest => .ok (.mode (some '/') 73, l, rest)
    | "-exec" :: rest | "-execdir" :: rest | "-ok" :: rest =>
      match programWords rest [] with
      | some (w :: ws, true, left) => .ok (.gather ((w :: ws).dropLast), l, left)
      | some (w :: ws, false, left) => .ok (.run (w :: ws), l, left)
      | _ => .error ("missing argument to " ++ quoted (words.headD ""))
    | name :: rest =>
      if takingWord.contains name then
        match rest with
        | [] => .error ("missing argument to " ++ quoted name)
        | value :: left =>
          match withWord m name value l with
          | .ok (some (q, l)) => .ok (q, l, left)
          | .ok none => .error ("unknown predicate " ++ quoted name)
          | .error text => .error text
      else if name.toList.head? = some '-' then .error ("unknown predicate " ++ quoted name)
      else .error ("paths must precede expression: " ++ quoted name)

/-- Reads questions that all have to be answered with yes. -/
def readBoth (m : Machine) : Nat → Limits → List String → Read
  | 0, _, _ => .error "invalid expression"
  | fuel + 1, l, words => do
    let (q, l, left) ← readOne m fuel l words
    match left with
    | [] | ")" :: _ | "-o" :: _ | "-or" :: _ | "," :: _ => return (q, l, left)
    | joint :: rest =>
      let more := if joint = "-a" ∨ joint = "-and" then rest else left
      if more.isEmpty then .error ("expected an expression after " ++ Utility.shown joint)
      let (r, l, left) ← readBoth m fuel l more
      return (.both q r, l, left)

/-- Reads a whole question. -/
def readEither (m : Machine) : Nat → Limits → List String → Read
  | 0, _, _ => .error "invalid expression"
  | fuel + 1, l, words => do
    let (q, l, left) ← readBoth m fuel l words
    match left with
    | "-o" :: rest | "-or" :: rest | "," :: rest =>
      if rest.isEmpty then .error ("expected an expression after " ++ Utility.shown (left.headD ""))
      let (r, l, more) ← readEither m fuel l rest
      return (if left.head? = some "," then .after q r else .either q r, l, more)
    | _ => return (q, l, left)

end

/-- A name that a search has come to. -/
structure Item where
  /-- The path as it is shown. -/
  path : String
  /-- The operand that the search started from. -/
  start : String
  /-- How far below it the name is. -/
  depth : Nat
  /-- Where it is. -/
  location : Location
  /-- What it stands for. -/
  entry : Entry

/-- A search on its way. -/
structure Progress where
  /-- The machine, which the search changes. -/
  machine : Machine
  /-- Whether the search does not go below the current name. -/
  pruned : Bool
  /-- Whether the search is over. -/
  finished : Bool
  /-- Programs that are still to be started, with the paths that they get, the latest first. -/
  gathered : List (List String × List String)

/-- The last name of a path as a search sees it. -/
def nameOf (path : String) : String :=
  if path.toList.all (fun c => c == '/') then path else Utility.lastName path

/-- The letter of a kind. -/
def letterOf : Entry → Char
  | .file _ => 'f'
  | .directory _ => 'd'
  | .link _ => 'l'
  | .device _ => 'c'

/-- What a letter of a format shows of a name. -/
def property? (m : Machine) (i : Item) (c : Char) : Option String :=
  let get := Utility.property? m i.path i.location i.entry
  let front := String.ofList ((i.path.toList.reverse.dropWhile (fun c => c != '/')).drop 1).reverse
  match c with
  | 'p' => some i.path
  | 'f' => some (nameOf i.path)
  | 'h' => some (if i.path.toList.contains '/' then front else ".")
  | 'P' => some (if i.depth = 0 then "" else String.ofList (i.path.toList.drop
      (if i.start.toList.getLast? = some '/' then i.start.length else i.start.length + 1)))
  | 'H' => some i.start
  | 's' => get 's'
  | 'd' => some (Nat.repr i.depth)
  | 'y' | 'Y' => some (String.singleton (letterOf i.entry))
  | 'm' => get 'a'
  | 'M' => get 'A'
  | 'l' => some (match i.entry with
      | .link target => Text.Octets.encode target
      | _ => "")
  | 'n' => get 'h'
  | 'i' => get 'i'
  | 'b' => get 'b'
  | 'k' => some (Nat.repr (Utility.blocksOf m i.entry / 2))
  | 'u' | 'g' => some "root"
  | 'U' | 'G' => some "0"
  | _ => none

/-- Whether a pattern matches a text. -/
def isMatch (folded : Bool) (pattern text : String) : Bool :=
  let fold := fun (t : String) => if folded then t.map Char.toLower else t
  Pattern.isMatch ((fold pattern).toList.map (fun c => (c, true))) (fold text)

/-- Starts a program on paths: whether it succeeded, and the machine after it. -/
def launch (start : Machine.Starter) (words : List String) (m : Machine) : Bool × Machine :=
  match words with
  | [] => (false, m)
  | name :: args =>
    let lead := m.leadOf name
    if Machine.canStart lead then
      let (ending, after) := Machine.launch start name args m.environment m
      let back := m.rejoin after (.exited 0)
      match ending with
      | .exited code => (code == 0, back)
      | .signalled _ => (false, back)
      | .timedOut => (false, { back with flow := .ended .timedOut })
    else
      let reason := if lead = .denied then "Permission denied" else "No such file or directory"
      (false, m.warn ("find: '" ++ name ++ "': " ++ reason ++ "\n"))

/-- Puts a path in the place of each pair of braces. -/
def filled (path : String) (words : List String) : List String :=
  words.map (fun w => String.intercalate path (w.splitOn "\x7b\x7d"))

/-- Asks a question about a name. -/
def Question.ask (start : Machine.Starter) (i : Item) : Question → Progress → Bool × Progress
  | q, p =>
    if p.finished || !p.machine.isGoing then (false, p)
    else
      let m := p.machine
      match q with
      | .always answer => (answer, p)
      | .named whole folded pattern =>
        (isMatch folded pattern (if whole then i.path else nameOf i.path), p)
      | .leadsTo pattern =>
        match i.entry with
        | .link target => (isMatch false pattern (Text.Octets.encode target), p)
        | _ => (false, p)
      | .kind followed letters =>
        let entry := if followed then ((m.look true i.path).toOption.map Prod.snd).getD i.entry
          else i.entry
        (letters.contains (letterOf entry), p)
      | .size unit measure => (measure.holds ((Utility.sizeOf m i.entry + unit - 1) / unit), p)
      | .empty =>
        match i.entry with
        | .directory _ => ((m.world.files.namesBelow i.location).isEmpty, p)
        | .file n => ((m.world.files.inode n).size == 0, p)
        | _ => (false, p)
      | .newer time => (decide (time < Utility.timeOf m i.entry), p)
      | .age unit measure => (measure.holds ((m.world.now - Utility.timeOf m i.entry) / unit), p)
      | .mode how bits =>
        let mode := Utility.modeOf m i.entry
        let shared := Nat.land mode bits
        (match how with
          | some '-' => shared == bits
          | some _ => bits == 0 || shared != 0
          | none => mode == bits, p)
      | .links measure => (measure.holds (Utility.namesOf m i.location i.entry), p)
      | .same entry => (i.entry == entry, p)
      | .print ending => (true, { p with machine := m.say (i.path ++ ending) })
      | .format text =>
        let shown := Utility.properties true (property? m i) (text.length + 1) text.toList
        (true, { p with machine := m.say shown })
      | .delete =>
        if i.path = "." then (true, p)
        else match i.entry with
          | .directory _ =>
            if (m.world.files.namesBelow i.location).isEmpty then
              (true, { p with machine := Utility.changed m (fun fs => fs.unbind i.location) })
            else
              let said :=
                (m.warn ("find: cannot delete '" ++ i.path ++ "': Directory not empty\n")).leave 1
              (false, { p with machine := said })
          | _ => (true, { p with machine := Utility.changed m (fun fs => fs.unbind i.location) })
      | .prune => (true, { p with pruned := true })
      | .quit => (true, { p with finished := true })
      | .run words =>
        let (ok, m) := launch start (filled i.path words) m
        (ok, { p with machine := m })
      | .gather words =>
        let known := (p.gathered.lookup words).getD []
        let others := p.gathered.filter (fun g => g.1 != words)
        (true, { p with gathered := (words, i.path :: known) :: others })
      | .no q =>
        let (answer, p) := q.ask start i p
        (!answer, p)
      | .both q r =>
        let (answer, p) := q.ask start i p
        if answer then r.ask start i p else (false, p)
      | .either q r =>
        let (answer, p) := q.ask start i p
        if answer then (true, p) else r.ask start i p
      | .after q r => r.ask start i (q.ask start i p).2

/-- Walks through a name and all that is below it, at most `fuel` deep. -/
def walk (start : Machine.Starter) (q : Question) (l : Limits) (followed : Bool) :
    Nat → Item → Progress → Progress
  | 0, _, p => p
  | fuel + 1, i, p =>
    if p.finished || !p.machine.isGoing then p
    else
      let due := decide (l.least ≤ i.depth)
      let here := fun (p : Progress) => if due then (q.ask start i p).2 else p
      let below := fun (p : Progress) =>
        match i.entry with
        | .directory _ =>
          if l.most.any (fun n => n ≤ i.depth) then p
          else (p.machine.world.files.namesBelow i.location).foldl (fun p name =>
            let path := Utility.below i.path (Text.Octets.encode name)
            match p.machine.look followed path, p.machine.look false path with
            | .ok (loc, entry), _ | .error _, .ok (loc, entry) =>
              walk start q l followed fuel ⟨path, i.start, i.depth + 1, loc, entry⟩ p
            | .error _, .error _ => p) p
        | _ => p
      if l.inward then here (below p)
      else
        let asked := here { p with pruned := false }
        if asked.pruned then { asked with pruned := false } else below asked

/-- Whether a word starts the question of a search. -/
def startsQuestion (word : String) : Bool :=
  match word.toList with
  | '-' :: _ :: _ => true
  | _ => word == "!" || word == "(" || word == ")" || word == ","

end Find

namespace Machine

/-- Searches through directories. -/
def find (start : Starter) (args : List String) (environment : List (String × String))
    (m : Machine) :
    Ended :=
  let m := { m with
    bindings := environment.map (fun (k, v) => (k, (⟨some v, true, false⟩ : Variable))) }
  let ways := args.takeWhile (fun a => ["-L", "-P", "-H"].contains a)
  let rest := args.drop ways.length
  let starts := rest.takeWhile (fun a => !Find.startsQuestion a)
  let words := rest.drop starts.length
  let followed := ways.getLast? == some "-L"
  let read : Find.Read := if words.isEmpty then .ok (.always true, ⟨0, none, false⟩, [])
    else Find.readEither m (2 * words.length + 4) ⟨0, none, false⟩ words
  match read with
  | .error text =>
    let hint := if "paths".toList.isPrefixOf text.toList then
        "find: possible unquoted pattern after predicate " ++ Find.quoted
          (((words.takeWhile Find.startsQuestion).getLastD "")) ++ "?\n"
      else ""
    ended (((m.warn ("find: " ++ text ++ "\n")).warn hint).leave 1)
  | .ok (_, _, extra :: _) => ended ((m.warn ("find: paths must precede expression: " ++
      Find.quoted extra ++ "\n")).leave 1)
  | .ok (q, l, []) =>
    let q := if q.acts then q else .both q (.print "\n")
    let one := fun (p : Find.Progress) (operand : String) =>
      if p.finished || !p.machine.isGoing then p
      else
        let way := followed || ways.getLast? == some "-H"
        let found : Except IoCause (Location × Entry) := match p.machine.look way operand with
          | .ok e => .ok e
          | .error cause => (p.machine.look false operand).mapError (fun _ => cause)
        match found with
        | .ok (loc, entry) =>
          Find.walk start q l followed Utility.maxDepth ⟨operand, operand, 0, loc, entry⟩ p
        | .error cause =>
          let said := p.machine.warn ("find: '" ++ operand ++ "': " ++ wording cause ++ "\n")
          { p with machine := said.leave 1 }
    let p := (if starts.isEmpty then ["."] else starts).foldl one ⟨m.leave 0, false, false, []⟩
    let last := p.gathered.reverse.foldl (fun m (words, paths) =>
      if !m.isGoing then m
      else
        let (ok, after) := Find.launch start (words ++ paths.reverse) m
        after.leave (if ok then m.status else 1)) p.machine
    ended last

end Machine

end BlockCoverage.Script
