import BlockCoverage.Script.Utility.Search

/-!
# Editing lines

A program for editing takes one line after the other, runs a list of instructions on it and writes
what has become of it. An instruction may be limited to lines by their number or by a pattern.
-/

namespace BlockCoverage.Script.Utility

namespace Edit

open Text (Bytes Regex)
open Machine (wording path)

/-- Which lines an instruction is for. -/
inductive Address where
  /-- The line with a number. -/
  | line (n : Nat)
  /-- The last line. -/
  | last
  /-- Lines that match. -/
  | expression (r : Regex) (folds : Bool)
  /-- Lines from a number on, every so many. -/
  | step (first every : Nat)
deriving DecidableEq

/-- A part of what is put for a match. -/
inductive Part where
  /-- A character. -/
  | char (c : Char)
  /-- What a group has matched, zero standing for the whole match. -/
  | group (n : Nat)
deriving DecidableEq

/-- What an instruction does. -/
inductive Action where
  /-- Puts something for matches. -/
  | substitute (r : Regex) (parts : List Part) (nth : Nat) (all prints folds : Bool)
  /-- Puts characters for others. -/
  | translate (pairs : List (Char × Char))
  /-- A command of one letter. -/
  | command (letter : Char)
  /-- Ends with an exit status, with or without writing the line. -/
  | quit (code : Nat) (prints : Bool)
  /-- Adds a text after, before or in place of the line. -/
  | text (letter : Char) (text : String)
  /-- Goes on at a label, always or after a substitution. -/
  | branch (always negated : Bool) (label : String)
  /-- A place to go on at. -/
  | label (name : String)
  /-- The start of a block. -/
  | start
  /-- The end of a block. -/
  | stop
deriving DecidableEq

/-- An instruction. -/
structure Instruction where
  /-- The first address. -/
  first : Option Address
  /-- The second address. -/
  second : Option Address
  /-- Whether it is for the other lines. -/
  negated : Bool
  /-- What it does. -/
  action : Action

/-! ## Reading instructions -/

/-- The characters up to an unescaped delimiter, and what is left after it. An escaped delimiter
stands for itself. -/
def upTo (delimiter : Char) : List Char → Option (List Char × List Char)
  | [] => none
  | '\\' :: c :: rest =>
    (upTo delimiter rest).map (fun (text, left) =>
      (if c = delimiter then c :: text else if c = 'n' then '\\' :: 'n' :: text
        else '\\' :: c :: text, left))
  | c :: rest =>
    if c = delimiter then some ([], rest)
    else (upTo delimiter rest).map (fun (text, left) => (c :: text, left))

/-- The parts of what is put for a match. The length is enough fuel. -/
def parts : Nat → List Char → List Part
  | 0, _ => []
  | fuel + 1, cs =>
    match cs with
    | [] => []
    | '&' :: rest => .group 0 :: parts fuel rest
    | '\\' :: c :: rest =>
      if c.isDigit then .group (c.toNat - 48) :: parts fuel rest
      else if c = 'n' then .char '\n' :: parts fuel rest
      else if c = 't' then .char '\t' :: parts fuel rest
      else .char c :: parts fuel rest
    | c :: rest => .char c :: parts fuel rest

/-- Reads an address. -/
def address? (extended : Bool) (cs : List Char) : Option (Option Address × List Char) :=
  let expression := fun (delimiter : Char) (rest : List Char) => do
    let (text, left) ← upTo delimiter rest
    let r ← (Regex.read extended (String.ofList text)).toOption
    match left with
    | 'I' :: more => some (some (.expression r true), more)
    | _ => some (some (.expression r false), left)
  match cs with
  | '$' :: rest => some (some .last, rest)
  | '/' :: rest => expression '/' rest
  | '\\' :: d :: rest => expression d rest
  | _ =>
    let digits := cs.takeWhile Char.isDigit
    if digits.isEmpty then some (none, cs)
    else
      let n := (Numeral.digits 10 0 digits).1
      match cs.drop digits.length with
      | '~' :: more =>
        let every := more.takeWhile Char.isDigit
        some (some (.step n (Numeral.digits 10 0 every).1), more.drop every.length)
      | rest => some (some (.line n), rest)

/-- Whether a character ends an instruction. -/
def endsInstruction (c : Char) : Bool := c == ';' || c == '\n' || c == Regex.closeBrace

/-- Reads what an instruction does, and what is left. -/
def action? (extended : Bool) (cs : List Char) : Option (Action × List Char) :=
  match cs with
  | 's' :: d :: rest => do
    let (pattern, rest) ← upTo d rest
    let (put, rest) ← upTo d rest
    let flags := rest.takeWhile (fun c => c.isDigit || ['g', 'p', 'i', 'I'].contains c)
    let r ← (Regex.read extended (String.ofList pattern)).toOption
    let digits := flags.filter Char.isDigit
    let nth := if digits.isEmpty then 1 else (Numeral.digits 10 0 digits).1
    some (.substitute r (parts (put.length + 1) put) nth (flags.contains 'g') (flags.contains 'p')
      (flags.contains 'i' || flags.contains 'I'), rest.drop flags.length)
  | 'y' :: d :: rest => do
    let (a, rest) ← upTo d rest
    let (b, rest) ← upTo d rest
    let plain := fun (cs : List Char) => (parts (cs.length + 1) cs).map (fun p => match p with
      | .char c => c
      | .group n => if n = 0 then '&' else Char.ofNat (48 + n))
    if (plain a).length = (plain b).length then some (.translate ((plain a).zip (plain b)), rest)
    else none
  | c :: rest =>
    if c = Regex.openBrace then some (.start, rest)
    else if c = Regex.closeBrace then some (.stop, rest)
    else if ['a', 'i', 'c'].contains c then
      let body := match rest.dropWhile (fun c => c == ' ' || c == '\t') with
        | '\\' :: '\n' :: more => more
        | '\\' :: more => more.dropWhile (fun c => c == ' ' || c == '\t')
        | more => more
      let text := body.takeWhile (fun c => c != '\n')
      if text.isEmpty then none
      else some (.text c (String.ofList (text.filter (fun c => c != '\\'))), body.drop text.length)
    else if c = 'q' ∨ c = 'Q' then
      let after := rest.dropWhile (fun c => c == ' ')
      let digits := after.takeWhile Char.isDigit
      some (.quit (Numeral.digits 10 0 digits).1 (c == 'q'), after.drop digits.length)
    else if c = ':' ∨ c = 'b' ∨ c = 't' ∨ c = 'T' then
      let after := rest.dropWhile (fun c => c == ' ')
      let name :=
        after.takeWhile (fun c => !(c == ';' || c == '\n' || c == Regex.closeBrace || c == ' '))
      let text := String.ofList name
      some (if c = ':' then .label text else .branch (c == 'b') (c == 'T') text,
        after.drop name.length)
    else if ['d', 'D', 'p', 'P', 'n', 'N', 'h', 'H', 'g', 'G', 'x', '=', 'l'].contains c then
      some (.command c, rest)
    else none
  | [] => none

/-- Reads instructions. The length is enough fuel. -/
def instructions? (extended : Bool) : Nat → List Char → Option (List Instruction)
  | 0, _ => none
  | fuel + 1, cs => do
    let here := cs.dropWhile (fun c => c == ' ' || c == '\t' || c == ';' || c == '\n')
    match here with
    | [] => some []
    | '#' :: rest => instructions? extended fuel (rest.dropWhile (fun c => c != '\n'))
    | _ =>
      let (first, rest) ← address? extended here
      let rest := rest.dropWhile (fun c => c == ' ')
      let (second, rest) ← match rest with
        | ',' :: more => do
          let (a, left) ← address? extended (more.dropWhile (fun c => c == ' '))
          if first.isNone ∨ a.isNone then none else some (a, left)
        | _ => some (none, rest)
      let rest := rest.dropWhile (fun c => c == ' ')
      let (negated, rest) := match rest with
        | '!' :: more => (true, more.dropWhile (fun c => c == ' ' || c == '!'))
        | _ => (false, rest)
      let (action, rest) ← action? extended rest
      let after := rest.dropWhile (fun c => c == ' ' || c == '\t')
      let ended := match action, after with
        | .start, _ | .stop, _ => true
        | _, [] => true
        | _, c :: _ => endsInstruction c || c == '#'
      if !ended then none
      else
        let more ← instructions? extended fuel after
        some (⟨first, second, negated, action⟩ :: more)

/-! ## Running instructions -/

/-- Where editing stands. -/
structure Editor where
  /-- The line that is being edited. -/
  pattern : String
  /-- A text that is kept. -/
  hold : String
  /-- The number of the line. -/
  number : Nat
  /-- The lines that are left. -/
  rest : List String
  /-- What has been written, the last first. -/
  output : List String
  /-- What is written after the line, the last first. -/
  after : List String
  /-- Ranges that are open: the instruction, and the line where it ends if that is known. -/
  ranges : List (Nat × Option Nat)
  /-- Whether something has been put for a match in this line. -/
  changed : Bool
  /-- The exit status, if editing is over. -/
  ended : Option Nat

/-- How the instructions of a line came to their end. -/
inductive Turn where
  /-- The line is written, unless nothing is written by itself. -/
  | done
  /-- The line is dropped. -/
  | dropped
  /-- The instructions start again without a new line. -/
  | again
deriving DecidableEq

/-- Puts something for a match. -/
def fill (text : Array Char) (start : Nat) (p : Regex.Place) (ps : List Part) : List Char :=
  ps.flatMap (fun part => match part with
    | .char c => [c]
    | .group 0 => (text.extract start p.index).toList
    | .group n =>
      match p.groups.lookup n with
      | some (a, b) => (text.extract a b).toList
      | none => [])

/-- Puts something for the matches from the `nth` on, or for that one only: the text from an index
on, and whether anything was done. The length of the text is enough fuel. -/
def substituted (r : Regex) (ps : List Part) (same : Char → Char → Bool) (all : Bool)
    (text : Array Char) : Nat → Nat → Nat → Option Nat → List Char × Bool
  | 0, _, index, _ => ((text.extract index text.size).toList, false)
  | fuel + 1, nth, index, before =>
    match r.find? text same (text.size + 2) index with
    | none => ((text.extract index text.size).toList, false)
    | some (start, p) =>
      let front := (text.extract index start).toList
      let isEmpty := p.index = start
      let skip := isEmpty && before == some start
      let put := if skip then [] else if nth ≤ 1 then fill text start p ps
        else (text.extract start p.index).toList
      let done := !skip && nth ≤ 1
      let nextIndex := if isEmpty then start + 1 else p.index
      let passed := if isEmpty then (text.extract start (start + 1)).toList else []
      if done && !all then
        (front ++ put ++ (text.extract p.index text.size).toList, true)
      else if text.size < nextIndex then (front ++ put, done)
      else
        let (more, also) :=
          substituted r ps same all text fuel (if skip then nth else nth - 1) nextIndex
          (if isEmpty then none else some p.index)
        (front ++ put ++ passed ++ more, done || also)

/-- Whether an address is for the current line. -/
def Address.isFor (a : Address) (e : Editor) : Bool :=
  match a with
  | .line n => e.number == n
  | .last => e.rest.isEmpty
  | .expression r folds =>
    let cs := e.pattern.toList.toArray
    (r.find? cs (fun a b => if folds then a.toLower == b.toLower
      else a == b) (cs.size + 2) 0).isSome
  | .step first every =>
    if every = 0 then e.number == first else first ≤ e.number && (e.number - first) % every == 0

/-- Whether an instruction is for the current line; ranges are opened and closed. -/
def applies (i : Instruction) (index : Nat) (e : Editor) : Bool × Editor :=
  let (holds, e) := match i.first, i.second with
    | none, _ => (true, e)
    | some a, none => (a.isFor e, e)
    | some a, some b =>
      let closed := { e with ranges := e.ranges.filter (fun r => r.1 != index) }
      match e.ranges.lookup index with
      | some _ =>
        match b with
        | .line n => if n ≤ e.number then (n == e.number, closed) else (true, e)
        | _ => (true, if b.isFor e then closed else e)
      | none =>
        if !a.isFor e then (false, e)
        else match b with
          | .line n =>
            (true, if n ≤ e.number then e else { e with ranges := (index, some n) :: e.ranges })
          | _ => (true, { e with ranges := (index, none) :: e.ranges })
  (holds != i.negated, e)

/-- Writes a text on a line. -/
def Editor.write (e : Editor) (text : String) : Editor := { e with output := text :: e.output }

/-- Writes what comes after the line. -/
def Editor.flush (e : Editor) : Editor := { e with output := e.after ++ e.output, after := [] }

/-- The first line of a text, and what follows it if there is more. -/
def firstLine (text : String) : String × Option String :=
  let front := text.toList.takeWhile (fun c => c != '\n')
  match text.toList.drop front.length with
  | _ :: rest => (String.ofList front, some (String.ofList rest))
  | [] => (text, none)

/-- The place after the end of the block that starts at a place. -/
def blockEnd (code : Array Instruction) : Nat → Nat → Nat → Nat
  | 0, place, _ => place
  | fuel + 1, place, depth =>
    match (code[place]?).map Instruction.action with
    | none => place
    | some .start => blockEnd code fuel (place + 1) (depth + 1)
    | some .stop => if depth ≤ 1 then place + 1 else blockEnd code fuel (place + 1) (depth - 1)
    | some _ => blockEnd code fuel (place + 1) depth

/-- The place of a label, or the end. -/
def labelPlace (code : Array Instruction) (name : String) : Nat :=
  if name = "" then code.size
  else (code.findIdx? (fun i => i.action == .label name)).getD code.size

/-- Runs the instructions on the current line from a place on. -/
def runLine (silent : Bool) (code : Array Instruction) : Nat → Nat → Editor → Turn × Editor
  | 0, _, e => (.done, e)
  | fuel + 1, place, e =>
    match code[place]? with
    | none => (.done, e)
    | some i =>
      let (due, e) := applies i place e
      let next := fun (e : Editor) => runLine silent code fuel (place + 1) e
      if !due then
        match i.action with
        | .start => runLine silent code fuel (blockEnd code (code.size + 1) place 0) e
        | _ => next e
      else
        match i.action with
        | .start | .stop | .label _ => next e
        | .substitute r ps nth all prints folds =>
          let cs := e.pattern.toList.toArray
          let same := fun (a b : Char) => if folds then a.toLower == b.toLower else a == b
          let (text, done) := substituted r ps same all cs (cs.size + 2) nth 0 none
          if !done then next e
          else
            let e := { e with pattern := String.ofList text, changed := true }
            next (if prints then e.write e.pattern else e)
        | .translate pairs =>
          next { e with pattern := e.pattern.map (fun c => (pairs.lookup c).getD c) }
        | .quit code prints =>
          let e := if prints && !silent then e.write e.pattern else e
          (.dropped, { e.flush with ended := some code })
        | .text letter text =>
          if letter = 'a' then next { e with after := text :: e.after }
          else if letter = 'i' then next (e.write text)
          else
            let isOpen := (e.ranges.lookup place).isSome && !i.negated
            (.dropped, if isOpen then e else e.write text)
        | .branch always negated name =>
          if always then runLine silent code fuel (labelPlace code name) e
          else if e.changed != negated then
            runLine silent code fuel (labelPlace code name) { e with changed := false }
          else next { e with changed := false }
        | .command c =>
          match c with
          | 'd' => (.dropped, e)
          | 'D' =>
            match firstLine e.pattern with
            | (_, none) => (.dropped, e)
            | (_, some rest) => (.again, { e with pattern := rest })
          | 'p' => next (e.write e.pattern)
          | 'P' => next (e.write (firstLine e.pattern).1)
          | '=' => next (e.write (Nat.repr e.number))
          | 'h' => next { e with hold := e.pattern }
          | 'H' => next { e with hold := e.hold ++ "\n" ++ e.pattern }
          | 'g' => next { e with pattern := e.hold }
          | 'G' => next { e with pattern := e.pattern ++ "\n" ++ e.hold }
          | 'x' => next { e with pattern := e.hold, hold := e.pattern }
          | 'n' =>
            match e.rest with
            | [] => (if silent then .dropped else .done, { e with ended := some 0 })
            | l :: rest =>
              let e := (if silent then e else e.write e.pattern).flush
              next { e with pattern := l, rest, number := e.number + 1 }
          | 'N' =>
            match e.rest with
            | [] => (if silent then .dropped else .done, { e with ended := some 0 })
            | l :: rest =>
              let e := e.flush
              next { e with pattern := e.pattern ++ "\n" ++ l, rest, number := e.number + 1 }
          | _ => next (e.write (e.pattern ++ "$"))

/-- Goes through the lines. Each round takes a line or shortens the one that is being edited. -/
def runLines (silent : Bool) (code : Array Instruction) (steps : Nat) : Nat → Bool → Editor → Editor
  | 0, _, e => e
  | fuel + 1, fresh, e =>
    if e.ended.isSome then e
    else
      let taken := if !fresh then some e
        else match e.rest with
          | [] => none
          | l :: rest => some { e with pattern := l, rest, number := e.number + 1 }
      match taken with
      | none => e
      | some e =>
        match runLine silent code steps 0 { e with changed := false } with
        | (.done, e) =>
          runLines silent code steps fuel true (if silent then e.flush
          else (e.write e.pattern).flush)
        | (.dropped, e) => runLines silent code steps fuel true e.flush
        | (.again, e) => runLines silent code steps fuel false e.flush

/-- Edits lines: the output lines and the exit status. -/
def edited (silent : Bool) (code : List Instruction) (ls : List String) : List String × Nat :=
  let steps := 4096 + 64 * ls.length
  let e := runLines silent code.toArray steps (4 * ls.length + 1024) true
    ⟨"", "", 0, ls, [], [], [], false, none⟩
  (e.output.reverse, e.ended.getD 0)

end Edit

open Text (Bytes Regex)
open Machine (wording path)

/-- Edits the lines of files. -/
def sed : Utility := fun args m =>
  match Switches.permuted "ne:f:EriszuI" [("quiet", 'n'), ("silent", 'n'), ("expression", 'e'),
    ("file", 'f'), ("regexp-extended", 'E'), ("in-place", 'i'), ("separate", 's')] args with
  | .error text => misuse "sed" text 1 m
  | .ok (switches, operands) =>
    let has := Switches.given switches
    let (scripts, m) := switches.foldl (fun (acc : List String × Machine) s =>
      if s.letter = 'e' then (acc.1 ++ [s.value], acc.2)
      else if s.letter = 'f' then
        match source s.value acc.2 with
        | .ok (t, m) => (acc.1 ++ [Text.Octets.toText t], m)
        | .error cause =>
          (acc.1, fail "sed" ("couldn't open file " ++ s.value ++ ": " ++ wording cause) 1 acc.2)
      else acc) ([], m.leave 0)
    let (scripts, operands) := if has 'e' || has 'f' then (scripts, operands)
      else (operands.take 1, operands.drop 1)
    if m.status ≠ 0 then m
    else if scripts.isEmpty then
      (m.warn
        "Usage: sed [OPTION]... \x7bscript-only-if-no-other-script\x7d [input-file]...\n").leave 1
    else
      let text := (String.intercalate "\n" scripts).toList
      match Edit.instructions? (has 'E' || has 'r') (4 * text.length + 8) text with
      | none => fail "sed" "-e expression #1, char 1: unknown command" 1 m
      | some code =>
        let run := fun (s : Bytes) =>
          let (ls, complete) := lines s
          let (out, status) := Edit.edited (has 'n') code (ls.map Text.Octets.toText)
          let joined := String.join (out.map (fun t => t ++ "\n"))
          let shown := if complete ∨ status ≠ 0 ∨ out.isEmpty then joined
            else String.ofList joined.toList.dropLast
          (shown, status)
        let read := fun (acc : List Bytes × Machine) (operand : String) =>
          match source operand acc.2 with
          | .ok (s, m) =>
            if has 'i' then
              let (out, status) := run s
              match m.world.files.write (path operand) (Text.Octets.ofText out) with
              | .ok files => (acc.1, (m.withFiles files).leave (max m.status status))
              | .error cause =>
                (acc.1, fail "sed" ("couldn't open file " ++ operand ++ ": " ++ wording cause) 4 m)
            else (s :: acc.1, m)
          | .error .isADirectory =>
            (acc.1, fail "sed" ("couldn't edit " ++ operand ++ ": not a regular file") 4 acc.2)
          | .error cause =>
            (acc.1, fail "sed" ("can't read " ++ operand ++ ": " ++ wording cause) 2 acc.2)
        let (reversed, m) :=
          (if operands.isEmpty then ["-"] else operands).foldl read ([], m.leave 0)
        if has 'i' then m
        else
          let (out, status) := run reversed.reverse.flatten
          let m := m.say out
          if status ≠ 0 then m.leave status else m

end BlockCoverage.Script.Utility
