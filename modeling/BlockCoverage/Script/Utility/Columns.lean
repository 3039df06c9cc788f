import BlockCoverage.Script.Utility.Matching
import BlockCoverage.Text.Regex

/-!
# Programs that work on columns

Parts of lines, lines side by side, tabs and blanks, long lines, and numbers in front of lines.
-/

namespace BlockCoverage.Script.Utility

open Text (Bytes Regex)
open Machine (wording)

/-! ## Parts of lines -/

/-- A range of numbers from one on, which may have no end. -/
structure Range where
  /-- The first number. -/
  low : Nat
  /-- The last number, if there is one. -/
  high : Option Nat
deriving DecidableEq

/-- Whether a number is in a range. -/
def Range.has (r : Range) (n : Nat) : Bool := r.low ≤ n && r.high.all (fun h => decide (n ≤ h))

/-- Reads one part of a list of ranges; `what` names what is counted. -/
def range (fields : Bool) (cs : List Char) : Except String Range := do
  let zero := if fields then "fields are numbered from 1"
    else "byte/character positions are numbered from 1"
  let low := cs.takeWhile Char.isDigit
  let value := fun (ds : List Char) => (Numeral.digits 10 0 ds).1
  let wrong := fun (rest : List Char) =>
    (if fields then "invalid field value " else "invalid byte/character position ") ++
      shown (String.ofList rest)
  match cs.drop low.length with
  | [] => if value low = 0 then throw zero else return ⟨value low, some (value low)⟩
  | '-' :: rest =>
    let high := rest.takeWhile Char.isDigit
    let after := rest.drop high.length
    if !low.isEmpty ∧ value low = 0 then throw zero
    else if after.head? = some '-' then
      throw (if fields then "invalid field range" else "invalid byte or character range")
    else if !after.isEmpty then throw (wrong after)
    else if low.isEmpty ∧ high.isEmpty then throw "invalid range with no endpoint: -"
    else
      let first := if low.isEmpty then 1 else value low
      if high.isEmpty then return ⟨first, none⟩
      else if value high < first then throw "invalid decreasing range"
      else return ⟨first, some (value high)⟩
  | rest => throw (wrong rest)

/-- Ranges in order, those that overlap made one. -/
def joinedRanges (rs : List Range) : List Range :=
  let sorted := rs.mergeSort (fun a b => a.low ≤ b.low)
  (sorted.foldl (fun (acc : List Range) r => match acc with
    | last :: rest =>
      if last.high.all (fun h => decide (r.low ≤ h)) then
        { last with high := last.high.bind (fun h => r.high.map (max h)) } :: rest
      else r :: acc
    | [] => [r]) []).reverse

/-- What lies between ranges, from the number `next` on. -/
def otherRanges : Nat → List Range → List Range
  | next, [] => [⟨next, none⟩]
  | next, r :: rest =>
    let gap := if next < r.low then [⟨next, some (r.low - 1)⟩] else []
    match r.high with
    | some h => gap ++ otherRanges (h + 1) rest
    | none => gap

/-- The members of a list at the places of a range. -/
def Range.pick {α : Type} (r : Range) (items : List α) : List α :=
  let start := items.drop (r.low - 1)
  match r.high with
  | some h => start.take (h + 1 - r.low)
  | none => start

/-- Writes parts of lines. -/
def cut : Utility := fun args m =>
  match Switches.permuted "b:c:f:d:snzO:C" [("bytes", 'b'), ("characters", 'c'), ("fields", 'f'),
    ("delimiter", 'd'), ("only-delimited", 's'), ("output-delimiter", 'O'), ("complement", 'C'),
    ("zero-terminated", 'z')] args with
  | .error text => misuse "cut" text 1 m
  | .ok (switches, operands) =>
    let has := Switches.given switches
    match switches.filter (fun s => ['b', 'c', 'f'].contains s.letter) with
    | [] => misuse "cut" "you must specify a list of bytes, characters, or fields" 1 m
    | [list] =>
      let fields := list.letter == 'f'
      let delimiter := (Switches.value? switches 'd').map String.toList
      let parts := Text.pieces (fun c => c == ',' || c == ' ' || c == '\t') list.value.toList
      if delimiter.any (fun d => decide (1 < d.length)) then
        misuse "cut" "the delimiter must be a single character" 1 m
      else if !fields ∧ delimiter.isSome then
        misuse "cut" "an input delimiter may be specified only when operating on fields" 1 m
      else if !fields ∧ has 's' then
        misuse "cut" "suppressing non-delimited lines makes sense\n\tonly when operating on fields"
          1 m
      else match parts.mapM (range fields) with
        | .error text => misuse "cut" text 1 m
        | .ok found =>
          let chosen := joinedRanges found
          let rs := if has 'C' then otherRanges 1 chosen else chosen
          let separator := match delimiter with
            | some (c :: _) => c
            | some [] => Char.ofNat 0
            | none => '\t'
          let gap := match Switches.value? switches 'O' with
            | some "" => [Char.ofNat 0]
            | some text => text.toList
            | none => if fields then [separator] else []
          let shownLine := fun (line : List Char) =>
            if fields then
              if !line.contains separator then (if has 's' then none else some line)
              else
                let items := Text.pieces (fun c => decide (c = separator)) line
                some ((rs.flatMap (fun r => r.pick items)).intersperse gap).flatten
            else some (((rs.map (fun r => r.pick line)).filter (fun p => !p.isEmpty)).intersperse
              gap).flatten
          let stop : UInt8 := if has 'z' then 0 else 10
          eachSource "cut" 1 operands (fun _ s m =>
            let ls := (partsAt stop s).map (fun l => (Text.Octets.toText l).toList)
            writeLines "cut" stop none (ls.filterMap shownLine) m) (m.leave 0)
    | _ => misuse "cut" "only one list may be specified" 1 m

/-! ## Lines side by side -/

/-- The texts that stand between joined lines, in turn. -/
def joints : List Char → List (List Char)
  | [] => []
  | '\\' :: c :: rest =>
    let text := match [('0', []), ('b', [8]), ('f', [12]), ('n', [10]), ('r', [13]), ('t', [9]),
        ('v', [11])].lookup c with
      | some ns => ns.map Char.ofNat
      | none => [c]
    text :: joints rest
  | c :: rest => [c] :: joints rest

/-- Lines of several files as rows. The length of the longest is enough fuel. -/
def rows : Nat → List (List (List Char)) → List (List (List Char))
  | 0, _ => []
  | fuel + 1, files =>
    if files.all List.isEmpty then []
    else files.map (fun f => f.headD []) :: rows fuel (files.map (fun f => f.drop 1))

/-- Every `n`-th member of a list, from the one at a place on. -/
def everyNth (n place : Nat) (ls : List (List Char)) : List (List Char) :=
  (ls.zipIdx.filter (fun (_, i) => i % n = place)).map Prod.fst

/-- Joins the lines of files side by side, or the lines of each file. -/
def paste : Utility :=
  withSwitches "paste" "d:sz" [("delimiters", 'd'), ("serial", 's'), ("zero-terminated", 'z')] 1
  (fun switches operands m =>
    let stop : UInt8 := if Switches.given switches 'z' then 0 else 10
    let delimiters := joints ((Switches.value? switches 'd').getD "\t").toList
    let between := fun (i : Nat) =>
      if delimiters.isEmpty then [] else delimiters.getD (i % delimiters.length) []
    let joined := fun (items : List (List Char)) =>
      (items.zipIdx.map (fun (t, i) => if i = 0 then t else between (i - 1) ++ t)).flatten
    let linesOf := fun (s : Bytes) => (partsAt stop s).map (fun l => (Text.Octets.toText l).toList)
    let operands := if operands.isEmpty then ["-"] else operands
    let list := (Switches.value? switches 'd').getD "\t"
    if (list.toList.reverse.takeWhile (fun c => c == '\\')).length % 2 = 1 then
      fail "paste" ("delimiter list ends with an unescaped backslash: " ++ list) 1 m
    else if Switches.given switches 's' then
      eachSource "paste" 1 operands
        (fun _ s m => writeLines "paste" stop none [joined (linesOf s)] m) (m.leave 0)
    else
      let shared := operands.countP (fun o => o == "-")
      let (input, m) := if shared = 0 then ([], m) else m.readAll 0
      match readEach (operands.filter (fun o => o ≠ "-")) (m.leave 0) with
      | .error (operand, cause) => fail "paste" (operand ++ ": " ++ wording cause) 1 m
      | .ok (contents, m) =>
        let step := fun (acc : List (List (List Char)) × Nat × List Bytes) (operand : String) =>
          if operand = "-" then
            (everyNth shared acc.2.1 (linesOf input) :: acc.1, acc.2.1 + 1, acc.2.2)
          else (linesOf (acc.2.2.headD []) :: acc.1, acc.2.1, acc.2.2.drop 1)
        let files := (operands.foldl step ([], 0, contents)).1.reverse
        let height := (files.map List.length).foldl max 0
        writeLines "paste" stop none ((rows (height + 1) files).map joined) m)

/-! ## Tabs -/

/-- Where tabs lead. -/
structure TabStops where
  /-- Single stops, in order. -/
  list : List Nat
  /-- The distance of stops after these, counted from the start of the line. -/
  every : Option Nat
  /-- The distance of stops after these, counted from the last of them. -/
  after : Option Nat

/-- The next stop after a column, if there is one. -/
def TabStops.next? (t : TabStops) (column : Nat) : Option Nat :=
  match t.list.find? (fun s => decide (column < s)), t.every, t.after with
  | some s, _, _ => some s
  | none, some n, _ => some (column + (n - column % n))
  | none, none, some n => some (column + (n - (column - t.list.getLastD 0) % n))
  | none, none, none => none

/-- Reads stops. -/
def tabStops (texts : List String) : Except String TabStops := do
  let parts := (texts.flatMap (fun text =>
    Text.pieces (fun c => c == ',' || c == ' ' || c == '\t') text.toList)).filter
      (fun p => !p.isEmpty)
  let number := fun (cs : List Char) =>
    let digits := cs.takeWhile Char.isDigit
    let rest := cs.drop digits.length
    if rest.isEmpty then .ok (Numeral.digits 10 0 digits).1
    else .error ((if rest.head? = some '/' ∨ rest.head? = some '+' then
      shown (String.ofList (rest.take 1)) ++ " specifier not at start of number: "
      else "tab size contains invalid character(s): ") ++ shown (String.ofList rest))
  let step := fun (t : TabStops) (cs : List Char) => do
    match cs with
    | '/' :: more => return { t with every := some (← number more) }
    | '+' :: more => return { t with after := some (← number more) }
    | _ => return { t with list := t.list ++ [← number cs] }
  let t ← parts.foldlM step ⟨[], none, none⟩
  if t.list.contains 0 then throw "tab size cannot be 0"
  if (t.list.zip (t.list.drop 1)).any (fun (a, b) => decide (b ≤ a)) then
    throw "tab sizes must be ascending"
  let every := t.every.bind (fun n => if n = 0 then none else some n)
  let after := t.after.bind (fun n => if n = 0 then none else some n)
  match t.list, every, after with
  | [], none, none => return ⟨[], some 8, none⟩
  | [], some n, _ => return ⟨[], some n, none⟩
  | [], none, some n => return ⟨[], some n, none⟩
  | [n], none, none => return ⟨[], some n, none⟩
  | list, _, _ => return ⟨list, every, after⟩

/-- Puts blanks for tabs; if asked, only in front of other characters. -/
def expanded (t : TabStops) (all : Bool) : Bool → Nat → List Char → List Char
  | _, _, [] => []
  | active, column, c :: rest =>
    if c = '\n' then c :: expanded t all true 0 rest
    else if !active then c :: expanded t all false column rest
    else if c = '\t' then
      let next := (t.next? column).getD (column + 1)
      List.replicate (next - column) ' ' ++ expanded t all true next rest
    else
      let next := if c = Char.ofNat 8 then column - 1 else column + 1
      c :: expanded t all (all || c == ' ') next rest

/-- The texts that stops are read from, and the arguments without a hyphen and digits, which stand
for stops too. -/
def tabArguments (args : List String) : List String :=
  args.map (fun a => match a.toList with
    | '-' :: c :: more => if c.isDigit then "-t" ++ String.ofList (c :: more) else a
    | _ => a)

/-- Puts blanks for tabs. -/
def expand : Utility := fun args m =>
  match Switches.permuted "it:" [("initial", 'i'), ("tabs", 't')] (tabArguments args) with
  | .error text => misuse "expand" text 1 m
  | .ok (switches, operands) =>
    match tabStops ((switches.filter (fun s => s.letter == 't')).map Switch.value) with
    | .error text => fail "expand" text 1 m
    | .ok stops =>
      let (s, m) := allSources "expand" 1 operands (m.leave 0)
      m.say (String.ofList (expanded stops (!Switches.given switches 'i') true 0
        (Text.Octets.toText s).toList))

/-- Where the line stands when blanks are turned into tabs. -/
structure Unexpanding where
  /-- Whether blanks are still turned. -/
  active : Bool
  /-- The column. -/
  column : Nat
  /-- Blanks that are held back, the last first. -/
  held : List Char
  /-- Whether a single blank was held back just before a stop. -/
  single : Bool
  /-- Whether the last character was a blank. -/
  blank : Bool

/-- The state at the start of a line. -/
def Unexpanding.start : Unexpanding := ⟨true, 0, [], false, true⟩

/-- The blanks that were held back, when something else follows. -/
def Unexpanding.released (u : Unexpanding) : List Char :=
  match u.held.reverse with
  | first :: second :: more => (if u.single then '\t' else first) :: second :: more
  | few => few

/-- Puts tabs for blanks; unless asked, only in front of other characters. -/
def unexpanded (t : TabStops) (all : Bool) : Unexpanding → List Char → List Char
  | u, [] => u.released
  | u, c :: rest =>
    let goOn := fun (u : Unexpanding) (blank : Bool) (c : Char) =>
      let after := { u with
        held := [], single := false, blank, active := u.active && (all || blank) }
      u.released ++ c :: unexpanded t all (if c = '\n' then .start else after) rest
    if !u.active then c :: unexpanded t all (if c = '\n' then .start else u) rest
    else if c = ' ' ∨ c = '\t' then
      match t.next? u.column with
      | none => goOn { u with active := false } true c
      | some next =>
        let kept := if u.single then [u.held.getLastD ' '] else []
        if c = '\t' then
          let held := if u.single then ['\t'] else []
          goOn { u with column := next, held := if u.held.isEmpty then [] else held } true '\t'
        else if u.blank && u.column + 1 == next then
          goOn { u with column := next, held := kept.map (fun _ => '\t') } true '\t'
        else
          unexpanded t all { u with
            column := u.column + 1, held := c :: u.held, blank := true
            single := u.single || u.column + 1 == next } rest
    else if c = Char.ofNat 8 then goOn { u with column := u.column - 1 } false c
    else goOn { u with column := u.column + 1 } false c

/-- Puts tabs for blanks. -/
def unexpand : Utility := fun args m =>
  match Switches.permuted "at:f" [("all", 'a'), ("tabs", 't'), ("first-only", 'f')]
    (tabArguments args) with
  | .error text => misuse "unexpand" text 1 m
  | .ok (switches, operands) =>
    let has := Switches.given switches
    match tabStops ((switches.filter (fun s => s.letter == 't')).map Switch.value) with
    | .error text => fail "unexpand" text 1 m
    | .ok stops =>
      let (s, m) := allSources "unexpand" 1 operands (m.leave 0)
      m.say (String.ofList (unexpanded stops ((has 'a' || has 't') && !has 'f') .start
        (Text.Octets.toText s).toList))

/-! ## Long lines -/

/-- The column after a character. -/
def columnAfter (octets : Bool) (column : Nat) (b : UInt8) : Nat :=
  if octets then column + 1
  else if b = 8 then column - 1
  else if b = 13 then 0
  else if b = 9 then column + (8 - column % 8)
  else column + 1

/-- Breaks long lines. The line so far is held with its last octet first; with `blanks` a line is
broken after its last blank if it has one. -/
def folded (octets blanks : Bool) (width : Nat) : Bytes → Nat → Bytes → List Bytes → List Bytes
  | [], _, line, done => if line.isEmpty then done else line.reverse :: done
  | b :: rest, column, line, done =>
    if b = 10 then folded octets blanks width rest 0 [] ((b :: line).reverse :: done)
    else if columnAfter octets column b ≤ width ∨ line.isEmpty then
      folded octets blanks width rest (columnAfter octets column b) (b :: line) done
    else
      let tail := line.takeWhile (fun c => !(c == 32 || c == 9))
      let front := line.drop tail.length
      if blanks && !front.isEmpty then
        let moved := tail.reverse.foldl (columnAfter octets) 0
        let next := columnAfter octets moved b
        if next ≤ width ∨ tail.isEmpty then
          folded octets blanks width rest next (b :: tail) ((10 :: front).reverse :: done)
        else
          folded octets blanks width rest (columnAfter octets 0 b) [b]
            ((10 :: tail).reverse :: (10 :: front).reverse :: done)
      else folded octets blanks width rest (columnAfter octets 0 b) [b]
        ((10 :: line).reverse :: done)

/-- What is said about a number that is too small. -/
def outOfRange : String := ": Numerical result out of range"

/-- Breaks long lines. -/
def fold : Utility := fun args m =>
  match Switches.permuted "bsw:" [("width", 'w'), ("bytes", 'b'), ("spaces", 's')]
      (digitsAsSwitch 'w' args) with
  | .error text => misuse "fold" text 1 m
  | .ok (switches, operands) =>
    let has := Switches.given switches
    let text := (Switches.value? switches 'w').getD "80"
    let refused := "invalid number of columns: " ++ shown text
    match Numeral.count? text with
    | none => fail "fold" refused 1 m
    | some 0 => fail "fold" (refused ++ outOfRange) 1 m
    | some w =>
      eachSource "fold" 1 operands
        (fun _ s m => m.emit (folded (has 'b') (has 's') w s 0 [] []).reverse.flatten) (m.leave 0)

/-! ## Numbers in front of lines -/

/-- Which lines get a number. -/
inductive Numbered where
  /-- All of them. -/
  | all
  /-- Those that are not empty. -/
  | filled
  /-- None of them. -/
  | none
  /-- Those in which an expression is found. -/
  | found (r : Regex)

/-- Reads which lines get a number. -/
def numbered? (text : String) : Option Numbered :=
  match text.toList with
  | ['a'] => some .all
  | ['t'] => some .filled
  | ['n'] => some .none
  | 'p' :: expression => ((Regex.read false (String.ofList expression)).toOption).map .found
  | _ => none

/-- How lines are numbered. -/
structure Numbering where
  /-- The lines of the head, the body and the foot of a page that get a number. -/
  styles : Numbered × Numbered × Numbered
  /-- The first number. -/
  start : Int
  /-- The distance of numbers. -/
  step : Int
  /-- The width of numbers. -/
  width : Nat
  /-- The form of numbers: to the left, to the right, or filled up with zeros. -/
  form : String
  /-- What stands between a number and its line. -/
  gap : List Char
  /-- How many empty lines get one number. -/
  joined : Nat
  /-- Whether every page starts anew. -/
  anew : Bool
  /-- The two characters that lines between the parts of pages are made of. -/
  mark : List Char

/-- A number in its form. -/
def Numbering.shownNumber (n : Numbering) (v : Int) : List Char :=
  let digits := (Nat.repr v.natAbs).toList
  let sign := if v < 0 then ['-'] else []
  if n.form = "ln" then Format.pad true n.width (sign ++ digits)
  else if n.form = "rz" then Format.padNumber false true n.width sign digits
  else Format.pad false n.width (sign ++ digits)

/-- Where numbering stands: the part of the page, the next number, and the empty lines that have
been passed over. -/
structure NumberingState where
  /-- Which lines get a number here. -/
  style : Numbered
  /-- The next number. -/
  next : Int
  /-- Empty lines in a row so far. -/
  blanks : Nat

/-- Numbers one line. -/
def Numbering.line (n : Numbering) (s : NumberingState) (l : List Char) :
    List Char × NumberingState :=
  let parted := fun (style : Numbered) (anew : Bool) =>
    ([], { s with style, next := if anew && n.anew then n.start else s.next })
  if l = n.mark ++ n.mark ++ n.mark then parted n.styles.1 true
  else if l = n.mark ++ n.mark then parted n.styles.2.1 true
  else if l = n.mark then parted n.styles.2.2 true
  else
    let numbered :=
      (n.shownNumber s.next ++ n.gap ++ l, { s with next := s.next + n.step, blanks := 0 })
    let without := (List.replicate (n.width + n.gap.length) ' ' ++ l, s)
    match s.style with
    | .all =>
      if n.joined ≤ 1 ∨ !l.isEmpty ∨ s.blanks + 1 = n.joined then numbered
      else (without.1, { s with blanks := s.blanks + 1 })
    | .filled => if l.isEmpty then without else numbered
    | .none => without
    | .found r =>
      if (r.find? l.toArray (fun a b => a == b) (l.length + 1) 0).isSome then numbered else without

/-- Numbers lines one after the other. -/
def Numbering.lines (n : Numbering) : NumberingState → List (List Char) → List (List Char)
  | _, [] => []
  | s, l :: rest =>
    let (shownLine, next) := n.line s l
    shownLine :: n.lines next rest

/-- Numbers lines. -/
def nl : Utility := fun args m =>
  match Switches.permuted "b:d:f:h:i:l:n:ps:v:w:" [("body-numbering", 'b'),
    ("section-delimiter", 'd'),
    ("footer-numbering", 'f'), ("header-numbering", 'h'), ("line-increment", 'i'),
      ("join-blank-lines", 'l'),
    ("number-format", 'n'), ("no-renumber", 'p'), ("number-separator", 's'),
      ("starting-line-number", 'v'),
    ("number-width", 'w')] args with
  | .error text => misuse "nl" text 1 m
  | .ok (switches, operands) =>
    let value := fun (c : Char) (usual : String) => (Switches.value? switches c).getD usual
    let style := fun (c : Char) (usual what : String) => match numbered? (value c usual) with
      | some s => Except.ok s
      | none => .error ("invalid " ++ what ++ " numbering style: " ++ shown (value c usual), true)
    let number := fun (c : Char) (usual what : String) =>
      match Numeral.whole? false (value c usual) with
      | some v => Except.ok v
      | none => .error (what ++ ": " ++ shown (value c usual), false)
    let settings : Except (String × Bool) Numbering := do
      let head ← style 'h' "n" "header"
      let body ← style 'b' "t" "body"
      let foot ← style 'f' "n" "footer"
      let start ← number 'v' "1" "invalid starting line number"
      let step ← number 'i' "1" "invalid line number increment"
      let joined ← number 'l' "1" "invalid line number of blank lines"
      let width ← number 'w' "6" "invalid line number field width"
      if width ≤ 0 then throw ("invalid line number field width: " ++ shown (value 'w' "") ++
        outOfRange, false)
      if joined ≤ 0 then throw ("invalid line number of blank lines: " ++ shown (value 'l' "") ++
        outOfRange, false)
      let form := value 'n' "rn"
      if !(["ln", "rn", "rz"].contains form) then
        throw ("invalid line numbering format: " ++ shown form, true)
      let mark := match (value 'd' "\\:").toList with
        | [c] => [c, ':']
        | cs => cs
      return ⟨(head, body, foot), start, step, width.toNat, form, (value 's' "\t").toList,
        joined.toNat,
        !Switches.given switches 'p', mark⟩
    match settings with
    | .error (text, true) => misuse "nl" text 1 m
    | .error (text, false) => fail "nl" text 1 m
    | .ok n =>
      let (s, m) := allSources "nl" 1 operands (m.leave 0)
      let ls := (partsAt 10 s).map (fun l => (Text.Octets.toText l).toList)
      writeLines "nl" 10 none (n.lines ⟨n.styles.2.1, n.start, 0⟩ ls) m

/-! ## Backwards -/

/-- Writes the characters of lines backwards. -/
def rev : Utility := fun args m =>
  eachSource "rev" 1 (args.filter (fun a => a ≠ "--")) (fun _ s m =>
    let (ls, complete) := lines s
    let last := ls.length - 1
    m.emit ((ls.zipIdx.map (fun (l, i) =>
      l.reverse ++ (if i = last && !complete then [] else [10]))).flatten)) (m.leave 0)

/-- Cuts octets after each separator, or before each. The length is enough fuel. -/
def records (separator : Bytes) (before : Bool) : Nat → Bytes → Bytes → List Bytes → List Bytes
  | 0, _, _, done => done
  | _ + 1, [], record, done => if record.isEmpty then done else record.reverse :: done
  | fuel + 1, b :: rest, record, done =>
    if separator.isPrefixOf (b :: rest) then
      let after := (b :: rest).drop separator.length
      if before then
        records separator before fuel after separator.reverse
          (if record.isEmpty then done else record.reverse :: done)
      else records separator before fuel after [] ((separator.reverse ++ record).reverse :: done)
    else records separator before fuel rest (b :: record) done

/-- Writes lines, or parts between separators, the last first. -/
def tac : Utility :=
  withSwitches "tac" "brs:" [("before", 'b'), ("regex", 'r'), ("separator", 's')] 1
  (fun switches operands m =>
    let separator := match Switches.value? switches 's' with
      | some "" => [0]
      | some text => Text.Octets.ofText text
      | none => [10]
    let one := fun (m : Machine) (operand : String) =>
      match source operand m with
      | .error .isADirectory => fail "tac" (operand ++ ": read error: Is a directory") 1 m
      | .error cause =>
        fail "tac" ("failed to open " ++ shown operand ++ " for reading: " ++ wording cause) 1 m
      | .ok (s, m) =>
        m.emit (records separator (Switches.given switches 'b') (s.length + 1) s [] []).flatten
    (if operands.isEmpty then ["-"] else operands).foldl one (m.leave 0))

end BlockCoverage.Script.Utility
