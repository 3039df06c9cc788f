import BlockCoverage.Script.Utility.Order

/-!
# Programs that compare lines

Lines that stand next to one another in a file, and lines that two sorted files have in common.
-/

namespace BlockCoverage.Script.Utility

open Text (Bytes)
open Machine (wording)

/-! ## Equal lines in a row -/

/-- Which part of a line counts when it is compared with the one before. -/
structure LinePart where
  /-- How many fields in front are left out. -/
  fields : Nat
  /-- How many characters after them are left out. -/
  chars : Nat
  /-- How many characters count at most. -/
  size : Option Nat
  /-- Whether letters count as the same in both cases. -/
  folded : Bool

/-- The part of a line that counts. -/
def LinePart.of (p : LinePart) (line : List Char) : List Char :=
  let rest := (afterFields none p.fields line).drop p.chars
  let part := match p.size with
    | some n => rest.take n
    | none => rest
  if p.folded then part.map Char.toUpper else part

/-- Runs of lines that are the same, each with its lines in order. -/
def equalRuns (key : List Char → List Char) (ls : List (List Char)) : List (List (List Char)) :=
  let step := fun (l : List Char) (acc : List (List Char × List (List Char))) =>
    let k := key l
    match acc with
    | (other, group) :: rest => if k == other then (k, l :: group) :: rest else (k, [l]) :: acc
    | [] => [(k, [l])]
  (ls.foldr step []).map Prod.snd

/-- Which lines of runs are written, and how. -/
structure RunStyle where
  /-- Whether lines that stand alone are written. -/
  single : Bool
  /-- Whether a line of a run of several is written: the first that is not followed by an equal
  one. -/
  one : Bool
  /-- Whether the other lines of a run are written. -/
  others : Bool
  /-- Whether the length of the run is written in front. -/
  counted : Bool
  /-- Where an empty line is put between runs of several lines. -/
  parted : String

/-- The lines that are written for runs. -/
def RunStyle.lines (s : RunStyle) (runs : List (List (List Char))) : List (List Char) :=
  let wanted := fun (run : List (List Char)) => match run with
    | [l] => if s.single then [l] else []
    | l :: rest =>
      if s.others then run.dropLast ++ (if s.one then [(l :: rest).getLastD l] else [])
      else if s.one then [l] else []
    | [] => []
  let step := fun (acc : List (List (List Char)) × Bool) (run : List (List Char)) =>
    let front := if s.counted then (padLeft 7 ' ' (Nat.repr run.length)).toList ++ [' '] else []
    let several := 1 < run.length
    let gap := if several ∧ (s.parted = "prepend" ∨ (s.parted = "separate" ∧ acc.2)) then [[]]
      else []
    ((gap ++ (wanted run).map (fun l => front ++ l)) :: acc.1, acc.2 || decide several)
  (runs.foldl step ([], false)).1.reverse.flatten

/-- All lines with an empty one between runs, or around them. -/
def groupedLines (style : String) (runs : List (List (List Char))) : List (List Char) :=
  let before := style = "prepend" ∨ style = "both"
  let after := style = "append" ∨ style = "both"
  let parted := runs.zipIdx.map (fun (run, i) => (if before ∨ i ≠ 0 then [[]] else []) ++ run)
  parted.flatten ++ (if after ∧ !runs.isEmpty then [[]] else [])

/-- A number that a switch asks for, or a message. -/
def countOf (switches : List Switch) (c : Char) (what : String) : Except String (Option Nat) :=
  match Switches.value? switches c with
  | none => .ok none
  | some text =>
    if !text.isEmpty && text.toList.all Char.isDigit then
      .ok (some (Numeral.digits 10 0 text.toList).1)
    else .error (text ++ ": invalid number of " ++ what)

/-- A hyphen and digits in front of other switches, as a switch of its own. -/
def digitsAsSwitch (letter : Char) (args : List String) : List String :=
  args.map (fun a => match a.toList with
    | '-' :: c :: more =>
      if (c :: more).all Char.isDigit then "-" ++ String.singleton letter ++
        String.ofList (c :: more) else a
    | _ => a)

/-- Writes lines to the output or to a file. -/
def writeLines (name : String) (stop : UInt8) (file : Option String) (ls : List (List Char))
    (m : Machine) :
    Machine :=
  let out := (ls.map (fun l => Text.Octets.ofText (String.ofList l) ++ [stop])).flatten
  match file with
  | none | some "-" => m.emit out
  | some f =>
    match m.openFile f .write with
    | .ok (n, m) => { m with world := m.world.write n out }
    | .error cause => fail name (f ++ ": " ++ wording cause) 1 m

/-- Writes one of several equal lines in a row. -/
def uniq : Utility := fun args m =>
  match Switches.permuted "cdDuizf:s:w:a::g::" [("count", 'c'), ("repeated", 'd'),
    ("all-repeated", 'a'),
    ("group", 'g'), ("unique", 'u'), ("ignore-case", 'i'), ("zero-terminated", 'z'),
      ("skip-fields", 'f'),
    ("skip-chars", 's'), ("check-chars", 'w')] (digitsAsSwitch 'f' args) with
  | .error text => misuse "uniq" text 1 m
  | .ok (switches, operands) =>
    let has := Switches.given switches
    let numbers := do
      return (← countOf switches 'f' "fields to skip", ← countOf switches 's' "bytes to skip",
        ← countOf switches 'w' "bytes to compare")
    let all := has 'D' || has 'a'
    match numbers with
    | .error text => fail "uniq" text 1 m
    | .ok (fields, chars, size) =>
      if 2 < operands.length then
        misuse "uniq" ("extra operand " ++ shown ((operands.drop 2).headD "")) 1 m
      else if has 'g' ∧ (all || has 'c' || has 'd' || has 'u') then
        misuse "uniq" "--group is mutually exclusive with -c/-d/-D/-u" 1 m
      else if all ∧ has 'c' then
        misuse "uniq" "printing all duplicated lines and repeat counts is meaningless" 1 m
      else
        let operand := operands.headD "-"
        match source operand m with
        | .error .isADirectory =>
          fail "uniq" ("error reading " ++ shown operand ++ ": Is a directory") 1 m
        | .error cause => fail "uniq" (operand ++ ": " ++ wording cause) 1 m
        | .ok (s, m) =>
          let stop : UInt8 := if has 'z' then 0 else 10
          let part : LinePart := ⟨fields.getD 0, chars.getD 0, size, has 'i'⟩
          let runs :=
            equalRuns part.of ((partsAt stop s).map (fun l => (Text.Octets.toText l).toList))
          let out := if has 'g' then
              let style := (Switches.value? switches 'g').getD ""
              groupedLines (if style = "" then "separate" else style) runs
            else RunStyle.lines ⟨!(has 'd' || all), !has 'u', all, has 'c',
              (Switches.value? switches 'a').getD "none"⟩ runs
          writeLines "uniq" stop operands[1]? out (m.leave 0)

/-! ## Lines in common -/

/-- A line of one of two files, or of both. -/
inductive Side where
  /-- Of the first. -/
  | first
  /-- Of the second. -/
  | second
  /-- Of both. -/
  | both
deriving DecidableEq

/-- What comparing two files finds: a line, or that a file is not sorted. -/
inductive Finding where
  /-- A line, with the files that it is in. -/
  | line (side : Side) (text : List Char)
  /-- A file that is not sorted, by its number. -/
  | unsorted (file : Nat)

/-- One of two files that are compared: the lines that are left, and those that have been read, the
last first. -/
structure Reading where
  /-- The lines that are left. -/
  left : List (List Char)
  /-- The lines that have been read. -/
  read : List (List Char)
  /-- Whether it has been found not to be sorted. -/
  found : Bool

/-- A file whose first line has been used, and whether it turns out not to be sorted if that is
looked for. At its end, the last two lines are looked at once more. -/
def Reading.advance (r : Reading) (looks : Bool) : Reading × Bool :=
  let wrong := match r.left, r.read with
    | a :: b :: _, _ => compare a b == .gt
    | [b], a :: _ => compare a b == .gt
    | _, _ => false
  let fault := looks && !r.found && wrong
  (⟨r.left.drop 1, r.left.take 1 ++ r.read.take 1, r.found || fault⟩, fault)

/-- Compares two files line by line. Unless it is looked for from the start, a file that is not
sorted is noticed only after a line that the files do not share. The lengths together are enough
fuel. -/
def findings (always never : Bool) : Nat → Bool → Reading → Reading → List Finding
  | 0, _, _, _ => []
  | fuel + 1, apart, a, b =>
    let order := match a.left, b.left with
      | [], [] => none
      | [], y :: _ => some (Side.second, y)
      | x :: _, [] => some (Side.first, x)
      | x :: _, y :: _ => match compare x y with
        | .lt => some (Side.first, x)
        | .gt => some (Side.second, y)
        | .eq => some (Side.both, x)
    match order with
    | none => []
    | some (side, text) =>
      let apart := apart || side != .both
      let looks := !never && (always || apart)
      let (a, wrongA) := if side = .second then (a, false) else a.advance looks
      let (b, wrongB) := if side = .first then (b, false) else b.advance looks
      let faults := (if wrongA then [Finding.unsorted 1] else []) ++
        (if wrongB then [Finding.unsorted 2] else [])
      if always && !faults.isEmpty then .line side text :: faults.take 1
      else .line side text :: faults ++ findings always never fuel apart a b

/-- Compares two sorted files line by line. -/
def comm : Utility := fun args m =>
  match Switches.permuted "123zkno:t" [("check-order", 'k'), ("nocheck-order", 'n'),
    ("output-delimiter", 'o'), ("total", 't'), ("zero-terminated", 'z')] args with
  | .error text => misuse "comm" text 1 m
  | .ok (switches, operands) =>
    let has := Switches.given switches
    match operands with
    | [] => misuse "comm" "missing operand" 1 m
    | [a] => misuse "comm" ("missing operand after " ++ shown a) 1 m
    | [a, b] =>
      match source a m with
      | .error cause => fail "comm" (a ++ ": " ++ wording cause) 1 m
      | .ok (s, m) =>
        match source b m with
        | .error cause => fail "comm" (b ++ ": " ++ wording cause) 1 m
        | .ok (t, m) =>
          let stop : UInt8 := if has 'z' then 0 else 10
          let read := fun (s : Bytes) =>
            (partsAt stop s).map (fun l => (Text.Octets.toText l).toList)
          let (as, bs) := (read s, read t)
          let found :=
            findings (has 'k') (has 'n') (as.length + bs.length + 1) false ⟨as, [], false⟩
            ⟨bs, [], false⟩
          let gap := match Switches.value? switches 'o' with
            | some "" => [Char.ofNat 0]
            | some text => text.toList
            | none => ['\t']
          let shownLine := fun (side : Side) (text : List Char) => match side with
            | .first => if has '1' then none else some text
            | .second => if has '2' then none else some ((if has '1' then [] else gap) ++ text)
            | .both =>
              if has '3' then none
              else some ((if has '1' then [] else gap) ++ (if has '2' then [] else gap) ++ text)
          let one := fun (m : Machine) (f : Finding) => match f with
            | .line side text => writeLines "comm" stop none (shownLine side text).toList m
            | .unsorted n => fail "comm" ("file " ++ Nat.repr n ++ " is not in sorted order") 1 m
          let said := found.foldl one (m.leave 0)
          let count := fun (side : Side) => (Nat.repr (found.countP (fun f => match f with
            | .line s _ => s == side
            | .unsorted _ => false))).toList
          if said.status ≠ 0 ∧ has 'k' then said
          else
            let total := if !has 't' then []
              else [(([count .first, count .second, count .both, "total".toList]).intersperse
                gap).flatten]
            let summed := writeLines "comm" stop none total said
            if said.status = 0 then summed else fail "comm" "input is not in sorted order" 1 summed
    | _ :: _ :: c :: _ => misuse "comm" ("extra operand " ++ shown c) 1 m

/-! ## Joining -/

/-- A line of a file that is joined: its fields. -/
abbrev Row := List (List Char)

/-- The fields of a line. -/
def rowOf (separator : Option Char) (line : List Char) : Row :=
  match separator with
  | some c => Text.pieces (fun d => decide (d = c)) line
  | none => (Text.pieces isFieldBlank line).filter (fun f => !f.isEmpty)

/-- What a joined line shows. -/
inductive Shown where
  /-- The field that the lines have in common. -/
  | key
  /-- A field of one of the two lines. -/
  | field (file index : Nat)
deriving DecidableEq

/-- How files are joined. -/
structure Joining where
  /-- Which field of each file is compared, from zero on. -/
  keys : Nat × Nat
  /-- What parts fields. -/
  separator : Option Char
  /-- What is written for a field that is missing. -/
  missing : List Char
  /-- What a joined line shows, unless it is everything. -/
  shown : Option (List Shown)
  /-- Whether letters count as the same in both cases. -/
  folded : Bool

/-- The field of a row that is compared. -/
def Joining.key (j : Joining) (file : Nat) (r : Row) : List Char :=
  let k := r.getD (if file = 1 then j.keys.1 else j.keys.2) []
  if j.folded then k.map Char.toUpper else k

/-- A joined line. -/
def Joining.line (j : Joining) (a b : Option Row) : List Char :=
  let cell := fun (f : Option (List Char)) => match f with
    | some cs => if cs.isEmpty then j.missing else cs
    | none => j.missing
  let keyOf := match a, b with
    | some r, _ => r[j.keys.1]?
    | none, some r => r[j.keys.2]?
    | none, none => none
  let others := fun (r : Option Row) (k : Nat) => (r.getD []).eraseIdx k
  let cells := match j.shown with
    | some list => list.map (fun (s : Shown) => match s with
      | .key => cell keyOf
      | .field file i => cell ((if file = 1 then a else b).bind (fun r => r[i]?)))
    | none => (keyOf :: ((others a j.keys.1) ++ (others b j.keys.2)).map some).map cell
  (cells.intersperse [j.separator.getD ' ']).flatten

/-- The lines that come of joining two files: pairs, and lines that stand alone. The lengths
together are enough fuel. -/
def Joining.pairs (j : Joining) : Nat → List Row → List Row → List (Option Row × Option Row)
  | 0, _, _ => []
  | _ + 1, as, [] => as.map (fun a => (some a, none))
  | _ + 1, [], bs => bs.map (fun b => (none, some b))
  | fuel + 1, a :: as, b :: bs =>
    let k := j.key 1 a
    match compare k (j.key 2 b) with
    | .lt => (some a, none) :: j.pairs fuel as (b :: bs)
    | .gt => (none, some b) :: j.pairs fuel (a :: as) bs
    | .eq =>
      let left := (a :: as).takeWhile (fun r => j.key 1 r == k)
      let right := (b :: bs).takeWhile (fun r => j.key 2 r == k)
      left.flatMap (fun x => right.map (fun y => (some x, some y))) ++
        j.pairs fuel ((a :: as).drop left.length) ((b :: bs).drop right.length)

/-- Reads what a joined line shows. -/
def shownFields (text : String) : Except String (List Shown) :=
  ((Text.pieces (fun c => c == ',' || c == ' ' || c == '\t') text.toList).filter
    (fun p => !p.isEmpty)).mapM (fun p =>
    match p with
    | ['0'] => .ok Shown.key
    | f :: '.' :: digits =>
      let n := (Numeral.digits 10 0 digits).1
      if f ≠ '1' ∧ f ≠ '2' then
        .error ("invalid file number in field spec: " ++ shown (String.ofList p))
      else if digits.isEmpty || !digits.all Char.isDigit || n == 0 then
        .error ("invalid field number: " ++ shown (String.ofList digits))
      else .ok (Shown.field (f.toNat - 48) (n - 1))
    | _ => .error ("invalid field specifier: " ++ shown (String.ofList p)))

/-- The first row that comes before the one in front of it, with its number. -/
def rowDisorder? (key : Row → List Char) : Nat → List (Row × List Char) → Option (Nat × List Char)
  | n, a :: b :: rest =>
    if compare (key a.1) (key b.1) == .gt then some (n + 1, b.2)
    else rowDisorder? key (n + 1) (b :: rest)
  | _, _ => none

/-- Joins the lines of two sorted files that have a field in common. -/
def join : Utility := fun args m =>
  match Switches.permuted "a:e:i1:2:j:o:t:v:zknh" [("ignore-case", 'i'), ("check-order", 'k'),
    ("nocheck-order", 'n'), ("header", 'h'), ("zero-terminated", 'z')] args with
  | .error text => misuse "join" text 1 m
  | .ok (switches, operands) =>
    let has := Switches.given switches
    let files := fun (c : Char) => switches.filterMap (fun s => if s.letter = c then some s.value
      else none)
    let field := fun (c : Char) => match Switches.value? switches c with
      | none => Except.ok none
      | some text =>
        let n := (Numeral.digits 10 0 text.toList).1
        if text.isEmpty || !text.toList.all Char.isDigit || n == 0 then
          .error ("invalid field number: " ++ shown text)
        else .ok (some (n - 1))
    let settings : Except String Joining := do
      match (files 'a' ++ files 'v').find? (fun f => f ≠ "1" ∧ f ≠ "2") with
      | some f => throw ("invalid file number: " ++ shown f)
      | none => pure ()
      let both ← field 'j'
      let first ← field '1'
      let second ← field '2'
      let separator ← match Switches.value? switches 't' with
        | none => pure none
        | some "" => pure (some '\n')
        | some "\\0" => pure (some (Char.ofNat 0))
        | some text => match text.toList with
          | [c] => pure (some c)
          | _ => throw ("multi-character tab " ++ shown text)
      let list ← match files 'o' with
        | [] => pure none
        | ["auto"] => pure (some [])
        | texts => pure (some (← texts.mapM shownFields).flatten)
      return ⟨((first.or both).getD 0, (second.or both).getD 0), separator,
        ((Switches.value? switches 'e').getD "").toList, list, has 'i'⟩
    match settings, operands with
    | .error text, _ => fail "join" text 1 m
    | .ok j, [a, b] =>
      match source a m with
      | .error cause => fail "join" (a ++ ": " ++ wording cause) 1 m
      | .ok (s, m) =>
        match source b m with
        | .error cause => fail "join" (b ++ ": " ++ wording cause) 1 m
        | .ok (t, m) =>
          let stop : UInt8 := if has 'z' then 0 else 10
          let read := fun (s : Bytes) => (partsAt stop s).map (fun l =>
            let cs := (Text.Octets.toText l).toList
            (rowOf j.separator cs, cs))
          let (as, bs) := (read s, read t)
          let all := fun (file key : Nat) (rows : List (Row × List Char)) =>
            ((List.range ((rows.head?.map (fun r => r.1.length)).getD 0)).filter
              (fun i => i != key)).map
              (Shown.field file)
          let j := if j.shown = some [] then
              { j with shown := some (.key :: all 1 j.keys.1 as ++ all 2 j.keys.2 bs) }
            else j
          let (as, bs, head) := if !has 'h' then (as, bs, [])
            else match as, bs with
              | x :: xs, y :: ys => (xs, ys, [j.line (some x.1) (some y.1)])
              | _, _ => (as, bs, [])
          let found := j.pairs (as.length + bs.length + 1) (as.map Prod.fst) (bs.map Prod.fst)
          let alone := files 'a' ++ files 'v'
          let wanted := fun (p : Option Row × Option Row) => match p with
            | (some _, some _) => !has 'v'
            | (some _, none) => alone.contains "1"
            | _ => alone.contains "2"
          let said := writeLines "join" stop none
            (head ++ (found.filter wanted).map (fun p => j.line p.1 p.2)) (m.leave 0)
          let paired := found.all (fun p => p.1.isSome && p.2.isSome)
          let checks := !has 'n' && (has 'k' || !paired)
          let first := if has 'h' then 2 else 1
          let wrong := fun (name : String) (key : Row → List Char) (rows : List (Row × List Char))
              (m : Machine) =>
            match if checks then rowDisorder? key first rows else none with
            | some (n, line) => fail "join" (name ++ ":" ++ Nat.repr n ++ ": is not sorted: " ++
                String.ofList line) 1 m
            | none => m
          let checked := wrong b (j.key 2) bs (wrong a (j.key 1) as said)
          if checked.status = 0 ∨ has 'k' then checked
          else fail "join" "input is not in sorted order" 1 checked
    | .ok _, [] => misuse "join" "missing operand" 1 m
    | .ok _, [a] => misuse "join" ("missing operand after " ++ shown a) 1 m
    | .ok _, _ :: _ :: c :: _ => misuse "join" ("extra operand " ++ shown c) 1 m

/-! ## Orders from pairs -/

/-- Names in an order in which the first of each pair comes before the second, as far as there is
one: those that are ready come in turn, and those that become ready by one of them follow, its
latest pair first. The number of names is enough fuel. -/
def topological (pairs : List (List Char × List Char)) : Nat → List (List Char) →
    List (List Char × List Char) → List (List Char)
  | 0, _, _ => []
  | _ + 1, [], _ => []
  | fuel + 1, n :: ready, waiting =>
    let left := waiting.filter (fun p => p.1 != n)
    let next := ((pairs.filter (fun p => p.1 == n)).map Prod.snd).reverse.eraseDups
    let freed := next.filter (fun k => left.all (fun p => p.2 != k))
    n :: topological pairs fuel (ready ++ freed) left

/-- Pairs of names. -/
def pairsOf : List (List Char) → List (List Char × List Char)
  | a :: b :: rest => (a, b) :: pairsOf rest
  | _ => []

/-- Writes names in an order that fits the pairs that are read. -/
def tsort : Utility :=
  withSwitches "tsort" "" [] 1 (fun _ operands m =>
    match operands with
    | _ :: extra :: _ => misuse "tsort" ("extra operand " ++ shown extra) 1 m
    | _ =>
      let operand := operands.headD "-"
      match source operand m with
      | .error cause => fail "tsort" (operand ++ ": " ++ wording cause) 1 m
      | .ok (s, m) =>
        let words := (Text.pieces isFieldBlank (Text.Octets.toText s).toList).filter
          (fun w => !w.isEmpty)
        if words.length % 2 = 1 then
          fail "tsort" (operand ++ ": input contains an odd number of tokens") 1 m
        else
          let pairs := (pairsOf words).filter (fun p => p.1 != p.2)
          let names := (words.mergeSort (fun a b => compare a b != .gt)).eraseDups
          let ready := names.filter (fun n => pairs.all (fun p => p.2 != n))
          let out := topological pairs (names.length + 1) ready pairs
          let said := writeLines "tsort" 10 none out (m.leave 0)
          if out.length = names.length then said
          else fail "tsort" (operand ++ ": input contains a loop:") 1 said)

end BlockCoverage.Script.Utility
