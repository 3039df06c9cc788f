import BlockCoverage.Script.Format
import BlockCoverage.Script.Utility.Basic

/-!
# Beginnings, ends and counts

Programs that write the first or the last part of files, and one that counts what is in them.
-/

namespace BlockCoverage.Script.Utility

open Text (Bytes)
open Machine (wording path)

/-! ## Beginnings and ends -/

/-- How many octets the first `n` lines have, with what ends them, on top of those counted so
far. -/
def linesSize (stop : UInt8) : Nat → Bytes → Nat → Nat
  | 0, _, size => size
  | _ + 1, [], size => size
  | n + 1, b :: rest, size => linesSize stop (if b = stop then n else n + 1) rest (size + 1)

/-- The number of lines, a last one that nothing ends counted. -/
def countLines (stop : UInt8) (s : Bytes) : Nat :=
  s.count stop + (match s.getLast? with
    | some b => if b = stop then 0 else 1
    | none => 0)

/-- A count of lines or octets. -/
structure Extent where
  /-- Whether octets are counted. -/
  octets : Bool
  /-- The sign in front of the number. -/
  sign : Option Char
  /-- The number. -/
  count : Nat
  /-- What ends lines. -/
  stop : UInt8

/-- Reads an extent. -/
def extent? (octets : Bool) (stop : UInt8) (text : String) : Option Extent :=
  match text.toList with
  | c :: rest =>
    if c = '-' ∨ c = '+' then (size? (String.ofList rest)).map (fun n => ⟨octets, some c, n, stop⟩)
    else (size? text).map (fun n => ⟨octets, none, n, stop⟩)
  | [] => none

/-- The extent that switches ask for; a word of a hyphen and digits stands for so many lines. -/
def extentOf (name : String) (args : List String) (allowed : String) (long : List (String × Char))
    (m : Machine) (body : Extent → List Switch → List String → Machine) : Machine :=
  let args := match args with
    | word :: rest =>
      match word.toList with
      | '-' :: c :: more =>
        if (c :: more).all Char.isDigit then "-n" :: String.ofList (c :: more) :: rest else args
      | _ => args
    | [] => args
  match Switches.permuted allowed long args with
  | .error text => misuse name text 1 m
  | .ok (switches, operands) =>
    let stop := if Switches.given switches 'z' then 0 else 10
    match (switches.filter (fun s => s.letter == 'n' || s.letter == 'c')).getLast? with
    | none => body ⟨false, none, 10, stop⟩ switches operands
    | some s =>
      match extent? (s.letter == 'c') stop s.value with
      | some e => body e switches operands
      | none =>
        fail name ("invalid number of " ++ (if s.letter = 'c' then "bytes" else "lines") ++ ": " ++
          shown s.value) 1 m

/-- The title of a file when there are several. -/
def title (operand : String) (first : Bool) : String :=
  (if first then "" else "\n") ++ "==> " ++ (if operand = "-" then "standard input" else operand) ++
    " <==\n"

/-- Goes through operands with titles between them. -/
def eachTitled (name : String) (titled : Bool) (operands : List String)
    (one : String → Machine → Except IoCause Machine) (m : Machine) : Machine :=
  let step := fun (acc : Bool × Machine) (operand : String) =>
    let headed := if titled then acc.2.say (title operand acc.1) else acc.2
    match one operand headed with
    | .ok m => (false, m)
    | .error cause =>
      if cause = .isADirectory then
        (false, fail name ("error reading " ++ shown operand ++ ": " ++ wording cause) 1 headed)
      else
        (acc.1, fail name ("cannot open " ++ shown operand ++ " for reading: " ++ wording cause) 1
          acc.2)
  ((if operands.isEmpty then ["-"] else operands).foldl step (true, m)).2

/-- The first part of octets. -/
def front (e : Extent) (s : Bytes) : Bytes :=
  match e.sign, e.octets with
  | some '-', true => s.take (s.length - e.count)
  | some '-', false => s.take (linesSize e.stop (countLines e.stop s - e.count) s 0)
  | _, true => s.take e.count
  | _, false => s.take (linesSize e.stop e.count s 0)

/-- Writes the first part of files. From the input whole blocks are taken when lines are looked for,
and what has been taken too much is given back if that is possible. -/
def head : Utility := fun args m =>
  extentOf "head" args "c:n:qvz" [("bytes", 'c'), ("lines", 'n'), ("quiet", 'q'), ("silent", 'q'),
    ("verbose", 'v'), ("zero-terminated", 'z')] m (fun e switches operands =>
    let fromZeros := fun (m : Machine) =>
      if e.octets ∧ e.sign ≠ some '-' then m.emit (List.replicate e.count 0)
      else { m with unending := true }
    let fromInput := fun (m : Machine) =>
      match (m.channelOf? 0).map m.world.channel with
      | none => .error (.reported "Bad file descriptor")
      | some .folder => .error .isADirectory
      | some .zeros => .ok (fromZeros m)
      | _ =>
        let s := m.available 0
        let kept := front e s
        let needed := if e.octets ∨ m.isSeekable 0 then kept.length
          else (kept.length + blockSize - 1) / blockSize * blockSize
        let all := e.sign = some '-' ∨ (!e.octets ∧ kept.count e.stop < e.count)
        .ok ((m.consume 0 (if all then s.length else min needed s.length)).emit kept)
    let one := fun (operand : String) (m : Machine) =>
      if operand = "-" ∨ operand = "/dev/stdin" then fromInput m
      else if operand = "/dev/zero" ∨ operand = "/dev/urandom" then
        .ok (fromZeros m)
      else (source operand m).map (fun (s, m) => m.emit (front e s))
    let has := Switches.given switches
    let titled := has 'v' || (1 < operands.length && !has 'q')
    eachTitled "head" titled operands one (m.leave 0))

/-- The last part of octets. -/
def back (e : Extent) (s : Bytes) : Bytes :=
  match e.sign, e.octets with
  | some '+', true => s.drop (e.count - 1)
  | some '+', false => s.drop (linesSize e.stop (e.count - 1) s 0)
  | _, true => s.drop (s.length - e.count)
  | _, false => s.drop (linesSize e.stop (countLines e.stop s - e.count) s 0)

/-- Writes the last part of files. -/
def tail : Utility := fun args m =>
  let args := match args with
    | word :: rest =>
      match word.toList with
      | '+' :: c :: more =>
        if (c :: more).all Char.isDigit then "-n" :: word :: rest else args
      | _ => args
    | [] => args
  extentOf "tail" args "c:n:qvzfFs:" [("bytes", 'c'), ("lines", 'n'), ("quiet", 'q'),
    ("silent", 'q'), ("verbose", 'v'), ("follow", 'f'), ("zero-terminated", 'z')] m
      (fun e switches operands =>
    let one := fun (operand : String) (m : Machine) =>
      (source operand m).map (fun (s, m) => m.emit (back e s))
    let has := Switches.given switches
    let titled := has 'v' || (1 < operands.length && !has 'q')
    eachTitled "tail" titled operands one (m.leave 0))

/-! ## Counting -/

/-- Whether an octet is a blank of any kind. -/
def isBlankOctet (b : UInt8) : Bool := b == 32 || (9 ≤ b && b ≤ 13)

/-- The number of words: a word has a printable octet and ends at a blank. -/
def countWords (s : Bytes) : Nat :=
  let step := fun (acc : Nat × Bool) (b : UInt8) =>
    if isBlankOctet b then (acc.1, false)
    else if 33 ≤ b ∧ b ≤ 126 then (if acc.2 then acc else (acc.1 + 1, true))
    else acc
  (s.foldl step (0, false)).1

/-- The width of the longest line: tabs lead to the next multiple of eight, and what is not printed
has no width. -/
def longest (s : Bytes) : Nat :=
  let step := fun (acc : Nat × Nat) (b : UInt8) =>
    if b = 10 ∨ b = 12 ∨ b = 13 then (max acc.1 acc.2, 0)
    else if b = 9 then (acc.1, acc.2 + (8 - acc.2 % 8))
    else if 32 ≤ b ∧ b ≤ 126 then (acc.1, acc.2 + 1)
    else acc
  let (best, last) := s.foldl step (0, 0)
  max best last

/-- The counts that have been asked for. -/
def counts (has : Char → Bool) (s : Bytes) : List Nat :=
  (if has 'l' then [s.count 10] else []) ++ (if has 'w' then [countWords s] else []) ++
    (if has 'm' then [s.length] else []) ++ (if has 'c' then [s.length] else []) ++
    (if has 'L' then [longest s] else [])

/-- Numbers filled up to a width, with a blank between them. -/
def columns (width : Nat) (ns : List Nat) : String :=
  String.intercalate " "
    (ns.map (fun n => String.ofList (Format.pad false width (Nat.repr n).toList)))

/-- Counts lines, words and octets. -/
def wc : Utility :=
  withSwitches "wc" "clLmwT:" [("bytes", 'c'), ("lines", 'l'), ("chars", 'm'), ("words", 'w'),
    ("max-line-length", 'L'), ("total", 'T')] 1
  (fun switches operands m =>
    let counted := switches.filter (fun s => s.letter != 'T')
    let when := (Switches.value? switches 'T').getD "auto"
    let has := fun (c : Char) =>
      if counted.isEmpty then ['l', 'w', 'c'].contains c else Switches.given switches c
    let named := !operands.isEmpty
    let operands := if named then operands else ["-"]
    let sizes := operands.map (fun o =>
      if o = "-" then (if m.isSeekable 0 then some (m.available 0).length else none)
      else (m.world.files.read (path o)).toOption.map List.length)
    let known := operands.filter (fun o => o = "-" ∨ m.world.files.exists? (path o))
    let total := (sizes.filterMap id).foldl (· + ·) 0
    let odd := known.any (fun o => if o = "-" then !m.isSeekable 0
      else !m.world.files.isFile (path o))
    let single := operands.length = 1 ∧ (counts has []).length = 1
    let failedFirst := sizes.head? = some none ∧ operands.head? ≠ some "-"
    let width := if single ∨ failedFirst ∨ when = "only" then 1
      else max (Nat.repr total).length (if odd then 7 else 1)
    let one := fun (acc : List Nat × Machine) (operand : String) =>
      match source operand acc.2 with
      | .error cause =>
        let failed := fail "wc" (operand ++ ": " ++ wording cause) 1 acc.2
        if cause = .isADirectory then
          (acc.1, if when = "only" then failed
            else failed.say (columns width ((counts has []).map (fun _ => 0)) ++ " " ++ operand ++
              "\n"))
        else (acc.1, failed)
      | .ok (s, m) =>
        let ns := counts has s
        let label := if named then " " ++ operand else ""
        let sums := if acc.1.isEmpty then ns else (acc.1.zip ns).map (fun (a, b) => a + b)
        (sums, if when = "only" then m else m.say (columns width ns ++ label ++ "\n"))
    let (sums, m) := operands.foldl one ([], m.leave 0)
    if when = "always" ∨ when = "only" ∨ (when = "auto" ∧ 1 < operands.length) then
      let sums := if sums.isEmpty then (counts has []).map (fun _ => 0) else sums
      m.say (columns width sums ++ (if when = "only" then "\n" else " total\n"))
    else m)

end BlockCoverage.Script.Utility
