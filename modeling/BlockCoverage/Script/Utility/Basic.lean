import BlockCoverage.Script.Machine
import BlockCoverage.Script.Switches

/-!
# Utilities

What the programs that scripts use have in common: a program takes arguments, reads and writes
through its descriptors and leaves an exit status. It cannot change the shell that it is started
from; what it changes are the files.
-/

namespace BlockCoverage.Script

open Text (Bytes)

/-- A program. -/
abbrev Utility := List String → Machine → Machine

namespace Utility

/-- Writes a message of a program. -/
def note (name text : String) (m : Machine) : Machine := m.warn (name ++ ": " ++ text ++ "\n")

/-- Writes a message of a program and leaves a status. -/
def fail (name text : String) (status : Nat) (m : Machine) : Machine :=
  (note name text m).leave status

/-- Fails because a program was used in a wrong way. -/
def misuse (name text : String) (status : Nat) (m : Machine) : Machine :=
  ((note name text m).warn ("Try '" ++ name ++ " --help' for more information.\n")).leave status

/-- A path between quotes, as messages show it. -/
def shown (path : String) : String := "'" ++ path ++ "'"

/-- Reads the switches of a program and goes on with them and the operands. -/
def withSwitches (name allowed : String) (long : List (String × Char)) (status : Nat)
    (body : List Switch → List String → Machine → Machine) : Utility := fun args m =>
  match Switches.permuted allowed long args with
  | .error text => misuse name text status m
  | .ok (switches, operands) => body switches operands m

/-- The octets that programs read at once. -/
def blockSize : Nat := 8192

/-- How many octets of something without an end are taken: more than the output takes. -/
def plenty (m : Machine) : Nat :=
  ((m.channelOf? 1).bind m.world.limitOf).getD blockSize + blockSize

/-- No file gets larger than this in the time there is. -/
def largestFile : Nat := 16777216

/-- Zeros without end. -/
def zeros (m : Machine) : Bytes × Machine :=
  (List.replicate (plenty m) 0, { m with unending := true })

/-- The octets of an operand, where a hyphen stands for the input. -/
def source (operand : String) (m : Machine) : Except IoCause (Bytes × Machine) :=
  let fromInput := fun (_ : Unit) =>
    match m.channelOf? 0 with
    | none => .error (.reported "Bad file descriptor")
    | some n =>
      match m.world.channel n with
      | .folder => .error .isADirectory
      | .zeros => .ok (zeros m)
      | _ => .ok (m.readAll 0)
  if operand = "-" ∨ operand = "/dev/stdin" ∨ operand = "/dev/fd/0" ∨
    operand = "/proc/self/fd/0" then
    fromInput ()
  else if operand = "/dev/null" then .ok ([], m)
  else if operand = "/dev/zero" ∨ operand = "/dev/urandom" ∨ operand = "/dev/random" then
    .ok (zeros m)
  else m.readFile operand

/-- Goes through the octets of operands, or of the input if there are none. One that cannot be read
is passed over with a message. -/
def eachSource (name : String) (status : Nat) (operands : List String)
    (body : String → Bytes → Machine → Machine) (m : Machine) : Machine :=
  let one := fun (m : Machine) (operand : String) =>
    match source operand m with
    | .error cause => fail name (operand ++ ": " ++ Machine.wording cause) status m
    | .ok (s, m) => body operand s m
  (if operands.isEmpty then ["-"] else operands).foldl one m

/-- The octets of all operands, one after the other. -/
def allSources (name : String) (status : Nat) (operands : List String) (m : Machine) :
    Bytes × Machine :=
  let one := fun (acc : List Bytes × Machine) (operand : String) =>
    match source operand acc.2 with
    | .error cause => (acc.1, fail name (operand ++ ": " ++ Machine.wording cause) status acc.2)
    | .ok (s, m) => (s :: acc.1, m)
  let (parts, m) := (if operands.isEmpty then ["-"] else operands).foldl one ([], m)
  (parts.reverse.flatten, m)

/-- Lines of octets without their line feeds, and whether the last one has one. -/
def lines (s : Bytes) : List Bytes × Bool :=
  let step := fun (acc : List Bytes × Bytes) (b : UInt8) =>
    if b = 10 then (acc.2.reverse :: acc.1, []) else (acc.1, b :: acc.2)
  let (done, last) := s.foldl step ([], [])
  if last.isEmpty then (done.reverse, true) else ((last.reverse :: done).reverse, false)

/-- Lines of octets as texts. -/
def textLines (s : Bytes) : List String := (lines s).1.map Text.Octets.toText

/-- Writes lines, each with a line feed. -/
def sayLines (texts : List String) (m : Machine) : Machine :=
  m.say (String.join (texts.map (fun t => t ++ "\n")))

/-- Records of octets that end in zeros, as texts. -/
def zeroLines (s : Bytes) : List String :=
  let exchange := fun (b : UInt8) => if b = 10 then 0 else if b = 0 then 10 else b
  (lines (s.map exchange)).1.map (fun l => Text.Octets.toText (l.map exchange))

/-- Writes names, each with a line feed or with a zero behind it. -/
def sayNames (zeros : Bool) (names : List String) (m : Machine) : Machine :=
  m.say (String.join (names.map (fun n => n.push (if zeros then Char.ofNat 0 else '\n'))))

/-- A text filled up in front. -/
def padLeft (width : Nat) (c : Char) (text : String) : String :=
  String.ofList (List.replicate (width - text.length) c) ++ text

/-- A text filled up behind. -/
def padRight (width : Nat) (text : String) : String :=
  text ++ String.ofList (List.replicate (width - text.length) ' ')

/-- Compares octets. -/
def bytesLe : Bytes → Bytes → Bool
  | [], _ => true
  | _ :: _, [] => false
  | a :: as, b :: bs => if a < b then true else if b < a then false else bytesLe as bs

/-- Reads a count that may have a unit after it. -/
def size? (text : String) : Option Nat :=
  let digits := text.toList.takeWhile Char.isDigit
  if digits.isEmpty then none
  else
    let n := (Numeral.digits 10 0 digits).1
    let unit := match String.ofList (text.toList.drop digits.length) with
      | "" => some 1
      | "c" => some 1
      | "w" => some 2
      | "b" => some 512
      | "kB" => some 1000
      | "k" | "K" | "KiB" => some 1024
      | "MB" => some 1000000
      | "M" | "MiB" => some 1048576
      | "G" | "GiB" => some 1073741824
      | _ => none
    unit.map (fun u => n * u)

/-- The milliseconds of a count of seconds, which may have places and a unit. -/
def milliseconds? (text : String) : Option Nat :=
  let cs := text.toList
  let (number, unit) := match cs.getLast? with
    | some 's' => (cs.dropLast, 1)
    | some 'm' => (cs.dropLast, 60)
    | some 'h' => (cs.dropLast, 3600)
    | some 'd' => (cs.dropLast, 86400)
    | _ => (cs, 1)
  let whole := number.takeWhile Char.isDigit
  let (places, rest) := match number.drop whole.length with
    | '.' :: more => (more.takeWhile Char.isDigit, more.dropWhile Char.isDigit)
    | more => ([], more)
  let power : Option Int := match rest with
    | [] => some 0
    | e :: more =>
      if e = 'e' ∨ e = 'E' then
        let l := Numeral.leading false more
        if l.found && l.rest.isEmpty then some l.value else none
      else none
  match power with
  | none => none
  | some p =>
    if whole.isEmpty ∧ places.isEmpty then none
    else
      let digits := (Numeral.digits 10 0 (whole ++ places)).1
      let shift : Int := p + 3 - places.length
      some (if 0 ≤ shift then digits * Nat.pow 10 shift.toNat * unit
        else digits * unit / Nat.pow 10 (-shift).toNat)

end Utility

end BlockCoverage.Script
