import BlockCoverage.Digest.Checksum
import BlockCoverage.Digest.Md5
import BlockCoverage.Digest.Sha
import BlockCoverage.Script.Utility.Basic

/-!
# Digests and encodings

Programs that sum up the contents of files, and programs that write octets in the characters of a
small alphabet and read them back.
-/

namespace BlockCoverage.Script.Utility

open Text (Bytes)
open Machine (wording)

/-! ## Digests -/

/-- Octets in hexadecimal. -/
def hex (s : Bytes) : String :=
  String.ofList
    (s.flatMap (fun b => (padLeft 2 '0' (String.ofList (Nat.toDigits 16 b.toNat))).toList))

/-- A name of a file as a line of digests shows it, and whether it had to be changed. -/
def quotedName (name : String) : String × Bool :=
  let cs := name.toList.flatMap (fun c =>
    if c = '\\' then ['\\', '\\'] else if c = '\n' then ['\\', 'n']
    else if c = '\r' then ['\\', 'r'] else [c])
  (String.ofList cs, decide (cs.length ≠ name.length))

/-- A line of a list of digests: the digest and the name. -/
def digestLine? (line : List Char) : Option (String × String) :=
  let digits := line.takeWhile (fun c => (Numeral.digit? 16 c).isSome)
  match line.drop digits.length with
  | ' ' :: mark :: name =>
    if (mark = ' ' ∨ mark = '*') ∧ !digits.isEmpty ∧ digits.length % 2 = 0 then
      some (String.ofList (digits.map Char.toLower), String.ofList name)
    else none
  | _ => none

/-- What checking a list of digests has found. -/
structure Checked where
  /-- How many lines were no digests. -/
  illFormed : Nat
  /-- How many files could not be read. -/
  unread : Nat
  /-- How many digests differ. -/
  different : Nat
  /-- How many digests were checked. -/
  good : Nat

/-- Warns about a number of things of one kind. -/
def warnCount (name : String) (n : Nat) (one several : String) (m : Machine) : Machine :=
  if n = 0 then m
  else note name ("WARNING: " ++ Nat.repr n ++ " " ++ (if n = 1 then one else several)) m

/-- Checks the digests of a list. -/
def checkDigests (name : String) (compute : Bytes → Bytes) (has : Char → Bool) (operand : String)
    (list : Bytes) (m : Machine) : Machine :=
  let size := 2 * (compute []).length
  let step := fun (acc : Checked × Machine) (line : String) =>
    let (c, m) := acc
    match digestLine? line.toList with
    | none => ({ c with illFormed := c.illFormed + 1 }, m)
    | some (wanted, file) =>
      if wanted.length ≠ size then ({ c with illFormed := c.illFormed + 1 }, m)
      else match source file m with
        | .error cause =>
          if cause = .notFound ∧ has 'I' then (c, m)
          else
            let said := note name (file ++ ": " ++ wording cause) m
            ({ c with unread := c.unread + 1 },
              if has 'S' then said else said.say (file ++ ": FAILED open or read\n"))
        | .ok (s, m) =>
          if hex (compute s) = wanted then
            ({ c with good := c.good + 1 }, if has 'S' || has 'Q' then m
              else m.say (file ++ ": OK\n"))
          else ({ c with different := c.different + 1, good := c.good + 1 },
            if has 'S' then m else m.say (file ++ ": FAILED\n"))
  let (c, m) := (textLines list).foldl step (⟨0, 0, 0, 0⟩, m)
  if c.good = 0 ∧ c.unread = 0 then
    fail name ((if operand = "-" then "'standard input'" else operand) ++
      ": no properly formatted checksum lines found") 1 m
  else
    let warned := if has 'S' then m
      else warnCount name c.different "computed checksum did NOT match"
        "computed checksums did NOT match"
        (warnCount name c.unread "listed file could not be read" "listed files could not be read"
          (warnCount name c.illFormed "line is improperly formatted"
            "lines are improperly formatted" m))
    if c.unread = 0 ∧ c.different = 0 ∧ (c.illFormed = 0 ∨ !has 'X') then warned else warned.leave 1

/-- Writes the digests of files, or checks them. -/
def digest (name title : String) (compute : Bytes → Bytes) : Utility :=
  withSwitches name "bctwzSQXIT" [("binary", 'b'), ("check", 'c'), ("text", 't'), ("warn", 'w'),
    ("zero", 'z'), ("status", 'S'), ("quiet", 'Q'), ("strict", 'X'), ("ignore-missing", 'I'),
      ("tag", 'T')] 1
  (fun switches operands m =>
    let has := Switches.given switches
    if has 'c' then
      eachSource name 1 operands (fun operand s m => checkDigests name compute has operand s m)
        (m.leave 0)
    else
      let mark := if has 'b' then " *" else "  "
      let ending := if has 'z' then String.singleton (Char.ofNat 0) else "\n"
      eachSource name 1 operands (fun operand s m =>
        let (shownName, changed) := if has 'z' then (operand, false) else quotedName operand
        let front := if changed then "\\" else ""
        if has 'T' then m.say (front ++ title ++ " (" ++ shownName ++ ") = " ++ hex (compute s) ++
          ending)
        else m.say (front ++ hex (compute s) ++ mark ++ shownName ++ ending)) (m.leave 0))

/-- Writes the cyclic checks and the sizes of files. -/
def cksum : Utility :=
  withSwitches "cksum" "" [] 1 (fun _ operands m =>
    eachSource "cksum" 1 operands (fun operand s m =>
      m.say (Nat.repr (Digest.cyclic s).toNat ++ " " ++ Nat.repr s.length ++
        (if operands.isEmpty then "" else " " ++ operand) ++ "\n")) (m.leave 0))

/-- Writes the sums and the sizes of files. -/
def sum : Utility :=
  withSwitches "sum" "rs" [("sysv", 's')] 1 (fun switches operands m =>
    let plain := (switches.getLast?.map Switch.letter) = some 's'
    eachSource "sum" 1 operands (fun operand s m =>
      let label := if operands.isEmpty then "" else " " ++ operand
      if plain then
        m.say (Nat.repr (Digest.plainSum s) ++ " " ++ Nat.repr ((s.length + 511) / 512) ++
          label ++ "\n")
      else
        m.say (padLeft 5 '0' (Nat.repr (Digest.turnedSum s)) ++ " " ++
          padLeft 5 ' ' (Nat.repr ((s.length + 1023) / 1024)) ++ label ++ "\n")) (m.leave 0))

/-! ## Encodings -/

/-- An encoding of octets in groups of characters, each of which stands for a few bits. -/
structure Encoding where
  /-- The characters. -/
  alphabet : List Char
  /-- The bits that a character stands for. -/
  bits : Nat
  /-- The octets of a group. -/
  octets : Nat
  /-- The characters of a group. -/
  chars : Nat
  /-- Whether the beginning of a group that is cut off is read. -/
  lenient : Bool

/-- The encoding in 64 characters. -/
def sixtyFour : Encoding :=
  ⟨"ABCDEFGHIJKLMNOPQRSTUVWXYZabcdefghijklmnopqrstuvwxyz0123456789+/".toList, 6, 3, 4, true⟩

/-- The encoding in 32 characters. -/
def thirtyTwo : Encoding := ⟨"ABCDEFGHIJKLMNOPQRSTUVWXYZ234567".toList, 5, 5, 8, false⟩

namespace Encoding

/-- A group of octets in characters. -/
def group (e : Encoding) (s : Bytes) : List Char :=
  let full := s ++ List.replicate (e.octets - s.length) 0
  let n := full.foldl (fun v b => 256 * v + b.toNat) 0
  let used := (8 * s.length + e.bits - 1) / e.bits
  (List.range e.chars).map (fun i =>
    if i < used then
      e.alphabet.getD (n / Nat.pow 2 (e.bits * (e.chars - 1 - i)) % Nat.pow 2 e.bits) '='
    else '=')

/-- Octets in characters. The length is enough fuel. -/
def encode (e : Encoding) : Nat → Bytes → List (List Char)
  | 0, _ => []
  | fuel + 1, s =>
    if s.isEmpty then [] else e.group (s.take e.octets) :: e.encode fuel (s.drop e.octets)

/-- The octets of a group, and whether it is well-formed: its last characters may be left out, with
a mark for each, if what is left stands for whole octets. -/
def ungroup (e : Encoding) (cs : List Char) : Bytes × Bool :=
  let values := (cs.takeWhile e.alphabet.contains).map
    (fun c => (e.alphabet.findIdx? (fun d => d == c)).getD 0)
  let used := values.length
  let whole := e.bits * used / 8
  let n := (values ++ List.replicate (e.chars - used) 0).foldl
    (fun v d => v * Nat.pow 2 e.bits + d) 0
  let all :=
    (List.range e.octets).map (fun i => UInt8.ofNat (n / Nat.pow 256 (e.octets - 1 - i) % 256))
  let fits := (8 * whole + e.bits - 1) / e.bits = used ∧ 0 < whole
  let marked := cs.length = e.chars ∧ (cs.drop used).all (fun c => c == '=')
  let good := fits ∧ marked
  (if good ∨ e.lenient then all.take whole else [], decide good)

/-- The octets that characters stand for, up to the first group that is ill-formed, and whether
there was none. The length is enough fuel. -/
def decode (e : Encoding) : Nat → List Char → List Bytes → Bytes × Bool
  | 0, _, done => (done.reverse.flatten, true)
  | fuel + 1, cs, done =>
    if cs.isEmpty then (done.reverse.flatten, true)
    else
      let (s, good) := e.ungroup (cs.take e.chars)
      if good then e.decode fuel (cs.drop e.chars) (s :: done)
      else ((s :: done).reverse.flatten, false)

end Encoding

/-- Cuts a list into parts of `n`. The length is enough fuel. -/
def runsOfChars (n : Nat) : Nat → List Char → List (List Char)
  | 0, _ => []
  | fuel + 1, cs => if cs.isEmpty then [] else cs.take n :: runsOfChars n fuel (cs.drop n)

/-- Encodes octets, or decodes them. -/
def encoding (name : String) (e : Encoding) : Utility :=
  withSwitches name "diw:" [("decode", 'd'), ("wrap", 'w'), ("ignore-garbage", 'i')] 1
  (fun switches operands m =>
    let has := Switches.given switches
    let operand := operands.headD "-"
    let width := match Switches.value? switches 'w' with
      | none => some 76
      | some text => Numeral.count? text
    match operands.drop 1, width, source operand m with
    | extra :: _, _, _ => misuse name ("extra operand " ++ shown extra) 1 m
    | [], none, _ =>
      fail name ("invalid wrap size: " ++ shown ((Switches.value? switches 'w').getD "")) 1 m
    | [], _, .error .isADirectory => fail name "read error: Is a directory" 1 m
    | [], _, .error cause => fail name (operand ++ ": " ++ wording cause) 1 m
    | [], some w, .ok (s, m) =>
      if has 'd' then
        let cs := (Text.Octets.toText s).toList.filter (fun c =>
          if has 'i' then e.alphabet.contains c || c == '=' else c != '\n')
        let (t, good) := e.decode (cs.length + 1) cs []
        let said := (m.emit t).leave 0
        if good then said else fail name "invalid input" 1 said
      else
        let cs := (e.encode (s.length + 1) s).flatten
        let out := if w = 0 then cs
          else ((runsOfChars w (cs.length + 1) cs).map (fun r => r ++ ['\n'])).flatten
        (m.say (String.ofList out)).leave 0)

end BlockCoverage.Script.Utility
