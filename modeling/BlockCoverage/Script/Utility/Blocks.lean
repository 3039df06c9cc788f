import BlockCoverage.Script.Utility.Contents
import BlockCoverage.Script.Utility.Names

/-!
# Programs that work on octets by their places

Making files longer or shorter, comparing them octet by octet, copying them by blocks and cutting
them into parts.
-/

namespace BlockCoverage.Script.Utility

open Text (Bytes)
open Machine (wording path)

/-! ## Sizes -/

/-- The size that a change asks for, from the size before; none if it cannot be reached. -/
def newSize (sign : Option Char) (before n : Nat) : Nat :=
  match sign with
  | some '+' => before + n
  | some '-' => before - n
  | some '<' => min before n
  | some '>' => max before n
  | some '/' => before / n * n
  | some '%' => (before + n - 1) / n * n
  | _ => n

/-- Makes files longer or shorter. -/
def truncate : Utility :=
  withSwitches "truncate" "cor:s:" [("size", 's'), ("no-create", 'c'), ("reference", 'r'),
    ("io-blocks", 'o')] 1
  (fun switches operands m =>
    let reference := (Switches.value? switches 'r').map (fun text =>
      (text, (m.look true text).map (fun (_, e) => match e with
        | .file n => (m.world.files.inode n).size
        | _ => 0)))
    let text := (Switches.value? switches 's').getD "+0"
    let (sign, digits) := match text.toList.dropWhile (fun c => c == ' ') with
      | c :: rest =>
        if ['+', '-', '<', '>', '/', '%'].contains c then (some c, String.ofList rest)
        else (none, text)
      | [] => (none, text)
    if (Switches.value? switches 's').isNone ∧ reference.isNone then
      misuse "truncate" "you must specify either '--size' or '--reference'" 1 m
    else match size? digits, reference with
      | none, _ => fail "truncate" ("Invalid number: " ++ shown text) 1 m
      | _, some (file, .error cause) =>
        fail "truncate" ("cannot stat " ++ shown file ++ ": " ++ wording cause) 1 m
      | some n, _ =>
        if n = 0 ∧ (sign = some '/' ∨ sign = some '%') then fail "truncate" "division by zero" 1 m
        else if operands.isEmpty then misuse "truncate" "missing file operand" 1 m
        else
          let unit := if Switches.given switches 'o' then 4096 else 1
          let one := fun (m : Machine) (operand : String) =>
            let old := (m.look true operand).toOption
            if old.isNone ∧ Switches.given switches 'c' then m
            else match m.openFile operand .both with
              | .error cause =>
                fail "truncate" ("cannot open " ++ shown operand ++ " for writing: " ++
                  wording cause) 1 m
              | .ok (c, m) =>
                match m.world.channel c with
                | .file k _ _ _ =>
                  let i := m.world.files.inode k
                  let before := match reference with
                    | some (_, .ok size) => size
                    | _ => i.size
                  let target := newSize sign before (n * unit)
                  if largestFile < target then { m with flow := .ended .timedOut }
                  else
                    let s := i.contents.take target ++ List.replicate (target - i.size) 0
                    let time := m.world.now
                    changed m (fun fs =>
                      fs.modifyInode k (fun i => { i.replace s with modified := time }))
                | _ => m
          operands.foldl one (m.leave 0))

/-! ## Comparing -/

/-- An octet in octal, filled up in front to three places. -/
def octalOctet (b : UInt8) : String :=
  let digits := Nat.toDigits 8 b.toNat
  String.ofList (List.replicate (3 - digits.length) ' ' ++ digits)

/-- An octet as a comparison shows it. -/
def comparedOctet (b : UInt8) : String := Text.Octets.toText (visible false b)

/-- The places where octets differ, counted from one. -/
def differences : Nat → Bytes → Bytes → List (Nat × UInt8 × UInt8)
  | n, a :: as, b :: bs =>
    if a = b then differences (n + 1) as bs else (n, a, b) :: differences (n + 1) as bs
  | _, _, _ => []

/-- The numbers of octets to pass over in the two files. -/
def skips? (text : String) : Option (Nat × Nat) :=
  match (Text.pieces (fun c => decide (c = ':')) text.toList).map String.ofList with
  | [a] => (size? a).map (fun n => (n, n))
  | [a, b] => do return (← size? a, ← size? b)
  | _ => none

/-- Fails because the comparison was asked for in a wrong way. -/
def compareMisuse (text : String) (m : Machine) : Machine :=
  ((note "cmp" text m).warn "cmp: Try 'cmp --help' for more information.\n").leave 2

/-- Says how two files compare. -/
def comparison (switches : List Switch) (a b : String) (s t : Bytes) (m : Machine) : Machine :=
  let has := Switches.given switches
  if s = t then m.leave 0
  else if has 's' then m.leave 1
  else
    let shared := min s.length t.length
    let different := differences 1 s t
    let ending := fun (m : Machine) =>
      let short := if s.length < t.length then a else b
      if s.length = t.length then m.leave 1
      else if shared = 0 then fail "cmp" ("EOF on " ++ short ++ " which is empty") 1 m
      else if has 'l' then fail "cmp" ("EOF on " ++ short ++ " after byte " ++ Nat.repr shared) 1 m
      else
        let front := s.take shared
        let line := (front.filter (fun c => c == 10)).length + 1
        fail "cmp" ("EOF on " ++ short ++ " after byte " ++ Nat.repr shared ++
          (if front.getLast? = some 10 then ", line " ++ Nat.repr (line - 1)
            else ", in line " ++ Nat.repr line)) 1 m
    if has 'l' then
      let width := (Nat.repr shared).length
      let line := fun (d : Nat × UInt8 × UInt8) =>
        let place := padLeft width ' ' (Nat.repr d.1)
        let (x, y) := (comparedOctet d.2.1, comparedOctet d.2.2)
        if has 'b' then place ++ " " ++ octalOctet d.2.1 ++ " " ++ padRight 4 x ++ " " ++
            octalOctet d.2.2 ++ " " ++ y ++ "\n"
          else place ++ " " ++ octalOctet d.2.1 ++ " " ++ octalOctet d.2.2 ++ "\n"
      (ending m).say (String.join (different.map line))
    else match different with
      | [] => ending m
      | (n, x, y) :: _ =>
        let line := ((s.take (n - 1)).filter (fun c => c == 10)).length + 1
        let tail := if has 'b' then " is " ++ octalOctet x ++ " " ++ comparedOctet x ++ " " ++
            octalOctet y ++ " " ++ comparedOctet y
          else ""
        (m.say (a ++ " " ++ b ++ " differ: " ++ (if has 'b' then "byte " else "char ") ++
          Nat.repr n ++
          ", line " ++ Nat.repr line ++ tail ++ "\n")).leave 1

/-- Compares two files. -/
def cmp : Utility := fun args m =>
  match Switches.permuted "bi:ln:s" [("silent", 's'), ("quiet", 's'), ("verbose", 'l'),
      ("print-bytes", 'b'), ("ignore-initial", 'i'), ("bytes", 'n')] args with
  | .error text => compareMisuse text m
  | .ok (switches, operands) =>
    match operands with
    | [] => compareMisuse "missing operand after 'cmp'" m
    | a :: rest =>
      let b := rest.headD "-"
      let skip : Except String (Nat × Nat) := match Switches.value? switches 'i', rest.drop 1 with
        | some text, _ =>
          match skips? text with
          | some p => .ok p
          | none => .error text
        | none, first :: more =>
          match size? first, size? (more.headD "0") with
          | some x, some y => .ok (x, if more.isEmpty then x else y)
          | none, _ => .error first
          | _, none => .error (more.headD "")
        | none, [] => .ok (0, 0)
      let limit := (Switches.value? switches 'n').map (fun text => (text, size? text))
      match skip, limit with
      | .error text, _ => compareMisuse ("invalid --ignore-initial value " ++ shown text) m
      | _, some (text, none) => compareMisuse ("invalid --bytes value " ++ shown text) m
      | .ok (x, y), _ =>
        let missing := fun (name : String) (cause : IoCause) (m : Machine) =>
          if Switches.given switches 's' ∧ cause = .notFound then m.leave 2
          else fail "cmp" (name ++ ": " ++ wording cause) 2 m
        match source a m with
        | .error cause => missing a cause m
        | .ok (s, m) =>
          match source b m with
          | .error cause => missing b cause m
          | .ok (t, m) =>
            let cut := fun (skipped : Nat) (all : Bytes) =>
              match limit with
              | some (_, some n) => (all.drop skipped).take n
              | _ => all.drop skipped
            let left := cut x s
            let right := cut y t
            let differ := left != right
            comparison switches a b left right { m with unending := m.unending && !differ }

/-! ## Copying by blocks -/

/-- What blocks are copied by. -/
structure BlockCopy where
  /-- Where to read; the input if not given. -/
  input : Option String
  /-- Where to write; the output if not given. -/
  output : Option String
  /-- The size of blocks that are read. -/
  readSize : Nat
  /-- The size of blocks that are written. -/
  writeSize : Nat
  /-- The size of both, which keeps the blocks as they are. -/
  size : Option Nat
  /-- The size of records. -/
  recordSize : Nat
  /-- How many blocks are copied at most. -/
  count : Option Nat
  /-- How many blocks are passed over in the input. -/
  skip : Nat
  /-- How many blocks are passed over in the output. -/
  seek : Nat
  /-- What is done to the octets. -/
  conversions : List String
  /-- Ways in which numbers are meant and files are opened. -/
  flags : List String
  /-- How much is said about it. -/
  status : String

/-- The conversions of a copy by blocks. -/
def conversionNames : List String :=
  ["ucase", "lcase", "swab", "sync", "notrunc", "excl", "nocreat", "noerror", "fdatasync", "fsync",
    "sparse",
    "block", "unblock"]

/-- The flags of a copy by blocks. -/
def flagNames : List String :=
  ["append", "direct", "directory", "dsync", "sync", "fullblock", "nonblock", "noatime", "nocache",
    "noctty", "nofollow", "count_bytes", "skip_bytes", "seek_bytes"]

/-- Reads a number of a copy by blocks, which may be a product. -/
def blockNumber? (text : String) : Option Nat :=
  ((Text.pieces (fun c => decide (c = 'x')) text.toList).mapM
    (fun cs => size? (String.ofList cs))).map
    (fun ns => ns.foldl (· * ·) 1)

/-- Reads the operands of a copy by blocks. What is wrong, and whether the use is explained. -/
def blockCopy : List String → BlockCopy → Except (String × Bool) BlockCopy
  | [], c => .ok c
  | operand :: rest, c =>
    let (name, value) := Switches.longParts operand.toList
    let words := (Text.pieces (fun d => decide (d = ',')) (value.getD "").toList).map String.ofList
    match name, value with
    | "if", some v => blockCopy rest { c with input := some v }
    | "of", some v => blockCopy rest { c with output := some v }
    | "status", some v =>
      if ["none", "noxfer", "progress"].contains v then blockCopy rest { c with status := v }
      else .error ("invalid status level: " ++ shown v, true)
    | "conv", some _ =>
      match words.find? (fun w => !conversionNames.contains w) with
      | some w => .error ("invalid conversion: " ++ shown w, true)
      | none => blockCopy rest { c with conversions := c.conversions ++ words }
    | "iflag", some _ | "oflag", some _ =>
      match words.find? (fun w => !flagNames.contains w) with
      | some w =>
        .error ((if name = "iflag" then "invalid input flag: " else "invalid output flag: ") ++
          shown w, true)
      | none => blockCopy rest { c with flags := c.flags ++ words }
    | _, some v =>
      if !(["bs", "ibs", "obs", "cbs", "count", "skip", "iseek", "seek", "oseek"].contains
        name) then
        .error ("unrecognized operand " ++ shown operand, true)
      else
        let octets := v.toList.getLast? == some 'B' && v.toList.dropLast.all Char.isDigit
        match blockNumber? (if octets then String.ofList v.toList.dropLast else v) with
        | none => .error ("invalid number: " ++ shown v, false)
        | some n =>
          let flagged := fun (flag : String) => if octets then flag :: c.flags else c.flags
          match name with
          | "count" => blockCopy rest { c with count := some n, flags := flagged "count_bytes" }
          | "skip" | "iseek" => blockCopy rest { c with skip := n, flags := flagged "skip_bytes" }
          | "seek" | "oseek" => blockCopy rest { c with seek := n, flags := flagged "seek_bytes" }
          | _ =>
            if n = 0 then .error ("invalid number: " ++ shown v, false)
            else match name with
              | "bs" => blockCopy rest { c with size := some n }
              | "ibs" => blockCopy rest { c with readSize := n }
              | "obs" => blockCopy rest { c with writeSize := n }
              | _ => blockCopy rest { c with recordSize := n }
    | _, none => .error ("unrecognized operand " ++ shown operand, true)

/-- Swaps octets in pairs. -/
def swapped : Bytes → Bytes
  | a :: b :: rest => b :: a :: swapped rest
  | other => other

/-- Records of a fixed size, one to a line. The number of octets is enough fuel. -/
def unblocked (size : Nat) : Nat → Bytes → Bytes
  | 0, _ => []
  | fuel + 1, s =>
    if s.isEmpty then []
    else
      let record := (s.take size).reverse.dropWhile (fun b => b == 32)
      record.reverse ++ [10] ++ unblocked size fuel (s.drop size)

/-- What a copy by blocks makes of octets. -/
def converted (c : BlockCopy) (readSize : Nat) (s : Bytes) : Bytes :=
  let has := c.conversions.contains
  let filled := if has "sync" ∧ s.length % readSize ≠ 0 then
      s ++ List.replicate (readSize - s.length % readSize)
        (if has "block" || has "unblock" then 32 else 0)
    else s
  let turned := if has "swab" then swapped filled else filled
  let letters := if has "ucase" then turned.map (fun b => if 97 ≤ b ∧ b ≤ 122 then b - 32 else b)
    else if has "lcase" then turned.map (fun b => if 65 ≤ b ∧ b ≤ 90 then b + 32 else b) else turned
  if c.recordSize = 0 then letters
  else if has "block" then
    (lines letters).1.flatMap (fun l =>
      l.take c.recordSize ++ List.replicate (c.recordSize - l.length) 32)
  else if has "unblock" then unblocked c.recordSize (letters.length + 1) letters
  else letters

/-- What a copy by blocks reads, and whether it passed over more than there was. What is not taken
from the input is left for others. -/
def blockInput (c : BlockCopy) (skipped : Nat) (wanted : Option Nat) (m : Machine) :
    Except IoCause (Bytes × Bool × Machine) :=
  let part := fun (s : Bytes) => match wanted with
    | some n => (s.drop skipped).take n
    | none => s.drop skipped
  let fromZeros := fun (_ : Unit) =>
    match wanted with
    | some n => if n ≤ largestFile then (List.replicate n 0, false, m) else ([], false, (zeros m).2)
    | none => ((zeros m).1, false, (zeros m).2)
  match c.input with
  | some p =>
    match m.look true p with
    | .ok (_, .device .zero) | .ok (_, .device .random) =>
      .ok (fromZeros ())
    | _ => (source p m).map (fun (s, m) =>
        (part s, decide (s.length < skipped), m))
  | none =>
    match m.channelOf? 0 with
    | none => .error (.reported "Bad file descriptor")
    | some n =>
      if m.world.channel n == .zeros then .ok (fromZeros ())
      else
        let s := m.available 0
        let t := part s
        .ok (t, decide (s.length < skipped), m.consume 0 (min (skipped + t.length) s.length))

/-- Writes what a copy by blocks has read. -/
def blockOutput (c : BlockCopy) (start : Nat) (s : Bytes) (m : Machine) : Machine :=
  match c.output with
  | none =>
    let moved := match m.channelOf? 1 with
      | some n =>
        match m.world.channel n with
        | .file k offset append ahead =>
          { m with world := m.world.setChannel n (.file k (offset + start) append ahead) }
        | _ => m
      | none => m
    (moved.emit s).leave 0
  | some p =>
    let failed := fun (text : String) =>
      fail "dd" ("failed to open " ++ shown p ++ ": " ++ text) 1 m
    let there := (m.look true p).toOption
    if c.conversions.contains "excl" ∧ there.isSome then failed "File exists"
    else if c.conversions.contains "nocreat" ∧ there.isNone then failed "No such file or directory"
    else if p = "/dev/stdout" ∨ p = "/dev/fd/1" then (m.emit s).leave 0
    else if p = "/dev/stderr" then (m.writeTo 2 s).leave 0
    else match m.openFile p (if c.flags.contains "append" then .append else .both) with
      | .error cause => failed (wording cause)
      | .ok (n, m) =>
        match m.world.channel n with
        | .file k offset append _ =>
          let cut := if c.conversions.contains "notrunc" then m
            else changed m (fun fs => fs.modifyInode k (fun i => i.replace (i.contents.take start)))
          let ready :=
            { cut with world := cut.world.setChannel n (.file k (max offset start) append none) }
          let short := ready.world.files.inode k
          let filled := if short.size < start then
              changed ready (fun fs => fs.modifyInode k (fun i =>
                i.write i.size (List.replicate (start - i.size) 0)))
            else ready
          { filled with world := filled.world.write n s }.leave 0
        | .full => fail "dd" ("error writing " ++ shown p ++ ": No space left on device") 1 m
        | _ => m.leave 0

/-- How many blocks octets make, whole ones and a part. -/
def blockCount (size n : Nat) : String :=
  Nat.repr (n / size) ++ "+" ++ (if n % size = 0 then "0" else "1")

/-- Copies by blocks. -/
def dd : Utility := fun args m =>
  match blockCopy (args.filter (fun a => a ≠ "--"))
      ⟨none, none, 512, 512, none, 0, none, 0, 0, [], [], ""⟩ with
  | .error (text, explained) => if explained then misuse "dd" text 1 m else fail "dd" text 1 m
  | .ok c =>
    let readSize := c.size.getD c.readSize
    let writeSize := c.size.getD c.writeSize
    let plain :=
      c.conversions.all (fun w => !(["ucase", "lcase", "swab", "block", "unblock"].contains w))
    let skipped := if c.flags.contains "skip_bytes" then c.skip else c.skip * readSize
    let wanted := c.count.map (fun n => if c.flags.contains "count_bytes" then n else n * readSize)
    let start := if c.flags.contains "seek_bytes" then c.seek else c.seek * writeSize
    if c.conversions.contains "ucase" && c.conversions.contains "lcase" then
      fail "dd" "cannot combine lcase and ucase" 1 m
    else match blockInput c skipped wanted m with
      | .error .isADirectory =>
        fail "dd" ("error reading " ++ shown (c.input.getD "standard input") ++
          ": Is a directory") 1 m
      | .error cause =>
        fail "dd" ("failed to open " ++ shown (c.input.getD "") ++ ": " ++ wording cause) 1 m
      | .ok (s, short, m) =>
        let m := if short ∧ c.status ≠ "none" then note "dd" (c.input.getD "'standard input'" ++
            ": cannot skip to specified offset") m
          else m
        let t := converted c readSize s
        let m := blockOutput c start t m
        if c.status = "none" ∨ m.status ≠ 0 ∨ !m.isGoing then m
        else
          let written := if plain && c.size.isSome then blockCount readSize t.length
            else blockCount writeSize t.length
          let first := blockCount readSize s.length ++ " records in\n" ++ written ++
            " records out\n"
          if c.status = "noxfer" then m.warn first
          else m.warn (first ++ Nat.repr t.length ++ (if t.length = 1 then " byte" else " bytes") ++
            " copied, 0 s, 0 kB/s\n")

/-! ## Cutting into parts -/

/-- The digits of a number in letters of an alphabet, filled up to a width. -/
def spelled (alphabet : List Char) (width n : Nat) : List Char :=
  (List.range width).reverse.map (fun k =>
    alphabet.getD (n / Nat.pow alphabet.length k % alphabet.length) 'a')

/-- The ending of the part with a number. A width that is not given grows: the last letter of the
alphabet in front says that more follow. The fuel bounds how often. -/
def partEnding (alphabet : List Char) : Nat → Nat → Nat → List Char
  | 0, width, n => spelled alphabet width n
  | fuel + 1, width, n =>
    let most := (alphabet.length - 1) * Nat.pow alphabet.length (width - 1)
    if n < most then spelled alphabet width n
    else (alphabet.getLastD 'z') :: partEnding alphabet fuel (width + 1) (n - most)

/-- Cuts a list into runs of a length. The length of the list is enough fuel. -/
def runsOf {α : Type} (n : Nat) : Nat → List α → List (List α)
  | 0, _ => []
  | fuel + 1, xs => if xs.isEmpty then [] else xs.take n :: runsOf n fuel (xs.drop n)

/-- Puts lines together as long as they fit in a number of octets. -/
def packed (limit : Nat) : List Bytes → Bytes → List Bytes
  | [], current => if current.isEmpty then [] else [current]
  | l :: rest, current =>
    if current.length + l.length ≤ limit then packed limit rest (current ++ l)
    else
      let whole := runsOf limit (l.length + 1) l
      let closed := if current.isEmpty then [] else [current]
      closed ++ whole.dropLast ++ packed limit rest (whole.getLastD [])

/-- Where each of a number of equal parts ends. -/
def partEnds (size n : Nat) : List Nat :=
  ((List.range n).map (fun k => size / n + (if k < size % n then 1 else 0))).foldl
    (fun acc w => acc ++ [acc.getLastD 0 + w]) []

/-- Lines with their line feeds. -/
def fullLines (s : Bytes) : List Bytes :=
  let (ls, complete) := lines s
  ls.zipIdx.map (fun (l, i) => if i + 1 = ls.length && !complete then l else l ++ [10])

/-- The lines that start in each of a number of equal parts. -/
def linesByPart (ends : List Nat) (ls : List Bytes) : List Bytes :=
  let (placed, _) := ls.foldl (fun (acc : List (Nat × Bytes) × Nat) l =>
    ((acc.2, l) :: acc.1, acc.2 + l.length)) ([], 0)
  let placed := placed.reverse
  (ends.zip (0 :: ends)).map (fun (stop, start) =>
    ((placed.filter (fun p => start ≤ p.1 ∧ p.1 < stop)).map Prod.snd).flatten)

/-- The parts that a number of parts asks for, and the one that is only to be written. -/
def parts? (text : String) (s : Bytes) : Option (List Bytes × Option Nat) := do
  let pieces := (Text.pieces (fun c => decide (c = '/')) text.toList).map String.ofList
  let (kind, numbers) := match pieces with
    | "l" :: rest => ("l", rest)
    | "r" :: rest => ("r", rest)
    | rest => ("", rest)
  let counts ← numbers.mapM size?
  let (which, n) ← match counts with
    | [n] => some (none, n)
    | [k, n] => some (some k, n)
    | _ => none
  if n = 0 ∨ which.any (fun k => k = 0 ∨ n < k) then none
  else
    let ends := partEnds s.length n
    let made := match kind with
      | "l" => linesByPart ends (fullLines s)
      | "r" =>
        let ls := (fullLines s).zipIdx
        (List.range n).map (fun k => ((ls.filter (fun l => l.2 % n == k)).map Prod.fst).flatten)
      | _ => (ends.zip (0 :: ends)).map (fun (stop, start) => (s.drop start).take (stop - start))
    return (made, which)

/-- Cuts a file into parts. -/
def split : Utility :=
  withSwitches "split" "a:b:C:del:n:t:uxvA:" [("suffix-length", 'a'), ("bytes", 'b'),
    ("line-bytes", 'C'),
    ("numeric-suffixes", 'd'), ("lines", 'l'), ("number", 'n'), ("verbose", 'v'),
    ("additional-suffix", 'A'), ("elide-empty-files", 'e'), ("hex-suffixes", 'x'),
      ("unbuffered", 'u')] 1
  (fun switches operands m =>
    let has := Switches.given switches
    let input := operands.headD "-"
    let name := (operands.drop 1).headD "x"
    let number := fun (c : Char) => (Switches.value? switches c).map (fun t => (t, size? t))
    let wrong := fun (c : Char) (what : String) =>
      match number c with
      | some (t, none) | some (t, some 0) => some ("invalid number of " ++ what ++ ": " ++ shown t)
      | _ => none
    match [wrong 'l' "lines", wrong 'b' "bytes", wrong 'C' "bytes"].filterMap id with
    | text :: _ => fail "split" text 1 m
    | [] =>
      match source input m with
      | .error cause =>
        fail "split" ("cannot open " ++ shown input ++ " for reading: " ++ wording cause) 1 m
      | .ok (s, m) =>
        let made : Option (List Bytes × Option Nat) :=
          match number 'b', number 'C', Switches.value? switches 'n' with
          | some (_, some n), _, _ => some (runsOf n (s.length + 1) s, none)
          | _, some (_, some n), _ => some (packed n (fullLines s) [], none)
          | _, _, some text => parts? text s
          | _, _, _ =>
            let n := ((number 'l').bind Prod.snd).getD 1000
            some ((runsOf n (s.length + 1) (fullLines s)).map List.flatten, none)
        match made with
        | none =>
          fail "split" ("invalid number of chunks: " ++
            shown ((Switches.value? switches 'n').getD "")) 1 m
        | some (parts, some k) => (m.emit (parts.getD (k - 1) [])).leave 0
        | some (parts, none) =>
          let kept := if has 'e' then parts.filter (fun p => !p.isEmpty) else parts
          let alphabet := if has 'x' then "0123456789abcdef".toList
            else if has 'd' then "0123456789".toList else "abcdefghijklmnopqrstuvwxyz".toList
          let width := (Switches.value? switches 'a').bind Numeral.count?
          let ending := fun (i : Nat) => match width with
            | some w => if w = 0 then partEnding alphabet 8 2 i else spelled alphabet w i
            | none => partEnding alphabet 8 2 i
          let one := fun (m : Machine) (part : Bytes × Nat) =>
            let file := name ++ String.ofList (ending part.2) ++
              (Switches.value? switches 'A').getD ""
            if m.status ≠ 0 then m
            else if width.any (fun w => w ≠ 0 ∧ Nat.pow alphabet.length w ≤ part.2) then
              fail "split" "output file suffixes exhausted" 1 m
            else
              let m := if has 'v' then m.say ("creating file " ++ shown file ++ "\n") else m
              match m.openFile file .write with
              | .ok (n, m) => { m with world := m.world.write n part.1 }
              | .error cause => fail "split" (file ++ ": " ++ wording cause) 1 m
          kept.zipIdx.foldl one (m.leave 0))

end BlockCoverage.Script.Utility
