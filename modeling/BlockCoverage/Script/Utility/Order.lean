import BlockCoverage.Script.Format
import BlockCoverage.Script.Utility.Basic
import BlockCoverage.Script.Utility.Versions

/-!
# Sorting

Lines are compared by keys, each a part of the line with a way to compare it, and by the whole line
if the keys leave it open. What a key has to say about a line is computed once for every line.
-/

namespace BlockCoverage.Script.Utility

open Text (Bytes)
open Machine (wording)

/-- Whether a character parts fields. -/
def isFieldBlank (c : Char) : Bool := c == ' ' || c == '\t' || c == '\n'

/-! ## Keys -/

/-- Which part of a line is compared, and how. -/
structure SortKey where
  /-- How many fields are in front of it. -/
  startField : Nat
  /-- How many characters of the first field are in front of it. -/
  startChar : Nat
  /-- The field that it ends in, unless it goes on to the end of the line. -/
  endField : Option Nat
  /-- How many characters of that field belong to it, all if zero. -/
  endChar : Nat
  /-- Whether blanks in front of it are left out. -/
  startBlanks : Bool
  /-- Whether blanks in front of its last field are left out. -/
  endBlanks : Bool
  /-- How it is compared. -/
  flags : List Char

/-- The key that is the whole line. -/
def SortKey.whole (flags : List Char) : SortKey :=
  ⟨0, 0, none, 0, flags.contains 'b', flags.contains 'b', flags.filter (fun c => c != 'b')⟩

/-- The letters that say how a key is compared. -/
def orderLetters : List Char := "bdfghiMnrRV".toList

/-- Reads the count at the front of a text. -/
def fieldCount (what : String) (cs : List Char) : Except String (Nat × List Char) :=
  let digits := cs.takeWhile Char.isDigit
  if digits.isEmpty then
    .error (what ++ ": invalid count at start of " ++ shown (String.ofList cs))
  else .ok ((Numeral.digits 10 0 digits).1, cs.drop digits.length)

/-- Reads a place in a line: a field, a character in it, and the letters after them. -/
def fieldPlace (what : String) (cs : List Char) :
    Except String (Nat × Option Nat × List Char × List Char) := do
  let (field, rest) ← fieldCount what cs
  let (char, rest) ← match rest with
    | '.' :: more => do
      let (n, left) ← fieldCount "invalid number after '.'" more
      pure (some n, left)
    | _ => pure (none, rest)
  let letters := rest.takeWhile orderLetters.contains
  return (field, char, letters, rest.drop letters.length)

/-- Reads a key. -/
def sortKey (text : String) : Except String SortKey := do
  let wrong := fun (what : String) => what ++ ": invalid field specification " ++ shown text
  let (field, char, letters, rest) ← fieldPlace "invalid number at field start" text.toList
  if field = 0 then throw (wrong "field number is zero")
  if char = some 0 then throw (wrong "character offset is zero")
  let plain := fun (ls : List Char) => ls.filter (fun c => c != 'b')
  let key : SortKey :=
    ⟨field - 1, char.getD 1 - 1, none, 0, letters.contains 'b', false, plain letters⟩
  match rest with
  | [] => return key
  | ',' :: more =>
    let (last, size, others, left) ← fieldPlace "invalid number after ','" more
    if last = 0 then throw (wrong "field number is zero")
    if !left.isEmpty then throw (wrong "stray character in field spec")
    return { key with
      endField := some (last - 1), endChar := size.getD 0, endBlanks := others.contains 'b'
      flags := plain letters ++ plain others }
  | _ => throw (wrong "stray character in field spec")

/-- Whether nothing is said about how a key is compared. -/
def SortKey.isPlain (k : SortKey) : Bool := k.flags.isEmpty && !k.startBlanks && !k.endBlanks

/-- The ways to compare that exclude one another, as letters, if a key has several. -/
def SortKey.clash? (k : SortKey) : Option String :=
  let has := k.flags.contains
  let count := ['n', 'g', 'h', 'M'].countP has +
    (if has 'V' || has 'R' || has 'd' || has 'i' then 1 else 0)
  if count ≤ 1 then none
  else some (String.ofList ("dfghiMnRV".toList.filter (fun c => has c && !(c == 'i' && has 'd'))))

/-- What is left of a line after some fields. -/
def afterFields (separator : Option Char) : Nat → List Char → List Char
  | 0, cs => cs
  | n + 1, cs =>
    let next := match separator with
      | some t => (cs.dropWhile (fun c => c != t)).drop 1
      | none => (cs.dropWhile isFieldBlank).dropWhile (fun c => !isFieldBlank c)
    if cs.isEmpty then [] else afterFields separator n next

/-- The length of the first field of a line, with the blanks in front of it. -/
def firstField (separator : Option Char) (cs : List Char) : Nat :=
  match separator with
  | some t => (cs.takeWhile (fun c => c != t)).length
  | none =>
    let blanks := (cs.takeWhile isFieldBlank).length
    blanks + ((cs.drop blanks).takeWhile (fun c => !isFieldBlank c)).length

/-- The part of a line that a key names. -/
def SortKey.part (k : SortKey) (separator : Option Char) (line : List Char) : List Char :=
  let trimmed := fun (skip : Bool) (cs : List Char) => if skip then cs.dropWhile isFieldBlank
    else cs
  let start := (trimmed k.startBlanks (afterFields separator k.startField line)).drop k.startChar
  match k.endField with
  | none => start
  | some n =>
    let last := afterFields separator n line
    let rest := if k.endChar = 0 then last.drop (firstField separator last)
      else (trimmed k.endBlanks last).drop k.endChar
    start.take (start.length - rest.length)

/-! ## Values -/

/-- What is compared. -/
inductive SortValue where
  /-- Characters. -/
  | text (cs : List Char)
  /-- A number with so many places after the point, after a rank that is compared first. -/
  | number (rank : Int) (digits : Int) (places : Nat)
  /-- A version. -/
  | version (cs : List Char)

/-- Compares two values of the same kind. -/
def SortValue.order : SortValue → SortValue → Ordering
  | .text a, .text b => compare a b
  | .number r m p, .number s n q =>
    (compare r s).then (compare (m * (Nat.pow 10 q : Nat)) (n * (Nat.pow 10 p : Nat)))
  | .version a, .version b => Versions.order a b
  | _, _ => .eq

/-- The number at the front of a text: its digits, its places after the point, and what follows
it. -/
def leadingNumber (text : List Char) : Int × Nat × List Char :=
  let here := text.dropWhile isFieldBlank
  let (negative, after) := match here with
    | '-' :: rest => (true, rest)
    | _ => (false, here)
  let whole := after.takeWhile Char.isDigit
  let rest := after.drop whole.length
  let places := match rest with
    | '.' :: more => more.takeWhile Char.isDigit
    | _ => []
  let left := match rest with
    | '.' :: more => more.drop places.length
    | _ => rest
  let v : Int := (Numeral.digits 10 0 (whole ++ places)).1
  (if negative then -v else v, places.length, left)

/-- The order of a unit after a number. -/
def unitOrder : List Char → Int
  | [] => 0
  | c :: _ =>
    match "KMGTPEZYRQ".toList.findIdx? (fun d => d == (if c = 'k' then 'K' else c)) with
    | some i => i + 1
    | none => 0

/-- The months. -/
def months : List String :=
  ["JAN", "FEB", "MAR", "APR", "MAY", "JUN", "JUL", "AUG", "SEP", "OCT", "NOV", "DEC"]

/-- A double as a number that compares like it; what is no number comes first. -/
def generalValue (text : List Char) : SortValue :=
  let (bits, rest) := Format.Written.decimal text
  if rest.length = text.length then .number 0 0 0
  else match Number.Double.ofBits bits with
    | .nan => .number 1 0 0
    | _ =>
      let magnitude : Int := bits.toNat % 9223372036854775808
      .number 2 (if 9223372036854775808 ≤ bits.toNat then -magnitude else magnitude) 0

/-- What a key has to say about a text. -/
def sortValue (flags : List Char) (cs : List Char) : SortValue :=
  let has := flags.contains
  if has 'n' then
    let (v, places, _) := leadingNumber cs
    .number 0 v places
  else if has 'g' then generalValue cs
  else if has 'h' then
    let (v, places, rest) := leadingNumber cs
    let o := if v = 0 then 0 else unitOrder rest
    .number (if v < 0 then -o else o) v places
  else if has 'M' then
    let name := String.ofList (((cs.dropWhile isFieldBlank).take 3).map Char.toUpper)
    .number ((months.findIdx? (fun m => m == name)).map (fun i => (i : Int) + 1) |>.getD 0) 0 0
  else if has 'V' then .version cs
  else
    let kept := if has 'd' then cs.filter (fun c => isFieldBlank c || c.isAlphanum)
      else if has 'i' then cs.filter (fun c => ' ' ≤ c && c ≤ '~') else cs
    .text (if has 'f' then kept.map Char.toUpper else kept)

/-! ## Lines -/

/-- How lines are sorted. -/
structure Sorting where
  /-- The keys, the most important first. -/
  keys : List SortKey
  /-- What parts fields; blanks if nothing is given. -/
  separator : Option Char
  /-- Whether the last resort, the whole line, is turned round. -/
  reversed : Bool
  /-- Whether only the keys count. -/
  keysOnly : Bool

/-- A line with what the keys have to say about it. -/
structure SortLine where
  /-- The line. -/
  text : List Char
  /-- A value for each key. -/
  values : List SortValue

/-- Makes a line ready. -/
def Sorting.line (s : Sorting) (text : List Char) : SortLine :=
  ⟨text, s.keys.map (fun k => sortValue k.flags (k.part s.separator text))⟩

/-- An order, turned round if asked. -/
def turned (reversed : Bool) (o : Ordering) : Ordering := if reversed then o.swap else o

/-- Compares lines by the keys. -/
def Sorting.byKeys (s : Sorting) (a b : SortLine) : Ordering :=
  (s.keys.zip (a.values.zip b.values)).foldl (fun (acc : Ordering) e =>
    acc.then (turned (e.1.flags.contains 'r') (e.2.1.order e.2.2))) .eq

/-- Compares lines. -/
def Sorting.compare (s : Sorting) (a b : SortLine) : Ordering :=
  match s.byKeys a b with
  | .eq =>
    if s.keysOnly && !s.keys.isEmpty then .eq
    else turned s.reversed (Ord.compare a.text b.text)
  | other => other

/-- Keeps the first of equal lines in a row. -/
def Sorting.distinct (s : Sorting) (ls : List SortLine) : List SortLine :=
  ls.foldr (fun a kept => match kept with
    | b :: more => if s.compare a b == .eq then a :: more else a :: kept
    | [] => [a]) []

/-- Merges lists, each in the order that it has. -/
def Sorting.merged (s : Sorting) (lists : List (List SortLine)) : List SortLine :=
  lists.foldr (fun a b => a.merge b (fun x y => s.compare x y != .gt)) []

/-- The first line that does not come after the one before it, with its number. -/
def Sorting.disorder? (s : Sorting) (strict : Bool) : Nat → List SortLine → Option (Nat × SortLine)
  | n, a :: b :: rest =>
    let o := s.compare a b
    if o == .gt || (strict && o == .eq) then some (n + 1, b)
    else Sorting.disorder? s strict (n + 1) (b :: rest)
  | _, _ => none

/-! ## The program -/

/-- Octets cut at an octet, a last part without it counted. -/
def partsAt (stop : UInt8) (s : Bytes) : List Bytes :=
  let step := fun (acc : List Bytes × Bytes) (b : UInt8) =>
    if b = stop then (acc.2.reverse :: acc.1, []) else (acc.1, b :: acc.2)
  let (done, last) := s.foldl step ([], [])
  if last.isEmpty then done.reverse else (last.reverse :: done).reverse

/-- Reads the operands of a program one after the other, up to the first that cannot be read. -/
def readEach : List String → Machine → Except (String × IoCause) (List Bytes × Machine)
  | [], m => .ok ([], m)
  | operand :: rest, m =>
    match source operand m with
    | .error cause => .error (operand, cause)
    | .ok (s, m) => do
      let (others, m) ← readEach rest m
      return (s :: others, m)

/-- The long names of the switches. -/
def sortNames : List (String × Char) :=
  [("ignore-leading-blanks", 'b'), ("check", 'K'), ("dictionary-order", 'd'), ("ignore-case", 'f'),
    ("general-numeric-sort", 'g'), ("human-numeric-sort", 'h'), ("ignore-nonprinting", 'i'),
    ("month-sort", 'M'), ("merge", 'm'), ("numeric-sort", 'n'), ("reverse", 'r'),
      ("random-sort", 'R'),
    ("stable", 's'), ("unique", 'u'), ("zero-terminated", 'z'), ("version-sort", 'V'), ("key", 'k'),
    ("field-separator", 't'), ("output", 'o'), ("buffer-size", 'S'), ("temporary-directory", 'T'),
    ("sort", 'w'), ("parallel", 'p'), ("batch-size", 'B')]

/-- The letters that the names of orders stand for. -/
def orderNames : List (String × Char) :=
  [("general-numeric", 'g'), ("human-numeric", 'h'), ("month", 'M'), ("numeric", 'n'),
    ("random", 'R'),
    ("version", 'V')]

/-- What switches say about sorting. -/
def sorting (switches : List Switch) : Except String Sorting := do
  let global := switches.filterMap (fun s =>
    if s.letter = 'w' then orderNames.lookup s.value
    else if orderLetters.contains s.letter then some s.letter else none)
  let keys ← (switches.filter (fun s => s.letter == 'k')).mapM (fun s => sortKey s.value)
  let whole := SortKey.whole global
  let separator ← match Switches.value? switches 't' with
    | none => pure none
    | some "" => throw "empty tab"
    | some "\\0" => pure (some (Char.ofNat 0))
    | some text => match text.toList with
      | [c] => pure (some c)
      | _ => throw ("multi-character tab " ++ shown text)
  let full := keys.map (fun k => if k.isPlain then
    { k with flags := whole.flags, startBlanks := whole.startBlanks, endBlanks := whole.endBlanks }
      else k)
  let used := if full.isEmpty && global.any (fun c => c != 'r') then [whole] else full
  match used.findSome? SortKey.clash? with
  | some letters => throw ("options '-" ++ letters ++ "' are incompatible")
  | none => return ⟨used, separator, global.contains 'r',
      Switches.given switches 's' || Switches.given switches 'u'⟩

/-- Sorts lines, merges sorted files, or looks whether lines are sorted. -/
def sort : Utility := fun args m =>
  match Switches.permuted "bcCdfghiMmnrRsuzVk:t:o:S:T:w:p:B:K::" sortNames args with
  | .error text => misuse "sort" text 2 m
  | .ok (switches, operands) =>
    let has := Switches.given switches
    let operands := if operands.isEmpty then ["-"] else operands
    match sorting switches with
    | .error text => fail "sort" text 2 m
    | .ok s =>
      let quiet := has 'C' || ["quiet", "silent"].contains ((Switches.value? switches 'K').getD "")
      let checks := has 'c' || has 'C' || has 'K'
      let stop : UInt8 := if has 'z' then 0 else 10
      if checks ∧ 1 < operands.length then
        fail "sort" ("extra operand " ++ shown ((operands.drop 1).headD "") ++
          " not allowed with -" ++
          (if has 'C' then "C" else "c")) 2 m
      else match readEach operands (m.leave 0) with
        | .error (operand, cause) =>
          let what := if cause = .isADirectory then "read failed: " else "cannot read: "
          fail "sort" (what ++ operand ++ ": " ++ wording cause) 2 m
        | .ok (contents, m) =>
          let files := contents.map (fun c =>
            (partsAt stop c).map (fun l => s.line (Text.Octets.toText l).toList))
          if checks then
            match s.disorder? (has 'u') 1 files.flatten with
            | none => m
            | some (n, l) =>
              if quiet then m.leave 1
              else fail "sort" (operands.headD "-" ++ ":" ++ Nat.repr n ++ ": disorder: " ++
                String.ofList l.text) 1 m
          else
            let ordered := if has 'm' then s.merged files
              else files.flatten.mergeSort (fun a b => s.compare a b != .gt)
            let kept := if has 'u' then s.distinct ordered else ordered
            let ending := Char.ofNat stop.toNat
            let out := String.join (kept.map (fun l => (String.ofList l.text).push ending))
            match Switches.value? switches 'o' with
            | none => m.say out
            | some file =>
              match m.openFile file .write with
              | .ok (n, m) => { m with world := m.world.write n (Text.Octets.ofText out) }
              | .error cause => fail "sort" ("open failed: " ++ file ++ ": " ++ wording cause) 2 m

end BlockCoverage.Script.Utility
