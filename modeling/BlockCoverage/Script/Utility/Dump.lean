import BlockCoverage.Number.Binary
import BlockCoverage.Number.Octets
import BlockCoverage.Script.Format
import BlockCoverage.Script.Utility.Basic

/-!
# Dumps

Octets are shown in rows, each row once for every form that is asked for. The items of all forms
fill the same width, so that those of the same octets stand below one another.
-/

namespace BlockCoverage.Script.Utility

open Text (Bytes)
open Machine (wording)

/-! ## Items -/

/-- How octets are shown: in a form, how many of them make one item, and whether the row is shown as
text behind. -/
structure DumpForm where
  /-- The form: octal, hexadecimal, with or without a sign, with a point, or as characters. -/
  form : Char
  /-- The octets of an item. -/
  size : Nat
  /-- Whether the row is shown as text behind. -/
  trailer : Bool
deriving DecidableEq

/-- The least number of characters of an item. -/
def DumpForm.width (f : DumpForm) : Nat :=
  match f.form, f.size with
  | 'x', n => 2 * n
  | 'o', 1 => 3
  | 'o', 2 => 6
  | 'o', 4 => 11
  | 'o', _ => 22
  | 'u', 1 => 3
  | 'u', 2 => 5
  | 'u', 4 => 10
  | 'u', _ => 20
  | 'd', 1 => 4
  | 'd', 2 => 6
  | 'd', 4 => 11
  | 'd', _ => 20
  | 'f', 4 => 15
  | 'f', _ => 24
  | _, _ => 3

/-- An octet as a character. -/
def shownChar (b : UInt8) : String :=
  match [(0, "\\0"), (7, "\\a"), (8, "\\b"), (9, "\\t"), (10, "\\n"), (11, "\\v"), (12, "\\f"),
    (13, "\\r")].lookup b.toNat with
  | some text => text
  | none =>
    if 32 ≤ b ∧ b ≤ 126 then String.singleton (Char.ofNat b.toNat)
    else
      let digits := Nat.toDigits 8 b.toNat
      String.ofList (List.replicate (3 - digits.length) '0' ++ digits)

/-- The names of the octets that are not printed. -/
def octetNames : List String :=
  ["nul", "soh", "stx", "etx", "eot", "enq", "ack", "bel", "bs", "ht", "nl", "vt", "ff", "cr", "so",
    "si", "dle", "dc1", "dc2", "dc3", "dc4", "nak", "syn", "etb", "can", "em", "sub", "esc", "fs",
    "gs", "rs", "us", "sp"]

/-- The fewest digits, from `p` on, that tell a number from its neighbours, which are a distance
away. -/
def enoughDigits (num den half : Nat) (even : Bool) : Nat → Nat → Nat
  | 0, p => p
  | fuel + 1, p =>
    let (n, o) := Format.rounded num den (p - 1)
    let shift : Int := o - (p - 1 : Nat)
    let (a, b) := if 0 ≤ shift then (n * Nat.pow 10 shift.toNat, 1)
      else (n, Nat.pow 10 (-shift).toNat)
    let away := 2 * ((a * den : Nat) - (num * b : Nat) : Int).natAbs
    if away < half * b || (even && away == half * b) then p
    else enoughDigits num den half even fuel (p + 1)

/-- A number with a point from its bits: the bits of the exponent and of the fraction are given. -/
def floatText (exponentBits fractionBits n : Nat) : List Char :=
  let fractions := Nat.pow 2 fractionBits
  let fields := Nat.pow 2 exponentBits
  let negative := n / (fields * fractions) = 1
  let field := n / fractions % fields
  let fraction := n % fractions
  let sign := if negative then ['-'] else []
  if field = fields - 1 then sign ++ (if fraction = 0 then "inf" else "nan").toList
  else
    let significand := if field = 0 then fraction else fraction + fractions
    let exponent : Int := (max field 1 : Nat) - (fields / 2 - 1 + fractionBits : Nat)
    let (num, den, unit) := if 0 ≤ exponent then
        (significand * Nat.pow 2 exponent.toNat, 1, Nat.pow 2 exponent.toNat)
      else (significand, Nat.pow 2 (-exponent).toNat, 1)
    if significand = 0 then sign ++ ['0']
    else sign ++ Format.general num den
      (enoughDigits num den unit (significand % 2 == 0) 17 1) false

/-- One item of a dump, without the blanks in front of it. -/
def DumpForm.item (f : DumpForm) (s : Bytes) : List Char :=
  let n := Number.ofOctets s
  let zeros := fun (cs : List Char) => List.replicate (f.width - cs.length) '0' ++ cs
  match f.form with
  | 'c' => (shownChar (s.headD 0)).toList
  | 'a' =>
    let low := (s.headD 0).toNat % 128
    (octetNames.getD low (if low = 127 then "del" else String.singleton (Char.ofNat low))).toList
  | 'x' => zeros (Nat.toDigits 16 n)
  | 'o' => zeros (Nat.toDigits 8 n)
  | 'd' =>
    let half := Nat.pow 2 (8 * s.length - 1)
    if half ≤ n then '-' :: Nat.toDigits 10 (2 * half - n) else Nat.toDigits 10 n
  | 'f' => if f.size = 4 then floatText 8 23 n else floatText 11 52 n
  | _ => Nat.toDigits 10 n

/-! ## Rows -/

/-- How a dump is laid out. -/
structure Dump where
  /-- The base of offsets, as a letter. -/
  radix : Char
  /-- Whether rows equal to the one before are shown. -/
  all : Bool
  /-- The forms. -/
  forms : List DumpForm
  /-- The octets of a row. -/
  width : Nat
  /-- Whether items are read most significant octet first. -/
  big : Bool

/-- Cuts octets into parts of `n`. The length is enough fuel. -/
def partsOf (n : Nat) : Nat → Bytes → List Bytes
  | 0, _ => []
  | fuel + 1, s => if s.isEmpty then [] else s.take n :: partsOf n fuel (s.drop n)

/-- An offset in the base that a letter names. -/
def offset (radix : Char) (n : Nat) : String :=
  if radix = 'n' then ""
  else
    let (base, width) := if radix = 'x' then (16, 6) else if radix = 'd' then (10, 7) else (8, 7)
    padLeft width '0' (String.ofList (Nat.toDigits base n))

/-- The widest that the items of a row can be. -/
def Dump.rowWidth (d : Dump) : Nat :=
  (d.forms.map (fun f => (f.width + 1) * (d.width / f.size))).foldl max 0

/-- A row in one form. What is missing to the width of the widest form is spread over the items. -/
def Dump.row (d : Dump) (f : DumpForm) (s : Bytes) : List Char :=
  let fields := d.width / f.size
  let spare := d.rowWidth - (f.width + 1) * fields
  let before := fun (i : Nat) => spare * (fields - i) / fields
  let items := (partsOf f.size (s.length + 1) s).zipIdx.map (fun (p, i) =>
    let full := p ++ List.replicate (f.size - p.length) 0
    let text := f.item (if d.big then full.reverse else full)
    ' ' :: Format.pad false (before i - before (i + 1) + f.width) text)
  let blank := (d.width - s.length) / f.size
  let trailer := if !f.trailer then []
    else List.replicate (blank * (f.width + 1) + spare * blank / fields) ' ' ++ "  >".toList ++
      s.map (fun b => if 32 ≤ b ∧ b ≤ 126 then Char.ofNat b.toNat else '.') ++ ['<']
  items.flatten ++ trailer

/-- The rows of a dump; a full row equal to the one before is left out and a star stands for all
such. -/
def Dump.rows (d : Dump) : Nat → Option Bytes → Bool → List Bytes → List String
  | _, _, _, [] => []
  | place, before, starred, s :: rest =>
    let next := place + s.length
    if !d.all ∧ before = some s ∧ s.length = d.width then
      (if starred then [] else ["*"]) ++ d.rows next (some s) true rest
    else
      let blanks := String.ofList (List.replicate (offset d.radix 0).length ' ')
      let shownRow := d.forms.zipIdx.map (fun (f, i) =>
        (if i = 0 then offset d.radix place else blanks) ++ String.ofList (d.row f s))
      shownRow ++ d.rows next (some s) false rest

/-! ## The program -/

/-- The size of an item from the letter or the digits after a form, and what is left. -/
def itemSize (letters : List (Char × Nat)) (usual : Nat) (cs : List Char) : Nat × List Char :=
  let digits := cs.takeWhile Char.isDigit
  match digits, cs with
  | [], c :: rest =>
    match letters.lookup c with
    | some n => (n, rest)
    | none => (usual, cs)
  | [], [] => (usual, [])
  | _, _ => ((Numeral.digits 10 0 digits).1, cs.drop digits.length)

/-- Reads the forms of a dump. The length is enough fuel. -/
def dumpForms (whole : String) : Nat → List Char → Except String (List DumpForm)
  | 0, _ => .ok []
  | _ + 1, [] => .ok []
  | fuel + 1, c :: rest => do
    let (size, left) ← if c = 'c' ∨ c = 'a' then pure (1, rest)
      else if ['x', 'o', 'd', 'u'].contains c then
        let (n, left) := itemSize [('C', 1), ('S', 2), ('I', 4), ('L', 8)] 4 rest
        if !([1, 2, 4, 8].contains n) then
          throw ("invalid type string " ++ shown whole ++ ";\nthis system doesn't provide a " ++
            Nat.repr n ++ "-byte integral type")
        else pure (n, left)
      else if c = 'f' then
        let (n, left) := itemSize [('F', 4), ('D', 8), ('L', 16)] 8 rest
        if !([4, 8].contains n) then
          throw ("invalid type string " ++ shown whole ++ ";\nthis system doesn't provide a " ++
            Nat.repr n ++ "-byte floating point type")
        else pure (n, left)
      else throw ("invalid character " ++ shown (String.singleton c) ++ " in type string " ++
        shown whole)
    match left with
    | 'z' :: left => return ⟨c, size, true⟩ :: (← dumpForms whole fuel left)
    | _ => return ⟨c, size, false⟩ :: (← dumpForms whole fuel left)

/-- The forms that single letters stand for. -/
def dumpLetters : List (Char × Char × Nat) :=
  [('a', 'a', 1), ('b', 'o', 1), ('B', 'o', 2), ('c', 'c', 1), ('d', 'u', 2), ('D', 'u', 4),
    ('e', 'f', 8),
    ('f', 'f', 4), ('F', 'f', 8), ('h', 'x', 2), ('H', 'x', 4), ('i', 'd', 4), ('I', 'd', 8),
      ('l', 'd', 8),
    ('L', 'd', 8), ('o', 'o', 2), ('O', 'o', 4), ('s', 'd', 2), ('x', 'x', 2), ('X', 'x', 4)]

/-- Reads a count in decimal, octal or hexadecimal, with a unit. -/
def dumpCount? (text : String) : Option Nat :=
  match text.toList with
  | '0' :: x :: rest =>
    if x = 'x' ∨ x = 'X' then
      let (n, left) := Numeral.digits 16 0 rest
      if left.isEmpty ∧ !rest.isEmpty then some n else none
    else
      let (n, left) := Numeral.digits 8 0 (x :: rest)
      if left.isEmpty then some n else none
  | _ => size? text

/-- Takes what a dump shows from the input or from files. -/
def dumpSource (operands : List String) (skip : Nat) (count : Option Nat) (m : Machine) :
    Bytes × Nat × Machine :=
  let part := fun (s : Bytes) => match count with
    | some n => (s.drop skip).take n
    | none => s.drop skip
  match operands, count with
  | [], some n =>
    let s := m.available 0
    (part s, s.length, m.consume 0 (min (skip + n) s.length))
  | _, _ =>
    let (s, m) := allSources "od" 1 operands m
    let enough := count.any (fun n => decide (skip + n ≤ s.length))
    (part s, s.length, { m with unending := m.unending && !enough })

/-- Shows octets as numbers or characters. -/
def od : Utility := fun args m =>
  match Switches.permuted "A:t:aBbcDdeFfHhIiLlOosXxvj:N:w::S::E:" [("address-radix", 'A'),
    ("format", 't'),
    ("output-duplicates", 'v'), ("skip-bytes", 'j'), ("read-bytes", 'N'), ("width", 'w'),
      ("strings", 'S'),
    ("endian", 'E')] args with
  | .error text => misuse "od" text 1 m
  | .ok (switches, operands) =>
    let forms := switches.mapM (fun s =>
      if s.letter = 't' then dumpForms s.value (s.value.length + 1) s.value.toList
      else .ok ((dumpLetters.lookup s.letter).map (fun (f, n) => DumpForm.mk f n false)).toList)
    let number := fun (c : Char) (what : String) => match Switches.value? switches c with
      | none => Except.ok none
      | some "" => if c = 'w' then .ok (some 32) else .error ("invalid " ++ what ++ " argument ''")
      | some text => match dumpCount? text with
        | some n => .ok (some n)
        | none => .error ("invalid " ++ what ++ " argument " ++ shown text)
    let settings : Except String (List DumpForm × Option Nat × Nat × Option Nat) := do
      let found ← forms
      return (if found.flatten.isEmpty then [⟨'o', 2, false⟩] else found.flatten,
        ← number 'w' "-w", (← number 'j' "-j").getD 0, ← number 'N' "-N")
    let radix := (Switches.value? switches 'A').getD "o"
    if !(["d", "o", "x", "n"].contains radix) then
      fail "od" ("invalid output address radix " ++ shown (String.ofList (radix.toList.take 1)) ++
        "; it must be one character from [doxn]") 1 m
    else match settings with
      | .error text => fail "od" text 1 m
      | .ok (forms, width, skip, count) =>
        let unit := (forms.map DumpForm.size).foldl max 1
        let wrong := width.any (fun w => w = 0 || w % unit != 0)
        let m := if wrong then note "od" ("warning: invalid width " ++ Nat.repr (width.getD 0) ++
            "; using " ++ Nat.repr unit ++ " instead") m
          else m
        let d : Dump := ⟨(radix.toList.headD 'o'), Switches.given switches 'v', forms,
          if wrong then unit else width.getD 16, Switches.value? switches 'E' = some "big"⟩
        let (s, size, m) := dumpSource operands skip count (m.leave 0)
        if !operands.isEmpty ∧ operands.all (fun o => (source o m).toOption.isNone) then m
        else if size < skip then fail "od" "cannot skip past end of combined input" 1 m
        else
          let body := d.rows skip none false (partsOf d.width (s.length + 1) s)
          sayLines (body ++ (if radix = "n" then [] else [offset d.radix (skip + s.length)])) m

end BlockCoverage.Script.Utility
