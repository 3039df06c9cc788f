import BlockCoverage.Script.Utility.Matching

/-!
# Sequences of numbers and lines

Numbers in sequence are computed exactly, as whole numbers of a power of ten; how many places they
are written with is seen from how their ends are written.
-/

namespace BlockCoverage.Script.Utility

open Text (Bytes)
open Machine (wording)

/-! ## Ends of sequences -/

/-- A number as it is given: what it is worth, and how it is written. -/
structure Endpoint where
  /-- Its digits as a whole number. -/
  digits : Int
  /-- How many of them are after the point. -/
  places : Nat
  /-- The places after the point that numbers in sequence with it need. -/
  precision : Nat
  /-- The characters that it needs. -/
  width : Nat
  /-- Whether it is beyond all numbers. -/
  infinite : Bool

/-- The number one. -/
def Endpoint.one : Endpoint := ⟨1, 0, 0, 1, false⟩

/-- The largest exponent that a number may have. -/
def maxExponent : Nat := 4000

/-- Reads an exponent with its letter; none at all stands for zero. -/
def exponent? : List Char → Option Int
  | [] => some 0
  | e :: rest =>
    let l := Numeral.leading false rest
    if (e = 'e' ∨ e = 'E') ∧ l.found ∧ l.rest.isEmpty ∧ l.value.natAbs ≤ maxExponent then
      some l.value
    else none

/-- Reads digits with a point and an exponent. -/
def decimalEndpoint? (negative : Bool) (cs : List Char) : Option Endpoint :=
  let whole := cs.takeWhile Char.isDigit
  let after := cs.drop whole.length
  let hasPoint := after.head? = some '.'
  let places := if hasPoint then (after.drop 1).takeWhile Char.isDigit else []
  let rest := if hasPoint then after.drop (1 + places.length) else after
  match exponent? rest with
  | none => none
  | some e =>
    if whole.isEmpty ∧ places.isEmpty then none
    else
      let n := (Numeral.digits 10 0 (whole ++ places)).1
      let shift : Int := e - places.length
      let value := if 0 ≤ shift then n * Nat.pow 10 shift.toNat else n
      let precision := if e < 0 then places.length + e.natAbs else places.length - e.toNat
      let written := (if negative then 1 else 0) + whole.length + places.length +
        (if places.isEmpty then 0 else 1) + (if hasPoint ∧ whole.isEmpty then 1 else 0)
      let width := if rest.isEmpty then written
        else written + e.natAbs + (if e < 0 ∧ (!hasPoint ∨ places.isEmpty) then 1 else 0)
      some ⟨if negative then -(value : Int) else value, (-shift).toNat, precision, width, false⟩

/-- Reads a number. -/
def endpoint? (text : String) : Option Endpoint :=
  let cs := text.toList.dropWhile (fun c => Numeral.isSpace c || c == '+')
  let (negative, body) := match cs with
    | '-' :: rest => (true, rest)
    | _ => (false, cs)
  let hex := match body with
    | '0' :: x :: digits => if x = 'x' ∨ x = 'X' then digits else []
    | _ => []
  if !hex.isEmpty && hex.all (fun c => (Numeral.digit? 16 c).isSome) then
    let n : Int := (Numeral.digits 16 0 hex).1
    some ⟨if negative then -n else n, 0, 0, 0, false⟩
  else if ["inf", "infinity"].contains (String.ofList (body.map Char.toLower)) then
    some ⟨if negative then -1 else 1, 0, 0, 0, true⟩
  else decimalEndpoint? negative body

/-! ## Forms of numbers -/

/-- How numbers of a sequence are written: a text in front, a conversion, and a text behind. -/
structure NumberForm where
  /-- The text in front. -/
  front : List Char
  /-- The flags of the conversion. -/
  flags : List Char
  /-- The least number of characters. -/
  width : Nat
  /-- The places after the point. -/
  precision : Option Nat
  /-- The letter of the conversion. -/
  letter : Char
  /-- The text behind. -/
  back : List Char

/-- A text in which a percent sign is written twice, up to a percent sign that stands alone: the
text, and what follows that sign, if there is one. -/
def beforeDirective : List Char → List Char × Option (List Char)
  | [] => ([], none)
  | '%' :: '%' :: rest =>
    let (text, after) := beforeDirective rest
    ('%' :: text, after)
  | '%' :: rest => ([], some rest)
  | c :: rest =>
    let (text, after) := beforeDirective rest
    (c :: text, after)

/-- Reads a form. -/
def numberForm (text : String) : Except String NumberForm :=
  let quoted := "format " ++ shown text
  match beforeDirective text.toList with
  | (_, none) => .error (quoted ++ " has no % directive")
  | (front, some rest) =>
    let flags := rest.takeWhile (fun c => ['-', '+', '#', '0', ' ', '\''].contains c)
    let rest := rest.drop flags.length
    let width := rest.takeWhile Char.isDigit
    let rest := rest.drop width.length
    let (precision, rest) := match rest with
      | '.' :: more =>
        let digits := more.takeWhile Char.isDigit
        (some (Numeral.digits 10 0 digits).1, more.drop digits.length)
      | _ => (none, rest)
    match if rest.head? = some 'L' then rest.drop 1 else rest with
    | [] => .error (quoted ++ " ends in %")
    | c :: rest =>
      if !"efgaEFGA".toList.contains c then
        .error (quoted ++ " has unknown %" ++ String.singleton c ++ " directive")
      else match beforeDirective rest with
        | (back, none) => .ok ⟨front, flags, (Numeral.digits 10 0 width).1, precision, c, back⟩
        | (_, some _) => .error (quoted ++ " has too many % directives")

/-- A number with so many places after the point in a form. -/
def NumberForm.write (f : NumberForm) (digits : Int) (places : Nat) : List Char :=
  f.front ++ Format.fraction f.letter f.flags (f.flags.contains '-') f.width f.precision
    (decide (digits < 0)) digits.natAbs (Nat.pow 10 places) ++ f.back

/-- The form that numbers have of their own: as many places as the ends need, and the same width for
all if that is asked for. -/
def usualForm (equal : Bool) (first step last : Endpoint) : NumberForm :=
  let p := max first.precision step.precision
  let firstWidth := first.width + (p - first.precision) +
    (if first.precision = 0 ∧ 0 < p then 1 else 0)
  let lastWidth := last.width + p - last.precision + (if last.precision = 0 ∧ 0 < p then 1 else 0) -
    (if 0 < last.precision ∧ p = 0 then 1 else 0)
  ⟨[], if equal then ['0'] else [], if equal then max firstWidth lastWidth else 0, some p, 'f', []⟩

/-! ## The programs -/

/-- What a sequence is written with: the separator, the form, whether widths are equal, and the
operands. The number of arguments is enough fuel. -/
structure SequenceCall where
  /-- What stands between numbers. -/
  separator : String
  /-- The form that is asked for. -/
  form : Option String
  /-- Whether all numbers get the same width. -/
  equal : Bool
  /-- The operands. -/
  operands : List String

/-- Reads the arguments of a sequence. A hyphen in front of a digit or a point starts a number. -/
def sequenceCall (args : List String) : Except String SequenceCall :=
  let isOperand := fun (a : String) => match a.toList with
    | '-' :: c :: _ => c.isDigit || c == '.'
    | _ => true
  let takesNext := fun (a : String) => ["-s", "-f", "--separator", "--format"].contains a
  let step := fun (acc : Nat × Bool) (a : String) =>
    if acc.2 then (acc.1 + 1, false) else (acc.1 + 1, takesNext a)
  let count := fun (args : List String) =>
    (args.foldl (fun (acc : (Nat × Bool) × Bool) a =>
      if acc.2 then acc
      else if !acc.1.2 && isOperand a then (acc.1, true)
      else (step acc.1 a, a == "--")) ((0, false), false)).1.1
  let n := count args
  (Switches.among false "f:s:w" [("format", 'f'), ("separator", 's'), ("equal-width", 'w')]
    (args.length + 1)
    (args.take n)).map (fun (switches, left) =>
    ⟨(Switches.value? switches 's').getD "\n", Switches.value? switches 'f',
      Switches.given switches 'w',
      left ++ args.drop n⟩)

/-- The most numbers that are written where nothing stops the writing. -/
def maxNumbers : Nat := 2000000

/-- Writes the numbers of a sequence. -/
def writeSequence (form : NumberForm) (separator : String) (first step last : Endpoint)
    (m : Machine) :
    Machine :=
  let places := max first.places (max step.places last.places)
  let scaled := fun (e : Endpoint) => e.digits * (Nat.pow 10 (places - e.places) : Nat)
  let (a, s, z) := (scaled first, scaled step, scaled last)
  let bound := match (m.channelOf? 1).bind m.world.limitOf with
    | some limit => limit
    | none => maxNumbers
  let reached := if last.infinite then (if (0 < s) == (0 < last.digits) then bound + 1 else 0)
    else if 0 < s then (if a ≤ z then ((z - a) / s).toNat + 1 else 0)
    else (if z ≤ a then ((a - z) / (-s)).toNat + 1 else 0)
  let count := min reached (bound + 1)
  let short := places = 0 ∧ form.letter = 'f' ∧ form.width = 0 ∧ form.precision = some 0 ∧
    form.front.isEmpty ∧ form.back.isEmpty ∧ form.flags.isEmpty
  let write := fun (v : Int) =>
    if short then Numeral.write v else String.ofList (form.write v places)
  let texts := (List.range count).map (fun (i : Nat) => write (a + s * (i : Int)))
  if texts.isEmpty then m.leave 0
  else { (m.say (String.intercalate separator texts ++ "\n")).leave 0 with
    unending := decide (bound < reached) }

/-- Writes numbers in sequence. -/
def seq : Utility := fun args m =>
  match sequenceCall args with
  | .error text => misuse "seq" text 1 m
  | .ok c =>
    let wrong := c.operands.find? (fun a => (endpoint? a).isNone)
    let go := fun (first step last : Endpoint) =>
      let form := match c.form with
        | some text => numberForm text
        | none => .ok (usualForm c.equal first step last)
      match form with
      | .error text => fail "seq" text 1 m
      | .ok f => writeSequence f c.separator first step last m
    if c.operands.isEmpty then misuse "seq" "missing operand" 1 m
    else if 3 < c.operands.length then
      misuse "seq" ("extra operand " ++ shown ((c.operands.drop 3).headD "")) 1 m
    else if c.form.isSome ∧ c.equal then
      misuse "seq" "format string may not be specified when printing equal width strings" 1 m
    else match wrong, c.operands.filterMap endpoint? with
      | some a, _ =>
        if a.toLower = "nan" ∨ a.toLower = "-nan" then
          misuse "seq" ("invalid 'not-a-number' argument: " ++ shown a) 1 m
        else misuse "seq" ("invalid floating point argument: " ++ shown a) 1 m
      | none, [z] => go .one .one z
      | none, [a, z] => go a .one z
      | none, [a, s, z] =>
        if s.digits = 0 then
          misuse "seq" ("invalid Zero increment value: " ++
            shown ((c.operands.drop 1).headD "")) 1 m
        else go a s z
      | none, _ => m

/-- Writes a line again and again, as long as anybody could read. -/
def yes : Utility := fun args m =>
  let args := if args.head? = some "--" then args.drop 1 else args
  let line :=
    Text.Octets.ofText ((if args.isEmpty then "y" else String.intercalate " " args) ++ "\n")
  { m.emit (List.replicate (plenty m / line.length + 1) line).flatten with unending := true }

/-- The factors of a number from a divisor on, the least first. Divisors are tried as far as `fuel`
goes. -/
def factorsFrom : Nat → Nat → Nat → List Nat
  | 0, _, n => if n ≤ 1 then [] else [n]
  | fuel + 1, d, n =>
    if n ≤ 1 then []
    else if n < d * d then [n]
    else if n % d = 0 then d :: factorsFrom fuel d (n / d)
    else factorsFrom fuel (if d = 2 then 3 else d + 2) n

/-- The most divisors that are tried. -/
def maxDivisors : Nat := 1000000

/-- Writes numbers with their prime factors. -/
def factor : Utility :=
  withSwitches "factor" "h" [("exponents", 'h')] 1 (fun switches operands m =>
    let (words, m) := if !operands.isEmpty then (operands, m)
      else
        let (s, m) := m.readAll 0
        (((Text.pieces isFieldBlank (Text.Octets.toText s).toList).filter (fun w => !w.isEmpty)).map
          String.ofList, m)
    let one := fun (m : Machine) (text : String) =>
      let digits := match text.toList with
        | '+' :: rest => rest
        | cs => cs.dropWhile Numeral.isSpace
      if digits.isEmpty || !digits.all Char.isDigit then
        fail "factor" (shown text ++ " is not a valid positive integer") 1 m
      else
        let n := (Numeral.digits 10 0 digits).1
        let factors := if n = 0 then [] else factorsFrom maxDivisors 2 n
        let grouped := factors.foldr (fun f (acc : List (Nat × Nat)) => match acc with
          | (g, k) :: rest => if f = g then (g, k + 1) :: rest else (f, 1) :: acc
          | [] => [(f, 1)]) []
        let texts := if Switches.given switches 'h' then
            grouped.map (fun (f, k) => Nat.repr f ++ (if k = 1 then "" else "^" ++ Nat.repr k))
          else factors.map Nat.repr
        m.say (Nat.repr n ++ ":" ++ String.join (texts.map (fun t => " " ++ t)) ++ "\n")
    words.foldl one (m.leave 0))

/-- Writes lines in any order; the one that they have will do. -/
def shuf : Utility :=
  withSwitches "shuf" "ei:n:o:rz" [("echo", 'e'), ("input-range", 'i'), ("head-count", 'n'),
    ("output", 'o'),
    ("repeat", 'r'), ("zero-terminated", 'z')] 1 (fun switches operands m =>
    let has := Switches.given switches
    let stop : UInt8 := if has 'z' then 0 else 10
    let count := (Switches.value? switches 'n').bind Numeral.count?
    let finish := fun (ls : List (List Char)) (m : Machine) =>
      let kept := match count with
        | some n => if has 'r' then (List.replicate n (ls.take 1)).flatten else ls.take n
        | none => ls
      writeLines "shuf" stop (Switches.value? switches 'o') kept (m.leave 0)
    match Switches.value? switches 'i' with
    | some text =>
      match (text.splitOn "-").map Numeral.count? with
      | [some low, some high] =>
        finish ((List.range (high + 1 - low)).map (fun i => (Nat.repr (low + i)).toList)) m
      | _ => fail "shuf" ("invalid input range: " ++ shown text) 1 m
    | none =>
      if has 'e' then finish (operands.map String.toList) m
      else
        let operand := operands.headD "-"
        match operands.drop 1, source operand m with
        | extra :: _, _ => misuse "shuf" ("extra operand " ++ shown extra) 1 m
        | [], .error cause => fail "shuf" (operand ++ ": " ++ wording cause) 1 m
        | [], .ok (s, m) =>
          finish ((partsAt stop s).map (fun l => (Text.Octets.toText l).toList)) m)

end BlockCoverage.Script.Utility
