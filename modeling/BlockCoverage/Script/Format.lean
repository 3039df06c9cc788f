import BlockCoverage.Number.Binary
import BlockCoverage.Number.Nearest
import BlockCoverage.Script.Numeral

/-!
# Formats

A format is a list of directives: a character stands for itself, and a conversion writes an argument
in a given form. A format is written again and again until the arguments are used up; where an
argument is missing, nothing or zero is taken for it.
-/

namespace BlockCoverage.Script.Format

/-! ## Escapes -/

/-- Whether a character is an octal digit. -/
def isOctal (c : Char) : Bool := '0' ≤ c && c ≤ '7'

/-- The character of a number, taken as an octet. -/
def octet (n : Nat) : Char := Char.ofNat (n % 256)

/-- The character that is spelled after a backslash, and what is left. A character that spells
nothing is left, and the backslash stands for itself. -/
def escape (cs : List Char) : Char × List Char :=
  match cs with
  | [] => ('\\', [])
  | c :: rest =>
    if isOctal c then
      let digits := (cs.take 3).takeWhile isOctal
      (octet (digits.foldl (fun v d => v * 8 + (d.toNat - 48)) 0), cs.drop digits.length)
    else
      match [('\\', 92), ('a', 7), ('b', 8), ('e', 27), ('f', 12), ('n', 10), ('r', 13), ('t', 9),
        ('v', 11)].lookup c with
      | some n => (Char.ofNat n, rest)
      | none => ('\\', cs)

/-- A text with its escapes spelled out, and whether it asks that nothing follows. The length of the
text is enough fuel. -/
def spelled : Nat → List Char → List Char × Bool
  | 0, _ => ([], false)
  | fuel + 1, cs =>
    match cs with
    | [] => ([], false)
    | '\\' :: 'c' :: _ => ([], true)
    | '\\' :: rest =>
      let after := match rest with
        | '0' :: d :: more => if isOctal d then d :: more else rest
        | _ => rest
      let (c, left) := escape after
      let (text, stops) := spelled fuel left
      (c :: text, stops)
    | c :: rest =>
      let (text, stops) := spelled fuel rest
      (c :: text, stops)

/-- A text with its escapes spelled out, and whether it asks that nothing follows. -/
def spell (text : String) : String × Bool :=
  let (cs, stops) := spelled (text.length + 1) text.toList
  (String.ofList cs, stops)

/-! ## Directives -/

/-- A width or a precision. -/
inductive Measure where
  /-- Stands in the format. -/
  | fixed (n : Nat)
  /-- Is taken from the arguments. -/
  | argument
deriving DecidableEq, Repr

/-- What a conversion asks for. -/
structure Conversion where
  /-- Flags. -/
  flags : List Char
  /-- The least number of characters. -/
  width : Option Measure
  /-- The number of digits or the most characters. -/
  precision : Option Measure
  /-- The form. -/
  form : Char
deriving DecidableEq, Repr

/-- A part of a format. -/
inductive Directive where
  /-- A character. -/
  | literal (c : Char)
  /-- An argument. -/
  | convert (conversion : Conversion)
  /-- Something without meaning, as it stands in the format. -/
  | invalid (text : String)
deriving DecidableEq, Repr

/-- Reads a width or a precision. -/
def measure (cs : List Char) : Option Measure × List Char :=
  match cs with
  | '*' :: rest => (some .argument, rest)
  | _ =>
    let digits := cs.takeWhile Char.isDigit
    if digits.isEmpty then (none, cs)
    else (some (.fixed (Numeral.digits 10 0 digits).1), cs.drop digits.length)

/-- The forms that a conversion can have. -/
def forms : List Char :=
  ['b', 'c', 's', 'd', 'i', 'o', 'u', 'x', 'X', 'a', 'A', 'e', 'E', 'f', 'F', 'g', 'G']

/-- Reads a conversion after its percent sign. -/
def conversion (cs : List Char) : Directive × List Char :=
  let flags := cs.takeWhile (fun c => ['#', '-', '+', ' ', '0'].contains c)
  let (width, rest) := measure (cs.drop flags.length)
  let (precision, rest) := match rest with
    | '.' :: more =>
      let (p, left) := measure more
      (some (p.getD (.fixed 0)), left)
    | _ => (none, rest)
  match rest with
  | c :: left =>
    if forms.contains c then (.convert ⟨flags, width, precision, c⟩, left)
    else (.invalid (String.ofList ('%' :: cs.take (cs.length - left.length)) ++
      ": invalid directive"), [])
  | [] => (.invalid "missing format character", [])

/-- The directives of a format. The length of the format is enough fuel. -/
def directives : Nat → List Char → List Directive
  | 0, _ => []
  | fuel + 1, cs =>
    match cs with
    | [] => []
    | '\\' :: rest =>
      let (c, left) := escape rest
      .literal c :: directives fuel left
    | '%' :: '%' :: rest => .literal '%' :: directives fuel rest
    | '%' :: rest =>
      let (d, left) := conversion rest
      d :: directives fuel left
    | c :: rest => .literal c :: directives fuel rest

/-! ## Writing -/

/-- Digits in bases up to sixteen, without a leading zero. -/
def digitsOf (base n : Nat) : List Char := if n = 0 then [] else Nat.toDigits base n

/-- Fills a text up to a width. -/
def pad (left : Bool) (width : Nat) (cs : List Char) : List Char :=
  let blanks := List.replicate (width - cs.length) ' '
  if left then cs ++ blanks else blanks ++ cs

/-- Fills a number up to a width, with zeros after its sign if these are asked for. -/
def padNumber (left zeros : Bool) (width : Nat) (sign digits : List Char) : List Char :=
  if zeros && !left then
    sign ++ List.replicate (width - sign.length - digits.length) '0' ++ digits
  else pad left width (sign ++ digits)

/-- The sign of a number. -/
def signOf (flags : List Char) (negative : Bool) : List Char :=
  if negative then ['-'] else if flags.contains '+' then ['+']
  else if flags.contains ' ' then [' '] else []

/-- A whole number in a form. -/
def whole (form : Char) (flags : List Char) (left : Bool) (width : Nat) (precision : Option Nat)
    (v : Int) : List Char :=
  let base := if form = 'o' then 8 else if form = 'x' ∨ form = 'X' then 16 else 10
  let signed := form = 'd' ∨ form = 'i'
  let magnitude := if signed then v.natAbs else (v % 18446744073709551616).toNat
  let digits := digitsOf base magnitude
  let filled := List.replicate (precision.getD 1 - digits.length) '0' ++ digits
  let alternative := flags.contains '#'
  let shown := if form = 'o' ∧ alternative ∧ filled.head? ≠ some '0' then '0' :: filled else filled
  let sign := if signed then signOf flags (decide (v < 0))
    else if base = 16 ∧ alternative ∧ magnitude ≠ 0 then ['0', 'x'] else []
  let cs := padNumber left (flags.contains '0' && precision.isNone) width sign shown
  if form = 'X' then cs.map Char.toUpper else cs

/-- A fraction rounded to so many places after the point. -/
def fixedPoint (num den places : Nat) (point : Bool) : List Char :=
  let n := Number.roundHalfEven (num * Nat.pow 10 places) den
  let digits := Nat.toDigits 10 n
  let full := List.replicate (places + 1 - digits.length) '0' ++ digits
  let whole := full.take (full.length - places)
  if places = 0 then (if point then whole ++ ['.'] else whole)
  else whole ++ '.' :: full.drop (full.length - places)

/-- The order of a positive fraction: the greatest power of ten at or below it. -/
def order (num den : Nat) : Int :=
  let guess : Int := (Nat.toDigits 10 num).length - (Nat.toDigits 10 den).length
  let atLeast := fun (k : Int) =>
    if 0 ≤ k then decide (den * Nat.pow 10 k.toNat ≤ num)
    else decide (den ≤ num * Nat.pow 10 (-k).toNat)
  if atLeast guess then guess else guess - 1

/-- A fraction rounded to so many places, with its order: the digits and the order. -/
def rounded (num den places : Nat) : Nat × Int :=
  if num = 0 then (0, 0)
  else
    let o := order num den
    let shift : Int := places - o
    let n := if 0 ≤ shift then Number.roundHalfEven (num * Nat.pow 10 shift.toNat) den
      else Number.roundHalfEven num (den * Nat.pow 10 (-shift).toNat)
    if n = Nat.pow 10 (places + 1) then (Nat.pow 10 places, o + 1) else (n, o)

/-- A fraction written with an exponent. -/
def withExponent (num den places : Nat) (point : Bool) : List Char :=
  let (n, o) := rounded num den places
  let digits := Nat.toDigits 10 n
  let full := digits ++ List.replicate (places + 1 - digits.length) '0'
  let size := Nat.toDigits 10 o.natAbs
  let mantissa := if places = 0 then (if point then full ++ ['.'] else full)
    else full.take 1 ++ '.' :: full.drop 1
  mantissa ++ 'e' :: (if o < 0 then '-' else '+') :: List.replicate (2 - size.length) '0' ++ size

/-- Drops zeros at the end of the places after the point, and a point that nothing follows. -/
def dropZeros (cs : List Char) : List Char :=
  if !cs.contains '.' then cs
  else
    let back := cs.reverse.dropWhile (fun c => c == '0')
    (match back with
      | '.' :: rest => rest
      | _ => back).reverse

/-- A fraction in the shorter of the two ways. -/
def general (num den precision : Nat) (alternative : Bool) : List Char :=
  let p := max precision 1
  let o := (rounded num den (p - 1)).2
  if -4 ≤ o ∧ o < p then
    let cs := fixedPoint num den (p - 1 - o).toNat alternative
    if alternative then cs else dropZeros cs
  else
    let cs := withExponent num den (p - 1) alternative
    if alternative then cs
    else
      let mantissa := cs.takeWhile (fun c => c != 'e')
      dropZeros mantissa ++ cs.drop mantissa.length

/-- A fraction in a form. -/
def fraction (form : Char) (flags : List Char) (left : Bool) (width : Nat) (precision : Option Nat)
    (negative : Bool) (num den : Nat) : List Char :=
  let alternative := flags.contains '#'
  let p := precision.getD 6
  let lower := form.toLower
  let digits := if lower = 'f' then fixedPoint num den p alternative
    else if lower = 'e' then withExponent num den p alternative
    else general num den p alternative
  let cs := padNumber left (flags.contains '0') width (signOf flags negative) digits
  if form.isUpper then cs.map Char.toUpper else cs

/-- A double in a form. -/
def double (form : Char) (flags : List Char) (left : Bool) (width : Nat) (precision : Option Nat)
    (bits : UInt64) : List Char :=
  let word := fun (cs : List Char) => if form.isUpper then cs.map Char.toUpper else cs
  match Number.Double.ofBits bits with
  | .finite b => fraction form flags left width precision b.negative b.fraction.1 b.fraction.2
  | .infinite negative => word (pad left width (signOf flags negative ++ ['i', 'n', 'f']))
  | .nan => word (pad left width ['n', 'a', 'n'])

/-! ## Arguments -/

/-- What has been written, and what has come of the arguments. -/
structure Written where
  /-- The text so far, its last character first. -/
  reversed : List Char
  /-- The arguments that are left. -/
  arguments : List String
  /-- Whether an argument has been asked for. -/
  asked : Bool
  /-- Messages about arguments that are not what they should be, the last first. -/
  messages : List String
  /-- A message about a directive without meaning. -/
  refused : Option String
  /-- Whether nothing is to follow. -/
  stopped : Bool

namespace Written

/-- Adds characters. -/
def add (w : Written) (cs : List Char) : Written := { w with reversed := cs.reverse ++ w.reversed }

/-- The next argument, if there is one. -/
def next (w : Written) : Option String × Written :=
  (w.arguments.head?, { w with arguments := w.arguments.drop 1, asked := true })

/-- Notes what is wrong with an argument. -/
def note (w : Written) (text : String) : Written := { w with messages := text :: w.messages }

/-- Notes an argument of which `rest` could not be used. -/
def checked (w : Written) (text : String) (rest : List Char) : Written :=
  if rest.isEmpty then w
  else if rest.length = text.length then w.note (text ++ ": expected numeric value")
  else w.note (text ++ ": not completely converted")

/-- The next argument as a whole number; a character after a quote stands for its number. -/
def number (signed : Bool) (w : Written) : Int × Written :=
  match w.next with
  | (none, w) => (0, w)
  | (some text, w) =>
    match text.toList with
    | '"' :: rest | '\'' :: rest => (((rest.head?.map Char.toNat).getD 0 : Nat), w)
    | cs =>
      let l := Numeral.leading true cs
      let w := w.checked text l.rest
      let clamped := if signed then Numeral.clamp l.value
        else if 18446744073709551615 < l.value ∨ l.value < -18446744073709551615 then
          18446744073709551615
        else l.value
      if clamped = l.value ∨ !l.rest.isEmpty then (clamped, w)
      else (clamped, w.note (text ++ ": Numerical result out of range"))

/-- Whether a character is a digit in base sixteen. -/
def isHex (c : Char) : Bool :=
  c.isDigit || (97 ≤ c.toNat && c.toNat ≤ 102) || (65 ≤ c.toNat && c.toNat ≤ 70)

/-- The value of a power in front of which there is a letter, and what is left; nothing counts as
one if no digit follows. -/
def power (letters cs : List Char) : Int × List Char :=
  match cs with
  | e :: more =>
    let l := Numeral.leading false more
    if letters.contains e && l.found && (more.head?.map Numeral.isSpace) = some false then
      (l.value, l.rest)
    else (0, cs)
  | [] => (0, cs)

/-- The bits of a whole number times a power of two. -/
def scaled (negative : Bool) (n : Nat) (exponent : Int) : UInt64 :=
  let e := max (-20000) (min 20000 exponent)
  if 0 ≤ e then Number.ofDecimal negative (n * Nat.pow 2 e.toNat) 0
  else Number.ofDecimal negative (n * Nat.pow 5 (-e).toNat) e

/-- Reads the digits of a number in base sixteen, with a point and a power of two: its bits, and
what is left. -/
def sixteenth? (negative : Bool) (cs : List Char) : Option (UInt64 × List Char) :=
  let front := cs.takeWhile isHex
  let (back, rest) := match cs.drop front.length with
    | '.' :: more =>
      let places := more.takeWhile isHex
      if front.isEmpty && places.isEmpty then ([], cs) else (places, more.drop places.length)
    | other => ([], other)
  if front.isEmpty && back.isEmpty then none
  else
    let (exponent, left) := power ['p', 'P'] rest
    let digits := (Numeral.digits 16 0 (front ++ back)).1
    some (scaled negative digits (exponent - 4 * back.length), left)

/-- Reads a number with a point and an exponent: its bits, and what is left. -/
def decimal (cs : List Char) : UInt64 × List Char :=
  let here := cs.dropWhile Numeral.isSpace
  let (negative, after) := match here with
    | '-' :: rest => (true, rest)
    | '+' :: rest => (false, rest)
    | _ => (false, here)
  let sixteen := match after with
    | '0' :: x :: more => if x = 'x' ∨ x = 'X' then sixteenth? negative more else none
    | _ => none
  let front := after.takeWhile Char.isDigit
  let (back, rest) := match after.drop front.length with
    | '.' :: more =>
      let places := more.takeWhile Char.isDigit
      if front.isEmpty && places.isEmpty then ([], after.drop front.length)
      else (places, more.drop places.length)
    | other => ([], other)
  if let some found := sixteen then found
  else if front.isEmpty && back.isEmpty then
    let word := after.map Char.toLower
    let sign : UInt64 := if negative then 9223372036854775808 else 0
    if "infinity".toList.isPrefixOf word then (sign + Number.infinityBits, after.drop 8)
    else if "inf".toList.isPrefixOf word then (sign + Number.infinityBits, after.drop 3)
    else if "nan".toList.isPrefixOf word then (Number.nanBits, after.drop 3)
    else (0, cs)
  else
    let (exponent, left) := power ['e', 'E'] rest
    let digits := (Numeral.digits 10 0 (front ++ back)).1
    (Number.ofDecimal negative digits (exponent - back.length), left)

/-- The next argument as a double. -/
def real (w : Written) : UInt64 × Written :=
  match w.next with
  | (none, w) => (0, w)
  | (some text, w) =>
    match text.toList with
    | '"' :: rest | '\'' :: rest =>
      (Number.ofDecimal false ((rest.head?.map Char.toNat).getD 0) 0, w)
    | cs =>
      let (bits, rest) := decimal cs
      (bits, w.checked text rest)

/-- A width or a precision. -/
def size (w : Written) : Option Measure → Option Int × Written
  | none => (none, w)
  | some (.fixed n) => (some n, w)
  | some .argument =>
    let (v, w) := w.number true
    (some v, w)

/-- Writes an argument as a conversion asks. -/
def convert (w : Written) (c : Conversion) : Written :=
  let (width, w) := w.size c.width
  let (precision, w) := w.size c.precision
  let left := c.flags.contains '-' || decide (width.getD 0 < 0)
  let width := (width.getD 0).natAbs
  let precision := precision.bind (fun p => if p < 0 then none else some p.toNat)
  let cut := fun (cs : List Char) => match precision with
    | some p => cs.take p
    | none => cs
  if c.form = 's' then
    let (text, w) := w.next
    w.add (pad left width (cut (text.getD "").toList))
  else if c.form = 'b' then
    let (text, w) := w.next
    let (shown, stops) := spell (text.getD "")
    { w.add (pad left width (cut shown.toList)) with stopped := stops }
  else if c.form = 'c' then
    let (text, w) := w.next
    w.add (pad left width [((text.getD "").toList.head?).getD (Char.ofNat 0)])
  else if ['d', 'i', 'o', 'u', 'x', 'X'].contains c.form then
    let (v, w) := w.number (c.form == 'd' || c.form == 'i')
    w.add (whole c.form c.flags left width precision v)
  else
    let (bits, w) := w.real
    w.add (double c.form c.flags left width precision bits)

/-- Follows directives as long as none stops. -/
def follow (w : Written) : List Directive → Written
  | [] => w
  | d :: rest =>
    if w.stopped || w.refused.isSome then w
    else
      match d with
      | .literal c => follow (w.add [c]) rest
      | .convert c => follow (w.convert c) rest
      | .invalid text => { w with refused := some text }

/-- Follows directives again and again until the arguments are used up; each round uses up at least
one of them, so their number is enough fuel. -/
def rounds (ds : List Directive) : Nat → Written → Written
  | 0, w => w
  | fuel + 1, w =>
    let after := w.follow ds
    if after.stopped || after.refused.isSome || !after.asked || after.arguments.isEmpty then after
    else rounds ds fuel after

end Written

/-- Writes a format filled with arguments. -/
def write (format : String) (arguments : List String) : Written :=
  let ds := directives (format.length + 1) format.toList
  Written.rounds ds (arguments.length + 1) ⟨[], arguments, false, [], none, false⟩

/-- Arguments on a line, with their escapes spelled out, until one asks that nothing follows. -/
def line (newline : Bool) : List String → String
  | [] => if newline then "\n" else ""
  | [a] =>
    let (text, stops) := spell a
    if stops then text else text ++ (if newline then "\n" else "")
  | a :: rest =>
    let (text, stops) := spell a
    if stops then text else text ++ " " ++ line newline rest

end BlockCoverage.Script.Format
