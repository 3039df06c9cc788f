import BlockCoverage.Number.Natural
import BlockCoverage.Number.Nearest
import BlockCoverage.Toml.Quoted
import BlockCoverage.Toml.Value

/-!
# Numbers and moments

Whole numbers are decimal, or hexadecimal, octal or binary with a mark in front. An underscore may
stand between digits. A number with a point or an exponent is real. Whole numbers have 64 bits with
a sign; a positive real number that is too large is refused.
-/

namespace BlockCoverage.Toml

open BlockCoverage.Number (isDigit)

/-- Reads a digit, or an underscore and a digit. -/
def nextDigit (ok : Char → Bool) : Reader Char
  | '_' :: d :: rest => if ok d then some (d, rest) else none
  | d :: rest => if ok d then some (d, rest) else none
  | [] => none

/-- Reads one or more digits. -/
def digits (ok : Char → Bool) : Reader (List Char) := fun s =>
  match s with
  | [] => none
  | d :: rest =>
    if ok d then
      let (more, t) := many (nextDigit ok) rest
      some (d :: more, t)
    else none

/-- Reads a sign, if there is one; true for minus. -/
def sign : List Char → Bool × List Char
  | '+' :: rest => (false, rest)
  | '-' :: rest => (true, rest)
  | s => (false, s)

/-- Reads decimal digits that do not start with a superfluous zero. -/
def leadingDigits : Reader (List Char)
  | '0' :: rest => some (['0'], rest)
  | s => digits isDigit s

/-- The value of digits of a base. -/
def valueOf (base : Nat) (ds : List Char) : Nat :=
  ds.foldl (fun n c => n * base + (hexDigit? c).getD 0) 0

/-- A whole number, if it has 64 bits. -/
def integerValue (negative : Bool) (n : Nat) : Option Value :=
  if negative then (if n ≤ 9223372036854775808 then some (.integer (-(n : Int))) else none)
  else if n < 9223372036854775808 then some (.integer n) else none

/-- Reads digits of a base after their mark. -/
def marked (base : Nat) : Reader Value := fun s =>
  match digits (fun c => (hexDigit? c).any (· < base)) s with
  | none => none
  | some (ds, t) => (integerValue false (valueOf base ds)).map (fun v => (v, t))

/-- Reads a whole number. -/
def integer : Reader Value
  | '0' :: 'x' :: rest => marked 16 rest
  | '0' :: 'o' :: rest => marked 8 rest
  | '0' :: 'b' :: rest => marked 2 rest
  | s =>
    let (negative, t) := sign s
    match leadingDigits t with
    | none => none
    | some (ds, u) => (integerValue negative (valueOf 10 ds)).map (fun v => (v, u))

/-- Reads the digits after a point. -/
def fractionPart : Reader (List Char)
  | '.' :: rest => digits isDigit rest
  | _ => none

/-- Reads an exponent. -/
def exponentPart : Reader Int := fun s =>
  match s with
  | [] => none
  | c :: rest =>
    if c = 'e' ∨ c = 'E' then
      let (negative, t) := sign rest
      (digits isDigit t).map (fun r =>
        let n : Int := valueOf 10 r.1
        (if negative then -n else n, r.2))
    else none

/-- The real number with the given digits before and after the point. -/
def realValue (negative : Bool) (whole fraction : List Char) (exponent : Int) : Option Value :=
  let bits := Number.ofDecimal negative (valueOf 10 (whole ++ fraction))
    (exponent - (fraction.length : Int))
  if bits = Number.infinityBits then none else some (.real bits)

/-- Reads a number with a point, an exponent, or both. -/
def decimal : Reader Value := fun s =>
  let (negative, t) := sign s
  match leadingDigits t with
  | none => none
  | some (whole, u) =>
    match fractionPart u with
    | some (fraction, v) =>
      let (exponent, w) := (exponentPart v).getD (0, v)
      (realValue negative whole fraction exponent).map (fun r => (r, w))
    | none =>
      match exponentPart u with
      | some (exponent, w) => (realValue negative whole [] exponent).map (fun r => (r, w))
      | none => none

/-- Reads infinity or the number that is none. -/
def special : Reader Value := fun s =>
  let (negative, t) := sign s
  let signed := fun (bits : UInt64) =>
    Value.real (if negative then bits ||| 0x8000000000000000 else bits)
  match t with
  | 'i' :: 'n' :: 'f' :: rest => some (signed Number.infinityBits, rest)
  | 'n' :: 'a' :: 'n' :: rest => some (signed Number.nanBits, rest)
  | _ => none

/-! ## Moments -/

/-- Reads a fixed number of digits as a count in a range. -/
def field (width low high : Nat) : Reader Nat := fun s =>
  let ds := s.take width
  let n := valueOf 10 ds
  if ds.length = width ∧ ds.all isDigit ∧ low ≤ n ∧ n ≤ high then some (n, s.drop width) else none

/-- How many days a month has. -/
def daysIn (year month : Nat) : Nat :=
  if month = 2 then
    (if year % 4 = 0 ∧ (year % 100 ≠ 0 ∨ year % 400 = 0) then 29 else 28)
  else if month ∈ [4, 6, 9, 11] then 30 else 31

/-- Takes a date. -/
def date (s : List Char) : Option (List Char) := do
  let (year, s) ← field 4 0 9999 s
  let s ← expect '-' s
  let (month, s) ← field 2 1 12 s
  let s ← expect '-' s
  let (_, s) ← field 2 1 (daysIn year month) s
  return s

/-- Takes a time of day. -/
def time (s : List Char) : Option (List Char) := do
  let (_, s) ← field 2 0 23 s
  let s ← expect ':' s
  let (_, s) ← field 2 0 59 s
  let s ← expect ':' s
  let (_, s) ← field 2 0 60 s
  match s with
  | '.' :: rest =>
    let fraction := rest.takeWhile isDigit
    return if fraction.isEmpty then s else rest.drop fraction.length
  | _ => return s

/-- Takes the distance from universal time, if one is given. -/
def offset (s : List Char) : Option (List Char) :=
  match s with
  | [] => some []
  | c :: rest =>
    if c = 'Z' ∨ c = 'z' then some rest
    else if c = '+' ∨ c = '-' then do
      let (_, s) ← field 2 0 23 rest
      let s ← expect ':' s
      let (_, s) ← field 2 0 59 s
      return s
    else some s

/-- Takes a time of day after a date, if one follows. -/
def timeAfterDate (s : List Char) : Option (List Char) :=
  match s with
  | [] => some []
  | c :: rest =>
    if c = 'T' ∨ c = 't' ∨ c = ' ' then
      match time rest with
      | some t => offset t
      | none => some s
    else some s

/-- Reads a date, a time, or both. -/
def moment : Reader Value := fun s =>
  let rest := match date s with
    | some t => timeAfterDate t
    | none => time s
  rest.map (fun t => (.moment, t))

/-- Reads a number or a moment. -/
def number : Reader Value := fun s => moment s <|> decimal s <|> integer s <|> special s

end BlockCoverage.Toml
