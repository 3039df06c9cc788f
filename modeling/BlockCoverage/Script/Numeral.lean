import BlockCoverage.Number.Natural

/-!
# Whole numbers in scripts

Scripts write whole numbers in decimal, and in most places also in octal after `0` and in
hexadecimal after `0x`. A numeral is read from the front of a text; what follows it is for the
caller to judge.
-/

namespace BlockCoverage.Script.Numeral

/-- Whether a character is a blank of any kind, line ends included. -/
def isSpace (c : Char) : Bool := c == ' ' || (9 ≤ c.toNat && c.toNat ≤ 13)

/-- The value of a digit in bases up to sixteen. -/
def digit? (base : Nat) (c : Char) : Option Nat :=
  let n := c.toNat
  let v :=
    if 48 ≤ n ∧ n ≤ 57 then some (n - 48)
    else if 97 ≤ n ∧ n ≤ 102 then some (n - 87)
    else if 65 ≤ n ∧ n ≤ 70 then some (n - 55)
    else none
  v.bind (fun d => if d < base then some d else none)

/-- The value of the digits in front, and what is left. -/
def digits (base acc : Nat) : List Char → Nat × List Char
  | [] => (acc, [])
  | c :: rest =>
    match digit? base c with
    | some d => digits base (acc * base + d) rest
    | none => (acc, c :: rest)

/-- A number read from the front of a text. -/
structure Leading where
  /-- Its value. -/
  value : Int
  /-- Whether there was a digit at all. -/
  found : Bool
  /-- What is left. -/
  rest : List Char

/-- Reads digits without a sign; with `any` the base is seen from the digits. -/
def unsigned (any : Bool) (cs : List Char) : Leading :=
  match any, cs with
  | true, '0' :: x :: d :: rest =>
    if (x = 'x' ∨ x = 'X') ∧ (digit? 16 d).isSome then
      let (v, left) := digits 16 0 (d :: rest)
      ⟨v, true, left⟩
    else
      let (v, left) := digits 8 0 (x :: d :: rest)
      ⟨v, true, left⟩
  | true, '0' :: rest =>
    let (v, left) := digits 8 0 rest
    ⟨v, true, left⟩
  | _, c :: rest =>
    match digit? 10 c with
    | some d =>
      let (v, left) := digits 10 d rest
      ⟨v, true, left⟩
    | none => ⟨0, false, c :: rest⟩
  | _, [] => ⟨0, false, []⟩

/-- Reads blanks, a sign and digits. Without a digit nothing is used up. -/
def leading (any : Bool) (cs : List Char) : Leading :=
  let here := cs.dropWhile isSpace
  let (negative, after) := match here with
    | '-' :: rest => (true, rest)
    | '+' :: rest => (false, rest)
    | _ => (false, here)
  let l := unsigned any after
  if l.found then { l with value := if negative then -l.value else l.value } else ⟨0, false, cs⟩

/-- The largest signed word. -/
def maxSigned : Int := 9223372036854775807

/-- The smallest signed word. -/
def minSigned : Int := -9223372036854775808

/-- The nearest signed word. -/
def clamp (v : Int) : Int := if maxSigned < v then maxSigned else if v < minSigned then minSigned
    else v

/-- Reads a whole text as a number, blanks after it allowed; the empty text is zero if `any`. -/
def whole? (any : Bool) (text : String) : Option Int :=
  let l := leading any text.toList
  if !l.rest.all isSpace then none
  else if l.found then (if clamp l.value = l.value then some l.value else none)
  else if any then some 0
  else none

/-- Reads a whole text as a number from zero to the largest that an exit code or a count can
have. -/
def count? (text : String) : Option Nat :=
  match whole? false text with
  | some v => if 0 ≤ v ∧ v ≤ 2147483647 then some v.toNat else none
  | none => none

/-- A whole number as it is written. -/
def write (v : Int) : String := if v < 0 then "-" ++ Nat.repr v.natAbs else Nat.repr v.natAbs

end BlockCoverage.Script.Numeral
