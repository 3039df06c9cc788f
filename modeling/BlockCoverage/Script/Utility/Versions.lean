/-!
# The order of versions

Texts with numbers in them in the order that people expect: runs of digits count as numbers, letters
come before other characters, a tilde comes before everything, and endings such as those of file
names are looked at only if the rest is equal.
-/

namespace BlockCoverage.Script.Versions

/-- The place of a character, or of the end of a text, in the order. -/
def place : List Char → Int
  | [] => -1
  | c :: _ =>
    if c.isDigit then 0
    else if c.isAlpha then c.toNat
    else if c = '~' then -2
    else c.toNat + 256

/-- Whether a text starts with a character that is not a digit. -/
def startsPlain : List Char → Bool
  | [] => false
  | c :: _ => !c.isDigit

/-- Compares the characters in front that are not digits: the outcome, and what is left of both. The
lengths together are enough fuel. -/
def comparePlain : Nat → List Char → List Char → Ordering × List Char × List Char
  | 0, a, b => (.eq, a, b)
  | fuel + 1, a, b =>
    if startsPlain a || startsPlain b then
      match compare (place a) (place b) with
      | .eq => comparePlain fuel (a.drop 1) (b.drop 1)
      | other => (other, a, b)
    else (.eq, a, b)

/-- Compares two texts as versions. The lengths together are enough fuel. -/
def compareRuns : Nat → List Char → List Char → Ordering
  | 0, _, _ => .eq
  | fuel + 1, a, b =>
    if a.isEmpty && b.isEmpty then .eq
    else match comparePlain (a.length + b.length + 1) a b with
      | (.eq, a, b) =>
        let isZero := fun (c : Char) => c == '0'
        let x := (a.dropWhile isZero).takeWhile Char.isDigit
        let y := (b.dropWhile isZero).takeWhile Char.isDigit
        match (compare x.length y.length).then (compare x y) with
        | .eq => compareRuns fuel (a.dropWhile Char.isDigit) (b.dropWhile Char.isDigit)
        | other => other
      | (other, _, _) => other

/-- Whether a character can stand in an ending. -/
def isEnding (c : Char) : Bool := c.isAlphanum || c == '~'

/-- A text without the endings at its end, each a point and letters. The length is enough fuel. -/
def withoutEndings : Nat → List Char → List Char
  | 0, cs => cs
  | fuel + 1, cs =>
    let back := cs.reverse
    let ending := back.takeWhile isEnding
    match back.drop ending.length, ending.getLast? with
    | '.' :: rest, some first =>
      if !rest.isEmpty && (first.isAlpha || first == '~') then withoutEndings fuel rest.reverse
      else cs
    | _, _ => cs

/-- Compares two names as versions; names with a point in front come first. -/
def order (a b : List Char) : Ordering :=
  let rank := fun (cs : List Char) => match cs with
    | [] => 0
    | ['.'] => 1
    | ['.', '.'] => 2
    | '.' :: _ => 3
    | _ => 4
  match compare (rank a) (rank b) with
  | .eq =>
    let whole := fun (x y : List Char) => compareRuns (x.length + y.length + 1) x y
    (whole (withoutEndings a.length a) (withoutEndings b.length b)).then (whole a b)
  | other => other

end BlockCoverage.Script.Versions
