import BlockCoverage.Script.Format
import BlockCoverage.Script.Pattern
import BlockCoverage.Script.Utility.Basic

/-!
# Characters for others

A program that puts the characters of one set for those of another, and deletes or squeezes them.
-/

namespace BlockCoverage.Script.Utility

open Text (Bytes)
open Machine (wording)

/-- The characters that a description of a set stands for; the length is enough fuel. With a `fill`
the last repetition is as long as needed. -/
def setChars (fill : Nat) : Nat → List Char → Except String (List Char)
  | 0, _ => .ok []
  | fuel + 1, cs =>
    match cs with
    | [] => .ok []
    | '[' :: ':' :: rest =>
      let name := rest.takeWhile Char.isAlpha
      match rest.drop name.length with
      | ':' :: ']' :: left => do
        let members :=
          ((List.range 256).map Char.ofNat).filter (Pattern.inClass (String.ofList name))
        if members.isEmpty then .error ("invalid character class " ++ shown (String.ofList name))
        else return members ++ (← setChars fill fuel left)
      | _ => do return '[' :: (← setChars fill fuel (':' :: rest))
    | '[' :: '=' :: c :: '=' :: ']' :: left => do return c :: (← setChars fill fuel left)
    | '[' :: c :: '*' :: rest =>
      let digits := rest.takeWhile Char.isDigit
      match rest.drop digits.length with
      | ']' :: left => do
        let n := if digits.head? = some '0' then (Numeral.digits 8 0 digits).1
          else (Numeral.digits 10 0 digits).1
        return List.replicate (if n = 0 then fill else n) c ++ (← setChars fill fuel left)
      | _ => do return '[' :: (← setChars fill fuel (c :: '*' :: rest))
    | _ =>
      let one := fun (cs : List Char) => match cs with
        | '\\' :: rest =>
          if rest.isEmpty then ('\\', [])
          else
            let (c, left) := Format.escape rest
            if left.length = rest.length then (rest.headD '\\', rest.drop 1) else (c, left)
        | c :: rest => (c, rest)
        | [] => (' ', [])
      let (a, rest) := one cs
      match rest with
      | '-' :: more =>
        if more.isEmpty then do return a :: (← setChars fill fuel rest)
        else
          let (b, left) := one more
          if b < a then
            .error ("range-endpoints of " ++ shown (String.ofList [a, '-', b]) ++
              " are in reverse collating sequence order")
          else do
            let members :=
              (List.range (b.toNat + 1 - a.toNat)).map (fun i => Char.ofNat (a.toNat + i))
            return members ++ (← setChars fill fuel left)
      | _ => do return a :: (← setChars fill fuel rest)

/-- Squeezes runs of the characters of a set. -/
def squeezeChars (set : List Char) (cs : List Char) : List Char :=
  (cs.foldl (fun (acc : List Char) c => match acc with
    | last :: _ => if last = c ∧ set.contains c then acc else c :: acc
    | [] => [c]) []).reverse

/-- Works on the input with the two sets. -/
def translate (has : Char → Bool) (sets : Except String (List Char × List Char))
    (second : List String)
    (m : Machine) : Machine :=
  match sets with
  | .error text => fail "tr" text 1 m
  | .ok (set, other) =>
    let first := if has 'c' || has 'C' then
      ((List.range 256).map Char.ofNat).filter (fun c => !set.contains c)
      else set
    match source "-" m with
    | .error cause => fail "tr" ("read error: " ++ wording cause) 1 m
    | .ok (s, m) =>
      let cs := (Text.Octets.toText s).toList
      let translates := !has 'd' && !second.isEmpty
      if translates ∧ other.isEmpty ∧ !first.isEmpty then
        fail "tr" "when not truncating set1, string2 must be non-empty" 1 m
      else
        let filled := other ++ List.replicate (first.length - other.length) (other.getLastD ' ')
        let pairs := (first.zip (if has 't' then other else filled)).reverse
        let table : Array (Option Char) :=
          pairs.reverse.foldl (fun t (a, b) => t.setIfInBounds a.toNat (some b))
            (Array.replicate 256 none)
        let members : Array Bool :=
          first.foldl (fun t c => t.setIfInBounds c.toNat true) (Array.replicate 256 false)
        let mapped := if has 'd' then cs.filter (fun c => !members.getD c.toNat false)
          else if translates then cs.map (fun c => (table.getD c.toNat none).getD c)
          else cs
        let squeezed := if has 's' then
          squeezeChars (if second.isEmpty then first else other) mapped
          else mapped
        (m.say (String.ofList squeezed)).leave 0

/-- Puts characters for others, deletes or squeezes them. -/
def tr : Utility := fun args m =>
  match Switches.among false "cCdst" [("complement", 'c'), ("delete", 'd'),
    ("squeeze-repeats", 's'),
    ("truncate-set1", 't')] (args.length + 1) args with
  | .error text => misuse "tr" text 1 m
  | .ok (switches, operands) =>
    let has := Switches.given switches
    let unfinished := fun (text : String) =>
      (text.toList.reverse.takeWhile (fun c => c == '\\')).length % 2 = 1
    let m := if operands.any (fun o => decide (unfinished o)) then
        note "tr" "warning: an unescaped backslash at end of string is not portable" m
      else m
    let sets := do
      let first ← setChars 1 ((operands.headD "").length + 1) (operands.headD "").toList
      let second ← setChars first.length (((operands.drop 1).headD "").length + 1)
        ((operands.drop 1).headD "").toList
      return (first, second)
    let two := (if has 'd' then has 's' else !has 's')
    match operands with
    | [] => misuse "tr" "missing operand" 1 m
    | [a] =>
      if two then
        ((note "tr" ("missing operand after " ++ shown a) m).warn
          ((if has 'd' then "Two strings must be given when both deleting and squeezing repeats.\n"
            else "Two strings must be given when translating.\n") ++
            "Try 'tr --help' for more information.\n")).leave 1
      else translate has sets [] m
    | [_, b] =>
      if has 'd' ∧ !has 's' then
        ((note "tr" ("extra operand " ++ shown b) m).warn
          ("Only one string may be given when deleting without squeezing repeats.\n" ++
            "Try 'tr --help' for more information.\n")).leave 1
      else translate has sets [b] m
    | _ :: _ :: c :: _ => misuse "tr" ("extra operand " ++ shown c) 1 m

end BlockCoverage.Script.Utility
