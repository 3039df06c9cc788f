import BlockCoverage.Script.Command
import BlockCoverage.Script.Numeral

/-!
# Arithmetic

Expressions over signed words of 64 bits with the usual operators and precedences; what does not fit
wraps around. A name stands for the number that its variable holds, and nothing is zero. The
operators `&&`, `||` and `?` leave out the side that is not needed, so that its assignments and
faults do not happen.
-/

namespace BlockCoverage.Script.Arithmetic

/-- An operator with two sides. -/
inductive Operator where
  /-- The second side, unless the first is not zero. -/
  | orElse
  /-- The second side, unless the first is zero. -/
  | andAlso
  /-- The bits of either. -/
  | or
  /-- The bits of one of them. -/
  | xor
  /-- The bits of both. -/
  | and
  /-- Whether they are the same. -/
  | equal
  /-- Whether they are not. -/
  | unequal
  /-- Whether the first is less. -/
  | less
  /-- Whether the first is more. -/
  | more
  /-- Whether the first is not more. -/
  | atMost
  /-- Whether the first is not less. -/
  | atLeast
  /-- The bits moved up. -/
  | shiftUp
  /-- The bits moved down, the sign kept. -/
  | shiftDown
  /-- The sum. -/
  | plus
  /-- The difference. -/
  | minus
  /-- The product. -/
  | times
  /-- The quotient, rounded toward zero. -/
  | quotient
  /-- The remainder, with the sign of the first. -/
  | rest
deriving DecidableEq, Repr

/-- An operator with one side. -/
inductive Sign where
  /-- The number itself. -/
  | plus
  /-- Its negative. -/
  | minus
  /-- Whether it is zero. -/
  | not
  /-- Its bits turned around. -/
  | flip
deriving DecidableEq, Repr

/-- A number, a name, an operator or another sign. -/
inductive Token where
  /-- A number. -/
  | number (value : Int64)
  /-- A name. -/
  | name (text : String)
  /-- An operator with two sides; plus and minus may also have one. -/
  | op (operator : Operator)
  /-- An assignment, of the result of an operator if there is one. -/
  | set (operator : Option Operator)
  /-- A sign that has one side only. -/
  | sign (sign : Sign)
  /-- The mark after a condition. -/
  | question
  /-- The mark between the two outcomes. -/
  | colon
  /-- An opening bracket. -/
  | opening
  /-- A closing bracket. -/
  | closing
  /-- A character that has no meaning here. -/
  | stray (c : Char)
deriving DecidableEq

/-- The token of an operator or a sign in front of a text, and what is left; longer ones come
first. -/
def symbol : List Char → Option (Token × List Char)
  | '<' :: '<' :: '=' :: r => some (.set (some .shiftUp), r)
  | '>' :: '>' :: '=' :: r => some (.set (some .shiftDown), r)
  | '&' :: '&' :: r => some (.op .andAlso, r)
  | '|' :: '|' :: r => some (.op .orElse, r)
  | '<' :: '<' :: r => some (.op .shiftUp, r)
  | '>' :: '>' :: r => some (.op .shiftDown, r)
  | '<' :: '=' :: r => some (.op .atMost, r)
  | '>' :: '=' :: r => some (.op .atLeast, r)
  | '=' :: '=' :: r => some (.op .equal, r)
  | '!' :: '=' :: r => some (.op .unequal, r)
  | '+' :: '=' :: r => some (.set (some .plus), r)
  | '-' :: '=' :: r => some (.set (some .minus), r)
  | '*' :: '=' :: r => some (.set (some .times), r)
  | '/' :: '=' :: r => some (.set (some .quotient), r)
  | '%' :: '=' :: r => some (.set (some .rest), r)
  | '&' :: '=' :: r => some (.set (some .and), r)
  | '|' :: '=' :: r => some (.set (some .or), r)
  | '^' :: '=' :: r => some (.set (some .xor), r)
  | '+' :: r => some (.op .plus, r)
  | '-' :: r => some (.op .minus, r)
  | '*' :: r => some (.op .times, r)
  | '/' :: r => some (.op .quotient, r)
  | '%' :: r => some (.op .rest, r)
  | '<' :: r => some (.op .less, r)
  | '>' :: r => some (.op .more, r)
  | '=' :: r => some (.set none, r)
  | '!' :: r => some (.sign .not, r)
  | '~' :: r => some (.sign .flip, r)
  | '&' :: r => some (.op .and, r)
  | '|' :: r => some (.op .or, r)
  | '^' :: r => some (.op .xor, r)
  | '?' :: r => some (.question, r)
  | ':' :: r => some (.colon, r)
  | '(' :: r => some (.opening, r)
  | ')' :: r => some (.closing, r)
  | _ => none

/-- The tokens of an expression; nothing is read after a character that has no place in one. The
length is enough fuel. -/
def tokens : Nat → List Char → List Token
  | 0, _ => []
  | fuel + 1, cs =>
    match cs with
    | [] => []
    | c :: rest =>
      if Numeral.isSpace c then tokens fuel rest
      else if c.isDigit then
        let l := Numeral.unsigned true cs
        .number (Int64.ofInt (Numeral.clamp l.value)) :: tokens fuel l.rest
      else if startsName c then
        let letters := cs.takeWhile inName
        .name (String.ofList letters) :: tokens fuel (cs.drop letters.length)
      else
        match symbol cs with
        | some (t, left) => t :: tokens fuel left
        | none => [.stray c]

/-- Why an expression has no value. -/
inductive Fault where
  /-- Something else has to stand at a place. -/
  | expecting (what : String)
  /-- A division by zero. -/
  | zeroDivisor
  /-- A variable that holds no number. -/
  | notANumber (value : String)
deriving DecidableEq

/-- The message about an expression that has no value. -/
def Fault.message (text : String) : Fault → String
  | .expecting what => "arithmetic expression: expecting " ++ what ++ ": \"" ++ text ++ "\""
  | .zeroDivisor => "arithmetic expression: division by zero: \"" ++ text ++ "\""
  | .notANumber value => "Illegal number: " ++ value

/-- An expression. -/
inductive Expression where
  /-- A number. -/
  | number (value : Int64)
  /-- The value of a variable. -/
  | named (text : String)
  /-- A sign with its side. -/
  | unary (sign : Sign) (inner : Expression)
  /-- An operator with two sides. -/
  | binary (op : Operator) (left right : Expression)
  /-- The second or the third, by the first. -/
  | choice (condition yes no : Expression)
  /-- Sets a variable, to the result of an operator on its value if there is one. -/
  | assign (name : String) (op : Option Operator) (inner : Expression)

/-- How strongly an operator with two sides binds. -/
def Operator.strength : Operator → Nat
  | orElse => 1
  | andAlso => 2
  | or => 3
  | xor => 4
  | and => 5
  | equal | unequal => 6
  | less | more | atMost | atLeast => 7
  | shiftUp | shiftDown => 8
  | plus | minus => 9
  | times | quotient | rest => 10

/-- An expression and the tokens after it. -/
abbrev Parsed := Except Fault (Expression × List Token)

mutual

/-- Reads an assignment or a choice. -/
def assignment : Nat → List Token → Parsed
  | 0, _ => .error (.expecting "primary")
  | fuel + 1, ts =>
    match ts with
    | .name x :: .set op :: rest => do
      let (e, rest) ← assignment fuel rest
      return (.assign x op e, rest)
    | _ => choice fuel ts

/-- Reads a choice or what binds more strongly. -/
def choice : Nat → List Token → Parsed
  | 0, _ => .error (.expecting "primary")
  | fuel + 1, ts => do
    let (first, rest) ← operand fuel ts
    match ← binary fuel 1 first rest with
    | (condition, .question :: rest) =>
      match ← assignment fuel rest with
      | (yes, .colon :: rest) =>
        let (no, rest) ← choice fuel rest
        return (.choice condition yes no, rest)
      | _ => .error (.expecting "':'")
    | other => return other

/-- Reads operators of at least the given strength, whose left side has been read. -/
def binary : Nat → Nat → Expression → List Token → Parsed
  | 0, _, _, _ => .error (.expecting "primary")
  | fuel + 1, least, left, ts =>
    match ts with
    | .op o :: rest =>
      if o.strength < least then .ok (left, ts)
      else do
        let (first, rest) ← operand fuel rest
        let (right, rest) ← binary fuel (o.strength + 1) first rest
        binary fuel least (.binary o left right) rest
    | _ => .ok (left, ts)

/-- Reads what operators stand between. -/
def operand : Nat → List Token → Parsed
  | 0, _ => .error (.expecting "primary")
  | fuel + 1, ts =>
    match ts with
    | .number v :: rest => .ok (.number v, rest)
    | .name x :: rest => .ok (.named x, rest)
    | .opening :: rest => do
      match ← assignment fuel rest with
      | (e, .closing :: rest) => return (e, rest)
      | _ => .error (.expecting "')'")
    | .op .plus :: rest => do
      let (e, rest) ← operand fuel rest
      return (.unary .plus e, rest)
    | .op .minus :: rest => do
      let (e, rest) ← operand fuel rest
      return (.unary .minus e, rest)
    | .sign s :: rest => do
      let (e, rest) ← operand fuel rest
      return (.unary s e, rest)
    | _ => .error (.expecting "primary")

end

/-- Reads a whole expression. -/
def parse (text : String) : Except Fault Expression := do
  let cs := text.toList
  let ts := tokens (cs.length + 1) cs
  match ← assignment (4 * ts.length + 8) ts with
  | (e, []) => return e
  | _ => .error (.expecting "EOF")

/-- One for true, zero for false. -/
def truth (b : Bool) : Int64 := if b then 1 else 0

/-- The value of an operator with two sides; none for a division by zero. -/
def Operator.result? (a b : Int64) : Operator → Option Int64
  | plus => some (a + b)
  | minus => some (a - b)
  | times => some (a * b)
  | quotient => if b = 0 then none else some (a / b)
  | rest => if b = 0 then none else some (a % b)
  | shiftUp => some (a <<< b)
  | shiftDown => some (a >>> b)
  | less => some (truth (decide (a < b)))
  | more => some (truth (decide (b < a)))
  | atMost => some (truth (decide (a ≤ b)))
  | atLeast => some (truth (decide (b ≤ a)))
  | equal => some (truth (a == b))
  | unequal => some (truth (a != b))
  | and => some (a &&& b)
  | xor => some (a ^^^ b)
  | or => some (a ||| b)
  | andAlso => some (truth (a != 0 && b != 0))
  | orElse => some (truth (a != 0 || b != 0))

/-- What an expression has set variables to, the ones set last first. -/
abbrev Changes := List (String × String)

/-- The number that a variable holds, unless its value is no number. -/
def valueOf (look : String → Option String) (changes : Changes) (name : String) :
    Except Fault Int64 :=
  let text := ((changes.lookup name).orElse (fun _ => look name)).getD ""
  match Numeral.whole? true text with
  | some v => .ok (Int64.ofInt v)
  | none => .error (.notANumber text)

/-- The value of an operator with two sides, unless it divides by zero. -/
def apply (op : Operator) (a b : Int64) : Except Fault Int64 :=
  match op.result? a b with
  | some v => .ok v
  | none => .error .zeroDivisor

/-- The value of an expression and what it has set, unless something in it has no value. The values
of variables that it has not set are looked up. -/
def evaluate (look : String → Option String) : Expression → Changes → Except Fault (Int64 × Changes)
  | .number v, changes => .ok (v, changes)
  | .named x, changes => do return (← valueOf look changes x, changes)
  | .unary sign e, changes => do
    let (v, changes) ← evaluate look e changes
    let result := match sign with
      | .plus => v
      | .minus => -v
      | .not => truth (v == 0)
      | .flip => ~~~v
    return (result, changes)
  | .binary op a b, changes => do
    let (left, changes) ← evaluate look a changes
    if op = .andAlso ∧ left = 0 then return (0, changes)
    else if op = .orElse ∧ left ≠ 0 then return (1, changes)
    else
      let (right, changes) ← evaluate look b changes
      return (← apply op left right, changes)
  | .choice c a b, changes => do
    let (v, changes) ← evaluate look c changes
    if v ≠ 0 then evaluate look a changes else evaluate look b changes
  | .assign x op e, changes => do
    let (right, changes) ← evaluate look e changes
    let v ← match op with
      | none => pure right
      | some op => do apply op (← valueOf look changes x) right
    return (v, (x, Numeral.write v.toInt) :: changes)

end BlockCoverage.Script.Arithmetic
