import BlockCoverage.Script.Machine

/-!
# Conditions

The language of conditions: tests of files, comparisons of texts and of numbers, and their
negations, conjunctions and disjunctions. A word is an operator only where one can stand, so that
`-f` and `(` can also be compared as texts.
-/

namespace BlockCoverage.Script.Condition

/-- What a word can be in a condition. -/
inductive Role where
  /-- A test of one operand. -/
  | unary
  /-- A comparison of two operands. -/
  | binary
  /-- Negation. -/
  | negation
  /-- Conjunction. -/
  | both
  /-- Disjunction. -/
  | either
  /-- An opening parenthesis. -/
  | opening
  /-- A closing parenthesis. -/
  | closing
deriving DecidableEq, Repr

/-- What a word is wherever it can be an operator. -/
def role? (word : String) : Option Role :=
  if ["-r", "-w", "-x", "-e", "-f", "-d", "-c", "-b", "-p", "-u", "-g", "-k", "-s", "-t",
    "-z", "-n",
    "-h", "-L", "-O", "-G", "-S"].contains word then some .unary
  else if ["=", "!=", "<", ">", "-eq", "-ne", "-ge", "-gt", "-le", "-lt", "-nt", "-ot",
    "-ef"].contains word then some .binary
  else [("!", Role.negation), ("-a", .both), ("-o", .either), ("(", .opening),
    (")", .closing)].lookup
    word

/-- Whether a unary operator at the front of the words is an operand instead. -/
def isOperand (words : List String) : Bool :=
  match words with
  | _ :: next :: _ :: _ => role? next == some .binary
  | _ :: _ :: [] => false
  | _ => true

/-- What the first of the words is here. -/
def roleAt? (words : List String) : Option Role :=
  match words with
  | [] => none
  | w :: rest =>
    match role? w with
    | some .unary => if isOperand words then none else some .unary
    | some .opening => if rest.isEmpty then none else some .opening
    | other => other

/-- A whole number, or the message that a text is none. -/
def number (text : String) : Except String Int :=
  match Numeral.whole? false text with
  | some v => .ok v
  | none => .error ("Illegal number: " ++ text)

/-- The file or directory that a path names, links followed. -/
def entryAt? (m : Machine) (path : String) : Option Entry :=
  (m.look true path).toOption.map Prod.snd

/-- The permissions of what a name stands for. -/
def mode (m : Machine) : Entry → Nat
  | .file n | .directory n => (m.world.files.inode n).mode
  | .link _ => 511
  | .device _ => 438

/-- Whether something can be executed: somebody has to be allowed to. -/
def isRunnable (m : Machine) (path : String) : Bool :=
  (entryAt? m path).any (fun e => Nat.land (mode m e) 73 != 0)

/-- The outcome of a test of one operand. -/
def unary (m : Machine) (op operand : String) : Except String Bool :=
  let found := entryAt? m operand
  let hasBit := fun (bit : Nat) => found.any (fun e => Nat.land (mode m e) bit != 0)
  match op with
  | "-z" => .ok (operand == "")
  | "-n" => .ok (operand != "")
  | "-t" => do
    let _ ← number operand
    return false
  | "-e" | "-r" | "-w" | "-O" | "-G" => .ok found.isSome
  | "-x" => .ok (isRunnable m operand)
  | "-f" => .ok (found matches some (.file _))
  | "-d" => .ok (found matches some (.directory _))
  | "-c" => .ok (found matches some (.device _))
  | "-h" | "-L" => .ok ((m.look false operand).toOption.map Prod.snd matches some (.link _))
  | "-s" =>
    .ok (match found with
      | some (.file n) => (m.world.files.inode n).size != 0
      | some (.directory _) => true
      | _ => false)
  | "-u" => .ok (hasBit 2048)
  | "-g" => .ok (hasBit 1024)
  | "-k" => .ok (hasBit 512)
  | _ => .ok false

/-- When what a path names was changed last. -/
def modified? (m : Machine) (path : String) : Option Nat :=
  (entryAt? m path).map (fun e => match e with
    | .file n | .directory n => (m.world.files.inode n).modified
    | _ => 0)

/-- Whether one path names something that is newer than what the other one names. -/
def isNewer (m : Machine) (a b : String) : Bool :=
  match modified? m a, modified? m b with
  | some s, some t => decide (t < s)
  | _, _ => false

/-- The outcome of a comparison. -/
def binary (m : Machine) (op a b : String) : Except String Bool :=
  let compare := fun (p : Int → Int → Bool) =>
    (do return p (← number a) (← number b) : Except String Bool)
  match op with
  | "=" => .ok (a == b)
  | "!=" => .ok (a != b)
  | "<" => .ok (decide (a < b))
  | ">" => .ok (decide (b < a))
  | "-eq" => compare (fun x y => x == y)
  | "-ne" => compare (fun x y => x != y)
  | "-lt" => compare (fun x y => decide (x < y))
  | "-le" => compare (fun x y => decide (x ≤ y))
  | "-gt" => compare (fun x y => decide (y < x))
  | "-ge" => compare (fun x y => decide (y ≤ x))
  | "-nt" => .ok (isNewer m a b)
  | "-ot" => .ok (isNewer m b a)
  | _ => .ok ((entryAt? m a).isSome && entryAt? m a == entryAt? m b)

/-- An outcome and the words from the last one that was used. -/
abbrev Outcome := Except String (Bool × List String)

mutual

/-- A disjunction, whose first word has the given role. -/
def disjunction (m : Machine) : Nat → Option Role → List String → Outcome
  | 0, _, words => .ok (false, words)
  | fuel + 1, role, words => do
    let (first, reached) ← conjunction m fuel role words
    if roleAt? (reached.drop 1) = some .either then
      let next := reached.drop 2
      let (second, last) ← disjunction m fuel (roleAt? next) next
      return (first || second, last)
    else return (first, reached)

/-- A conjunction. -/
def conjunction (m : Machine) : Nat → Option Role → List String → Outcome
  | 0, _, words => .ok (false, words)
  | fuel + 1, role, words => do
    let (first, reached) ← negation m fuel role words
    if roleAt? (reached.drop 1) = some .both then
      let next := reached.drop 2
      let (second, last) ← conjunction m fuel (roleAt? next) next
      return (first && second, last)
    else return (first, reached)

/-- A negation or what can be negated. -/
def negation (m : Machine) : Nat → Option Role → List String → Outcome
  | 0, _, words => .ok (false, words)
  | fuel + 1, role, words =>
    if role = some .negation then do
      let next := words.drop 1
      if next.isEmpty then return (true, words)
      let (inner, last) ← negation m fuel (roleAt? next) next
      return (!inner, last)
    else primary m fuel role words

/-- A test, a comparison, a text or something between parentheses. -/
def primary (m : Machine) : Nat → Option Role → List String → Outcome
  | 0, _, words => .ok (false, words)
  | fuel + 1, role, words =>
    match words with
    | [] => .ok (false, [])
    | w :: rest =>
      if role = some .opening then
        if roleAt? rest = some .closing then .ok (false, rest)
        else do
          let (inner, last) ← disjunction m fuel (roleAt? rest) rest
          if roleAt? (last.drop 1) = some .closing then return (inner, last.drop 1)
          else .error "closing paren expected"
      else if role = some .unary then
        match rest with
        | [] => .error (w ++ ": argument expected")
        | operand :: _ => do return (← unary m w operand, rest)
      else if roleAt? rest = some .binary then
        match rest with
        | op :: operand :: more => do return (← binary m op w operand, operand :: more)
        | op :: [] => .error (op ++ ": argument expected")
        | [] => .ok (w != "", words)
      else .ok (w != "", words)

end

/-- Reads a condition whose first word has the given role, to its end. -/
def whole (m : Machine) (role : Option Role) (words : List String) : Except String Bool := do
  let (outcome, last) ← disjunction m (4 * words.length + 8) role words
  match last with
  | w :: _ :: _ => .error ((if w = "" then "" else w ++ ": ") ++ "unexpected operator")
  | _ => return outcome

/-- The outcome of a condition. With three or four words the shape is fixed: a comparison in the
middle comes first, then parentheses around it, then a negation. -/
def evaluate (m : Machine) : List String → Except String Bool
  | [] => .ok false
  | [a, b, c] =>
    if role? b = some .binary then whole m none [a, b, c]
    else if a = "(" ∧ c = ")" then whole m (roleAt? [b]) [b]
    else if a = "!" then do return !(← whole m (roleAt? [b, c]) [b, c])
    else whole m (roleAt? [a, b, c]) [a, b, c]
  | [a, b, c, d] =>
    if a = "(" ∧ d = ")" then whole m (roleAt? [b, c]) [b, c]
    else if a = "!" then do return !(← evaluate m [b, c, d])
    else whole m (roleAt? [a, b, c, d]) [a, b, c, d]
  | words => whole m (roleAt? words) words

end BlockCoverage.Script.Condition
