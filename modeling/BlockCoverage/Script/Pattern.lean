/-!
# Patterns

A pattern is a text in which some characters may have a special meaning: a star stands for any text,
a question mark for any character, brackets for one character of a set, and a backslash takes the
meaning from the character after it. A character that was quoted only stands for itself.
-/

namespace BlockCoverage.Script

/-- Characters, with whether they may be special. -/
abbrev Pattern := List (Char × Bool)

namespace Pattern

/-- A member of a set of characters. -/
inductive Member where
  /-- All characters from one to another. -/
  | range (low high : Char)
  /-- A named class. -/
  | named (name : String)
deriving DecidableEq, Repr

/-- What a part of a pattern stands for. -/
inductive Item where
  /-- Any text. -/
  | run
  /-- Any character. -/
  | anyone
  /-- One character in a set, or outside of it. -/
  | oneOf (negated : Bool) (members : List Member)
  /-- One character. -/
  | exactly (c : Char)
deriving DecidableEq, Repr

/-- The characters of a named class. -/
def inClass (name : String) (c : Char) : Bool :=
  let n := c.toNat
  match name with
  | "alpha" => c.isAlpha
  | "digit" => c.isDigit
  | "alnum" => c.isAlphanum
  | "upper" => c.isUpper
  | "lower" => c.isLower
  | "space" => c == ' ' || (9 ≤ n && n ≤ 13)
  | "blank" => c == ' ' || c == '\t'
  | "punct" => 33 ≤ n && n ≤ 126 && !c.isAlphanum
  | "print" => 32 ≤ n && n ≤ 126
  | "graph" => 33 ≤ n && n ≤ 126
  | "cntrl" => n < 32 || n == 127
  | "xdigit" => c.isDigit || (97 ≤ n && n ≤ 102) || (65 ≤ n && n ≤ 70)
  | _ => false

/-- Whether a character belongs to a member of a set. -/
def Member.has (m : Member) (c : Char) : Bool :=
  match m with
  | .range low high => decide (low ≤ c ∧ c ≤ high)
  | .named name => inClass name c

/-- The name of the class that starts here after its first bracket, and what is left after it. -/
def className? (p : Pattern) : Option (String × Pattern) :=
  match p with
  | (':', true) :: rest =>
    let letters := rest.takeWhile (fun e => e.1.isAlpha)
    match rest.drop letters.length with
    | (':', true) :: (']', true) :: left => some (String.ofList (letters.map Prod.fst), left)
    | _ => none
  | _ => none

/-- The members of a set up to its closing bracket, and what is left after it. A closing bracket
that comes `first` is a member. The length of the pattern is enough fuel. -/
def members? : Nat → Bool → Pattern → Option (List Member × Pattern)
  | 0, _, _ => none
  | fuel + 1, first, p =>
    match p with
    | [] => none
    | (c, special) :: rest =>
      if c = ']' ∧ special ∧ !first then some ([], rest)
      else
        let classed := if c = '[' ∧ special then className? rest else none
        match classed with
        | some (name, left) =>
          (members? fuel false left).map (fun (ms, left) => (.named name :: ms, left))
        | none =>
          let single := fun (_ : Unit) =>
            (members? fuel false rest).map (fun (ms, left) => (.range c c :: ms, left))
          match rest with
          | ('-', true) :: (d, dSpecial) :: left =>
            if d = ']' ∧ dSpecial then single ()
            else (members? fuel false left).map (fun (ms, left) => (.range c d :: ms, left))
          | _ => single ()

/-- The items of a pattern. A bracket that is not closed stands for itself. The length of the
pattern is enough fuel. -/
def items : Nat → Pattern → List Item
  | 0, _ => []
  | fuel + 1, p =>
    match p with
    | [] => []
    | (c, special) :: rest =>
      if !special then .exactly c :: items fuel rest
      else if c = '\\' then
        match rest with
        | (d, _) :: left => .exactly d :: items fuel left
        | [] => [.exactly c]
      else if c = '*' then .run :: items fuel rest
      else if c = '?' then .anyone :: items fuel rest
      else if c = '[' then
        let (negated, inside) := match rest with
          | ('!', true) :: inside => (true, inside)
          | _ => (false, rest)
        match members? (inside.length + 1) true inside with
        | some (ms, left) => .oneOf negated ms :: items fuel left
        | none => .exactly c :: items fuel rest
      else .exactly c :: items fuel rest

/-- Whether an item stands for a character. -/
def Item.takes (c : Char) : Item → Bool
  | run => true
  | anyone => true
  | oneOf negated ms => ms.any (fun m => m.has c) != negated
  | exactly d => c == d

/-- Whether an item may stand for nothing. -/
def Item.isRun : Item → Bool
  | run => true
  | _ => false

/-- Which places before and after the items can be reached with no character; `here` says whether
the first can. -/
def reachedAtStart : List Item → (here : Bool) → List Bool
  | [], here => [here]
  | item :: rest, here => here :: reachedAtStart rest (here && item.isRun)

/-- Which places can be reached with one more character, from those that could be reached before;
`here` says whether the first of them can. -/
def reachedWith (c : Char) : List Item → List Bool → (here : Bool) → List Bool
  | item :: rest, before :: more, here =>
    let now := here || (item.isRun && before)
    now :: reachedWith c rest more ((before && !item.isRun && item.takes c) || (item.isRun && now))
  | _, _, here => [here]

/-- Whether a text is one that the items stand for. -/
def fits (is : List Item) (s : List Char) : Bool :=
  (s.foldl (fun reached c => reachedWith c is reached false) (reachedAtStart is true)).getLastD
    false

/-- The numbers of characters in front that the items stand for, the largest first. -/
def lengths (is : List Item) (s : List Char) : List Nat :=
  let note := fun (n : Nat) (reached : List Bool) (found : List Nat) =>
    if reached.getLastD false then n :: found else found
  let first := reachedAtStart is true
  let step := fun (acc : List Bool × Nat × List Nat) (c : Char) =>
    let (reached, n, found) := acc
    let next := reachedWith c is reached false
    (next, n + 1, note (n + 1) next found)
  (s.foldl step (first, 0, note 0 first [])).2.2

/-- The items of a whole pattern. -/
def toItems (p : Pattern) : List Item := items (p.length + 1) p

/-- Whether a text is one that the pattern stands for. -/
def isMatch (p : Pattern) (text : String) : Bool := fits p.toItems text.toList

/-- Whether a pattern has a character with a special meaning; a bracket has one only if it is
closed. -/
def isSpecial : Pattern → Bool
  | [] => false
  | (c, special) :: rest =>
    (special && (c == '*' || c == '?' || (c == '[' && rest.any (fun e => e.1 == ']' && e.2)))) ||
      isSpecial rest

end Pattern

end BlockCoverage.Script
