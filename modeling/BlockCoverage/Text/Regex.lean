/-!
# Regular expressions

Expressions over characters, in the basic and the extended way of writing them. Matching goes from
sets of places to sets of places: an expression takes every place where it may start to the places
where it may end, longer matches first and each place once, so the work is bounded by the size of
the expression and the square of the length of the text.
-/

namespace BlockCoverage.Text

/-- An expression. -/
inductive Regex where
  /-- Matches nothing and always. -/
  | empty
  /-- One character with a property: one of the members, or none of them. -/
  | oneOf (negated : Bool) (members : List (Char × Char))
  /-- The start of the text. -/
  | atStart
  /-- The end of the text. -/
  | atEnd
  /-- An edge of a word: at its start, at its end, or either; or at none. -/
  | edge (kind : Char)
  /-- One after the other. -/
  | seq (first second : Regex)
  /-- One or the other. -/
  | alt (first second : Regex)
  /-- A number of times in a row. -/
  | times (inner : Regex) (least : Nat) (most : Option Nat)
  /-- A group with its number. -/
  | group (number : Nat) (inner : Regex)
  /-- What a group has matched. -/
  | again (number : Nat)
deriving DecidableEq, Repr

namespace Regex

/-- A place in the text and what the groups have matched on the way there. -/
structure Place where
  /-- How many characters are before it. -/
  index : Nat
  /-- Where groups start and end, the latest first. -/
  groups : List (Nat × Nat × Nat)
deriving DecidableEq, Repr

/-- Keeps the first of the places with the same index. -/
def distinct (places : List Place) : List Place :=
  (places.foldl (fun acc p => if acc.any (fun q => q.index == p.index) then acc
    else p :: acc) []).reverse

/-- Whether a character can stand in a word. -/
def inWord (c : Char) : Bool := c.isAlphanum || c == '_'

/-- Goes on from places as long as new ones are found, at most `fuel` rounds. -/
def closure (step : List Place → List Place) : Nat → List Place → List Place → List Place
  | 0, _, found => found
  | fuel + 1, frontier, found =>
    let fresh :=
      (distinct (step frontier)).filter (fun p => !found.any (fun q => q.index == p.index))
    if fresh.isEmpty then found else closure step fuel fresh (fresh ++ found)

/-- Takes a step a fixed number of times. -/
def repeatStep (step : List Place → List Place) : Nat → List Place → List Place
  | 0, places => places
  | n + 1, places => repeatStep step n (step places)

/-- Takes a step up to a number of times: all places on the way, the farthest first. -/
def upTo (step : List Place → List Place) : Nat → List Place → List Place → List Place
  | 0, _, found => found
  | n + 1, frontier, found =>
    let next := distinct (step frontier)
    if next.isEmpty then found else upTo step n next (next ++ found)

/-- The places where an expression may end that starts at one of the given ones. -/
def ends (text : Array Char) (same : Char → Char → Bool) : Regex → List Place → List Place
  | .empty, ps => ps
  | .oneOf negated members, ps =>
    ps.filterMap (fun p =>
      match text[p.index]? with
      | none => none
      | some c =>
        let isMember := members.any (fun (a, b) =>
          (a ≤ c && c ≤ b) || (a == b && same a c) ||
            (a != b && ((a ≤ c.toLower && c.toLower ≤ b && same c c.toLower) ||
              (a ≤ c.toUpper && c.toUpper ≤ b && same c c.toUpper))))
        if isMember != negated then some { p with index := p.index + 1 } else none)
  | .atStart, ps => ps.filter (fun p => p.index == 0)
  | .atEnd, ps => ps.filter (fun p => p.index == text.size)
  | .edge kind, ps =>
    ps.filter (fun p =>
      let before := 0 < p.index && ((text[p.index - 1]?).map inWord).getD false
      let after := ((text[p.index]?).map inWord).getD false
      if kind = '<' then !before && after
      else if kind = '>' then before && !after
      else if kind = 'b' then before != after
      else before == after)
  | .seq a b, ps => distinct (ends text same b (distinct (ends text same a ps)))
  | .alt a b, ps => distinct (ends text same a ps ++ ends text same b ps)
  | .times inner least most, ps =>
    let step := ends text same inner
    let started := distinct (repeatStep step least ps)
    match most with
    | none => closure step (text.size + 1) started started
    | some n => distinct (upTo step (n - least) started started)
  | .group number inner, ps =>
    ps.flatMap (fun p =>
      (ends text same inner [p]).map (fun q =>
        { q with groups := (number, p.index, q.index) :: q.groups }))
  | .again number, ps =>
    ps.filterMap (fun p =>
      match p.groups.lookup number with
      | none => none
      | some (a, b) =>
        let wanted := (text.extract a b).toList
        let here := (text.extract p.index (p.index + (b - a))).toList
        if wanted.length = here.length ∧
          (wanted.zip here).all (fun (x, y) => x == y || same x y) then
          some { p with index := p.index + (b - a) }
        else none)

/-- The longest match that starts at an index. -/
def matchAt? (r : Regex) (text : Array Char) (same : Char → Char → Bool) (index : Nat) :
    Option Place :=
  (ends text same r [⟨index, []⟩]).foldl (fun best p =>
    match best with
    | none => some p
    | some q => if q.index < p.index then some p else some q) none

/-- The first match from an index on: where it starts, and its end. -/
def find? (r : Regex) (text : Array Char) (same : Char → Char → Bool) :
    Nat → Nat → Option (Nat × Place)
  | 0, _ => none
  | fuel + 1, index =>
    match r.matchAt? text same index with
    | some p => some (index, p)
    | none => if text.size ≤ index then none else find? r text same fuel (index + 1)

/-! ## Reading -/

/-- Why a text is no expression. -/
inductive Fault where
  /-- Nothing follows an opening bracket. -/
  | bare
  /-- A set is not closed. -/
  | openSet
  /-- There is no class of that name. -/
  | unknownClass
  /-- A range ends before it starts. -/
  | badRange
  /-- A backslash stands at the end. -/
  | lastBackslash
  /-- A group is not closed. -/
  | openGroup
  /-- A group is closed that was not opened. -/
  | strayClose
  /-- Bounds are not closed. -/
  | openBounds
  /-- Bounds are not numbers in order. -/
  | badBounds
  /-- A bound is too large. -/
  | tooBig
  /-- There is no group of that number. -/
  | unknownGroup
deriving DecidableEq, Repr

/-- A fault in words. -/
def Fault.message : Fault → String
  | .bare => "Invalid regular expression"
  | .openSet => "Unmatched [, [^, [:, [., or [="
  | .unknownClass => "Invalid character class name"
  | .badRange => "Invalid range end"
  | .lastBackslash => "Trailing backslash"
  | .openGroup => "Unmatched ( or \\("
  | .strayClose => "Unmatched ) or \\)"
  | .openBounds => "Unmatched \\\x7b"
  | .badBounds => "Invalid content of \\\x7b\\\x7d"
  | .tooBig => "Regular expression too big"
  | .unknownGroup => "Invalid back reference"

/-- The ranges of a named class of characters. -/
def classRanges? : String → Option (List (Char × Char))
  | "alpha" => some [('a', 'z'), ('A', 'Z')]
  | "digit" => some [('0', '9')]
  | "alnum" => some [('a', 'z'), ('A', 'Z'), ('0', '9')]
  | "upper" => some [('A', 'Z')]
  | "lower" => some [('a', 'z')]
  | "space" => some [(' ', ' '), ('\t', '\r')]
  | "blank" => some [(' ', ' '), ('\t', '\t')]
  | "punct" => some [('!', '/'), (':', '@'), ('[', Char.ofNat 96), (Char.ofNat 0x7B, '~')]
  | "print" => some [(' ', '~')]
  | "graph" => some [('!', '~')]
  | "cntrl" => some [(Char.ofNat 0, Char.ofNat 31), (Char.ofNat 127, Char.ofNat 127)]
  | "xdigit" => some [('0', '9'), ('a', 'f'), ('A', 'F')]
  | _ => none

/-- The ranges of a class that there is. -/
def classRanges (name : String) : List (Char × Char) := (classRanges? name).getD []

/-- One character of a set, perhaps with marks around it, and what is left. -/
def setCharacter : List Char → Option (Char × List Char)
  | '[' :: '.' :: c :: '.' :: ']' :: rest => some (c, rest)
  | '[' :: '=' :: c :: '=' :: ']' :: rest => some (c, rest)
  | '[' :: '.' :: _ => none
  | '[' :: '=' :: _ => none
  | c :: rest => some (c, rest)
  | [] => none

/-- The members of a set up to its closing bracket, and what is left. The length is enough fuel. -/
def setMembers : Nat → Bool → List Char → Except Fault (List (Char × Char) × List Char)
  | 0, _, _ => .error .openSet
  | fuel + 1, first, cs =>
    let more := fun (ms : List (Char × Char)) (rest : List Char) =>
      (setMembers fuel false rest).map (fun (others, left) => (ms ++ others, left))
    match cs with
    | [] => .error (if first then .bare else .openSet)
    | ']' :: rest => if first then more [(']', ']')] rest else .ok ([], rest)
    | '[' :: ':' :: rest =>
      let name := rest.takeWhile Char.isAlpha
      match rest.drop name.length with
      | ':' :: ']' :: left =>
        match classRanges? (String.ofList name) with
        | some ranges => more ranges left
        | none => .error .unknownClass
      | _ => .error .openSet
    | _ =>
      match setCharacter cs with
      | none => .error .openSet
      | some (c, '-' :: d :: rest) =>
        if d = ']' then more [(c, c)] ('-' :: d :: rest)
        else match setCharacter (d :: rest) with
          | none => .error .openSet
          | some (d, rest) => if d < c then .error .badRange else more [(c, d)] rest
      | some (c, rest) => more [(c, c)] rest

/-- The largest number of times that can be asked for. -/
def mostTimes : Nat := 32767

/-- The bounds between braces, without the braces. -/
def bounds? (cs : List Char) : Option (Nat × Option Nat) :=
  let number := fun (ds : List Char) => ds.foldl (fun v d => v * 10 + (d.toNat - 48)) 0
  let low := cs.takeWhile Char.isDigit
  match cs.drop low.length with
  | [] => if low.isEmpty then none else some (number low, some (number low))
  | ',' :: high =>
    if !high.all Char.isDigit then none
    else if high.isEmpty then some (number low, none)
    else some (number low, some (number high))
  | _ => none

/-- Where reading stands: what is left, and how many groups have been opened. -/
structure Cursor where
  /-- The characters that are left. -/
  rest : List Char
  /-- The number of groups so far. -/
  groups : Nat

/-- What reading gives: an expression and where it stands then. -/
abbrev Reading := Except Fault (Regex × Cursor)

/-- The opening brace. -/
def openBrace : Char := Char.ofNat 0x7B

/-- The closing brace. -/
def closeBrace : Char := Char.ofNat 0x7D

/-- The character that stands for itself. -/
def literal (c : Char) : Regex := .oneOf false [(c, c)]

/-- The bounds at the start of a text and what is left after their closing mark. In the extended way
what is not a pair of bounds stands for itself. -/
def braces (extended : Bool) (rest : List Char) :
    Except Fault (Option (Nat × Option Nat × List Char)) :=
  let closing := if extended then [closeBrace] else ['\\', closeBrace]
  let inside := rest.takeWhile (fun c => c.isDigit || c == ',')
  let after := rest.drop inside.length
  match bounds? inside, closing.isPrefixOf after with
  | some (least, most), true =>
    if most.any (fun n => n < least) then .error .badBounds
    else if mostTimes < most.getD least then .error .tooBig
    else .ok (some (least, most, after.drop closing.length))
  | _, _ =>
    if extended then .ok none
    else if after.isEmpty then .error .openBounds
    else .error .badBounds

/-- Repeats an atom as far as operators follow it. The length is enough fuel. -/
def repeated (extended : Bool) : Nat → Regex → Cursor → Reading
  | 0, r, s => .ok (r, s)
  | fuel + 1, r, s =>
    let go := fun (least : Nat) (most : Option Nat) (rest : List Char) =>
      repeated extended fuel (.times r least most) { s with rest }
    let bounded := fun (rest : List Char) =>
      match braces extended rest with
      | .error f => .error f
      | .ok none => .ok (r, s)
      | .ok (some (least, most, left)) => go least most left
    match extended, s.rest with
    | _, '*' :: rest => go 0 none rest
    | true, '+' :: rest => go 1 none rest
    | true, '?' :: rest => go 0 (some 1) rest
    | true, c :: rest => if c = openBrace then bounded rest else .ok (r, s)
    | false, '\\' :: '+' :: rest => go 1 none rest
    | false, '\\' :: '?' :: rest => go 0 (some 1) rest
    | false, '\\' :: c :: rest => if c = openBrace then bounded rest else .ok (r, s)
    | _, _ => .ok (r, s)

mutual

/-- Reads alternatives up to the end or a closing parenthesis. -/
def alternatives (extended : Bool) : Nat → Nat → Cursor → Reading
  | 0, _, _ => .error .openGroup
  | fuel + 1, depth, s => do
    let (first, s) ← sequence extended fuel depth true s
    match extended, s.rest with
    | true, '|' :: rest =>
      let (second, s) ← alternatives extended fuel depth { s with rest }
      return (.alt first second, s)
    | false, '\\' :: '|' :: rest =>
      let (second, s) ← alternatives extended fuel depth { s with rest }
      return (.alt first second, s)
    | _, _ => return (first, s)

/-- Reads atoms in a row; `first` at the start of an alternative. -/
def sequence (extended : Bool) : Nat → Nat → Bool → Cursor → Reading
  | 0, _, _, _ => .error .openGroup
  | fuel + 1, depth, first, s =>
    match s.rest with
    | [] => .ok (.empty, s)
    | c :: rest =>
      let closes := if extended then c = ')' ∧ 0 < depth else c = '\\' ∧ rest.head? = some ')'
      let splits := if extended then c = '|' else c = '\\' ∧ rest.head? = some '|'
      if closes ∨ splits then .ok (.empty, s)
      else do
        let (a, s) ← atom extended fuel depth first s
        let anchored := a == .atStart && !extended
        let (a, s) ← if anchored then .ok (a, s) else repeated extended (s.rest.length + 1) a s
        let (more, s) ← sequence extended fuel depth anchored s
        return (if more == .empty then a else .seq a more, s)

/-- Reads one atom. -/
def atom (extended : Bool) : Nat → Nat → Bool → Cursor → Reading
  | 0, _, _, _ => .error .openGroup
  | fuel + 1, depth, first, s =>
    let one := fun (r : Regex) (rest : List Char) => (.ok (r, { s with rest }) : Reading)
    let set := fun (negated : Bool) (rest : List Char) =>
      (setMembers (rest.length + 1) true rest).map
        (fun (ms, left) => (Regex.oneOf negated ms, { s with rest := left }))
    let grouped := fun (rest : List Char) => (do
      let number := s.groups + 1
      let (inner, t) ← alternatives extended fuel (depth + 1) ⟨rest, number⟩
      match extended, t.rest with
      | true, ')' :: left => .ok (.group number inner, { t with rest := left })
      | false, '\\' :: ')' :: left => .ok (.group number inner, { t with rest := left })
      | _, _ => .error .openGroup : Reading)
    match s.rest with
    | [] => .ok (.empty, s)
    | '.' :: rest => one (.oneOf true [(Char.ofNat 0, Char.ofNat 0)]) rest
    | '[' :: '^' :: rest => set true rest
    | '[' :: rest => set false rest
    | '^' :: rest => if extended ∨ first then one .atStart rest else one (literal '^') rest
    | '$' :: rest =>
      let last := extended ∨ rest.isEmpty ∨ ['\\', ')'].isPrefixOf rest ∨
        ['\\', '|'].isPrefixOf rest
      if last then one .atEnd rest else one (literal '$') rest
    | '(' :: rest => if extended then grouped rest else one (literal '(') rest
    | '\\' :: c :: rest =>
      if c = '(' ∧ !extended then grouped rest
      else if c.isDigit ∧ c ≠ '0' then
        let n := c.toNat - 48
        if n ≤ s.groups then one (.again n) rest else .error .unknownGroup
      else if c = '<' ∨ c = '>' ∨ c = 'b' ∨ c = 'B' then one (.edge c) rest
      else if c = 'w' then one (.oneOf false (('_', '_') :: classRanges "alnum")) rest
      else if c = 'W' then one (.oneOf true (('_', '_') :: classRanges "alnum")) rest
      else if c = 's' then one (.oneOf false (classRanges "space")) rest
      else if c = 'S' then one (.oneOf true (classRanges "space")) rest
      else if c = 'n' then one (literal '\n') rest
      else if c = 't' then one (literal '\t') rest
      else one (literal c) rest
    | '\\' :: [] => .error .lastBackslash
    | c :: rest =>
      if extended ∧ first ∧ (c = '*' ∨ c = '+' ∨ c = '?') then one .empty rest
      else one (literal c) rest

end

/-- Reads an expression, in the extended way if asked. -/
def read (extended : Bool) (text : String) : Except Fault Regex :=
  let cs := text.toList
  match alternatives extended (8 * cs.length + 16) 0 ⟨cs, 0⟩ with
  | .ok (r, s) => if s.rest.isEmpty then .ok r else .error .strayClose
  | .error f => .error f

/-- An expression that only matches a text. -/
def ofText (text : String) : Regex := text.toList.foldr (fun c r => .seq (literal c) r) .empty

end Regex

end BlockCoverage.Text
