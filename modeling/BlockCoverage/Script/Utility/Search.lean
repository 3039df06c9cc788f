import BlockCoverage.Script.Utility.Ends
import BlockCoverage.Text.Regex

/-!
# Programs that look for patterns
-/

namespace BlockCoverage.Script.Utility

open Text (Bytes Regex)
open Machine (wording path)

/-! ## Lines that match -/

/-- A line of a file that has been looked through. -/
structure Looked where
  /-- Its number, from one. -/
  number : Nat
  /-- How many octets are before it. -/
  offset : Nat
  /-- Its text. -/
  text : String
  /-- Whether it is one of those that are looked for. -/
  selected : Bool

/-- How lines are looked for. -/
structure Wanted where
  /-- One of these has to match. -/
  expressions : List Regex
  /-- Whether two characters count as the same. -/
  same : Char → Char → Bool
  /-- Whether the whole line has to match. -/
  wholeLine : Bool
  /-- Whether whole words have to match. -/
  wholeWord : Bool
  /-- Whether lines that do not match are wanted. -/
  inverted : Bool

/-- The matches of an expression in a text from an index on. The length of the text is enough
fuel. -/
def matchesFrom (w : Wanted) (r : Regex) (text : Array Char) : Nat → Nat → List (Nat × Nat)
  | 0, _ => []
  | fuel + 1, index =>
    match r.find? text w.same (text.size + 2) index with
    | none => []
    | some (start, p) =>
      let wordBefore := 0 < start && ((text[start - 1]?).map Regex.inWord).getD false
      let wordAfter := ((text[p.index]?).map Regex.inWord).getD false
      let fits := (!w.wholeLine || (start = 0 && p.index = text.size)) &&
        (!w.wholeWord || (!wordBefore && !wordAfter && start < p.index))
      let next := if fits && start < p.index then p.index else start + 1
      let more := if text.size < next then [] else matchesFrom w r text fuel next
      if fits then (start, p.index) :: more else more

/-- An expression that has to match a whole line. -/
def anchored (r : Regex) : Regex := .seq .atStart (.seq r .atEnd)

/-- Whether a line is one of those that are wanted. -/
def Wanted.selects (w : Wanted) (text : String) : Bool :=
  let cs := text.toList.toArray
  let found := w.expressions.any (fun r =>
    if w.wholeWord then !(matchesFrom w r cs (cs.size + 2) 0).isEmpty
    else ((if w.wholeLine then anchored r else r).find? cs w.same (cs.size + 2) 0).isSome)
  found != w.inverted

/-- The parts of a line that match, none of them empty, each with the number of characters before
it. -/
def Wanted.partsOf (w : Wanted) (text : String) : List (Nat × String) :=
  let cs := text.toList.toArray
  let all := w.expressions.flatMap (fun r => matchesFrom w r cs (cs.size + 2) 0)
  let sorted := all.mergeSort (fun a b => a.1 < b.1 || (a.1 == b.1 && b.2 ≤ a.2))
  let step := fun (acc : List (Nat × String) × Nat) (p : Nat × Nat) =>
    if p.1 < acc.2 ∨ p.1 = p.2 then acc
    else ((p.1, String.ofList (cs.extract p.1 p.2).toList) :: acc.1, p.2)
  (sorted.foldl step ([], 0)).1.reverse

/-- All files at or below an operand. -/
def filesBelow (m : Machine) (operand : String) : List String :=
  match m.look true operand with
  | .ok (loc, .directory _) =>
    m.world.files.names.entries.filterMap (fun (k, entry) =>
      match entry with
      | .file _ =>
        if loc.isPrefixOf k then
          some (String.intercalate "/" (operand :: (k.drop loc.length).map Text.Octets.encode))
        else none
      | _ => none)
  | _ => [operand]

/-- Writes the lines that match a pattern. -/
def grep (fixed extended : Bool) : Utility := fun args m =>
  let long := [("quiet", 'q'), ("silent", 'q'), ("count", 'c'), ("invert-match", 'v'),
    ("ignore-case", 'i'), ("fixed-strings", 'F'), ("extended-regexp", 'E'), ("line-number", 'n'),
    ("line-regexp", 'x'), ("word-regexp", 'w'), ("only-matching", 'o'), ("no-messages", 's'),
    ("files-with-matches", 'l'), ("files-without-match", 'L'), ("no-filename", 'h'),
    ("with-filename", 'H'), ("regexp", 'e'), ("file", 'f'), ("max-count", 'm'), ("text", 'a'),
    ("recursive", 'r'), ("after-context", 'A'), ("before-context", 'B'), ("context", 'C'),
    ("null-data", 'z'), ("byte-offset", 'b'), ("initial-tab", 'T'), ("color", 'O'), ("colour", 'O')]
  match Switches.permuted "qcviyFEGPnxwoslLhHe:f:m:abrRUzTA:B:C:O::" long args with
  | .error text =>
    ((note "grep" text m).warn ("Usage: grep [OPTION]... PATTERNS [FILE]...\n" ++
      "Try 'grep --help' for more information.\n")).leave 2
  | .ok (switches, operands) =>
    let has := Switches.given switches
    let explicit := switches.filterMap (fun s => if s.letter = 'e' then some s.value else none)
    let (fromFiles, m) := (switches.filter (fun s => s.letter == 'f')).foldl
      (fun (acc : List String × Machine) s =>
        match source s.value acc.2 with
        | .ok (t, m) => (acc.1 ++ textLines t, m)
        | .error cause =>
          (acc.1, fail "grep" (s.value ++ ": " ++ wording cause) 2 acc.2)) ([], m.leave 0)
    let listed := has 'e' || has 'f'
    let (patterns, operands) := if listed then (explicit ++ fromFiles, operands)
      else (operands.take 1, operands.drop 1)
    if m.status ≠ 0 then m
    else if patterns.isEmpty && !listed then
      (m.warn ("Usage: grep [OPTION]... PATTERNS [FILE]...\n" ++
        "Try 'grep --help' for more information.\n")).leave 2
    else
      let texts := patterns.flatMap (fun p => p.splitOn "\n")
      let isFixed := (fixed || has 'F') && !has 'E' && !has 'G'
      let isExtended := extended || has 'E' || has 'P'
      let read := texts.mapM (fun t => if isFixed then .ok (Regex.ofText t)
        else Regex.read isExtended t)
      match read with
      | .error fault => fail "grep" fault.message 2 m
      | .ok expressions =>
        let folds := has 'i' || has 'y'
        let wanted : Wanted :=
          { expressions
            same := if folds then fun a b => a.toLower == b.toLower else fun a b => a == b
            wholeLine := has 'x', wholeWord := has 'w', inverted := has 'v' }
        let deep := has 'r' || has 'R'
        let operands := if deep then
          (if operands.isEmpty then ["."] else operands).flatMap (filesBelow m)
          else operands
        let named := has 'H' || ((1 < operands.length || deep) && !has 'h')
        let most := (Switches.value? switches 'm').bind Numeral.count?
        let context := fun (c : Char) =>
          ((Switches.value? switches c).bind Numeral.count?).getD
            (((Switches.value? switches 'C').bind Numeral.count?).getD 0)
        let (after, before) := (context 'A', context 'B')
        let one := fun (acc : Bool × Bool × Machine) (operand : String) =>
          let (found, failed, m) := acc
          if has 'q' && found then acc
          else match source operand m with
            | .error cause =>
              let m := if has 's' then m else note "grep" (operand ++ ": " ++ wording cause) m
              (found, true, m)
            | .ok (s, m) =>
              let label := if operand = "-" then "(standard input)" else operand
              let ls := if has 'z' then zeroLines s else textLines s
              let sayLines := sayNames (has 'z')
              let step := fun (acc : List Looked × Nat × Nat × Nat) (text : String) =>
                let (done, number, offset, hits) := acc
                let selected := most.all (fun k => hits < k) && wanted.selects text
                (⟨number, offset, text, selected⟩ :: done, number + 1, offset + text.length + 1,
                  if selected then hits + 1 else hits)
              let (reversed, _, _, hits) := ls.foldl step ([], 1, 0, 0)
              let looked := reversed.reverse
              let any := 0 < hits
              let front := fun (separator : String) (number offset : Nat) =>
                (if named then label ++ separator else "") ++
                  (if has 'n' then Nat.repr number ++ separator else "") ++
                  (if has 'b' then Nat.repr offset ++ separator else "")
              let out :=
                if has 'q' then m
                else if has 'l' then (if any then m.say (label ++ "\n") else m)
                else if has 'L' then (if any then m else m.say (label ++ "\n"))
                else if has 'c' then
                  m.say ((if named then label ++ ":" else "") ++ Nat.repr hits ++ "\n")
                else if any && s.contains 0 && !has 'a' && !has 'z' then
                  m.warn ("grep: " ++ label ++ ": binary file matches\n")
                else if has 'o' then
                  sayLines (looked.flatMap (fun l =>
                    if l.selected && !wanted.inverted then
                      (wanted.partsOf l.text).map
                        (fun (k, t) => front ":" l.number (l.offset + k) ++ t)
                    else [])) m
                else if after = 0 ∧ before = 0 then
                  sayLines (looked.filterMap (fun l =>
                    if l.selected then some (front ":" l.number l.offset ++ l.text) else none)) m
                else
                  let chosen := (looked.filter (fun l => l.selected)).map (fun l => l.number)
                  let near := looked.filter (fun l =>
                    chosen.any (fun n => n ≤ l.number + before && l.number ≤ n + after))
                  let lines := near.foldl (fun (acc : List String × Nat) l =>
                    let gap := if 0 < acc.2 ∧ acc.2 + 1 < l.number then ["--"] else []
                    let shownLine := front (if l.selected then ":" else "-") l.number l.offset ++
                      l.text
                    (shownLine :: (gap ++ acc.1), l.number)) ([], 0)
                  sayLines lines.1.reverse m
              (found || any, failed, out)
        let (found, failed, m) :=
          (if operands.isEmpty then ["-"] else operands).foldl one (false, false, m.leave 0)
        m.leave (if failed && !(has 'q' && found) then 2 else if found then 0 else 1)

/-! ## Expressions -/

/-- Whether a text is a whole number. -/
def whole? (text : String) : Option Int :=
  match text.toList with
  | '-' :: rest => if rest.isEmpty ∨ !rest.all Char.isDigit then none
      else some (-((Numeral.digits 10 0 rest).1 : Int))
  | cs =>
    if cs.isEmpty ∨ !cs.all Char.isDigit then none else some ((Numeral.digits 10 0 cs).1 : Int)

/-- Whether a value counts as false. -/
def isNull (text : String) : Bool :=
  text == "" || (whole? text == some 0)

/-- Why an expression has no value: a message and an exit status. -/
structure ExprFault where
  /-- The message. -/
  text : String
  /-- The exit status. -/
  status : Nat

/-- A value and the words after it. -/
abbrev ExprResult := Except ExprFault (String × List String)

/-- Matches a text from its start: the first group, or the number of characters. -/
def matchPrefix (text pattern : String) : Except ExprFault String :=
  match Regex.read false pattern with
  | .error fault => .error ⟨fault.message, 2⟩
  | .ok r =>
    let cs := text.toList.toArray
    let hasGroup := ("\\(".toList.isPrefixOf pattern.toList) || (pattern.splitOn "\\(").length != 1
    match r.matchAt? cs (fun a b => a == b) 0 with
    | none => .ok (if hasGroup then "" else "0")
    | some p =>
      if hasGroup then
        .ok (match p.groups.lookup 1 with
          | some (a, b) => String.ofList (cs.extract a b).toList
          | none => "")
      else .ok (Nat.repr p.index)

/-- The result of an arithmetic operator. -/
def calculate (op a b : String) : Except ExprFault String :=
  match whole? a, whole? b with
  | some x, some y =>
    if (op = "/" ∨ op = "%") ∧ y = 0 then .error ⟨"division by zero", 2⟩
    else .ok (Numeral.write (match op with
      | "+" => x + y
      | "-" => x - y
      | "*" => x * y
      | "/" => Int.tdiv x y
      | _ => Int.tmod x y))
  | _, _ => .error ⟨"non-integer argument", 2⟩

/-- The result of a comparison. -/
def compared (op a b : String) : String :=
  let order : Ordering := match whole? a, whole? b with
    | some x, some y => compare x y
    | _, _ => compare a b
  let holds : Bool := match op with
    | "<" => order == .lt
    | "<=" => order != .gt
    | "=" | "==" => order == .eq
    | "!=" => order != .eq
    | ">=" => order != .lt
    | _ => order == .gt
  if holds then "1" else "0"

/-- The operators by strength, the weakest first. -/
def exprLevels : List (List String) :=
  [["|"], ["&"], ["<", "<=", "=", "==", "!=", ">=", ">"], ["+", "-"], ["*", "/", "%"], [":"]]

mutual

/-- A value at a level of strength. -/
def exprLevel : Nat → List (List String) → List String → String → ExprResult
  | 0, _, _, _ => .error ⟨"syntax error", 2⟩
  | fuel + 1, levels, words, last => do
    match levels with
    | [] => exprPrimary fuel words last
    | ops :: stronger =>
      let (left, rest) ← exprLevel fuel stronger words last
      exprMore fuel ops stronger left rest

/-- Goes on with the operators of a level. -/
def exprMore : Nat → List String → List (List String) → String → List String → ExprResult
  | 0, _, _, _, _ => .error ⟨"syntax error", 2⟩
  | fuel + 1, ops, stronger, left, words =>
    match words with
    | op :: rest =>
      if !ops.contains op then .ok (left, words)
      else do
        let (right, rest) ← exprLevel fuel stronger rest op
        let value ← match op with
          | "|" => .ok (if !isNull left then left else if isNull right then "0" else right)
          | "&" => .ok (if isNull left ∨ isNull right then "0" else left)
          | ":" => matchPrefix left right
          | "+" | "-" | "*" | "/" | "%" => calculate op left right
          | _ => .ok (compared op left right)
        exprMore fuel ops stronger value rest
    | [] => .ok (left, [])

/-- A word, a function of texts or something between parentheses. -/
def exprPrimary : Nat → List String → String → ExprResult
  | 0, _, _ => .error ⟨"syntax error", 2⟩
  | fuel + 1, words, last =>
    let operand := fun (ws : List String) (name : String) => exprPrimary fuel ws name
    match words with
    | [] => .error ⟨"syntax error: missing argument after " ++ shown last, 2⟩
    | "(" :: rest => do
      match ← exprLevel fuel exprLevels rest "(" with
      | (v, ")" :: left) => return (v, left)
      | (_, []) => .error ⟨"syntax error: expecting ')' after " ++ shown (rest.getLastD "("), 2⟩
      | (_, w :: _) => .error ⟨"syntax error: expecting ')' instead of " ++ shown w, 2⟩
    | ")" :: _ => .error ⟨"syntax error: unexpected ')'", 2⟩
    | "+" :: w :: rest => .ok (w, rest)
    | "length" :: rest =>
      if rest.isEmpty then .error ⟨"syntax error: missing argument after 'length'", 2⟩
        else do
          let (v, left) ← operand rest "length"
          return (Nat.repr v.length, left)
    | "match" :: rest => do
      let (a, left) ← operand rest "match"
      let (b, left) ← operand left a
      return (← matchPrefix a b, left)
    | "index" :: rest => do
      let (a, left) ← operand rest "index"
      let (b, left) ← operand left a
      let set := b.toList
      let place := a.toList.takeWhile (fun c => !set.contains c)
      return (Nat.repr (if place.length = a.length then 0 else place.length + 1), left)
    | "substr" :: rest => do
      let (a, left) ← operand rest "substr"
      let (i, left) ← operand left a
      let (n, left) ← operand left i
      match whole? i, whole? n with
      | some i, some n =>
        if i ≤ 0 ∨ n ≤ 0 then return ("", left)
        else return (String.ofList ((a.toList.drop (i.toNat - 1)).take n.toNat), left)
      | _, _ => return ("", left)
    | w :: rest => .ok (w, rest)

end

/-- Evaluates an expression. -/
def expr : Utility := fun args m =>
  let words := match args with
    | "--" :: rest => rest
    | _ => args
  if words.isEmpty then misuse "expr" "missing operand" 2 m
  else match exprLevel (16 * words.length + 32) exprLevels words "" with
    | .error f => fail "expr" f.text f.status m
    | .ok (_, w :: _) => fail "expr" ("syntax error: unexpected argument " ++ shown w) 2 m
    | .ok (v, []) => (m.say (v ++ "\n")).leave (if isNull v then 1 else 0)

end BlockCoverage.Script.Utility
