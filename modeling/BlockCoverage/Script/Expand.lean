import BlockCoverage.Script.Arithmetic
import BlockCoverage.Script.Machine
import BlockCoverage.Script.Pattern

/-!
# Expanding words

A word is expanded in three steps. First everything in it is filled in, which gives *atoms*:
characters that remember whether they may cut fields and whether they may have a special meaning in
a pattern. Then the atoms are cut into fields. Last, a field that is a pattern is replaced by the
paths that match it.

What a script in a word writes is found by a function that is given, so that nothing here depends on
how scripts are run.
-/

namespace BlockCoverage.Script

/-- How to find what a script writes. -/
abbrev Capture := List Command → Machine → String × Machine

/-- A part of an expanded word. -/
inductive Atom where
  /-- A character; whether it may cut fields, and whether it may be special in a pattern. -/
  | char (c : Char) (splits special : Bool)
  /-- Characters that are all of one kind. -/
  | run (text : String) (splits special : Bool)
  /-- A place where quotes stood, which makes a field. -/
  | mark
  /-- A place where one field ends and the next begins. -/
  | gap
deriving DecidableEq

/-- How a word is expanded. -/
structure Manner where
  /-- Whether it is cut into fields. -/
  full : Bool
  /-- Whether its own unquoted characters may cut fields. -/
  inner : Bool

namespace Expand

/-- A text as atoms. -/
def atoms (text : String) (splits special : Bool) : List Atom :=
  if text = "" then [] else [.run text splits special]

/-- The text of one atom. -/
def atomText : Atom → String
  | .char c _ _ => String.singleton c
  | .run text _ _ => text
  | .mark | .gap => ""

/-- The text of atoms. -/
def textOf (as : List Atom) : String := String.join (as.map atomText)

/-- The same atoms with every character on its own. -/
def spread (as : List Atom) : List Atom :=
  as.flatMap (fun a => match a with
    | .run text splits special => text.toList.map (fun c => .char c splits special)
    | other => [other])

/-- The pattern that atoms spell. -/
def patternOf (as : List Atom) : Pattern :=
  as.flatMap (fun a => match a with
    | .char c _ special => [(c, special)]
    | .run text _ special => text.toList.map (fun c => (c, special))
    | .mark | .gap => [])

/-! ## Fields -/

/-- The state of cutting atoms into fields. -/
structure Cutting where
  /-- Finished fields, the last first. -/
  fields : List (List Atom)
  /-- The current field, its last atom first. -/
  current : List Atom
  /-- Whether there is a current field. -/
  started : Bool
  /-- Whether a blank has just cut a field, so that one more separator belongs to it. -/
  blank : Bool
  /-- How many fields may still be started, if there is a limit. -/
  left : Option Nat
  /-- How much of the last field counts if only separators follow. -/
  cut : Option Nat

/-- The character that stands between unquoted arguments; no text has it. -/
def between : Char := Char.ofNat 0

namespace Cutting

/-- Ends the current field. -/
def close (s : Cutting) : Cutting :=
  { s with fields := s.current.reverse :: s.fields, current := [], started := false }

/-- Adds a character to the current field. -/
def push (s : Cutting) (c : Char) (special : Bool) : Cutting :=
  { s with current := .char c false special :: s.current, started := true }

/-- Adds characters to the current field none of which cuts. -/
def pushRun (s : Cutting) (text : String) (special : Bool) : Cutting :=
  { s with
    current := .run text false special :: s.current
    started := true
    blank := false
    cut := none }

/-- Takes one character that may cut. A zero stands between arguments and always cuts. -/
def step (separators : List Char) (s : Cutting) (c : Char) (special : Bool) : Cutting :=
  let separates := c == between || separators.contains c
  let isBlank := separates && (c == ' ' || c == '\t' || c == '\n' || c == between)
  if s.left = some 0 then
    if isBlank then
      let cut := s.cut.getD s.current.length
      { s.push c special with cut := some cut }
    else
      let cut := if separates && s.blank then s.cut else none
      { s.push c special with cut, blank := false }
  else if s.blank then
    if isBlank then s
    else if separates then { s with blank := false }
    else { s with blank := false }.push c special
  else if separates then
    if isBlank && !s.started then s
    else
      match s.left with
      | some 1 =>
        { s.push c special with cut := some s.current.length, left := some 0, blank := isBlank }
      | some (n + 1) => { s.close with left := some n, blank := isBlank }
      | _ => { s.close with blank := isBlank }
  else s.push c special

/-- Takes one atom. -/
def take (separators : List Char) (s : Cutting) : Atom → Cutting
  | .char c true special => s.step separators c special
  | .char c false special => { s with blank := false }.push c special
  | .run text true special =>
    if text.any (fun c => c == between || separators.contains c) then
      text.toList.foldl (fun s c => s.step separators c special) s
    else s.pushRun text special
  | .run text false special => s.pushRun text special
  | .mark => { s with blank := false, started := true }
  | .gap => if s.started then { s.close with blank := false } else { s with blank := false }

/-- The fields at the end. -/
def finish (s : Cutting) : List (List Atom) :=
  let whole := s.current.reverse
  let last := match s.cut with
    | some n => whole.take n
    | none => whole
  if s.started && !(s.cut.isSome && last.isEmpty) then (last :: s.fields).reverse
  else s.fields.reverse

end Cutting

/-- Cuts atoms into fields; with a `limit` the last field takes all that is left. -/
def fields (separators : String) (limit : Option Nat) (as : List Atom) : List (List Atom) :=
  let cuts := separators.toList
  (as.foldl (Cutting.take cuts) ⟨[], [], false, false, limit, none⟩).finish

/-! ## Paths that match -/

/-- The stretches of a pattern between slashes. -/
def stretches (p : Pattern) : List Pattern :=
  p.foldr (fun e acc =>
    if e.1 = '/' then [] :: acc
    else match acc with
      | first :: rest => (e :: first) :: rest
      | [] => [[e]]) [[]]

/-- The text that a stretch without special characters stands for. -/
def plainText (p : Pattern) : String := String.ofList (p.map Prod.fst)

/-- The paths below `base` that match the stretches of a pattern. -/
def matching (files : Files) : List Pattern → String → List String
  | [], base => if files.exists? (Machine.path base) then [base] else []
  | stretch :: rest, base =>
    let slash := if rest.isEmpty then "" else "/"
    if Pattern.isSpecial stretch then
      let dir := if base = "" then "." else Machine.path base
      let dotted := stretch.head?.map Prod.fst = some '.'
      let names := match files.list dir with
        | .ok names => names.map Text.Octets.encode
        | .error _ => []
      let seen := (if dotted then [".", ".."] else []) ++
        names.filter (fun n => dotted || n.toList.head? != some '.')
      (seen.filter (Pattern.isMatch stretch)).flatMap (fun n =>
        if rest.isEmpty then [base ++ n] else matching files rest (base ++ n ++ slash))
    else if stretch.isEmpty && rest.isEmpty then
      if files.isDirectory (Machine.path base) then [base] else []
    else matching files rest (base ++ plainText stretch ++ slash)

/-- Whether a character can have a special meaning in a pattern. -/
def isWild (c : Char) : Bool := c == '*' || c == '?' || c == '['

/-- Whether a field can be a pattern. -/
def mayBePattern (field : List Atom) : Bool :=
  field.any (fun a => match a with
    | .char c _ special => special && isWild c
    | .run text _ special => special && text.any isWild
    | .mark | .gap => false)

/-- The paths that a field stands for: itself, unless it is a pattern that something matches. -/
def paths (m : Machine) (field : List Atom) : List String :=
  if m.has 'f' || !mayBePattern field then [textOf field]
  else
    let p := patternOf field
    if !Pattern.isSpecial p then [textOf field]
    else match (matching m.world.files (stretches p) "").mergeSort (fun a b => decide (a ≤ b)) with
      | [] => [textOf field]
      | found => found

/-! ## Filling in -/

/-- The value of a tilde with a user's name. -/
def home? (m : Machine) (user : String) : Option String :=
  if user = "" then m.lookup? "HOME" else if user = "root" then some "/root" else none

/-- The unquoted characters in front of a word, up to a slash, or up to a colon too. -/
def tildeName (colons : Bool) : Word → Option String × Word
  | .char c false :: rest =>
    if c = '/' ∨ (colons ∧ c = ':') then (some "", .char c false :: rest)
    else
      let (name, left) := tildeName colons rest
      (name.map (fun n => String.singleton c ++ n), left)
  | [] => (some "", [])
  | w => (none, w)

/-- Replaces a tilde at the front of a word. -/
def tilde (m : Machine) (colons : Bool) (w : Word) : Word :=
  match w with
  | .char '~' false :: rest =>
    match tildeName colons rest with
    | (some user, left) =>
      match home? m user with
      | some dir => .quotes :: dir.toList.map (fun c => .char c true) ++ left
      | none => w
    | (none, _) => w
  | _ => w

/-- Replaces a tilde at the front of a word and after its unquoted colons. The length of the word is
enough fuel. -/
def tildes (m : Machine) : Nat → Word → Word
  | 0, w => w
  | fuel + 1, w =>
    let replaced := tilde m true w
    let isColon := fun (p : Piece) => match p with
      | .char ':' false => true
      | _ => false
    let front := replaced.takeWhile (fun p => !isColon p)
    match replaced.drop front.length with
    | colon :: rest => front ++ colon :: tildes m fuel rest
    | [] => replaced

/-- The separator between the arguments when they are joined. -/
def joint? (m : Machine) : Option Char := m.separators.toList.head?

/-- The arguments of the shell as atoms. -/
def argumentAtoms (m : Machine) (manner : Manner) (name : String) (quoted : Bool) : List Atom :=
  let each := m.arguments.map (fun a => atoms a (!quoted) (!quoted))
  if manner.full && name == "@" && quoted then ((each.map (.mark :: ·)).intersperse [.gap]).flatten
  else
    let joint := if manner.full && !quoted && (m.lookup? "IFS").isSome then some between
      else joint? m
    (each.intersperse (joint.toList.map (fun c => .char c (!quoted) false))).flatten

/-- The value of a parameter other than the list of arguments. -/
def parameter? (m : Machine) (name : String) : Option String :=
  match name with
  | "?" => some (Nat.repr m.status)
  | "#" => some (Nat.repr m.arguments.length)
  | "$" => some (Nat.repr m.self)
  | "!" => m.latest.map Nat.repr
  | "-" => some m.shownOptions
  | _ =>
    match Numeral.count? name with
    | some 0 => some m.name
    | some (n + 1) => m.arguments[n]?
    | none => m.lookup? name

/-- Whether a name stands for the list of arguments. -/
def isList (name : String) : Bool := name == "@" || name == "*"

/-- Whether an atom stands between two arguments. -/
def isBetween : Atom → Bool
  | .gap => true
  | .char c _ _ => c == between
  | .run _ _ _ | .mark => false

/-- The characters of the first of the arguments that atoms spell. -/
def firstText (as : List Atom) : List Char :=
  ((spread as).takeWhile (fun a => !isBetween a)).filterMap (fun a => match a with
    | .char c _ _ => some c
    | _ => none)

/-- Atoms of a list of arguments without the shortest or longest match of a pattern at their front
or their end. Looking for the longest match from the end and the shortest from the front does not go
beyond the first argument. -/
def trimList (is : List Pattern.Item) (front longest : Bool) (as : List Atom) : List Atom :=
  let fits := fun (part : List Atom) => Pattern.fits is (firstText part)
  let ends := (as.takeWhile (fun a => !isBetween a)).length
  let places := if front = longest then (List.range (as.length + 1)).reverse
    else List.range (ends + 1)
  if front then
    match places.find? (fun n => fits (as.take n)) with
    | some n => as.drop n
    | none => as
  else
    match places.find? (fun n => fits (as.drop n)) with
    | some n => as.take n
    | none => as

/-- Atoms without the shortest or longest match of a pattern at their front or their end. -/
def trim (p : Pattern) (front longest : Bool) (value : List Atom) : List Atom :=
  let is := p.toItems
  let as := spread value
  if as.any (fun a => isBetween a || a == .mark) then trimList is front longest as
  else
    let choose := fun (found : List Nat) => if longest then found.head? else found.getLast?
    let cs := firstText as
    if front then
      match choose (Pattern.lengths is cs) with
      | some n => as.drop n
      | none => as
    else
      match choose (Pattern.lengths is.reverse cs.reverse) with
      | some n => as.take (as.length - n)
      | none => as

/-- Evaluates an arithmetic expression and sets the variables that it assigns to. -/
def arithmetic (text : String) : StateM Machine String := do
  let m ← get
  match Arithmetic.parse text >>= (fun e => Arithmetic.evaluate m.lookup? e []) with
  | .error fault =>
    set (m.abort (fault.message text))
    return ""
  | .ok (v, changes) =>
    set (changes.foldr (fun (name, value) m => m.assign name value) m)
    return Numeral.write v.toInt

/-- The message about a parameter that is not set. -/
def notSet (nonEmpty : Bool) (text : String) : String :=
  if text ≠ "" then text
  else if nonEmpty then "parameter not set or null"
  else "parameter not set"

mutual

/-- Fills in the pieces of a word; `done` holds the atoms so far, the last first. -/
def piecesAfter (capture : Capture) : Nat → Manner → List Atom → Word → StateM Machine (List Atom)
  | 0, _, done, _ => return done.reverse
  | _ + 1, _, done, [] => return done.reverse
  | fuel + 1, manner, done, p :: rest =>
    match p with
    | .char c quoted =>
      piecesAfter capture fuel manner (.char c (manner.inner && !quoted) (!quoted) :: done) rest
    | .quotes => piecesAfter capture fuel manner (.mark :: done) rest
    | _ => do
      let front ← piece capture fuel manner p
      if (← get).isGoing then piecesAfter capture fuel manner (front.reverseAux done) rest
      else return []

/-- Fills in the pieces of a word. -/
def pieces (capture : Capture) : Nat → Manner → Word → StateM Machine (List Atom)
  | 0, _, _ => return []
  | fuel + 1, manner, w => piecesAfter capture fuel manner [] w

/-- Fills in one piece. -/
def piece (capture : Capture) : Nat → Manner → Piece → StateM Machine (List Atom)
  | 0, _, _ => return []
  | fuel + 1, manner, p => do
    match p with
    | .char c quoted => return [.char c (manner.inner && !quoted) (!quoted)]
    | .quotes => return [.mark]
    | .output script quoted =>
      let (text, after) := capture script (← get)
      set after
      return atoms text (!quoted) (!quoted)
    | .sum inside quoted =>
      let text := textOf (← pieces capture fuel ⟨false, false⟩ inside)
      if !(← get).isGoing then return []
      return atoms (← arithmetic text) (!quoted) (!quoted)
    | .param name form quoted => param capture fuel manner name form quoted

/-- Fills in a parameter. -/
def param (capture : Capture) : Nat → Manner → String → Form → Bool → StateM Machine (List Atom)
  | 0, _, _, _, _ => return []
  | fuel + 1, manner, name, form, quoted => do
    let m ← get
    let list := isList name
    let value : Option (List Atom) :=
      if list then some (argumentAtoms m manner name quoted)
      else (parameter? m name).map (fun s => atoms s (!quoted) (!quoted))
    let shown := value.getD []
    let isUnset := fun (nonEmpty : Bool) =>
      value.isNone || (nonEmpty && textOf shown == "" && !shown.contains .gap)
    let inside : Manner := ⟨manner.full, !quoted⟩
    let demanded := m.has 'u' && value.isNone && !list
    let refuse := fun (text : String) => (do
      set ((← get).abort (name ++ ": " ++ text))
      return [] : StateM Machine (List Atom))
    match form with
    | .bad =>
      set (m.abort "Bad substitution")
      return []
    | .value => if demanded then refuse (notSet false "") else return shown
    | .length =>
      if demanded then refuse (notSet false "")
      else
        let joined := if list then argumentAtoms m ⟨false, false⟩ name quoted else shown
        return atoms (Nat.repr (textOf joined).length) (!quoted) (!quoted)
    | .orElse nonEmpty w =>
      if isUnset nonEmpty then pieces capture fuel inside w else return shown
    | .instead nonEmpty w =>
      if isUnset nonEmpty then return [] else pieces capture fuel inside w
    | .orSet nonEmpty w =>
      if !isUnset nonEmpty then return shown
      else
        let text := textOf (← pieces capture fuel ⟨false, false⟩ (tildes m w.length w))
        if !(← get).isGoing then return []
        if !isName name then refuse "bad variable name"
        else
          modify (fun m => m.assign name text)
          return atoms text (!quoted) (!quoted)
    | .orFail nonEmpty w =>
      if !isUnset nonEmpty then return shown
      else
        let text := textOf (← pieces capture fuel ⟨false, false⟩ w)
        if !(← get).isGoing then return []
        refuse (notSet nonEmpty text)
    | .trim front longest w =>
      if demanded then refuse (notSet false "")
      else
        let p := patternOf (← pieces capture fuel ⟨false, false⟩ (tilde m false w))
        if !(← get).isGoing then return []
        return trim p front longest shown

end

/-! ## Words in their places -/

/-- The characters of a word in which nothing has to be filled in and no character may be special,
if it is one; `done` holds those so far, the last first. -/
def literal? : List Char → Word → Option (List Char)
  | done, [] => some done.reverse
  | done, .quotes :: rest => literal? done rest
  | done, .char c quoted :: rest =>
    if !quoted && (c == '~' || c == '*' || c == '?' || c == '[' || c == '\\') then none
    else literal? (c :: done) rest
  | _, _ => none

/-- The fields that a word makes. -/
def word (capture : Capture) (fuel : Nat) (w : Word) : StateM Machine (List String) := do
  if let some cs := if w.isEmpty then none else literal? [] w then return [String.ofList cs]
  let filled ← pieces capture fuel ⟨true, false⟩ (tilde (← get) false w)
  let m ← get
  return (fields m.separators none filled).flatMap (paths m)

/-- The fields that words make, in order. -/
def words (capture : Capture) (fuel : Nat) : List Word → StateM Machine (List String)
  | [] => return []
  | w :: rest => do
    let front ← word capture fuel w
    if (← get).isGoing then return front ++ (← words capture fuel rest) else return []

/-- The text of a word that is not cut into fields. -/
def text (capture : Capture) (fuel : Nat) (w : Word) : StateM Machine String := do
  if let some cs := literal? [] w then return String.ofList cs
  return textOf (← pieces capture fuel ⟨false, false⟩ (tilde (← get) false w))

/-- The text that a variable is set to. -/
def assigned (capture : Capture) (fuel : Nat) (w : Word) : StateM Machine String := do
  if let some cs := literal? [] w then return String.ofList cs
  return textOf (← pieces capture fuel ⟨false, false⟩ (tildes (← get) (w.length + 1) w))

/-- The pattern that a word makes. -/
def pattern (capture : Capture) (fuel : Nat) (w : Word) : StateM Machine Pattern := do
  return patternOf (← pieces capture fuel ⟨false, false⟩ (tilde (← get) false w))

end Expand

end BlockCoverage.Script
