import BlockCoverage.Script.Pattern
import BlockCoverage.Script.Utility.Names
import BlockCoverage.Script.Utility.Times

/-!
# Programs that show names and properties

Names are shown in the order of their octets, one on a line unless another layout is asked for.
-/

namespace BlockCoverage.Script.Utility

open Machine (wording path)

/-! ## Properties -/

/-- The letter of the kind of an entry. -/
def kindLetter : Entry → Char
  | .file _ => '-'
  | .directory _ => 'd'
  | .link _ => 'l'
  | .device _ => 'c'

/-- The bits of the kind of an entry. -/
def kindBits : Entry → Nat
  | .file _ => 32768
  | .directory _ => 16384
  | .link _ => 40960
  | .device _ => 8192

/-- How many octets an entry has. -/
def sizeOf (m : Machine) : Entry → Nat
  | .file n => (m.world.files.inode n).size
  | .directory _ => 4096
  | .link target => target.utf8ByteSize
  | .device _ => 0

/-- How many blocks of 512 octets an entry takes. -/
def blocksOf (m : Machine) : Entry → Nat
  | .file n => ((m.world.files.inode n).size + 4095) / 4096 * 8
  | .directory _ => 8
  | .link _ | .device _ => 0

/-- When an entry was changed, in milliseconds. -/
def timeOf (m : Machine) : Entry → Nat
  | .file n | .directory n => (m.world.files.inode n).modified
  | .link _ | .device _ => Inode.startTime

/-- How many names an entry has: a directory has its own and one in each directory right below
it. -/
def namesOf (m : Machine) (loc : Location) : Entry → Nat
  | .file n => m.world.files.linkCount n
  | .directory _ =>
    2 + (m.world.files.names.entries.filter (fun e =>
      (e.2 matches .directory _) && e.1.length == loc.length + 1 && loc.isPrefixOf e.1)).length
  | .link _ | .device _ => 1

/-- The number of an entry. -/
def numberOf : Entry → Nat
  | .file n | .directory n => 1000000 + n
  | .link target => 2000000 + target.length
  | .device _ => 4

/-- A time as lists show it: with the time of day if it is recent, with the year otherwise. -/
def shortTime (now ms : Nat) : String :=
  let seconds := ms / 1000
  let (year, month, day) := dateOf (seconds / 86400)
  let front := monthNames.getD (month - 1) "" ++ " " ++ padLeft 2 ' ' (Nat.repr day) ++ " "
  let recent := ms ≤ now ∧ now - ms < 15778476000
  if recent then front ++ twoDigits (seconds / 3600 % 24) ++ ":" ++ twoDigits (seconds / 60 % 60)
  else front ++ " " ++ Nat.repr year

/-- A time in full. -/
def fullTime (ms : Nat) : String :=
  let seconds := ms / 1000
  let (year, month, day) := dateOf (seconds / 86400)
  Nat.repr year ++ "-" ++ twoDigits month ++ "-" ++ twoDigits day ++ " " ++
    twoDigits (seconds / 3600 % 24) ++ ":" ++ twoDigits (seconds / 60 % 60) ++ ":" ++
    twoDigits (seconds % 60) ++ "." ++ padLeft 9 '0' (Nat.repr (ms % 1000 * 1000000)) ++ " +0000"

/-- A number of octets in units of a power of 1024, rounded up, with one place below ten. -/
def humanSize (n : Nat) : String :=
  if n < 1024 then Nat.repr n
  else
    let units := [('K', 1024), ('M', 1048576), ('G', 1073741824), ('T', 1099511627776)]
    let (letter, unit) := (units.find? (fun u => n ≤ 1023 * u.2)).getD ('T', 1099511627776)
    let tenths := (n * 10 + unit - 1) / unit
    if tenths < 100 then
      Nat.repr (tenths / 10) ++ "." ++ Nat.repr (tenths % 10) ++ String.singleton letter
    else Nat.repr ((n + unit - 1) / unit) ++ String.singleton letter

/-! ## Lists of names -/

/-- A name that is to be listed. -/
structure Listed where
  /-- The name. -/
  name : String
  /-- The path that leads to it. -/
  full : String
  /-- Where it is. -/
  location : Location
  /-- What it stands for. -/
  entry : Entry

/-- Octets of a text in order. -/
def textLe (a b : String) : Bool := bytesLe (Text.Octets.ofText a) (Text.Octets.ofText b)

/-- What stands after the last point of a name. -/
def extension (name : String) : String :=
  let back := name.toList.reverse.takeWhile (fun c => c != '.')
  if back.length < name.length then String.ofList ('.' :: back.reverse) else ""

/-- The order in which names are listed. -/
def listOrder (m : Machine) (switches : List Switch) (a b : Listed) : Bool :=
  let has := Switches.given switches
  let byName := textLe a.name b.name
  let falling := fun (x y : Nat) => if x = y then byName else decide (y < x)
  if has 'S' then falling (sizeOf m a.entry) (sizeOf m b.entry)
  else if has 't' || ((has 'c' || has 'u') && !has 'l') then
    falling (timeOf m a.entry) (timeOf m b.entry)
  else if has 'X' then
    let (x, y) := (extension a.name, extension b.name)
    if x = y then byName else textLe x y
  else byName

/-- Puts names in the order in which they are listed. -/
def arranged (m : Machine) (switches : List Switch) (items : List Listed) : List Listed :=
  let has := Switches.given switches
  let isFolder := fun (i : Listed) =>
    match m.look true i.full with
    | .ok (_, .directory _) => true
    | _ => false
  let up := if has 'U' || has 'f' then items else items.mergeSort (listOrder m switches)
  let turned := if has 'r' && !(has 'U' || has 'f') then up.reverse else up
  if has 'D' then turned.filter isFolder ++ turned.filter (fun i => !isFolder i) else turned

/-- A name as it is listed. -/
def listedName (switches : List Switch) (name : String) : String :=
  let has := Switches.given switches
  if has 'Q' then
    "\"" ++ String.join (name.toList.map (fun c =>
      if c = '"' ∨ c = '\\' then "\\" ++ String.singleton c else String.singleton c)) ++ "\""
  else if has 'b' then
    String.join (name.toList.map (fun c =>
      if c = ' ' ∨ c = '\\' then "\\" ++ String.singleton c
      else if c = '\n' then "\\n" else if c = '\t' then "\\t" else String.singleton c))
  else if has 'q' then name.map (fun c => if c.toNat < 32 ∨ c.toNat = 127 then '?' else c)
  else name

/-- What stands after a name to tell its kind. -/
def kindMark (m : Machine) (switches : List Switch) (entry : Entry) : String :=
  let has := Switches.given switches
  match entry with
  | .directory _ => if has 'F' || has 'p' then "/" else ""
  | .link _ => if has 'F' then "@" else ""
  | .file _ => if has 'F' && Nat.land (modeOf m entry) 73 != 0 then "*" else ""
  | .device _ => ""

/-- A size as lists show it. -/
def listedSize (m : Machine) (switches : List Switch) (entry : Entry) : String :=
  match entry with
  | .device .null => "1, 3"
  | .device .zero => "1, 5"
  | .device .full => "1, 7"
  | .device .random => "1, 9"
  | .device .terminal => "5, 0"
  | _ => if Switches.given switches 'h' then humanSize (sizeOf m entry)
    else Nat.repr (sizeOf m entry)

/-- How many blocks an entry takes, as lists show it. -/
def listedBlocks (switches : List Switch) (blocks : Nat) : String :=
  if Switches.given switches 'h' then humanSize (blocks * 512) else Nat.repr (blocks / 2)

/-- The columns of one line of a long list, each with whether it is filled up in front. -/
def longColumns (m : Machine) (switches : List Switch) (i : Listed) : List (Bool × String) :=
  let has := Switches.given switches
  let owner := if has 'n' then "0" else "root"
  [(false, String.singleton (kindLetter i.entry) ++ Permissions.letters (modeOf m i.entry)),
    (true, Nat.repr (namesOf m i.location i.entry))] ++
    (if has 'g' then [] else [(false, owner)]) ++
    (if has 'o' || has 'G' then [] else [(false, owner)]) ++
    [(true, listedSize m switches i.entry), (false, shortTime m.world.now (timeOf m i.entry))]

/-- Where a link leads, as long lists show it. -/
def linkTail : Entry → String
  | .link target => " -> " ++ Text.Octets.encode target
  | _ => ""

/-- The widths of columns. -/
def columnWidths (rows : List (List (Bool × String))) : List Nat :=
  rows.foldl (fun widths row =>
    let here := row.map (fun c => c.2.length)
    if widths.isEmpty then here else List.zipWith max widths here) []

/-- The blanks between two places on a line; a tab reaches to a multiple of eight. The distance is
enough fuel. -/
def gap : Nat → Nat → Nat → List Char
  | 0, _, _ => []
  | fuel + 1, here, target =>
    if target ≤ here then []
    else if (here + 1) / 8 < target / 8 then '\t' :: gap fuel (here + 8 - here % 8) target
    else ' ' :: gap fuel (here + 1) target

/-- The line of cells at their places. -/
def cellLine (cells : List (String × Nat)) : String :=
  let step := fun (acc : List Char × Nat × Nat) (cell : String × Nat) =>
    let (text, here, place) := acc
    let blanks := gap (place - here) here place
    (cell.1.toList.reverse ++ blanks.reverse ++ text, place + cell.1.length, place + cell.2)
  let (text, _, _) := cells.foldl step ([], 0, 0)
  String.ofList text.reverse

/-- The widths of the columns if texts are laid out in a number of columns. -/
def layoutWidths (across : Bool) (columns : Nat) (texts : List String) : List Nat :=
  let rows := (texts.length + columns - 1) / columns
  (List.range columns).map (fun c =>
    let members :=
      texts.zipIdx.filter (fun (_, i) => (if across then i % columns else i / rows) == c)
    let widest := members.foldl (fun w (t, _) => max w t.length) 0
    if members.isEmpty then 0 else if c + 1 = columns then widest else widest + 2)

/-- Lays texts out in as many columns as fit on a line. -/
def inColumns (across : Bool) (width : Nat) (texts : List String) : String :=
  let most := max 1 (min texts.length (width / 3))
  let fits := fun (columns : Nat) => (layoutWidths across columns texts).foldl (· + ·) 0 < width
  let columns := (((List.range most).map (· + 1)).reverse.find? fits).getD 1
  let widths := layoutWidths across columns texts
  let rows := (texts.length + columns - 1) / columns
  String.join ((List.range rows).map (fun r =>
    let cells := (List.range columns).filterMap (fun c =>
      (texts[if across then r * columns + c else c * rows + r]?).map
        (fun t => (t, widths.getD c 0)))
    cellLine cells ++ "\n"))

/-- Lays texts out one after the other with commas between them. -/
def inCommas (width : Nat) (texts : List String) : String :=
  let step := fun (acc : List String × Nat) (text : String) =>
    let (parts, place) := acc
    if parts.isEmpty then ([text], text.length)
    else if width = 0 ∨ place + text.length + 2 < width then
      (text :: ", " :: parts, place + 2 + text.length)
    else (text :: ",\n" :: parts, text.length)
  let (parts, _) := texts.foldl step ([], 0)
  if parts.isEmpty then "" else String.join parts.reverse ++ "\n"

/-- The layout that the last of the switches asks for. -/
def layout (switches : List Switch) : Char :=
  let wanted :=
    (switches.filter (fun s => ['1', 'C', 'x', 'm', 'l', 'n', 'g', 'o'].contains s.letter)).map
    Switch.letter
  let long := wanted.any (fun c => ['l', 'n', 'g', 'o'].contains c)
  match wanted.getLast? with
  | some '1' => if long then 'l' else '1'
  | some 'C' => 'C'
  | some 'x' => 'x'
  | some 'm' => 'm'
  | some _ => 'l'
  | none => '1'

/-- Shows names. -/
def showNames (m : Machine) (switches : List Switch) (items : List Listed) : String :=
  let has := Switches.given switches
  let width := ((Switches.value? switches 'w').bind Numeral.count?).getD 80
  let numbers := columnWidths (items.map (fun i => [(true, Nat.repr (numberOf i.entry))]))
  let blocks :=
    columnWidths (items.map (fun i => [(true, listedBlocks switches (blocksOf m i.entry))]))
  let separate := layout switches == 'm'
  let front := fun (i : Listed) =>
    let fill := fun (widths : List Nat) (text : String) =>
      (if separate then text else padLeft (widths.headD 0) ' ' text) ++ " "
    (if has 'i' then fill numbers (Nat.repr (numberOf i.entry)) else "") ++
      (if has 's' then fill blocks (listedBlocks switches (blocksOf m i.entry)) else "")
  let plain := fun (i : Listed) => front i ++ listedName switches i.name ++
    kindMark m switches i.entry
  match layout switches with
  | 'l' =>
    let widths := columnWidths (items.map (longColumns m switches))
    let line := fun (i : Listed) =>
      let cells := (longColumns m switches i).zip widths
      let texts := cells.map (fun ((left, text), w) => if left then padLeft w ' ' text
        else padRight w text)
      let mark := if i.entry matches .link _ then "" else kindMark m switches i.entry
      front i ++ String.intercalate " " texts ++ " " ++ listedName switches i.name ++
        linkTail i.entry ++ mark ++ "\n"
    String.join (items.map line)
  | 'C' => inColumns false width (items.map plain)
  | 'x' => inColumns true width (items.map plain)
  | 'm' => inCommas width (items.map plain)
  | _ => String.join (items.map (fun i => plain i ++ (if has '0' then "\x00" else "\n")))

/-- The names in a directory that are to be listed. -/
def inside (m : Machine) (switches : List Switch) (dir : String) (loc : Location) : List Listed :=
  let has := Switches.given switches
  let item := fun (name : String) =>
    let full := below dir name
    match m.look (has 'L') full, m.look false full with
    | .ok (l, e), _ => some ⟨name, full, l, e⟩
    | .error _, .ok (l, e) => some ⟨name, full, l, e⟩
    | .error _, .error _ => none
  let kept := ((m.world.files.namesBelow loc).map Text.Octets.encode).filter (fun n =>
    has 'a' || has 'A' || has 'f' || n.toList.head? != some '.')
  let spared := kept.filter (fun n => !(has 'B' && n.toList.getLast? == some '~') &&
    (switches.filter (fun s => s.letter == 'I' || (s.letter == 'e' && !has 'a' && !has 'A'))).all
      (fun s =>
      !Pattern.isMatch (s.value.toList.map (fun c => (c, true))) n))
  ((if has 'a' || has 'f' then [".", ".."] else []) ++ spared).filterMap item

/-- Shows the names in a directory, and in those below it if asked, at most `fuel` deep. -/
def showFolder (m : Machine) (switches : List Switch) (titled : Bool) :
    Nat → String → Location → List String
  | 0, _, _ => []
  | fuel + 1, dir, loc =>
    let has := Switches.given switches
    let items := arranged m switches (inside m switches dir loc)
    let total := (items.map (fun i => blocksOf m i.entry)).foldl (· + ·) 0
    let deep := has 'R' && !has 'd'
    let block := (if titled || deep then listedName switches dir ++ ":\n" else "") ++
      (if layout switches == 'l' || has 's' then "total " ++ listedBlocks switches total ++ "\n"
        else "") ++
      showNames m switches items
    let more := if !deep then []
      else items.flatMap (fun i =>
        if [".", ".."].contains i.name then []
        else match i.entry with
          | .directory _ => showFolder m switches titled fuel (below dir i.name) i.location
          | _ => [])
    block :: more

/-- Lists names. -/
def ls : Utility := fun args =>
  withSwitches "ls" "aAbBcCdDe:fFgGhHiI:klLmnNopqQrRsStT:uUvw:xXyZ10" [("all", 'a'),
    ("almost-all", 'A'),
    ("directory", 'd'), ("reverse", 'r'), ("recursive", 'R'), ("size", 's'),
      ("human-readable", 'h'),
    ("inode", 'i'), ("dereference", 'L'), ("quote-name", 'Q'), ("escape", 'b'), ("literal", 'N'),
    ("classify", 'F'), ("file-type", 'p'), ("hide-control-chars", 'q'), ("width", 'w'),
    ("group-directories-first", 'D'), ("ignore", 'I'), ("hide", 'e'), ("ignore-backups", 'B'),
      ("zero", '0'),
    ("numeric-uid-gid", 'n'), ("no-group", 'G'), ("kibibytes", 'k')] 2
  (fun switches operands m =>
    let has := Switches.given switches
    let long := layout switches == 'l'
    let follows := has 'L' || has 'H' || !(long || has 'd' || has 'F')
    let sort := fun (acc : List Listed × List Listed × Machine) (operand : String) =>
      let (plain, folders, m) := acc
      let first := m.look follows operand
      let found : Except IoCause (Location × Entry) := match first with
        | .ok e => .ok e
        | .error cause =>
          if has 'L' then .error cause else (m.look false operand).mapError (fun _ => cause)
      match found with
      | .error cause =>
        (plain, folders, fail "ls" ("cannot access " ++ shown operand ++ ": " ++ wording cause) 2 m)
      | .ok (loc, entry) =>
        let item : Listed := ⟨operand, operand, loc, entry⟩
        match entry with
        | .directory _ =>
          if has 'd' then (item :: plain, folders, m) else (plain, item :: folders, m)
        | _ => (item :: plain, folders, m)
    let (plain, folders, m) :=
      (if operands.isEmpty then ["."] else operands).foldl sort ([], [], m.leave 0)
    let m := if plain.isEmpty then m
      else m.say (showNames m switches (arranged m switches plain.reverse))
    let titled := 1 < operands.length
    let blocks := (arranged m switches folders.reverse).flatMap (fun i =>
      showFolder m switches titled maxDepth i.full i.location)
    m.say ((if plain.isEmpty ∨ blocks.isEmpty then "" else "\n") ++ String.intercalate "\n" blocks))
  (args.filterMap (fun a =>
    if "--color".toList.isPrefixOf a.toList ∨ "--time-style".toList.isPrefixOf a.toList then none
    else match a with
      | "--sort=size" => some "-S"
      | "--sort=time" => some "-t"
      | "--sort=none" => some "-U"
      | "--sort=extension" => some "-X"
      | "--sort=name" => none
      | "--format=long" => some "-l"
      | "--format=commas" => some "-m"
      | "--format=single-column" => some "-1"
      | other => some other))

/-! ## Properties of files -/

/-- What one letter of a format for properties shows, if it shows anything. -/
def property? (m : Machine) (operand : String) (loc : Location) (entry : Entry) (c : Char) :
    Option String :=
  let time := timeOf m entry
  match c with
  | 'n' => some operand
  | 'N' => some (shown operand ++ (match entry with
      | .link target => " -> " ++ shown (Text.Octets.encode target)
      | _ => ""))
  | 's' => some (Nat.repr (sizeOf m entry))
  | 'F' => some (kindWords m entry)
  | 'a' => some (String.ofList (Nat.toDigits 8 (modeOf m entry)))
  | 'A' => some (String.singleton (kindLetter entry) ++ Permissions.letters (modeOf m entry))
  | 'f' => some (String.ofList (Nat.toDigits 16 (kindBits entry + modeOf m entry)))
  | 'h' => some (Nat.repr (namesOf m loc entry))
  | 'i' => some (Nat.repr (numberOf entry))
  | 'b' => some (Nat.repr (blocksOf m entry))
  | 'B' => some "512"
  | 'o' => some "4096"
  | 'd' => some "66"
  | 'D' => some "42"
  | 'U' | 'G' => some "root"
  | 'u' | 'g' => some "0"
  | 't' | 'T' => some (match entry with
      | .device .null => if c = 't' then "1" else "3"
      | .device .zero => if c = 't' then "1" else "5"
      | .device .full => if c = 't' then "1" else "7"
      | .device _ => if c = 't' then "1" else "9"
      | _ => "0")
  | 'X' | 'Y' | 'Z' => some (Nat.repr (time / 1000))
  | 'x' | 'y' | 'z' => some (fullTime time)
  | 'W' => some "0"
  | 'w' => some "-"
  | 'm' => some "/"
  | 'C' => some "?"
  | _ => none

/-- What a format for properties shows. The length of the format is enough fuel. -/
def properties (escapes : Bool) (get : Char → Option String) : Nat → List Char → String
  | 0, _ => ""
  | fuel + 1, cs =>
    match cs with
    | [] => ""
    | '%' :: '%' :: rest => "%" ++ properties escapes get fuel rest
    | '%' :: rest =>
      let flags := rest.takeWhile (fun c => ['-', '0', '#', '+', ' '].contains c)
      let rest := rest.drop flags.length
      let digits := rest.takeWhile Char.isDigit
      let rest := rest.drop digits.length
      let more := match rest with
        | '.' :: more => '.' :: more.takeWhile Char.isDigit
        | _ => []
      match rest.drop more.length with
      | c :: left =>
        let width := (Numeral.digits 10 0 digits).1
        let text := (get c).getD "?"
        let filled := if flags.contains '-' then padRight width text
          else padLeft width (if flags.contains '0' then '0' else ' ') text
        filled ++ properties escapes get fuel left
      | [] => "%"
    | '\\' :: c :: rest =>
      if !escapes then "\\" ++ properties escapes get fuel (c :: rest)
      else
        let text := match c with
          | 'n' => "\n"
          | 't' => "\t"
          | 'r' => "\r"
          | 'a' => "\x07"
          | 'b' => "\x08"
          | 'e' => "\x1b"
          | 'f' => "\x0c"
          | 'v' => "\x0b"
          | other => String.singleton other
        text ++ properties escapes get fuel rest
    | c :: rest => String.singleton c ++ properties escapes get fuel rest

/-- The properties of a file over several lines. -/
def fullProperties (m : Machine) (operand : String) (loc : Location) (entry : Entry) : String :=
  let get := fun (c : Char) => (property? m operand loc entry c).getD ""
  let name := operand ++ (match entry with
    | .link target => " -> " ++ Text.Octets.encode target
    | _ => "")
  let access := "(" ++ padLeft 4 '0' (get 'a') ++ "/" ++ get 'A' ++ ")"
  "  File: " ++ name ++ "\n  Size: " ++ padRight 10 (get 's') ++ "\tBlocks: " ++
    padRight 10 (get 'b') ++
    " IO Block: " ++ padRight 6 "4096" ++ " " ++ get 'F' ++ "\nDevice: 0,66\tInode: " ++
    padRight 11 (get 'i') ++ " Links: " ++ get 'h' ++ "\nAccess: " ++ access ++
    "  Uid: (    0/    root)   Gid: (    0/    root)\nAccess: " ++ get 'x' ++ "\nModify: " ++
      get 'y' ++
    "\nChange: " ++ get 'z' ++ "\n Birth: " ++ get 'y' ++ "\n"

/-- Shows properties of files. -/
def stat : Utility :=
  withSwitches "stat" "c:LftP:" [("format", 'c'), ("printf", 'P'), ("dereference", 'L'),
    ("terse", 't'),
    ("file-system", 'f')] 1
  (fun switches operands m =>
    if operands.isEmpty then misuse "stat" "missing operand" 1 m
    else
      let format := (switches.filter (fun s => s.letter == 'c' || s.letter == 'P')).getLast?
      let one := fun (m : Machine) (operand : String) =>
        match m.look (Switches.given switches 'L') operand with
        | .error cause =>
          fail "stat" ("cannot statx " ++ shown operand ++ ": " ++ wording cause) 1 m
        | .ok (loc, entry) =>
          let get := property? m operand loc entry
          let filled := fun (escapes : Bool) (text : String) =>
            properties escapes get (text.length + 1) text.toList
          match format with
          | some ⟨'c', text⟩ => m.say (filled false text ++ "\n")
          | some ⟨_, text⟩ => m.say (filled true text)
          | none =>
            if Switches.given switches 't' then
              m.say (filled false "%n %s %b %f %u %g %D %i %h %t %T %X %Y %Z %W %o" ++ "\n")
            else m.say (fullProperties m operand loc entry)
      operands.foldl one (m.leave 0))

end BlockCoverage.Script.Utility
