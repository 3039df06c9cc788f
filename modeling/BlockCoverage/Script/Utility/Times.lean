import BlockCoverage.Script.Utility.Names

/-!
# Times

Dates are counted in days since the start of 1970, and times in milliseconds since then.
-/

namespace BlockCoverage.Script.Utility

open Machine (wording)

/-! ## Dates -/

/-- The number of days from the start of 1970 to a date. -/
def daysBefore (year month day : Nat) : Nat :=
  let y := if month ≤ 2 then year - 1 else year
  let shifted := (month + 9) % 12
  365 * y + y / 4 - y / 100 + y / 400 + (153 * shifted + 2) / 5 + day - 1 - 719468

/-- The two-digit numbers that digits spell. -/
def pairs : List Char → List Nat
  | a :: b :: rest => ((a.toNat - 48) * 10 + (b.toNat - 48)) :: pairs rest
  | _ => []

/-- The time of the digits of a date and a time of day: century, year, month, day, hour, minute and
maybe seconds. -/
def timeOf? (numbers : List Nat) : Option Nat :=
  match numbers with
  | c :: y :: mo :: d :: rest =>
    let h := rest.headD 0
    let mi := (rest.drop 1).headD 0
    let s := (rest.drop 2).headD 0
    if mo = 0 ∨ 12 < mo ∨ d = 0 ∨ 31 < d ∨ 23 < h ∨ 59 < mi ∨ 60 < s then none
    else some ((daysBefore (c * 100 + y) mo d * 86400 + h * 3600 + mi * 60 + s) * 1000)
  | _ => none

/-- Reads a time: seconds after an at sign, or a date with a time of day. -/
def date? (now : Nat) (text : String) : Option Nat :=
  match text.toList with
  | '@' :: digits => (Numeral.count? (String.ofList digits)).map (· * 1000)
  | cs =>
    if text = "now" then some now
    else
      let digits := cs.filter Char.isDigit
      if cs.all (fun c => c.isDigit || ['-', ':', ' ', 'T', 'Z'].contains c) ∧ 8 ≤ digits.length ∧
          cs.contains '-' then timeOf? (pairs digits) else none

/-- Reads a time of digits alone, with seconds after a point. -/
def stamp? (text : String) : Option Nat :=
  let digits := text.toList.filter Char.isDigit
  let seconds := text.toList.contains '.'
  let base := if seconds then digits.length - 2 else digits.length
  let full := if base = 12 then digits else if base = 10 then ['2', '0'] ++ digits
    else ['2', '0', '2', '6'] ++ digits
  timeOf? (pairs full)

/-- The date of a number of days since the start of 1970: year, month and day. -/
def dateOf (days : Nat) : Nat × Nat × Nat :=
  let z := days + 719468
  let era := z / 146097
  let doe := z % 146097
  let yoe := (doe - doe / 1460 + doe / 36524 - doe / 146096) / 365
  let doy := doe - (365 * yoe + yoe / 4 - yoe / 100)
  let mp := (5 * doy + 2) / 153
  let day := doy - (153 * mp + 2) / 5 + 1
  let month := if mp < 10 then mp + 3 else mp - 9
  (yoe + era * 400 + (if month ≤ 2 then 1 else 0), month, day)

/-- The names of the months. -/
def monthNames : List String :=
  ["Jan", "Feb", "Mar", "Apr", "May", "Jun", "Jul", "Aug", "Sep", "Oct", "Nov", "Dec"]

/-- A number of two digits. -/
def twoDigits (n : Nat) : String := padLeft 2 '0' (Nat.repr n)

/-- The names of the days of the week. -/
def dayNames : List String :=
  ["Sunday", "Monday", "Tuesday", "Wednesday", "Thursday", "Friday", "Saturday"]

/-- The long names of the months. -/
def longMonthNames : List String :=
  ["January", "February", "March", "April", "May", "June", "July", "August", "September", "October",
    "November", "December"]

/-- What a letter in a format for times stands for, if it stands for anything. -/
def timeField? (ms : Nat) (c : Char) : Option String :=
  let seconds := ms / 1000
  let days := seconds / 86400
  let (year, month, day) := dateOf days
  let (h, mi, s) := (seconds / 3600 % 24, seconds / 60 % 60, seconds % 60)
  let weekday := (days + 4) % 7
  let half := if h % 12 = 0 then 12 else h % 12
  let yearDay := days - daysBefore year 1 1 + 1
  let two := twoDigits
  let date := two month ++ "/" ++ two day ++ "/" ++ two (year % 100)
  let clock := two h ++ ":" ++ two mi ++ ":" ++ two s
  match c with
  | '%' => some "%"
  | 'a' => some (String.ofList ((dayNames.getD weekday "").toList.take 3))
  | 'A' => some (dayNames.getD weekday "")
  | 'b' | 'h' => some (monthNames.getD (month - 1) "")
  | 'B' => some (longMonthNames.getD (month - 1) "")
  | 'c' => some (String.ofList ((dayNames.getD weekday "").toList.take 3) ++ " " ++
      monthNames.getD (month - 1) "" ++ " " ++ padLeft 2 ' ' (Nat.repr day) ++ " " ++ clock ++
        " " ++
      Nat.repr year)
  | 'C' => some (two (year / 100))
  | 'd' => some (two day)
  | 'D' | 'x' => some date
  | 'e' => some (padLeft 2 ' ' (Nat.repr day))
  | 'F' => some (Nat.repr year ++ "-" ++ two month ++ "-" ++ two day)
  | 'H' => some (two h)
  | 'I' => some (two half)
  | 'j' => some (padLeft 3 '0' (Nat.repr yearDay))
  | 'k' => some (padLeft 2 ' ' (Nat.repr h))
  | 'l' => some (padLeft 2 ' ' (Nat.repr half))
  | 'm' => some (two month)
  | 'M' => some (two mi)
  | 'n' => some "\n"
  | 'N' => some (padLeft 9 '0' (Nat.repr (ms % 1000 * 1000000)))
  | 'p' => some (if h < 12 then "AM" else "PM")
  | 'P' => some (if h < 12 then "am" else "pm")
  | 'q' => some (Nat.repr ((month + 2) / 3))
  | 'r' => some (two half ++ ":" ++ two mi ++ ":" ++ two s ++ (if h < 12 then " AM" else " PM"))
  | 'R' => some (two h ++ ":" ++ two mi)
  | 's' => some (Nat.repr seconds)
  | 'S' => some (two s)
  | 't' => some "\t"
  | 'T' | 'X' => some clock
  | 'u' => some (Nat.repr (if weekday = 0 then 7 else weekday))
  | 'w' => some (Nat.repr weekday)
  | 'U' => some (two ((yearDay + 6 - weekday) / 7))
  | 'W' => some (two ((yearDay + 6 - (weekday + 6) % 7) / 7))
  | 'y' => some (two (year % 100))
  | 'Y' => some (Nat.repr year)
  | 'z' => some "+0000"
  | 'Z' => some "UTC"
  | _ => none

/-- Writes a time in a format. A hyphen after the percent sign leaves out what a number is filled up
with. -/
def timeText (ms : Nat) : List Char → String
  | '%' :: '-' :: c :: rest =>
    let text := (timeField? ms c).getD ""
    let short := text.toList.dropWhile (fun d => d == '0' || d == ' ')
    (if short.isEmpty then "0" else String.ofList short) ++ timeText ms rest
  | '%' :: c :: rest =>
    (match timeField? ms c with
      | some text => text
      | none => String.ofList ['%', c]) ++ timeText ms rest
  | c :: rest => String.singleton c ++ timeText ms rest
  | [] => ""

/-! ## The programs -/

/-- Writes a time. -/
def date : Utility :=
  withSwitches "date" "ud:r:I::R" [("utc", 'u'), ("universal", 'u'), ("date", 'd'),
    ("reference", 'r'),
    ("iso-8601", 'I'), ("rfc-email", 'R')] 1 (fun switches operands m =>
    let has := Switches.given switches
    let time : Except String Nat :=
      match Switches.value? switches 'd', Switches.value? switches 'r' with
      | some text, _ =>
        match date? m.world.now text with
        | some t => .ok t
        | none => .error ("invalid date " ++ shown text)
      | none, some file =>
        match m.look true file with
        | .ok (_, .file n) | .ok (_, .directory n) => .ok (m.world.files.inode n).modified
        | .ok _ => .ok m.world.now
        | .error cause => .error (file ++ ": " ++ wording cause)
      | none, none => .ok m.world.now
    let usual := if has 'R' then "%a, %d %b %Y %H:%M:%S %z"
      else if has 'I' then
        match (Switches.value? switches 'I').getD "" with
        | "seconds" | "s" => "%Y-%m-%dT%H:%M:%S+00:00"
        | "minutes" | "m" => "%Y-%m-%dT%H:%M+00:00"
        | "hours" | "h" => "%Y-%m-%dT%H+00:00"
        | _ => "%Y-%m-%d"
      else "%a %b %e %H:%M:%S %Z %Y"
    match time, operands with
    | .error text, _ => fail "date" text 1 m
    | .ok t, [] => (m.say (timeText t usual.toList ++ "\n")).leave 0
    | .ok t, [operand] =>
      match operand.toList with
      | '+' :: format => (m.say (timeText t format ++ "\n")).leave 0
      | _ => fail "date" ("invalid date " ++ shown operand) 1 m
    | .ok _, _ :: extra :: _ => misuse "date" ("extra operand " ++ shown extra) 1 m)

/-- Creates empty files that are missing, and changes the times of the others. -/
def touch : Utility :=
  withSwitches "touch" "acmd:r:t:h" [("no-create", 'c'), ("date", 'd'), ("reference", 'r'),
    ("no-dereference", 'h')] 1
  (fun switches operands m =>
    let has := Switches.given switches
    let time : Except String Nat :=
      match Switches.value? switches 'd', Switches.value? switches 't',
        Switches.value? switches 'r' with
      | some text, _, _ =>
        match date? m.world.now text with
        | some t => .ok t
        | none => .error ("invalid date format " ++ shown text)
      | none, some text, _ =>
        match stamp? text with
        | some t => .ok t
        | none => .error ("invalid date format " ++ shown text)
      | none, none, some text =>
        match m.look true text with
        | .ok (_, .file n) | .ok (_, .directory n) => .ok (m.world.files.inode n).modified
        | .ok _ => .ok m.world.now
        | .error cause =>
          .error ("failed to get attributes of " ++ shown text ++ ": " ++ wording cause)
      | none, none, none => .ok m.world.now
    match time with
    | .error text => fail "touch" text 1 m
    | .ok time =>
      if operands.isEmpty then misuse "touch" "missing file operand" 1 m
      else
        let one := fun (m : Machine) (operand : String) =>
          let failed := fun (what text : String) =>
            fail "touch" (what ++ " " ++ shown operand ++ ": " ++ text) 1 m
          let stamped := fun (m : Machine) =>
            match m.look true operand with
            | .ok (_, .file n) | .ok (_, .directory n) =>
              changed m (fun fs => fs.modifyInode n (fun i =>
                { i with modified := if has 'a' && !has 'm' then i.modified else time }))
            | _ => m
          if operand = "-" then m
          else match m.look true operand with
            | .ok _ => stamped m
            | .error .notFound =>
              if has 'c' then m
              else match m.openFile operand .append with
                | .ok (_, m) => stamped m
                | .error .isADirectory => failed "setting times of" "No such file or directory"
                | .error cause => failed "cannot touch" (wording cause)
            | .error cause =>
              failed (if Files.endsWithSlash operand then "setting times of" else "cannot touch")
                (wording cause)
        operands.foldl one (m.leave 0))

end BlockCoverage.Script.Utility
