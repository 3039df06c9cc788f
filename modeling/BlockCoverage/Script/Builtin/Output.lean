import BlockCoverage.Script.Condition
import BlockCoverage.Script.Format
import BlockCoverage.Script.Switches

/-!
# Writing and testing

Commands of the shell that only write something or find something out.
-/

namespace BlockCoverage.Script.Machine

/-- Fails as a command of the shell does that was used in a wrong way. -/
def refuse (m : Machine) (name text : String) : Machine := m.fault (name ++ ": " ++ text)

/-- Writes what a command of the shell has to say; that nothing could be written is a failure. -/
def report (m : Machine) (name text : String) : Machine :=
  if text = "" then m
  else match m.channelOf? 1 with
    | none => (m.complain (name ++ ": " ++ name ++ ": I/O error")).leave 1
    | some n =>
      if m.world.channel n = .full then (m.complain (name ++ ": " ++ name ++ ": I/O error")).leave 1
      else m.say text

/-- Writes arguments on a line. -/
def echo (m : Machine) (args : List String) : Machine :=
  match args with
  | "-n" :: rest => (m.leave 0).report "echo" (Format.line false rest)
  | _ => (m.leave 0).report "echo" (Format.line true args)

/-- Writes a format filled with arguments. -/
def printf (m : Machine) (args : List String) : Machine :=
  match Switches.split "" args with
  | .error text => m.refuse "printf" text
  | .ok (_, []) => m.refuse "printf" "usage: printf format [arg ...]"
  | .ok (_, format :: rest) =>
    let w := Format.write format rest
    let noted := w.messages.reverse.foldl (fun m text => m.complain ("printf: " ++ text)) m
    let status := if w.messages.isEmpty then 0 else 1
    let written := (noted.leave status).report "printf" (String.ofList w.reversed.reverse)
    match w.refused with
    | some text => written.refuse "printf" text
    | none => written

/-- Leaves success if a condition holds. -/
def test (m : Machine) (name : String) (args : List String) : Machine :=
  if name = "[" ∧ args.getLast? ≠ some "]" then m.refuse name "missing ]"
  else match Condition.evaluate m (if name = "[" then args.dropLast else args) with
    | .ok true => m.leave 0
    | .ok false => m.leave 1
    | .error text => m.refuse name text

end BlockCoverage.Script.Machine
