import BlockCoverage.Script.Numeral
import BlockCoverage.Text.Pieces

/-!
# Permissions

Permissions are twelve bits: reading, writing and executing for the owner, the group and others, and
three more in front. They are given as a number in octal or as changes in letters.
-/

namespace BlockCoverage.Script.Permissions

/-- A change of permissions: whom it is for, how it works, and the bits it names. -/
structure Change where
  /-- The bits of those whom it is for. -/
  who : Nat
  /-- Adds, removes or sets. -/
  op : Char
  /-- The letters, or the one whose permissions are taken. -/
  letters : List Char
deriving DecidableEq, Repr

/-- The bits of one of those that have permissions, the special bit included. -/
def bitsOf (c : Char) : Nat :=
  match c with
  | 'u' => 448 + 2048
  | 'g' => 56 + 1024
  | 'o' => 7 + 512
  | _ => 4095

/-- The changes of one clause after those whom it is for. The length is enough fuel. -/
def changes? (who : Nat) : Nat → List Char → Option (List Change)
  | 0, _ => none
  | fuel + 1, cs =>
    match cs with
    | [] => some []
    | op :: rest =>
      if !(['+', '-', '='].contains op) then none
      else
        let letters := rest.takeWhile (fun c => !(['+', '-', '='].contains c))
        let plain := letters.all (fun c => ['r', 'w', 'x', 'X', 's', 't'].contains c)
        let taken := letters.length = 1 ∧ letters.all (fun c => ['u', 'g', 'o'].contains c)
        if !plain && !decide taken then none
        else (changes? who fuel (rest.drop letters.length)).map (⟨who, op, letters⟩ :: ·)

/-- The changes of a clause; one that names nobody is for all, as far as the mask allows. -/
def clause? (mask : Nat) (cs : List Char) : Option (List Change) :=
  let named := cs.takeWhile (fun c => ['u', 'g', 'o', 'a'].contains c)
  let who := if named.isEmpty then 4095 - mask
    else named.foldl (fun acc c => Nat.lor acc (bitsOf c)) 0
  let rest := cs.drop named.length
  if rest.isEmpty then none else changes? who (rest.length + 1) rest

/-- The bits that letters name, for permissions as they are. -/
def named (directory : Bool) (mode : Nat) (letters : List Char) : Nat :=
  let spread := fun (n : Nat) => n * 64 + n * 8 + n
  let bit := fun (c : Char) =>
    match c with
    | 'r' => spread 4
    | 'w' => spread 2
    | 'x' => spread 1
    | 'X' => if directory || Nat.land mode 73 != 0 then spread 1 else 0
    | 's' => 3072
    | 't' => 512
    | 'u' => spread (mode / 64 % 8)
    | 'g' => spread (mode / 8 % 8)
    | 'o' => spread (mode % 8)
    | _ => 0
  letters.foldl (fun acc c => Nat.lor acc (bit c)) 0

/-- Makes one change. -/
def Change.run (directory : Bool) (mode : Nat) (c : Change) : Nat :=
  let bits := Nat.land c.who (named directory mode c.letters)
  let without := fun (mask : Nat) => mode - Nat.land mode mask
  match c.op with
  | '+' => Nat.lor mode bits
  | '-' => without bits
  | _ => Nat.lor (without (Nat.land c.who 511)) bits

/-- A way to get new permissions from old ones, if a text describes one. -/
def parse? (mask : Nat) (text : String) : Option (Bool → Nat → Nat) :=
  let isOctal := fun (c : Char) => decide ('0' ≤ c ∧ c ≤ '7')
  if text ≠ "" ∧ text.toList.all isOctal then
    let n := (Numeral.digits 8 0 text.toList).1
    if n < 4096 then some (fun _ _ => n) else none
  else
    let clauses := (Text.pieces (fun c => decide (c = ',')) text.toList).mapM (clause? mask)
    clauses.map (fun cs directory mode => cs.flatten.foldl (Change.run directory) mode)

/-- Three permissions in letters. -/
def triple (bits : Nat) (special : Option (Char × Char)) : String :=
  let last := match special with
    | some (lower, upper) => if bits % 2 = 1 then lower else upper
    | none => if bits % 2 = 1 then 'x' else '-'
  String.ofList [if bits / 4 % 2 = 1 then 'r' else '-', if bits / 2 % 2 = 1 then 'w' else '-', last]

/-- Permissions in letters. -/
def letters (mode : Nat) : String :=
  let special := fun (bit : Nat) (pair : Char × Char) => if mode / bit % 2 = 1 then some pair
    else none
  triple (mode / 64 % 8) (special 2048 ('s', 'S')) ++
    triple (mode / 8 % 8) (special 1024 ('s', 'S')) ++
    triple (mode % 8) (special 512 ('t', 'T'))

/-- Permissions in octal, filled up to a width. -/
def octal (width mode : Nat) : String :=
  let digits := Nat.toDigits 8 mode
  String.ofList (List.replicate (width - digits.length) '0' ++ digits)

end BlockCoverage.Script.Permissions
