/-!
# Switches

Words in front of the arguments of a utility that start with a hyphen hold switches, each one
character long; some take a value, which is the rest of the word or the next word. Two hyphens end
them.
-/

namespace BlockCoverage.Script

/-- A switch that has been given, with its value. -/
structure Switch where
  /-- The letter. -/
  letter : Char
  /-- The value, empty for a switch that takes none. -/
  value : String
deriving DecidableEq, Repr

namespace Switches

/-- What may follow a switch. -/
inductive Taking where
  /-- Nothing. -/
  | nothing
  /-- A value. -/
  | value
  /-- A value that may be left out, and is then not the next word. -/
  | optional
deriving DecidableEq, Repr

/-- Whether a letter is allowed, and then what it takes. A colon after a letter stands for a value,
two colons for one that may be left out. -/
def taking? : List Char → Char → Option Taking
  | [], _ => none
  | a :: ':' :: ':' :: rest, c => if a = c then some .optional else taking? rest c
  | a :: ':' :: rest, c => if a = c then some .value else taking? rest c
  | a :: rest, c => if a = c then some .nothing else taking? rest c

/-- Reads the switches of one word; a value may be the first of the words after it. -/
def inWord (allowed : String) : List Char → List String → Except String (List Switch × List String)
  | [], rest => .ok ([], rest)
  | c :: more, rest =>
    match taking? allowed.toList c with
    | none => .error ("Illegal option -" ++ String.singleton c)
    | some .nothing => do
      let (others, left) ← inWord allowed more rest
      return (⟨c, ""⟩ :: others, left)
    | some .optional => .ok ([⟨c, String.ofList more⟩], rest)
    | some .value =>
      if !more.isEmpty then .ok ([⟨c, String.ofList more⟩], rest)
      else match rest with
        | value :: left => .ok ([⟨c, value⟩], left)
        | [] => .error ("No arg for -" ++ String.singleton c ++ " option")

/-- Reads the switches in front of arguments. The number of arguments is enough fuel. -/
def read (allowed : String) : Nat → List String → Except String (List Switch × List String)
  | 0, args => .ok ([], args)
  | fuel + 1, args =>
    match args with
    | [] => .ok ([], [])
    | word :: rest =>
      match word.toList with
      | ['-', '-'] => .ok ([], rest)
      | '-' :: c :: more => do
        let (front, left) ← inWord allowed (c :: more) rest
        let (others, arguments) ← read allowed fuel left
        return (front ++ others, arguments)
      | _ => .ok ([], args)

/-- The name and the value of a long switch. -/
def longParts (word : List Char) : String × Option String :=
  let name := word.takeWhile (fun c => c != '=')
  match word.drop name.length with
  | _ :: value => (String.ofList name, some (String.ofList value))
  | [] => (String.ofList name, none)

/-- The long name that a text stands for, and its letter; a beginning that fits only one switch is
enough. -/
def longName (long : List (String × Char)) (word name : String) : Except String (String × Char) :=
  match long.find? (fun e => e.1 == name) with
  | some e => .ok e
  | none =>
    match long.filter (fun e => name.toList.isPrefixOf e.1.toList) with
    | [] => .error ("unrecognized option '" ++ word ++ "'")
    | e :: others =>
      if others.all (fun o => o.2 == e.2) then .ok e
      else .error ("option '" ++ word ++ "' is ambiguous; possibilities:" ++
        String.join ((e :: others).map (fun o => " '--" ++ o.1 ++ "'")))

/-- What is wrong with the letters of a word that are not switches. -/
def wrongLetter (allowed : String) (letters : List Char) : String :=
  match letters.find? (fun d => (taking? allowed.toList d).isNone) with
  | some d => "invalid option -- '" ++ String.singleton d ++ "'"
  | none =>
    "option requires an argument -- '" ++ String.ofList (letters.drop (letters.length - 1)) ++ "'"

/-- Reads switches among arguments, long ones too: wherever they stand if `anywhere`, else only in
front. The number of arguments is enough fuel. -/
def among (anywhere : Bool) (allowed : String) (long : List (String × Char)) :
    Nat → List String → Except String (List Switch × List String)
  | 0, args => .ok ([], args)
  | fuel + 1, args =>
    match args with
    | [] => .ok ([], [])
    | word :: rest =>
      match word.toList with
      | ['-', '-'] => .ok ([], rest)
      | '-' :: '-' :: text => do
        let (given, value) := longParts text
        let (name, c) ← longName long word given
        match (taking? allowed.toList c).getD .nothing, value, rest with
        | .value, none, [] => .error ("option '--" ++ name ++ "' requires an argument")
        | .value, none, v :: left =>
          let (others, operands) ← among anywhere allowed long fuel left
          return (⟨c, v⟩ :: others, operands)
        | .nothing, some _, _ => .error ("option '--" ++ name ++ "' doesn't allow an argument")
        | _, v, _ =>
          let (others, operands) ← among anywhere allowed long fuel rest
          return (⟨c, v.getD ""⟩ :: others, operands)
      | '-' :: c :: more =>
        match inWord allowed (c :: more) rest with
        | .error _ => .error (wrongLetter allowed (c :: more))
        | .ok (front, left) => do
          let (others, operands) ← among anywhere allowed long fuel left
          return (front ++ others, operands)
      | _ =>
        if !anywhere then .ok ([], args)
        else do
          let (others, operands) ← among anywhere allowed long fuel rest
          return (others, word :: operands)

/-- Reads switches wherever they stand among arguments. -/
def permuted (allowed : String) (long : List (String × Char)) (args : List String) :
    Except String (List Switch × List String) :=
  among true allowed long (args.length + 1) args

/-- Whether a switch has been given. -/
def given (switches : List Switch) (c : Char) : Bool := switches.any (fun s => s.letter == c)

/-- The value that a switch has been given last. -/
def value? (switches : List Switch) (c : Char) : Option String :=
  (switches.reverse.find? (fun s => s.letter == c)).map Switch.value

/-- The switches in front of arguments, and the arguments after them. -/
def split (allowed : String) (args : List String) : Except String (List Switch × List String) :=
  read allowed (args.length + 1) args

end Switches

end BlockCoverage.Script
