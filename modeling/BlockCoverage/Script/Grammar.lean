import BlockCoverage.Script.Source

/-!
# Reading commands

A script is read one line at a time, where a line goes on as long as something on it is still open.
The functions below follow the rules of the language; each takes fuel, and since every step of the
recursion uses up a character or goes down one rule, a small multiple of the number of characters is
enough.
-/

namespace BlockCoverage.Script

namespace Grammar

open Reading (peek? peekRaw? advance accept refuse)

/-- Where quoted pieces stand, which decides what ends them. -/
inductive Quoting where
  /-- Between double quotes. -/
  | marks
  /-- In a document. -/
  | document
  /-- In the word of a quoted parameter; whether double quotes are open inside it. -/
  | braces (inner : Bool)
  /-- In an arithmetic expression, inside so many parentheses. -/
  | sum (depth : Nat)

/-- Where an unquoted word stands, which decides what ends it. -/
inductive Setting where
  /-- Among the words of a command. -/
  | plain
  /-- Between the braces of a parameter. -/
  | braces
  /-- After the sign of a document, where nothing is filled in. -/
  | delimiter
deriving DecidableEq

/-- What is looked for when a token is read. -/
structure Checks where
  /-- Whether line ends are passed over. -/
  lines : Bool
  /-- Whether words can be reserved. -/
  reserved : Bool
  /-- Whether words can stand for other text. -/
  aliases : Bool

namespace Checks

/-- Nothing. -/
def none : Checks := ⟨false, false, false⟩

/-- What a command can start with on the same line. -/
def start : Checks := ⟨false, true, true⟩

/-- What a command can start with on this line or a later one. -/
def fresh : Checks := ⟨true, true, true⟩

/-- What can follow in a choice. -/
def arm : Checks := ⟨true, true, false⟩

end Checks

/-- How far a list of commands goes. -/
inductive Extent where
  /-- To the end of the line. -/
  | line
  /-- To a closing word; there is at least one command. -/
  | body
  /-- To a closing word; there may be none. -/
  | optional
deriving DecidableEq

/-- The character that starts and ends an old-style substitution. -/
def grave : Char := Char.ofNat 96

/-- The opening brace. -/
def openBrace : Char := Char.ofNat 0x7B

/-- The closing brace. -/
def closeBrace : Char := Char.ofNat 0x7D

/-- Whether a character names a property of the shell. -/
def isSpecial (c : Char) : Bool :=
  c == '@' || c == '*' || c == '#' || c == '?' || c == '-' || c == '$' || c == '!' || c.isDigit

/-- Characters that stand for themselves in an unquoted word. -/
def isPlain (c : Char) : Bool :=
  !(Source.endsWord c || c == '\'' || c == '"' || c == '\\' || c == '$' || c == grave ||
    c == closeBrace || c == '#')

/-- Characters that stand for themselves between double quotes, wherever these are. -/
def isPlainQuoted (c : Char) : Bool :=
  !(c == '"' || c == '\\' || c == '$' || c == grave || c == closeBrace || c == '(' || c == ')' ||
    Source.isMark c)

/-- The text between old-style substitution marks, with the escapes that hold there taken off, and
what is left after it. -/
def graveText (inDouble : Bool) : List Char → Option (List Char × List Char)
  | [] => none
  | '\\' :: c :: rest =>
    if c = '\n' then graveText inDouble rest
    else
      let kept := if c = '\\' ∨ c = '$' ∨ c = grave ∨ (c = '"' ∧ inDouble) then [c] else ['\\', c]
      (graveText inDouble rest).map (fun (text, left) => (kept ++ text, left))
  | c :: rest =>
    if c = grave then some ([], rest)
    else (graveText inDouble rest).map (fun (text, left) => (c :: text, left))

/-- The redirection of a descriptor with the word after its sign. -/
def redirectTo (descriptor : Nat) (w : Word) : Direction → Redirect
  | .write => .write descriptor w
  | .replace => .replace descriptor w
  | .append => .append descriptor w
  | .read => .read descriptor w
  | .both => .both descriptor w
  | .sameOutput | .sameInput => .duplicate descriptor w
  | .document _ => .duplicate descriptor w

/-- The variable that a word sets and what it is set to, if the word is an assignment. -/
def assignment? (w : Word) : Option (String × Word) :=
  let plainName := fun (p : Piece) => match p with
    | .char c false => inName c
    | _ => false
  let name := w.takeWhile plainName
  match Word.bare? name, w.drop name.length with
  | some text, .char '=' false :: rest => if isName text then some (text, rest) else none
  | _, _ => none

/-- Whether something in a word is quoted. -/
def hasQuotes (w : Word) : Bool :=
  w.any (fun p => match p with
    | .char _ quoted => quoted
    | .quotes => true
    | _ => false)

/-- The characters of a word, quotes taken off. -/
def literalText (w : Word) : String :=
  String.ofList (w.filterMap (fun p => match p with
    | .char c _ => some c
    | _ => none))

/-- The parts of a simple command, each the last first. -/
structure Parts where
  /-- Assignments in front of the words. -/
  assignments : List (String × Word)
  /-- The words. -/
  words : List Word
  /-- The redirections. -/
  redirects : List Redirect

/-- Utilities that a function cannot be named after. -/
def specials : List String :=
  [".", ":", "break", "continue", "eval", "exec", "exit", "export", "local", "readonly", "return",
    "set", "shift", "times", "trap", "unset"]

/-- Holds a token back, to be read again. -/
def hold (t : Token) : Reading Unit := modify (fun s => { s with held := some t })

/-- Fails because of a token that cannot stand where it does. -/
def unexpected {α : Type} (t : Token) (expected : Option String) : Reading α :=
  refuse (SyntaxFault.unexpected t expected)

/-- Reads the documents that have been announced. -/
def documents : Reading Unit := modify Source.readDocuments

/-- Passes over a character if it comes next, a mark apart. -/
def acceptRaw (c : Char) : Reading Bool := do
  if (← peekRaw?) = some c then
    advance
    return true
  else return false

/-- Reads the characters up to a single quote, which is passed over. The fuel bounds the marks. -/
def literalPieces : Nat → Reading (List Char)
  | 0 => refuse "Unterminated quoted string"
  | fuel + 1 => do
    let front ← Reading.takeWhile (fun c => c != '\'' && !Source.isMark c)
    match (← get).rest with
    | [] => refuse "Unterminated quoted string"
    | '\'' :: _ =>
      advance
      return front
    | _ =>
      modify Source.passMark
      return front ++ (← literalPieces fuel)

/-- Reads the sign of a redirection: how it uses what stands after it. -/
def direction : Reading Direction := do
  let first ← peekRaw?
  advance
  if first = some '>' then
    if ← acceptRaw '>' then return .append
    else if ← acceptRaw '|' then return .replace
    else if ← acceptRaw '&' then return .sameOutput
    else return .write
  else
    if ← acceptRaw '<' then return .document (← acceptRaw '-')
    else if ← acceptRaw '&' then return .sameInput
    else if ← acceptRaw '>' then return .both
    else return .read

/-- Reads the name of a parameter between braces. The fuel bounds the joined lines. -/
def parameterName (fuel : Nat) : Reading String := do
  match ← peek? with
  | none => refuse "Missing '\x7d'"
  | some c =>
    if startsName c then return String.ofList (← Reading.takeJoined inName fuel)
    else if c.isDigit then return String.ofList (← Reading.takeJoined Char.isDigit fuel)
    else
      advance
      return String.singleton c

/-- Fails because of a parameter that is not closed. -/
def openParameter {α : Type} (quoted : Bool) : Reading α :=
  refuse (if quoted then "Unterminated quoted string" else "Missing '\x7d'")

/-- What is said if a script is nested too deeply to be read. -/
def tooDeep : String := "nesting too deep"

/-- The word that a token is as a pattern. -/
def patternWord : Token → Word
  | .word w => w
  | .reserved text => text.toList.map (fun c => .char c false)
  | _ => []

mutual

/-- Reads the pieces of an unquoted word; between braces it ends before the closing one. -/
def wordPieces : Nat → Setting → Reading Word
  | 0, _ => refuse tooDeep
  | fuel + 1, setting => do
    let inBraces := setting == .braces
    match ← if inBraces then peek? else peekRaw? with
    | none => if inBraces then openParameter false else return []
    | some c =>
      if !inBraces && Source.endsWord c then return []
      else if inBraces && c = closeBrace then return []
      else if isPlain c then
        let front ← Reading.takeWhile isPlain
        return front.map (fun c => .char c false) ++ (← wordPieces fuel setting)
      else
        advance
        let pieces ← (
          if c = '\'' then do
            let inside ← literalPieces ((← get).replaced.length + 1)
            return .quotes :: inside.map (fun c => .char c true)
          else if c = '"' then do
            match ← quotedPieces fuel .marks with
            | [.param "@" .value true] => return [.param "@" .value true]
            | inside => return .quotes :: inside
          else if c = '\\' then do
            match (← get).rest with
            | [] => return [.char '\\' true]
            | d :: _ =>
              advance
              return [.char d true]
          else if c = '$' && setting != .delimiter then dollar fuel false
          else if c = grave && setting != .delimiter then substitution fuel false
          else return [.char c false] : Reading Word)
        return pieces ++ (← wordPieces fuel setting)

/-- Reads quoted pieces up to what ends them, which is passed over except for a closing brace. -/
def quotedPieces : Nat → Quoting → Reading Word
  | 0, _ => refuse tooDeep
  | fuel + 1, quoting => do
    match ← peek? with
    | none =>
      match quoting with
      | .document => return []
      | .sum _ => refuse "Missing '))'"
      | _ => refuse "Unterminated quoted string"
    | some c =>
      if isPlainQuoted c then
        let front ← Reading.takeWhile isPlainQuoted
        return front.map (fun c => .char c true) ++ (← quotedPieces fuel quoting)
      else if c = closeBrace then
        match quoting with
        | .braces false => return []
        | _ =>
          advance
          return .char c true :: (← quotedPieces fuel quoting)
      else
        advance
        if c = '\\' then
          let escapes := fun (d : Char) => d = '$' ∨ d = '\\' ∨ d = grave ∨
            (d = '"' ∧ !(quoting matches .document)) ∨ (d = closeBrace ∧ quoting matches .braces _)
          match (← get).rest with
          | [] => return .char '\\' true :: (← quotedPieces fuel quoting)
          | d :: _ =>
            if decide (escapes d) then
              advance
              return .char d true :: (← quotedPieces fuel quoting)
            else return .char '\\' true :: (← quotedPieces fuel quoting)
        else if c = '$' then
          let pieces ← dollar fuel true
          return pieces ++ (← quotedPieces fuel quoting)
        else if c = grave then
          let pieces ← substitution fuel true
          return pieces ++ (← quotedPieces fuel quoting)
        else if c = '"' then
          match quoting with
          | .marks => return []
          | .braces inner => quotedPieces fuel (.braces (!inner))
          | _ => return .char c true :: (← quotedPieces fuel quoting)
        else
          match quoting with
          | .sum depth =>
            if c = '(' then return .char c true :: (← quotedPieces fuel (.sum (depth + 1)))
            else if 0 < depth then return .char c true :: (← quotedPieces fuel (.sum (depth - 1)))
            else if ← accept ')' then return []
            else return .char c true :: (← quotedPieces fuel quoting)
          | _ => return .char c true :: (← quotedPieces fuel quoting)

/-- Reads what follows a dollar sign. -/
def dollar : Nat → Bool → Reading Word
  | 0, _ => refuse tooDeep
  | fuel + 1, quoted => do
    match ← peekRaw? with
    | none => return [.char '$' quoted]
    | some c =>
      if c = '(' then
        advance
        if ← accept '(' then
          let inside ← quotedPieces fuel (.sum 0)
          return [.sum inside quoted]
        else
          let before := (← get).announced
          modify (fun s => { s with announced := [] })
          let body ← commands fuel .optional true
          let t ← token fuel .none
          if !(t matches .closing) then unexpected t (some (Token.quoted ")"))
          modify (fun s =>
            { s with
              announced := before
              documents := s.announced.map (fun a => (a.number, ⟨a.verbatim, ""⟩)) ++ s.documents })
          return [.output body quoted]
      else if c = openBrace then
        advance
        braced fuel quoted
      else if startsName c then
        let name ← Reading.takeJoined inName fuel
        return [.param (String.ofList name) .value quoted]
      else if isSpecial c then
        advance
        return [.param (String.singleton c) .value quoted]
      else return [.char '$' quoted]

/-- Reads an old-style substitution after its first mark. It is a script of its own, whose lines are
counted from one. -/
def substitution : Nat → Bool → Reading Word
  | 0, _ => refuse tooDeep
  | fuel + 1, quoted => do
    let s ← get
    match graveText quoted s.rest with
    | none => throw ⟨s.line + s.rest.count '\n', "EOF in backquote substitution"⟩
    | some (text, left) =>
      set { s with rest := text.filter (fun c => !Source.isMark c), line := 1, announced := [] }
      let body ← commands fuel .optional true
      let ended := (← get).readDocuments
      let used := s.rest.take (s.rest.length - left.length)
      set { ended with
        rest := left, line := s.line + used.count '\n', announced := s.announced
        replaced := s.replaced, held := none }
      return [.output body quoted]

/-- Reads a parameter after its opening brace. -/
def braced : Nat → Bool → Reading Word
  | 0, _ => refuse tooDeep
  | fuel + 1, quoted => do
    match ← peek? with
    | none => openParameter quoted
    | some c =>
      let measured := match (← get).rest with
        | '#' :: d :: e :: _ => inName d || (d != closeBrace && e == closeBrace)
        | _ => false
      if measured then
        advance
        let name ← parameterName fuel
        if !name.toList.all (fun d => inName d || isSpecial d) then badParameter fuel name quoted
        else if ← accept closeBrace then return [.param name .length quoted]
        else badParameter fuel name quoted
      else if !(startsName c || isSpecial c) then badParameter fuel "" quoted
      else
        let name ← parameterName fuel
        let nonEmpty ← accept ':'
        match ← peek? with
        | none => openParameter quoted
        | some d =>
          let wordForm := fun (make : Word → Form) => (do
            advance
            let w ← if quoted then quotedPieces fuel (.braces false) else wordPieces fuel .braces
            if !(← accept closeBrace) then openParameter quoted
            return [.param name (make w) quoted] : Reading Word)
          if d = closeBrace && !nonEmpty then
            advance
            return [.param name .value quoted]
          else if d = '-' then wordForm (.orElse nonEmpty)
          else if d = '=' then wordForm (.orSet nonEmpty)
          else if d = '?' then wordForm (.orFail nonEmpty)
          else if d = '+' then wordForm (.instead nonEmpty)
          else if (d = '%' || d = '#') && !nonEmpty then
            advance
            let longest ← accept d
            let w ← wordPieces fuel .braces
            if !(← accept closeBrace) then openParameter quoted
            return [.param name (.trim (d = '#') longest w) quoted]
          else badParameter fuel name quoted

/-- Reads the rest of a parameter that has no meaning. -/
def badParameter : Nat → String → Bool → Reading Word
  | 0, _, _ => refuse tooDeep
  | fuel + 1, name, quoted => do
    let _ ← if quoted then quotedPieces fuel (.braces false) else wordPieces fuel .braces
    if !(← accept closeBrace) then openParameter quoted
    return [.param name .bad quoted]

/-- Reads a token as it stands. A digit right before the sign of a redirection is its descriptor. -/
def rawToken : Nat → Reading Token
  | 0 => refuse tooDeep
  | fuel + 1 => do
    if let some t := (← get).held then
      modify (fun s => { s with held := none })
      return t
    modify (fun s => s.passBlanks (s.replaced.length + 1))
    match ← peekRaw? with
    | none => return .ending
    | some '\n' =>
      advance
      return .newline
    | some '&' =>
      advance
      return if ← acceptRaw '&' then .andThen else .background
    | some '|' =>
      advance
      return if ← acceptRaw '|' then .orElse else .bar
    | some ';' =>
      advance
      return if ← acceptRaw ';' then .armEnd else .semicolon
    | some '(' =>
      advance
      return .opening
    | some ')' =>
      advance
      return .closing
    | some _ =>
      let w ← wordPieces fuel .plain
      let next ← peekRaw?
      let isSign := next = some '<' ∨ next = some '>'
      match w with
      | [] =>
        let d ← direction
        return .redirect d.usual d
      | [.char c false] =>
        if c.isDigit ∧ isSign then return .redirect (c.toNat - 48) (← direction) else return .word w
      | _ => return .word w

/-- Reads a token, with what is looked for in it. A word that stands for other text is replaced. -/
def token : Nat → Checks → Reading Token
  | 0, _ => refuse tooDeep
  | fuel + 1, checks => do
    let t ← rawToken fuel
    match t with
    | .newline =>
      if checks.lines then
        documents
        token fuel checks
      else return t
    | .word w =>
      let s ← get
      let aliases := checks.aliases || s.again
      set { s with again := false }
      match Word.bare? w with
      | none => return t
      | some text =>
        if checks.reserved && Token.reservedWords.contains text then return .reserved text
        else if !aliases || s.replaced.contains text then return t
        else match s.aliases.lookup text with
          | some other =>
            Reading.putAlias text other
            token fuel { checks with aliases }
          | none => return t
    | _ =>
      modify (fun s => { s with again := false })
      return t

/-- Reads the word after the sign of a redirection. -/
def redirect : Nat → Nat → Direction → Reading Redirect
  | 0, _, _ => refuse tooDeep
  | fuel + 1, descriptor, direction => do
    match direction with
    | .document dropTabs =>
      modify (fun s => s.passBlanks (s.replaced.length + 1))
      match ← peekRaw? with
      | none => unexpected .ending none
      | some c =>
        if Source.endsWord c then unexpected (← rawToken fuel) none
        else
          let delimiter ← wordPieces fuel .delimiter
          let s ← get
          let a : Announced :=
            { number := s.next, delimiter := literalText delimiter, verbatim := hasQuotes delimiter
              dropTabs }
          set { s with announced := a :: s.announced, next := s.next + 1 }
          return .document descriptor a.number
    | _ =>
      match ← token fuel .none with
      | .word w => return redirectTo descriptor w direction
      | t => unexpected t none

/-- Reads the redirections after a compound command. -/
def redirects : Nat → Checks → Reading (List Redirect)
  | 0, _ => refuse tooDeep
  | fuel + 1, checks => do
    match ← token fuel checks with
    | .redirect descriptor direction =>
      let r ← redirect fuel descriptor direction
      return r :: (← redirects fuel .none)
    | t =>
      hold t
      return []

/-- Reads words, and the token after them. -/
def words : Nat → Reading (List Word × Token)
  | 0 => refuse tooDeep
  | fuel + 1 => do
    match ← token fuel .none with
    | .word w =>
      let (more, t) ← words fuel
      return (w :: more, t)
    | t => return ([], t)

/-- Reads a simple command or a definition, some parts of which have been read. -/
def simple : Nat → Nat → Parts → Reading Command
  | 0, _, _ => refuse tooDeep
  | fuel + 1, line, parts => do
    let t ← token fuel ⟨false, false, parts.words.isEmpty⟩
    match t with
    | .word w =>
      match if parts.words.isEmpty then assignment? w else none with
      | some a => simple fuel line { parts with assignments := a :: parts.assignments }
      | none => simple fuel line { parts with words := w :: parts.words }
    | .redirect descriptor direction =>
      let r ← redirect fuel descriptor direction
      simple fuel line { parts with redirects := r :: parts.redirects }
    | _ =>
      match t, parts with
      | .opening, ⟨[], [w], []⟩ =>
        let t ← token fuel .none
        if !(t matches .closing) then unexpected t (some (Token.quoted ")"))
        match Word.bare? w with
        | none => refuse "Bad function name"
        | some name =>
          if !isName name || specials.contains name then refuse "Bad function name"
          return .define name (← command fuel .fresh)
      | _, _ =>
        hold t
        return .simple line parts.assignments.reverse parts.words.reverse parts.redirects.reverse

/-- Reads a reserved word, which has to come next. -/
def demand : Nat → String → Reading Unit
  | 0, _ => refuse tooDeep
  | fuel + 1, text => do
    let t ← token fuel .none
    if !t.isReserved text then unexpected t (some (Token.quoted text))

/-- Reads the end of a conditional after the commands of one of its branches. -/
def otherwise : Nat → Reading (List Command)
  | 0 => refuse tooDeep
  | fuel + 1 => do
    let t ← token fuel .none
    if t.isReserved "elif" then
      let condition ← commands fuel .body true
      demand fuel "then"
      let yes ← commands fuel .body true
      let no ← otherwise fuel
      return [.branch condition yes no []]
    else if t.isReserved "else" then
      let no ← commands fuel .body true
      demand fuel "fi"
      return no
    else
      hold t
      demand fuel "fi"
      return []

/-- Reads the patterns of an arm of which one has been read, up to the closing parenthesis. -/
def patterns : Nat → Reading (List Word)
  | 0 => refuse tooDeep
  | fuel + 1 => do
    match ← token fuel .none with
    | .bar =>
      let t ← token fuel .none
      return patternWord t :: (← patterns fuel)
    | .closing => return []
    | t => unexpected t (some (Token.quoted ")"))

/-- Reads the arms of a choice and the word that ends it. -/
def arms : Nat → Reading (List (List Word × List Command))
  | 0 => refuse tooDeep
  | fuel + 1 => do
    let t ← token fuel .arm
    if t.isReserved "esac" then return []
    else
      let first ← match t with
        | .opening => token fuel .none
        | _ => pure t
      let more ← patterns fuel
      let body ← commands fuel .optional true
      let arm := (patternWord first :: more, body)
      match ← token fuel .arm with
      | .armEnd => return arm :: (← arms fuel)
      | t => if t.isReserved "esac" then return [arm] else unexpected t (some (Token.quoted ";;"))

/-- Reads a compound command after the word that starts it. -/
def compound : Nat → String → Reading Command
  | 0, _ => refuse tooDeep
  | fuel + 1, start => do
    match start with
    | "if" =>
      let condition ← commands fuel .body true
      demand fuel "then"
      let yes ← commands fuel .body true
      let no ← otherwise fuel
      return .branch condition yes no (← redirects fuel .start)
    | "while" | "until" =>
      let condition ← commands fuel .body true
      demand fuel "do"
      let body ← commands fuel .body true
      demand fuel "done"
      return .repeated (start == "while") condition body (← redirects fuel .start)
    | "for" =>
      let name := match ← token fuel .none with
        | .word w => (Word.bare? w).getD ""
        | _ => ""
      if !isName name then refuse "Bad for loop variable"
      let t ← token fuel .fresh
      let listed ← (
        if t.isReserved "in" then do
          let (ws, t) ← words fuel
          match t with
          | .newline | .semicolon => return some ws
          | _ => unexpected t none
        else do
          match t with
          | .semicolon => return none
          | _ =>
            hold t
            return none : Reading (Option (List Word)))
      let t ← token fuel .fresh
      if !t.isReserved "do" then unexpected t (some (Token.quoted "do"))
      let body ← commands fuel .body true
      demand fuel "done"
      return .each name listed body (← redirects fuel .start)
    | "case" =>
      match ← token fuel .none with
      | .word subject =>
        let t ← token fuel .fresh
        if !t.isReserved "in" then unexpected t (some (Token.quoted "in"))
        let choices ← arms fuel
        return .choose subject choices (← redirects fuel .start)
      | t => unexpected t (some "word")
    | "\x7b" =>
      let body ← commands fuel .body true
      demand fuel "\x7d"
      return .group body (← redirects fuel .start)
    | _ => unexpected (.reserved start) none

/-- Reads one command. -/
def command : Nat → Checks → Reading Command
  | 0, _ => refuse tooDeep
  | fuel + 1, checks => do
    match ← token fuel checks with
    | .reserved text => compound fuel text
    | .opening =>
      let body ← commands fuel .body true
      let t ← token fuel .none
      if !(t matches .closing) then unexpected t (some (Token.quoted ")"))
      return .apart body (← redirects fuel .start)
    | .word w =>
      hold (.word w)
      simple fuel (← get).line ⟨[], [], []⟩
    | .redirect descriptor direction =>
      hold (.redirect descriptor direction)
      simple fuel (← get).line ⟨[], [], []⟩
    | t => unexpected t none

/-- Reads the commands of a pipe after the first. -/
def stages : Nat → Reading (List Command)
  | 0 => refuse tooDeep
  | fuel + 1 => do
    match ← token fuel .none with
    | .bar =>
      let c ← command fuel .fresh
      return c :: (← stages fuel)
    | t =>
      hold t
      return []

/-- Reads commands joined by pipes, or the negation of such. -/
def pipeline : Nat → Checks → Reading Command
  | 0, _ => refuse tooDeep
  | fuel + 1, checks => do
    let t ← token fuel checks
    let negated := t.isReserved "!"
    if !negated then hold t
    let first ← command fuel (if negated then .start else .none)
    let piped := match ← stages fuel with
      | [] => first
      | more => .pipe (first :: more)
    return if negated then .negate piped else piped

/-- Reads the links of a chain after the first command. -/
def links : Nat → Reading (List (Bool × Command))
  | 0 => refuse tooDeep
  | fuel + 1 => do
    match ← token fuel .none with
    | .andThen =>
      let c ← pipeline fuel .fresh
      return (true, c) :: (← links fuel)
    | .orElse =>
      let c ← pipeline fuel .fresh
      return (false, c) :: (← links fuel)
    | t =>
      hold t
      return []

/-- Reads commands as far as `extent` says; `first` if none has been read yet. -/
def commands : Nat → Extent → Bool → Reading (List Command)
  | 0, _, _ => refuse tooDeep
  | fuel + 1, extent, first => do
    let onLine := extent == .line
    let t ← token fuel ⟨!onLine, true, true⟩
    match t with
    | .newline =>
      documents
      return []
    | .ending =>
      documents
      hold t
      return []
    | _ =>
      hold t
      if !onLine && (!first || extent == .optional) && t.endsList then return []
      let head ← pipeline fuel .none
      let chained := match ← links fuel with
        | [] => head
        | more => .chain head more
      let t ← token fuel .none
      match t with
      | .background => return .background chained :: (← commands fuel extent false)
      | .semicolon => return chained :: (← commands fuel extent false)
      | .newline | .ending =>
        hold t
        return chained :: (← commands fuel extent false)
      | _ =>
        if onLine then unexpected t none
        hold t
        return [chained]

end

/-- The commands of the next line and what is left after it. -/
def nextLine (s : Source) : Except SyntaxFault (List Command × Source) := do
  let (body, after) ← (commands (16 * s.rest.length + 64) .line true).run { s with held := none }
  return (body, if after.rest.isEmpty then after.readDocuments else after)

/-- The pieces of a document that things are filled into. -/
def documentPieces (text : String) (s : Source) : Except SyntaxFault (Word × Source) :=
  let cs := text.toList
  (quotedPieces (16 * cs.length + 64) .document).run { s with rest := cs, announced := [] }

end Grammar

end BlockCoverage.Script
