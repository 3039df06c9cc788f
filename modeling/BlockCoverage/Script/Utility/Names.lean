import BlockCoverage.Script.Permissions
import BlockCoverage.Script.Utility.Basic

/-!
# Programs that work on names

Creating, removing, copying, moving and linking. A name that is a link is taken for itself by
programs that remove and move, and followed by those that read.
-/

namespace BlockCoverage.Script.Utility

open Text (Bytes)
open Machine (wording path)

/-- The last name of a path, slashes at its end left out. -/
def lastName (operand : String) : String :=
  match (Path.stretches operand).getLast? with
  | some name => name
  | none => if operand = "" then "" else "/"

/-- A path below another one. -/
def below (dir name : String) : String :=
  if dir.toList.getLast? = some '/' then dir ++ name else dir ++ "/" ++ name

/-- The files after a change to them. -/
def changed (m : Machine) (change : Files → Files) : Machine := m.withFiles (change m.world.files)

/-- Asks before something is done; the answer is read from the input. -/
def confirmed (question : String) (m : Machine) : Bool × Machine :=
  let asked := m.warn question
  let line := (asked.available 0).takeWhile (fun b => b != 10)
  let left := asked.consume 0 (line.length + 1)
  ((line.head?).any (fun b => b == 121 || b == 89), left)

/-! ## Directories -/

/-- Gives the directory at a path the permissions of a new one. -/
def withMode (m : Machine) (text : String) (mode : Nat) : Machine :=
  match m.look false text with
  | .ok (_, .directory n) => changed m (fun fs => fs.modifyInode n (fun i => { i with mode }))
  | _ => m

/-- Creates one directory; what is said about it if asked. -/
def makeOne (verbose : Bool) (mode : Nat) (text : String)
    (m : Machine) : Except IoCause Machine := do
  let files ← m.world.files.makeDirectory (path text)
  let made := withMode (m.withFiles files) text mode
  return if verbose then made.say ("mkdir: created directory " ++ shown text ++ "\n") else made

/-- Creates a directory with all its parents: the path that could not be created, and why. -/
def makeParents (verbose : Bool) (mode : Nat) (absolute : Bool) (done : List String) (m : Machine) :
    List String → Except (String × IoCause) Machine
  | [] => .ok m
  | part :: rest =>
    let names := done ++ [part]
    let text := (if absolute then "/" else "") ++ String.intercalate "/" names
    if m.world.files.isDirectory (path text) then makeParents verbose mode absolute names m rest
    else
      let own := if rest.isEmpty then mode else 511 - Nat.land 511 m.mask
      match makeOne verbose own text m with
      | .ok made => makeParents verbose mode absolute names made rest
      | .error cause =>
        .error (text, if cause = .alreadyExists ∧ !rest.isEmpty then .notADirectory else cause)

/-- Creates directories. -/
def mkdir : Utility :=
  withSwitches "mkdir" "pvm:Z" [("parents", 'p'), ("verbose", 'v'), ("mode", 'm')] 1
  (fun switches operands m =>
    if operands.isEmpty then misuse "mkdir" "missing operand" 1 m
    else
      let verbose := Switches.given switches 'v'
      let usual := 511 - Nat.land 511 m.mask
      let wanted :=
        (Switches.value? switches 'm').map (fun text => (text, Permissions.parse? m.mask text))
      match wanted with
      | some (text, none) => fail "mkdir" ("invalid mode " ++ shown text) 1 m
      | _ =>
        let mode := match wanted with
          | some (_, some change) => change true 511
          | _ => usual
        let one := fun (m : Machine) (operand : String) =>
          let made := if Switches.given switches 'p' ∧ operand ≠ "" then
              makeParents verbose mode (Path.isAbsolute operand) [] m (Path.stretches operand)
            else (makeOne verbose mode operand m).mapError (fun cause => (operand, cause))
          match made with
          | .ok m => m
          | .error (text, cause) =>
            fail "mkdir" ("cannot create directory " ++ shown text ++ ": " ++ wording cause) 1 m
        operands.foldl one (m.leave 0))

/-- Removes an empty directory, or says why not. -/
def removeEmpty (text : String) (m : Machine) : Except String Machine :=
  match m.look false text with
  | .error cause => .error (wording cause)
  | .ok (loc, .directory _) =>
    if lastName text = "." then .error "Invalid argument"
    else if !(m.world.files.namesBelow loc).isEmpty then .error "Directory not empty"
    else .ok (changed m (fun fs => fs.unbind loc))
  | .ok _ => .error "Not a directory"

/-- The parents of a path, the nearest first. -/
def parentPaths (text : String) : List String :=
  let names := Path.stretches text
  let front := if Path.isAbsolute text then "/" else ""
  ((List.range names.length).drop 1).reverse.map (fun n => front ++
    String.intercalate "/" (names.take n))

/-- Removes empty directories. -/
def rmdir : Utility :=
  withSwitches "rmdir" "pvI" [("parents", 'p'), ("verbose", 'v'),
    ("ignore-fail-on-non-empty", 'I')] 1
  (fun switches operands m =>
    if operands.isEmpty then misuse "rmdir" "missing operand" 1 m
    else
      let has := Switches.given switches
      let remove := fun (what : String) (m : Machine) (text : String) =>
        let said := if has 'v' then m.say ("rmdir: removing directory, " ++ shown text ++ "\n")
          else m
        match removeEmpty text said with
        | .ok m => (true, m)
        | .error reason =>
          if has 'I' ∧ reason = "Directory not empty" then (false, said)
          else (false, fail "rmdir" ("failed to remove " ++ what ++ shown text ++ ": " ++ reason)
            1 said)
      let one := fun (m : Machine) (operand : String) =>
        let first := remove "" m operand
        let more := if has 'p' then parentPaths operand else []
        (more.foldl (fun (acc : Bool × Machine) text =>
          if acc.1 then remove "directory " acc.2 text else acc) first).2
      operands.foldl one (m.leave 0))

/-! ## Removing -/

/-- The words for what an entry is. -/
def kindWords (m : Machine) : Entry → String
  | .file n => if (m.world.files.inode n).size = 0 then "regular empty file" else "regular file"
  | .directory _ => "directory"
  | .link _ => "symbolic link"
  | .device _ => "character special file"

/-- Removes what is at and below a location, saying so if asked, the inner names first. -/
def removeTree (verbose : Bool) (text : String) (loc : Location) (m : Machine) : Machine :=
  let inside := m.world.files.names.entries.filter (fun e => loc.isPrefixOf e.1)
  let line := fun (e : Location × Entry) =>
    let name := String.intercalate "/" (text :: (e.1.drop loc.length).map Text.Octets.encode)
    (if e.2 matches .directory _ then "removed directory " else "removed ") ++ shown name ++ "\n"
  let said := if verbose then m.say (String.join (inside.reverse.map line)) else m
  changed said (fun fs => { fs with names := fs.names.filter (fun k _ => !loc.isPrefixOf k) })

/-- Removes files, and directories with all that is in them if asked. -/
def rm : Utility := fun args m =>
  match Switches.permuted "fiIrRdv" [("force", 'f'), ("recursive", 'r'), ("dir", 'd'),
    ("verbose", 'v'),
    ("interactive", 'i'), ("one-file-system", 'f'), ("preserve-root", 'f'),
      ("no-preserve-root", 'f')] args with
  | .error text =>
    let meant := args.find? (fun a => a.toList.head? == some '-' && (m.look false a).isOk)
    let m := note "rm" text m
    let m := match meant with
      | some name => m.warn ("Try 'rm ./" ++ name ++ "' to remove the file " ++ shown name ++ ".\n")
      | none => m
    (m.warn "Try 'rm --help' for more information.\n").leave 1
  | .ok (switches, operands) =>
    let has := Switches.given switches
    let last := (switches.filter (fun s => s.letter == 'f' || s.letter == 'i')).getLast?
    let asks := last.map Switch.letter = some 'i'
    if operands.isEmpty then (if has 'f' then m.leave 0 else misuse "rm" "missing operand" 1 m)
    else
      let deep := has 'r' || has 'R'
      let one := fun (m : Machine) (operand : String) =>
        let failed := fun (text : String) =>
          fail "rm" ("cannot remove " ++ shown operand ++ ": " ++ text) 1 m
        let trimmed :=
          String.ofList ((operand.toList.reverse.dropWhile (fun c => c == '/')).reverse)
        let linked := (m.look false trimmed).toOption.map Prod.snd
        match m.look false operand with
        | .error .notFound => if has 'f' then m else failed "No such file or directory"
        | .error .notADirectory =>
          if has 'f' ∧ !Files.endsWithSlash operand then m else failed "Not a directory"
        | .error cause => failed (wording cause)
        | .ok (loc, entry) =>
          let isDirectory := entry matches .directory _
          if Files.endsWithSlash operand ∧ linked.any (fun e => e matches .link _) then
            failed "Not a directory"
          else if isDirectory && !deep && !has 'd' then failed "Is a directory"
          else if isDirectory && [".", ".."].contains (lastName operand) then
            fail "rm" ("refusing to remove '.' or '..' directory: skipping " ++ shown operand) 1 m
          else if isDirectory && !deep && !(m.world.files.namesBelow loc).isEmpty then
            failed "Directory not empty"
          else
            let (yes, m) := if asks then
                confirmed ("rm: remove " ++ kindWords m entry ++ " " ++ shown operand ++ "? ") m
              else (true, m)
            if yes then removeTree (has 'v') trimmed loc m else m
      operands.foldl one (m.leave 0)

/-- Removes one name. -/
def unlink : Utility := fun args m =>
  match args.filter (fun a => a ≠ "--") with
  | [] => misuse "unlink" "missing operand" 1 m
  | [operand] =>
    match m.world.files.remove (path operand) with
    | .ok files => (m.withFiles files).leave 0
    | .error cause => fail "unlink" ("cannot unlink " ++ shown operand ++ ": " ++ wording cause) 1 m
  | _ :: extra :: _ => misuse "unlink" ("extra operand " ++ shown extra) 1 m

/-! ## Copying -/

/-- Where a source goes: below the target if that is a directory. -/
def destination (m : Machine) (source target : String) : String :=
  if m.world.files.isDirectory (path target) then below target (lastName source) else target

/-- Works on each source and the place where it goes. -/
def eachToTarget (name : String) (switches : List Switch) (operands : List String)
    (one : String → String → Machine → Machine) (m : Machine) : Machine :=
  let into := fun (target : String) (sources : List String) =>
    match m.look true target with
    | .error cause => fail name ("target " ++ shown target ++ ": " ++ wording cause) 1 m
    | .ok (_, .directory _) =>
      sources.foldl (fun m s => one s (below target (lastName s)) m) (m.leave 0)
    | .ok _ => fail name ("target " ++ shown target ++ ": Not a directory") 1 m
  match Switches.value? switches 't', operands with
  | _, [] => misuse name "missing file operand" 1 m
  | some target, sources => into target sources
  | none, [source] => misuse name ("missing destination file operand after " ++ shown source) 1 m
  | none, [source, target] =>
    one source (if Switches.given switches 'T' then target
      else destination m source target) (m.leave 0)
  | none, _ =>
    if Switches.given switches 'T' then
      misuse name ("extra operand " ++ shown ((operands.drop 2).headD "")) 1 m
    else into (operands.getLastD "") operands.dropLast

/-- How things are copied. -/
structure Copying where
  /-- Whether directories are copied. -/
  deep : Bool
  /-- Whether links are copied as links; `none` stands for those that are below a directory. -/
  links : Bool
  /-- Whether permissions and times are kept. -/
  keeps : Bool
  /-- Whether what is done is said. -/
  verbose : Bool
  /-- Whether what is there is left alone. -/
  spares : Bool
  /-- Whether it is asked before something is replaced. -/
  asks : Bool
  /-- Whether only what is newer is copied. -/
  newer : Bool
  /-- Whether a second name is made in place of a copy. -/
  hard : Bool
  /-- Whether a link is made in place of a copy. -/
  soft : Bool
  /-- Whether what cannot be opened is removed first. -/
  force : Bool
  /-- Whether what is replaced is kept under another name. -/
  saves : Bool

/-- Copies the contents of a file to a path. -/
def copyContents (c : Copying) (number : Nat) (source dest : String) (m : Machine) : Machine :=
  let i := m.world.files.inode number
  let fresh := (m.look true dest).toOption.isNone
  match m.openFile dest .write with
  | .error cause =>
    let cause := if cause = .isADirectory then .notADirectory else cause
    fail "cp" ("cannot create regular file " ++ shown dest ++ ": " ++ wording cause) 1 m
  | .ok (n, m) =>
    let written := { m with world := m.world.write n i.contents }
    let said := if c.verbose then written.say (shown source ++ " -> " ++ shown dest ++ "\n")
      else written
    match m.world.channel n with
    | .file target _ _ _ =>
      changed said (fun fs => fs.modifyInode target (fun t => { t with
        mode := if c.keeps then i.mode else if fresh then i.mode - Nat.land i.mode m.mask
          else t.mode
        modified := if c.keeps then i.modified else t.modified }))
    | _ => said

/-- Copies one file, link or directory; directories at most `fuel` deep. -/
def copyOne (c : Copying) : Nat → Bool → String → String → Machine → Machine
  | 0, _, _, _, m => m
  | fuel + 1, top, source, dest, m =>
    let followed := if top then !c.links else !(c.links || c.deep)
    match m.look followed source, m.look false dest with
    | .error cause, _ => fail "cp" ("cannot stat " ++ shown source ++ ": " ++ wording cause) 1 m
    | .ok (loc, entry), there =>
      let target := (m.look true dest).toOption
      let dangling := (there.toOption.map Prod.snd).any (fun e => e matches .link _) &&
        target.isNone
      let said := fun (m : Machine) =>
        if c.verbose then m.say (shown source ++ " -> " ++ shown dest ++ "\n") else m
      match entry with
      | .directory n =>
        if !c.deep then fail "cp" ("-r not specified; omitting directory " ++ shown source) 1 m
        else match target with
          | some (_, .file _) =>
            fail "cp" ("cannot overwrite non-directory " ++ shown dest ++ " with directory " ++
              shown source) 1 m
          | _ =>
            let inside := m.world.files.namesBelow loc
            let made : Except IoCause Machine := match target with
              | some (_, .directory _) => .ok m
              | _ =>
                let mode := (m.world.files.inode n).mode
                (m.world.files.makeDirectory (path dest)).map (fun files =>
                  said (withMode (m.withFiles files) dest
                    (mode - Nat.land mode (if c.keeps then 0 else m.mask))))
            match made with
            | .error cause =>
              fail "cp" ("cannot create directory " ++ shown dest ++ ": " ++ wording cause) 1 m
            | .ok m =>
              let goal := (m.look true dest).toOption.map Prod.fst
              if goal.any (fun g => loc.isPrefixOf g) then
                fail "cp" ("cannot copy a directory, " ++ shown source ++ ", into itself, " ++
                  shown dest) 1 m
              else inside.foldl (fun m name =>
                let shownName := Text.Octets.encode name
                copyOne c fuel false (below source shownName) (below dest shownName) m) m
      | .link text =>
        let removed := changed m (fun fs => match there with
          | .ok (l, .link _) | .ok (l, .file _) => fs.unbind l
          | _ => fs)
        match removed.world.files.reach (path dest) with
        | .ok l => said (changed removed (fun fs => fs.bind l (.link text)))
        | .error cause =>
          fail "cp" ("cannot create symbolic link " ++ shown dest ++ ": " ++ wording cause) 1 m
      | .device _ => copyContents c m.world.files.inodes.size source dest m
      | .file n =>
        match target with
        | some (_, .directory _) =>
          fail "cp" ("cannot overwrite directory " ++ shown dest ++ " with non-directory") 1 m
        | _ =>
          let isOld : Bool := match target with
            | some (_, .file t) =>
              decide ((m.world.files.inode n).modified ≤ (m.world.files.inode t).modified)
            | _ => false
          if target.any (fun t => t.2 == .file n) ∧ !(c.soft || c.hard) then
            fail "cp" (shown source ++ " and " ++ shown dest ++ " are the same file") 1 m
          else if c.spares ∧ there.toOption.isSome then m
          else if c.newer ∧ isOld then m
          else if dangling then
            fail "cp" ("not writing through dangling symlink " ++ shown dest) 1 m
          else
            let (yes, m) := if c.asks ∧ target.isSome then
                confirmed ("cp: overwrite " ++ shown dest ++ "? ") m
              else (true, m)
            if !yes then m.leave 1
            else if c.hard || c.soft then
              match m.world.files.reach (path dest), there.toOption with
              | .ok l, none =>
                said (changed m (fun fs => fs.bind l (if c.soft then .link source else .file n)))
              | _, _ =>
                fail "cp" ("cannot create " ++ (if c.soft then "symbolic" else "hard") ++
                  " link " ++
                  shown dest ++ (if c.soft then "" else " to " ++ shown source) ++
                    ": File exists") 1 m
            else
              let m := match there with
                | .ok (l, .file _) =>
                  if c.saves then
                    changed m (fun fs => fs.rename l (l.dropLast ++ [l.getLastD "" ++ "~"])) else m
                | _ => m
              copyContents c n source dest m

/-- How deep directories are copied. -/
def maxDepth : Nat := 200

/-- Copies files. -/
def cp : Utility :=
  withSwitches "cp" "abdfHilLnpPrRst:TuvxZqQ" [("recursive", 'r'), ("archive", 'a'), ("force", 'f'),
    ("no-clobber", 'n'), ("update", 'u'), ("verbose", 'v'), ("interactive", 'i'), ("link", 'l'),
    ("symbolic-link", 's'), ("dereference", 'L'), ("no-dereference", 'P'),
      ("target-directory", 't'),
    ("no-target-directory", 'T'), ("parents", 'q'), ("preserve", 'p'), ("backup", 'b')] 1
  (fun switches operands m =>
    let has := Switches.given switches
    let m := if has 'n' then
        note "cp" ("warning: behavior of -n is non-portable and may change in future; " ++
          "use --update=none instead") m
      else m
    let deep := has 'r' || has 'R' || has 'a'
    let c : Copying :=
      { deep, links := (has 'P' || has 'd' || deep) && !has 'L' && !(has 'H' && !has 'P')
        keeps := has 'p' || has 'a', verbose := has 'v', spares := has 'n', asks :=
          has 'i' && !has 'f'
        newer := has 'u', hard := has 'l', soft := has 's', force := has 'f', saves := has 'b' }
    if has 'q' then
      let target := operands.getLastD ""
      if !m.world.files.isDirectory (path target) then
        misuse "cp" "with --parents, the destination must be a directory" 1 m
      else
        let one := fun (m : Machine) (source : String) =>
          let parents := (parentPaths source).reverse.filter (fun p => p ≠ "/" ∧ p ≠ "")
          let made := parents.foldl (fun (m : Machine) p =>
            match m.world.files.makeDirectory (path (below target p)) with
            | .ok files => m.withFiles files
            | .error _ => m) m
          copyOne c maxDepth true source (below target source) made
        operands.dropLast.foldl one (m.leave 0)
    else eachToTarget "cp" switches operands (copyOne c maxDepth true) m)

/-! ## Moving -/

/-- Moves one file, link or directory. -/
def moveOne (switches : List Switch) (source dest : String) (m : Machine) : Machine :=
  let has := Switches.given switches
  let failed := fun (text : String) =>
    fail "mv" ("cannot move " ++ shown source ++ " to " ++ shown dest ++ ": " ++ text) 1 m
  match m.look false source, m.world.files.reach (path dest) with
  | .error cause, _ => fail "mv" ("cannot stat " ++ shown source ++ ": " ++ wording cause) 1 m
  | .ok _, .error cause => failed (wording cause)
  | .ok (loc, entry), .ok target =>
    let there := m.world.files.entryAt? target
    let isDirectory := entry matches .directory _
    if (target = loc ∧ !isDirectory) ∨ (there = some entry ∧ !isDirectory ∧ target ≠ loc) then
      fail "mv" (shown source ++ " and " ++ shown dest ++ " are the same file") 1 m
    else if isDirectory && loc.isPrefixOf target then
      fail "mv" ("cannot move " ++ shown source ++ " to a subdirectory of itself, " ++
        shown dest) 1 m
    else if there.isSome ∧ has 'n' then fail "mv" ("not replacing " ++ shown dest) 1 m
    else match isDirectory, there with
      | true, some (.file _) | true, some (.link _) =>
        fail "mv" ("cannot overwrite non-directory " ++ shown dest ++ " with directory " ++
          shown source) 1 m
      | false, some (.directory _) =>
        fail "mv" ("cannot overwrite directory " ++ shown dest ++ " with non-directory") 1 m
      | true, some (.directory _) =>
        if !(m.world.files.namesBelow target).isEmpty then
          fail "mv" ("cannot overwrite " ++ shown dest ++ ": Directory not empty") 1 m
        else changed m (fun fs => (fs.unbind target).rename loc target)
      | _, _ =>
        if !isDirectory ∧ Files.endsWithSlash dest then failed "Not a directory"
        else
          let (yes, m) := if has 'i' && !has 'f' && there.isSome then
              confirmed ("mv: overwrite " ++ shown dest ++ "? ") m
            else (true, m)
          if !yes then m.leave 1
          else
            let saved := if has 'b' ∧ there.isSome then
                changed m (fun fs =>
                  fs.rename target (target.dropLast ++ [target.getLastD "" ++ "~"]))
              else m
            let said := if has 'v' then
                saved.say ("renamed " ++ shown source ++ " -> " ++ shown dest ++ "\n")
              else saved
            changed said (fun fs => (fs.unbind target).rename loc target)

/-- Moves files. -/
def mv : Utility :=
  withSwitches "mv" "bfinuvt:TZ" [("force", 'f'), ("no-clobber", 'n'), ("verbose", 'v'),
    ("interactive", 'i'), ("backup", 'b'), ("target-directory", 't'), ("no-target-directory", 'T'),
    ("update", 'u')] 1
  (fun switches operands m => eachToTarget "mv" switches operands (moveOne switches) m)

/-! ## Links -/

/-- The location that a path leads to; `missing` says how much of it may be missing: nothing, the
last name, or anything. -/
def canonical (m : Machine) (missing : Nat) (operand : String) : Except IoCause Location :=
  let files := m.world.files
  match files.locate (path operand) with
  | .ok loc => if missing = 0 ∧ (files.entryAt? loc).isNone then .error .notFound else .ok loc
  | .error cause =>
    if missing < 2 ∨ operand = "" then .error cause
    else
      let start := if Path.isAbsolute operand then [] else (files.locationOf? files.here).getD []
      .ok ((Path.stretches (path operand)).foldl (fun loc part =>
        if part = "." then loc else if part = ".." then loc.dropLast
        else (files.walk true Files.maxLinks loc [part]).toOption.getD (loc ++ [part])) start)

/-- One location seen from another. -/
def relative (base loc : Location) : String :=
  let common := ((base.zip loc).takeWhile (fun (a, b) => a == b)).length
  let parts := List.replicate (base.length - common) ".." ++ loc.drop common
  if parts.isEmpty then "." else Text.Octets.encode (String.intercalate "/" parts)

/-- The path of the directory that a path is in. -/
def parentPath (text : String) : String :=
  let up := (text.toList.reverse.dropWhile (fun c => c == '/')).dropWhile (fun c => c != '/')
  if up.isEmpty then "." else String.ofList up.reverse

/-- Gives a file a second name, or makes a link to a path. -/
def linkOne (switches : List Switch) (source dest : String) (m : Machine) : Machine :=
  let has := Switches.given switches
  let soft := has 's'
  let kind := if soft then "symbolic link " else "hard link "
  let failed := fun (detail text : String) =>
    fail "ln" ("failed to create " ++ kind ++ shown dest ++ detail ++ ": " ++ text) 1 m
  let detail := if soft then (if source = "" then " -> " ++ shown source else "")
    else " => " ++ shown source
  let seen := if has 'r' then
      match canonical m 2 source, canonical m 2 (parentPath dest) with
      | .ok loc, .ok base => Text.Octets.decode (relative base loc)
      | _, _ => path source
    else path source
  let made : Except String Entry :=
    if soft then .ok (.link seen)
    else match m.look (has 'L') source with
      | .error cause => .error ("failed to access " ++ shown source ++ ": " ++ wording cause)
      | .ok (_, .directory _) => .error (source ++ ": hard link not allowed for directory")
      | .ok (_, e) => .ok e
  match made, m.world.files.reach (path dest) with
  | .error text, _ => fail "ln" text 1 m
  | .ok _, .error cause => failed detail (wording cause)
  | .ok entry, .ok loc =>
    let there := m.world.files.entryAt? loc
    if there.isSome ∧ !has 'f' then failed "" "File exists"
    else if there.any (fun e => e matches .directory _) then
      fail "ln" (dest ++ ": cannot overwrite directory") 1 m
    else if soft ∧ source = "" then failed detail "No such file or directory"
    else if Files.endsWithSlash dest then failed detail "No such file or directory"
    else
      let said := if has 'v' then
          m.say (shown dest ++ (if soft then " -> " else " => ") ++ shown source ++ "\n")
        else m
      changed said (fun fs => fs.bind loc entry)

/-- Makes links. -/
def ln : Utility :=
  withSwitches "ln" "bdfFinLPrst:Tv" [("symbolic", 's'), ("force", 'f'), ("no-dereference", 'n'),
    ("verbose", 'v'), ("target-directory", 't'), ("no-target-directory", 'T'), ("logical", 'L'),
    ("physical", 'P'), ("relative", 'r')] 1
  (fun switches operands m =>
    match operands, Switches.value? switches 't' with
    | [], _ => misuse "ln" "missing file operand" 1 m
    | [source], none => linkOne switches source (below "." (lastName source)) (m.leave 0)
    | [source, target], none =>
      let isLink := (m.look false target).toOption.any (fun e => e.2 matches .link _)
      let kept := Switches.given switches 'T' || (Switches.given switches 'n' && isLink)
      linkOne switches source (if kept then target else destination m source target) (m.leave 0)
    | _, _ => eachToTarget "ln" switches operands (linkOne switches) m)

/-- Gives a file one more name. -/
def link : Utility := fun args m =>
  match args.filter (fun a => a ≠ "--") with
  | [] => misuse "link" "missing operand" 1 m
  | [one] => misuse "link" ("missing operand after " ++ shown one) 1 m
  | [source, dest] =>
    match m.look false source, m.world.files.reach (path dest) with
    | .ok (_, .file n), .ok loc =>
      if (m.world.files.entryAt? loc).isSome then
        fail "link" ("cannot create link " ++ shown dest ++ " to " ++ shown source ++
          ": File exists") 1 m
      else (changed m (fun fs => fs.bind loc (.file n))).leave 0
    | .error cause, _ | _, .error cause =>
      fail "link" ("cannot create link " ++ shown dest ++ " to " ++ shown source ++ ": " ++
        wording cause) 1 m
    | _, _ =>
      fail "link" ("cannot create link " ++ shown dest ++ " to " ++ shown source ++
        ": Operation not permitted") 1 m
  | _ :: _ :: extra :: _ => misuse "link" ("extra operand " ++ shown extra) 1 m

/-- Writes where links lead. -/
def readlink : Utility :=
  withSwitches "readlink" "femnqsvz" [("canonicalize", 'f'), ("canonicalize-existing", 'e'),
    ("canonicalize-missing", 'm'), ("no-newline", 'n'), ("verbose", 'v'), ("zero", 'z')] 1
  (fun switches operands m =>
    let has := Switches.given switches
    if operands.isEmpty then misuse "readlink" "missing operand" 1 m
    else
      let ending := if has 'z' then "\x00" else if has 'n' && operands.length = 1 then "" else "\n"
      let one := fun (m : Machine) (operand : String) =>
        let failed := fun (text : String) =>
          if has 'v' then fail "readlink" (operand ++ ": " ++ text) 1 m else m.leave 1
        if has 'f' || has 'e' || has 'm' then
          match canonical m (if has 'm' then 2 else if has 'e' then 0 else 1) operand with
          | .ok loc => m.say (Machine.locationText loc ++ ending)
          | .error cause => failed (wording cause)
        else match m.look false operand with
          | .ok (_, .link target) => m.say (Text.Octets.encode target ++ ending)
          | .ok _ => failed "Invalid argument"
          | .error cause => failed (wording cause)
      operands.foldl one (m.leave 0))

/-- Writes paths without their detours. -/
def realpath : Utility :=
  withSwitches "realpath" "eLmPqszR:" [("canonicalize-existing", 'e'),
    ("canonicalize-missing", 'm'),
    ("quiet", 'q'), ("strip", 's'), ("no-symlinks", 's'), ("zero", 'z'), ("relative-to", 'R'),
    ("logical", 'L'), ("physical", 'P')] 1 (fun switches operands m =>
    let has := Switches.given switches
    if operands.isEmpty then misuse "realpath" "missing operand" 1 m
    else
      let ending := if has 'z' then "\x00" else "\n"
      let given := Switches.value? switches 'R'
      let base :=
        given.map (fun b => canonical m (if has 'm' then 2 else if has 'e' then 0 else 1) b)
      let one := fun (m : Machine) (operand : String) =>
        let plain := (Path.stretches operand).foldl (fun loc part =>
          if part = "." then loc else if part = ".." then loc.dropLast else loc ++ [path part])
          (if Path.isAbsolute operand then []
            else (m.world.files.locationOf? m.world.files.here).getD [])
        let found : Except IoCause Location := if has 's' then .ok plain
          else canonical m (if has 'm' then 2 else if has 'e' then 0 else 1) operand
        match found with
        | .error cause =>
          if has 'q' then m.leave 1 else fail "realpath" (operand ++ ": " ++ wording cause) 1 m
        | .ok loc =>
          m.say ((match base with
            | some (.ok b) => relative b loc
            | _ => Machine.locationText loc) ++ ending)
      match base with
      | some (.error cause) => fail "realpath" (given.getD "" ++ ": " ++ wording cause) 1 m
      | _ => operands.foldl one (m.leave 0))

/-- Creates a file or a directory with a name that is not taken. -/
def mktemp : Utility :=
  withSwitches "mktemp" "dp:qtu" [("directory", 'd'), ("quiet", 'q'), ("dry-run", 'u'),
    ("tmpdir", 'p')] 1
  (fun switches operands m =>
    let has := Switches.given switches
    let template := operands.headD "tmp.XXXXXXXXXX"
    let marks := (template.toList.reverse.takeWhile (fun c => c == 'X')).length
    if marks < 3 then fail "mktemp" ("too few X's in template " ++ shown template) 1 m
    else
      let digits := Nat.toDigits 10 (Nat.pow 7 12 + 104729 * m.world.files.inodes.size)
      let filled := (digits ++ List.replicate marks 'a').take marks
      let name := String.ofList (template.toList.take (template.length - marks) ++ filled)
      let place := if operands.isEmpty ∨ has 't' then some ((m.lookup? "TMPDIR").getD "/tmp")
        else Switches.value? switches 'p'
      let full := match place with
        | some dir => below (if dir = "" then "/tmp" else dir) name
        | none => name
      let made := if has 'u' then .ok m
        else if has 'd' then (makeOne false 448 full m)
        else (m.openFile full .append).map (fun (n, m) =>
          match m.world.channel n with
          | .file k _ _ _ =>
            changed m (fun fs => fs.modifyInode k (fun i => { i with mode := 384 }))
          | _ => m)
      match made with
      | .ok m => (m.say (full ++ "\n")).leave 0
      | .error cause =>
        fail "mktemp" ("failed to create " ++ (if has 'd' then "directory" else "file") ++
          " via template " ++ shown (match place with
            | some dir => below dir template
            | none => template) ++ ": " ++ wording cause) 1 m)

/-! ## Permissions -/

/-- The permissions of a file or a directory. -/
def modeOf (m : Machine) : Entry → Nat
  | .file n | .directory n => (m.world.files.inode n).mode
  | .link _ => 511
  | .device _ => 438

/-- Changes the permissions of what a location names. -/
def chmodAt (switches : List Switch) (change : Bool → Nat → Nat) (m : Machine)
    (place : String × Entry) : Machine :=
  let (text, entry) := place
  match entry with
  | .file n | .directory n =>
    let before := modeOf m entry
    let isDirectory := entry matches .directory _
    let after := change isDirectory before
    let describe := fun (mode : Nat) => Permissions.octal 4 mode ++ " (" ++
      Permissions.letters mode ++ ")"
    let said := if Switches.given switches 'v' ∨ (Switches.given switches 'c' ∧ before ≠ after) then
        m.say ("mode of " ++ shown text ++
          (if before = after then " retained as " ++ describe before
          else " changed from " ++ describe before ++ " to " ++ describe after) ++ "\n")
      else m
    changed said (fun fs => fs.modifyInode n (fun i => { i with mode := after }))
  | _ => m

/-- Whether a word is a change of permissions that looks like switches. -/
def isModeWord (word : String) : Bool :=
  match word.toList with
  | '-' :: c :: _ => ['r', 'w', 'x', 'X', 's', 't', 'u', 'g', 'o', 'a', ','].contains c
  | _ => false

/-- Changes the permissions of files. -/
def chmod : Utility := fun args m =>
  let removing := args.find? isModeWord
  let rest := match removing with
    | some word => args.erase word
    | none => args
  withSwitches "chmod" "cfvRq:" [("changes", 'c'), ("quiet", 'f'), ("silent", 'f'),
    ("verbose", 'v'),
    ("recursive", 'R'), ("reference", 'q')] 1
  (fun switches operands m =>
    let reference := Switches.value? switches 'q'
    let words := match removing, reference with
      | some word, none => word :: operands
      | _, _ => operands
    match if reference.isSome then "" :: words else words with
    | [] => misuse "chmod" "missing operand" 1 m
    | [mode] => misuse "chmod" ("missing operand after " ++ shown mode) 1 m
    | mode :: targets =>
      let change := match reference with
        | some text =>
          ((m.look true text).toOption).map
          (fun (e : Location × Entry) => fun (_ : Bool) (_ : Nat) => modeOf m e.2)
        | none => Permissions.parse? m.mask mode
      match change with
      | none => misuse "chmod" ("invalid mode: " ++ shown mode) 1 m
      | some change =>
        let one := fun (m : Machine) (operand : String) =>
          match m.look true operand with
          | .error cause =>
            if Switches.given switches 'f' then m.leave 1
            else fail "chmod" ("cannot access " ++ shown operand ++ ": " ++ wording cause) 1 m
          | .ok (loc, entry) =>
            let inside := if Switches.given switches 'R' then
                (m.world.files.names.entries.filter (fun e => loc.isPrefixOf e.1 && e.1 != loc)).map
                  (fun (k, e) => (String.intercalate "/" (operand :: (k.drop loc.length).map
                    Text.Octets.encode), e))
              else []
            ((operand, entry) :: inside).foldl (chmodAt switches change) m
        targets.foldl one (m.leave 0)) rest m

/-- Changes the owner of files, which is the same for all. -/
def chown (name : String) : Utility :=
  withSwitches name "cfvRhHLP" [("recursive", 'R'), ("verbose", 'v')] 1 (fun _ operands m =>
    match operands with
    | [] => misuse name "missing operand" 1 m
    | [one] => misuse name ("missing operand after " ++ shown one) 1 m
    | _ :: targets =>
      let one := fun (m : Machine) (operand : String) =>
        match m.look true operand with
        | .ok _ => m
        | .error cause => fail name ("cannot access " ++ shown operand ++ ": " ++ wording cause) 1 m
      targets.foldl one (m.leave 0))

end BlockCoverage.Script.Utility
