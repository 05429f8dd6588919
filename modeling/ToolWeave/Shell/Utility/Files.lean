import ToolWeave.Shell.Condition
import ToolWeave.Shell.Utility.Lines

/-!
# Utilities on files and words

The utilities that make, move and list files, and those that only print something.

## Main definitions

* `Shell.touch`, `Shell.rm`, `Shell.mkdir`, `Shell.mv`, `Shell.cp`, `Shell.ls`: files.
* `Shell.plainEcho`, `Shell.printf`, `Shell.basename`, `Shell.dirname`: words.
* `Shell.sleep`: time that passes.
* `Shell.playback`: a process that answers each line with a reply given in advance.
-/

namespace ToolWeave

namespace Shell

/-- The absolute path of a file. -/
def Process.pathOf (p : Process) (file : Bytes) : String := Path.resolve p.directory (textOf file)

/-- Keeps a directory, even if no file is left in it. -/
def keepDirectory (path : String) : Action Unit := modify fun p =>
  if p.machine.host.directories.contains path then p
  else { p with machine.host.directories := p.machine.host.directories ++ [path] }

/-- The path of the directory that holds a file. -/
def parentOf (path : String) : String := Path.ofParts "/" (Path.parts path).dropLast

/-- Writes a file anew if its directory is there. -/
def createFile (path : String) (content : Bytes) : Action Bool := do
  let p ← get
  if p.machine.host.isDirectoryAt (Path.parts path).dropLast then do
    set (p.store path content)
    return true
  else return false

/-- Removes a file. -/
def removeFile (path : String) : Action Unit := do
  keepDirectory (parentOf path)
  modify fun p => { p with machine.host.files := Entries.erase path p.machine.host.files }

/-- Removes a directory with all that is in it. -/
def removeTree (path : String) : Action Unit := do
  keepDirectory (parentOf path)
  let isBelow (other : String) : Bool := (Path.parts path).isPrefixOf (Path.parts other)
  modify fun p =>
    { p with
      machine.host.files := p.machine.host.files.filter fun file => !isBelow file.1
      machine.host.directories := p.machine.host.directories.filter fun d => !isBelow d }

/-- Does something for each operand, and gives the largest status. -/
def forOperands (operands : List Bytes) (use : Bytes → Action Nat) : Action Nat :=
  operands.foldlM (fun status operand => do return max status (← use operand)) 0

/-- Makes files that are not there. -/
def touch : Utility := fun arguments =>
  choices "touch" { flags := "acm", valued := "dtr" } 1 arguments fun options =>
    forOperands options.operands fun file => do
      let p ← get
      if (p.host.kind? (textOf file)).isSome || options.has 'c' then return 0
      else if ← createFile (p.pathOf file) [] then return 0
      else do
        complain s!"touch: cannot touch {quotedName file}: No such file or directory\n"
        return 1

/-- Removes files, and directories too if that is asked for. -/
def rm : Utility := fun arguments =>
  choices "rm" ⟨"rRfvdi", "", [("force", 'f'), ("recursive", 'r')], true⟩ 1 arguments
      fun options =>
    forOperands options.operands fun file => do
      let p ← get
      let path := p.pathOf file
      match p.host.kind? (textOf file) with
      | some (.file _) => do
        removeFile path
        return 0
      | some .directory =>
        if options.has 'r' || options.has 'R' then do
          removeTree path
          return 0
        else do
          complain s!"rm: cannot remove {quotedName file}: Is a directory\n"
          return 1
      | some _ => do
        complain s!"rm: cannot remove {quotedName file}: Permission denied\n"
        return 1
      | none =>
        if options.has 'f' then return 0
        else do
          complain s!"rm: cannot remove {quotedName file}: No such file or directory\n"
          return 1

/-- Makes directories. -/
def mkdir : Utility := fun arguments =>
  choices "mkdir" ⟨"pv", "m", [("parents", 'p')], true⟩ 1 arguments fun options =>
    forOperands options.operands fun file => do
      let p ← get
      let path := p.pathOf file
      match p.host.kind? (textOf file) with
      | some .directory =>
        if options.has 'p' then return 0
        else do
          complain s!"mkdir: cannot create directory {quotedName file}: File exists\n"
          return 1
      | some _ => do
        complain s!"mkdir: cannot create directory {quotedName file}: File exists\n"
        return 1
      | none =>
        if options.has 'p' || p.machine.host.isDirectoryAt (Path.parts path).dropLast then do
          keepDirectory path
          return 0
        else do
          complain <| s!"mkdir: cannot create directory {quotedName file}: " ++
            "No such file or directory\n"
          return 1

/-- Removes directories that are empty. -/
def rmdir : Utility := fun arguments =>
  choices "rmdir" { flags := "pv" } 1 arguments fun options =>
    forOperands options.operands fun file => do
      let p ← get
      let path := p.pathOf file
      let refuse (why : String) : Action Nat := do
        complain s!"rmdir: failed to remove {quotedName file}: {why}\n"
        return 1
      match p.host.kind? (textOf file) with
      | some .directory =>
        if (namesIn p.machine.host (Path.parts path)).isEmpty then do
          removeTree path
          return 0
        else refuse "Directory not empty"
      | some _ => refuse "Not a directory"
      | none => refuse "No such file or directory"

/-- The last part of a path. -/
def baseName (path : Bytes) : Bytes :=
  let bare := (path.reverse.dropWhile (· == 47)).reverse
  if bare.isEmpty then (if path.isEmpty then [] else [47])
  else (bare.reverse.takeWhile (· != 47)).reverse

/-- The part of a path before the last one. -/
def directoryName (path : Bytes) : Bytes :=
  let bare := (path.reverse.dropWhile (· == 47)).reverse
  if bare.isEmpty then (if path.isEmpty then [46] else [47])
  else
    let front := bare.reverse.dropWhile (· != 47)
    if front.isEmpty then [46]
    else
      let front := (front.dropWhile (· == 47)).reverse
      if front.isEmpty then [47] else front

/-- Copies or moves one file to a place. -/
def transfer (name : String) (moves : Bool) (source target : Bytes) : Action Nat := do
  let p ← get
  let place : Bytes :=
    match p.host.kind? (textOf target) with
    | some .directory => target ++ [47] ++ baseName source
    | _ => target
  match p.host.kind? (textOf source) with
  | some (.file content) =>
    if ← createFile (p.pathOf place) content then do
      if moves && p.pathOf place != p.pathOf source then removeFile (p.pathOf source)
      return 0
    else do
      let what := if moves then s!"cannot move {quotedName source} to {quotedName place}"
        else s!"cannot create regular file {quotedName place}"
      complain s!"{name}: {what}: No such file or directory\n"
      return 1
  | some .directory =>
    if moves then do
      let old := Path.parts (p.pathOf source)
      let new := Path.parts (p.pathOf place)
      let rename (path : String) : String :=
        if old.isPrefixOf (Path.parts path) then
          Path.ofParts "/" (new ++ (Path.parts path).drop old.length)
        else path
      keepDirectory (p.pathOf source)
      modify fun p =>
        { p with
          machine.host.files := p.machine.host.files.map fun file => (rename file.1, file.2)
          machine.host.directories := p.machine.host.directories.map rename }
      return 0
    else do
      complain s!"{name}: -r not specified; omitting directory {quotedName source}\n"
      return 1
  | _ => do
    complain s!"{name}: cannot stat {quotedName source}: No such file or directory\n"
    return 1

/-- Copies or moves files. -/
def transferAll (name : String) (moves : Bool) : Utility := fun arguments =>
  choices name { flags := "fipvrRan" } 1 arguments fun options =>
    match options.operands.reverse with
    | [] => misuse name "missing file operand"
    | [file] => misuse name s!"missing destination file operand after {quotedName file}"
    | target :: sources => do
      let p ← get
      let isDirectory : Bool :=
        match p.host.kind? (textOf target) with | some .directory => true | _ => false
      if sources.length > 1 && !isDirectory then do
        complain s!"{name}: target {quotedName target}: No such file or directory\n"
        return 1
      else forOperands sources.reverse fun source => transfer name moves source target

/-- Lists the names in directories. -/
def ls : Utility := fun arguments =>
  choices "ls" { flags := "1aAlrdhtp" } 2 arguments fun options => do
    let p ← get
    let operands := if options.operands.isEmpty then [[(46 : UInt8)]] else options.operands
    let kindOf (file : Bytes) := p.host.kind? (textOf file)
    let turn {α : Type} (items : List α) : List α := if options.has 'r' then items.reverse else items
    let status ← forOperands operands fun file => do
      if (kindOf file).isNone then do
        complain s!"ls: cannot access {quotedName file}: No such file or directory\n"
        return 2
      else return 0
    let isDirectory (file : Bytes) : Bool :=
      !options.has 'd' && (match kindOf file with | some .directory => true | _ => false)
    let present := (operands.filter fun file => (kindOf file).isSome).mergeSort noLater
    let files := turn (present.filter fun file => !isDirectory file)
    let directories := turn (present.filter isDirectory)
    let listing (file : Bytes) : Bytes :=
      let names := (namesIn p.machine.host (Path.parts (p.pathOf file))).filter fun name =>
        options.has 'a' || options.has 'A' || !name.startsWith "."
      let names := (if options.has 'a' then [".", ".."] else []) ++ names
      (turn names).flatMap fun name => bytes name ++ [10]
    let titled := operands.length > 1
    let parts := directories.map fun file =>
      (if titled then file ++ [58, 10] else []) ++ listing file
    let first := files.flatMap (· ++ [10])
    emit ([(10 : UInt8)].intercalate ((if files.isEmpty then [] else [first]) ++ parts))
    return status

/-- Prints the last parts of paths. -/
def basename : Utility := fun arguments =>
  choices "basename" { flags := "a", valued := "s", anywhere := false } 1 arguments fun options => do
    let cutEnd (ending name : Bytes) : Bytes :=
      if ending.length < name.length && name.drop (name.length - ending.length) == ending then
        name.take (name.length - ending.length)
      else name
    let ending := (options.value? 's').getD []
    match options.operands with
    | [] => misuse "basename" "missing operand"
    | operands =>
      if options.has 'a' || options.has 's' then do
        emit (operands.flatMap fun path => cutEnd ending (baseName path) ++ [10])
        return 0
      else
        match operands with
        | [path] => do
          emit (baseName path ++ [10])
          return 0
        | [path, ending] => do
          emit (cutEnd ending (baseName path) ++ [10])
          return 0
        | _ => misuse "basename" s!"extra operand {quotedName (operands[2]?.getD [])}"

/-- Prints the parts of paths before the last one. -/
def dirname : Utility := fun arguments =>
  if arguments.isEmpty then misuse "dirname" "missing operand"
  else do
    emit (arguments.flatMap fun path => directoryName path ++ [10])
    return 0

/-- Prints its arguments, as the utility does: with escapes only if asked to. -/
def plainEcho : Utility := fun arguments => do
  let isOption (word : Bytes) : Bool :=
    match word with
    | 45 :: letters => !letters.isEmpty && letters.all fun b => b == 110 || b == 101 || b == 69
    | _ => false
  let options := (arguments.takeWhile isOption).flatMap (·.drop 1)
  let text := spaced (arguments.dropWhile isOption)
  let newLine : Bytes := if options.contains 110 then [] else [10]
  let escaped := (options.filter (· != 110)).getLast? == some 101
  let (text, ended) := if escaped then unescape ⟨true, true, true⟩ text else (text, false)
  emit (if ended then text else text ++ newLine)
  return 0

/-- Prints its arguments by a format. -/
def printf : Utility := fun arguments => do
  let arguments := if arguments.head? = some (bytes "--") then arguments.drop 1 else arguments
  match arguments with
  | [] => misuse "printf" "missing operand"
  | format :: rest => do
    let escapes : Escapes := ⟨false, false, true⟩
    let (format, _) := unescape escapes format
    let state := Printing.turns escapes format (rest.length + 1) { arguments := rest }
    emit state.text
    state.complaints.forM fun text => complain s!"printf: {text}\n"
    return if state.complaints.isEmpty then 0 else 1

/-- The seconds that some bytes spell, perhaps with a letter for a larger unit. -/
def seconds? (text : Bytes) : Option Instant :=
  match readReal (textOf text).toList with
  | some (.finite false ratio, rest) =>
    let unit : Option Nat :=
      match rest with
      | [] | ['s'] => some 1
      | ['m'] => some 60
      | ['h'] => some 3600
      | ['d'] => some 86400
      | _ => none
    unit.bind fun unit => Instant.ofSeconds? (Double.ofRatio false (ratio.num * unit) ratio.den)
  | some (.infinite false, []) => some never
  | _ => none

/-- Lets time pass. -/
def sleep : Utility := fun arguments => do
  let arguments := if arguments.head? = some (bytes "--") then arguments.drop 1 else arguments
  match arguments with
  | [] => misuse "sleep" "missing operand"
  | _ =>
    let wrong := arguments.filter fun text => (seconds? text).isNone
    match arguments.head? with
    | some (45 :: letter :: _) => misuse "sleep" s!"invalid option -- {quotedName [letter]}"
    | _ =>
      if wrong.isEmpty then do
        let length := (arguments.filterMap seconds?).foldl (· + ·) 0
        modify fun p => { p with elapsed := min never (p.elapsed + length) }
        return 0
      else do
        wrong.forM fun text =>
          complain s!"sleep: invalid time interval {quotedName text}\n"
        complain (hint "sleep")
        return 1

/-- Tests a condition. -/
def testUtility (name : String) : Utility := fun arguments => do
  let words := if name = "[" then arguments.dropLast else arguments
  if name = "[" && arguments.getLast? ≠ some (bytes "]") then do
    complain "[: missing ']'\n"
    return 2
  else
    match Condition.holds (← get).host (words.map textOf) with
    | .ok result => return if result then 0 else 1
    | .error text => do
      complain s!"{name}: {text}\n"
      return 2

/-- Prints variables, or those of some names. -/
def printenv : Utility := fun arguments => do
  let vars := (← get).environment
  if arguments.isEmpty then do
    emit (vars.flatMap fun (name, value) => bytes name ++ [61] ++ value ++ [10])
    return 0
  else forOperands arguments fun name => do
    match Entries.get? (textOf name) vars with
    | some value => do
      emit (value ++ [10])
      return 0
    | none => return 1

/-- Prints a text for ever, or as long as anyone could want to read it. -/
def yes : Utility := fun arguments => do
  let line := (if arguments.isEmpty then [(121 : UInt8)] else spaced arguments) ++ [10]
  (List.range 32).forM fun _ => emit (List.replicate 1024 line).flatten
  neverEnd

/-- The message that carries a line, as the so-and-so-manyeth reply. -/
def carrying (number : Nat) (line : Bytes) : Bytes :=
  bytes ("\x7b\"id\":" ++ toString number ++ ",\"result\":") ++ line ++ bytes "\x7d"

/-- Answers each line it reads with the next of its arguments.  The answer `@echo` stands for a
message that carries the line, and `@exit` is no answer but the end, as is a line for which no
argument is left.  `number` counts the answers. -/
def playbackFrom : (number : Nat) → List Bytes → Action Nat
  | _, [] => do
    let _ ← takeLine
    return 0
  | number, reply :: replies => do
    let line ← takeLine
    if !line.contains 10 || reply = bytes "@exit" then return 0
    else do
      let text := if reply = bytes "@echo" then carrying number (bareLine line) else reply
      emit (text ++ [10])
      playbackFrom (number + 1) replies

/-- Answers each line it reads with the next of its arguments. -/
def playback : Utility := playbackFrom 1

end Shell

end ToolWeave
