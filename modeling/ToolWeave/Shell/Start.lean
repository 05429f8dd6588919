import ToolWeave.Shell.Builtin
import ToolWeave.Shell.Utility.Basic

/-!
# Starting programs and opening files

What a process starts with, how a shell finds the program that a name stands for, and where the
files are that descriptors are led to.

## Main definitions

* `Shell.Process.started`: a shell before it does anything.
* `Shell.Process.findProgram`: the program that a name stands for.
* `Shell.Process.openForOutput`, `Shell.openForInput`: files behind descriptors.
* `Shell.shellOptions`: the options that a shell is started with.
-/

namespace ToolWeave

namespace Shell

/-- A process as it starts, with the variables it is told of. -/
def Process.started (p : Process) (vars : Entries Variable) (title : Bytes) (number : Nat)
    (arguments : List Bytes) : Process :=
  let usual (name : String) (value : Bytes) (vars : Entries Variable) : Entries Variable :=
    if Entries.has name vars then vars else Entries.put name ⟨some value, false, false⟩ vars
  let vars := Entries.put "PWD" ⟨some (bytes p.directory), true, false⟩ vars
  let vars := usual "PATH"
    (bytes "/usr/local/sbin:/usr/local/bin:/usr/sbin:/usr/bin:/sbin:/bin") vars
  let vars := Entries.put "IFS" ⟨some usualSeparators, false, false⟩ vars
  let vars := Entries.put "OPTIND" ⟨some [49], false, false⟩ vars
  { p with
    vars := usual "PS4" (bytes "+ ") vars
    title := title
    number := number
    arguments := arguments
    functions := []
    options := []
    status := 0
    captured := 0
    jobs := []
    traps := p.traps.filter fun trap => trap.2.isEmpty
    pending := []
    locals := []
    loops := 0
    line := 1
    functionLine := none
    command := none
    optionPlace := 0 }

/-- The variables that commands are told of, as they start with. -/
def Process.handedOn (p : Process) : Entries Variable :=
  p.vars.filter fun entry => entry.2.exported && entry.2.value.isSome

/-- Where the shell looks for programs. -/
def Process.searchPath (p : Process) : String :=
  textOf ((p.valueOf? "PATH").getD [])

/-- The program that a name stands for in the shell, or why there is none. -/
def Process.findProgram (p : Process) (name : String) : Except Refusal String :=
  if name = "" then .error .denied
  else if name.contains '/' then p.host.program name
  else
    (Host.candidates p.searchPath name).foldl (fun found path =>
      match found with
      | .ok program => .ok program
      | .error refusal =>
        match p.host.kind? path with
        | some .program => p.host.program path
        | some (.file _) => .error .denied
        | _ => .error refusal) (.error .notFound)

/-- The first path that a name is found at. -/
def Process.whereIs (p : Process) (name : String) : Option String :=
  (Host.candidates p.searchPath name).find? fun path =>
    match p.host.kind? path with
    | some .program => true
    | _ => false

/-- The file that output to a path goes to, or the message that refuses it. -/
def Process.openForOutput (p : Process) (opening : Opening) (path : String) :
    Except String (Process × Channel) :=
  let refuse (why : String) : Except String (Process × Channel) :=
    .error s!"cannot create {path}: {why}"
  let same (descriptor : Nat) : Except String (Process × Channel) :=
    match p.channel? descriptor with
    | some channel => .ok (p, channel)
    | none => refuse "No such device or address"
  match path with
  | "/dev/null" => .ok (p, .nowhere)
  | "/dev/stdout" | "/dev/fd/1" => same 1
  | "/dev/stderr" | "/dev/fd/2" => same 2
  | "" => refuse "Directory nonexistent"
  | _ =>
    let place := Path.resolve p.directory path
    match p.host.kind? path with
    | some .directory => refuse "Is a directory"
    | some (.file content) =>
      if opening = .write && p.has 'C' then refuse "File exists"
      else
        let isNew := opening = .write || opening = .overwrite
        .ok (p.store place (if isNew then [] else content), .file place)
    | some .program => .ok (p, .nowhere)
    | some .device => .ok (p, .nowhere)
    | none =>
      if p.machine.host.isDirectoryAt (Path.parts place).dropLast && !path.endsWith "/" then
        .ok (p.store place [], .file place)
      else
        match p.host.find path with
        | .error ⟨.notDirectory, _⟩ => refuse "Not a directory"
        | .error ⟨.nameTooLong, _⟩ => refuse "File name too long"
        | _ => refuse "Directory nonexistent"

/-- Leads a descriptor to a file for input. -/
def openForInput (descriptor : Nat) (path : String) : Action (Option String) := do
  let p ← get
  match path with
  | "/dev/stdin" | "/dev/fd/0" => do
    set (p.lead descriptor (p.channel? 0))
    return none
  | _ =>
    match p.host.kind? path with
    | some (.file content) => do
      let k ← newSource (.ofBytes content)
      modify fun p => p.lead descriptor (some (.source k))
      return none
    | some _ => do
      set (p.lead descriptor (some .nowhere))
      return none
    | none =>
      match p.host.find path with
      | .error ⟨.notDirectory, _⟩ => return some s!"cannot open {path}: Not a directory"
      | .error ⟨.nameTooLong, _⟩ => return some s!"cannot open {path}: File name too long"
      | _ => return some s!"cannot open {path}: No such file"

/-- The options that a shell is started with, and the arguments after them.  The first flag tells
that a script is given as an argument. -/
def shellOptions : (bound : Nat) → (isCommand : Bool) → (p : Process) → List Bytes →
    Except String (Bool × Process × List Bytes)
  | 0, isCommand, p, arguments => .ok (isCommand, p, arguments)
  | bound + 1, isCommand, p, arguments =>
    match arguments with
    | [45, 45] :: rest | [45] :: rest => .ok (isCommand, p, rest)
    | [45, 111] :: name :: rest =>
      match Entries.get? (textOf name) optionNames with
      | some option => shellOptions bound isCommand (p.setOption option true) rest
      | none => .error s!"Illegal option -o {textOf name}"
    | (45 :: letter :: letters) :: rest =>
      let wanted := (textOf (letter :: letters)).toList
      let known (c : Char) : Bool :=
        c == 'c' || c == 's' || c == 'i' || (optionNames.map Prod.snd).contains c
      match wanted.find? fun c => !known c with
      | some c => .error s!"Illegal option -{c}"
      | none =>
        let p := (wanted.filter fun c => c != 'c' && c != 's' && c != 'i').foldl
          (fun p c => p.setOption c true) p
        shellOptions bound (isCommand || wanted.contains 'c') p rest
    | (43 :: letter :: letters) :: rest =>
      let wanted := (textOf (letter :: letters)).toList
      shellOptions bound isCommand (wanted.foldl (fun p c => p.setOption c false) p) rest
    | rest => .ok (isCommand, p, rest)

/-- What a name stands for as a command: whether it stands for anything, and the words for it. -/
def Process.describe (p : Process) (name : String) (verbose : Bool) : Bool × String :=
  let is (what : String) : Bool × String := (true, if verbose then s!"{name} is {what}" else name)
  if keywords.contains name then is "a shell keyword"
  else if specialCommands.contains name then is "a special shell builtin"
  else if Entries.has name p.functions then is "a shell function"
  else if isBuiltin name then is "a shell builtin"
  else
    match if name.contains '/' then (p.host.program name).toOption.map fun _ => name
      else p.whereIs name with
    | some path => (true, if verbose then s!"{name} is {path}" else path)
    | none => (false, s!"{name}: not found")

/-- All of the standard input that is there, and whether more can come. -/
def takeAvailable : Action (Bytes × Bool) := do
  let p ← get
  match p.channel? 0 with
  | some (.source k) =>
    match Entries.get? k p.machine.sources with
    | some stream => do
      let time := (stream.chunks.map Prod.fst).foldl max (stream.closes.getD p.elapsed)
      set { (p.reach time) with
        machine.sources := Entries.put k { stream with chunks := [] } p.machine.sources }
      return (stream.contents, stream.closes.isNone)
    | none => return ([], false)
  | _ => return ([], false)

end Shell

end ToolWeave
