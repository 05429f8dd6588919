import ToolWeave.Host.Basic
import ToolWeave.Shell.Script
import ToolWeave.Shell.Stream

/-!
# Processes

What a process is to those that watch it: descriptors that lead to streams and files, variables, a
status, and time that passes.

## Main definitions

* `Shell.Machine`: what processes share: files, streams, the jobs that run.
* `Shell.Process`: a running process.
* `Shell.Stop`: why a process leaves what it is in the middle of.
* `Shell.Action`: something a process does.
* `Shell.emit`, `Shell.complain`, `Shell.nextChunk`: output and input.

## Design notes

**Sinks and sources.**  What is written is gathered in numbered sinks, what is read comes from
numbered sources.  A descriptor only names a sink or a source, so descriptors that lead to the same
place share it, and outputs keep the order in which they were written.

**One after the other.**  Processes that run side by side are carried out one after the other, each
with a clock of its own.  Chunks carry the instants at which they were written, which is the order
they are read in.
-/

namespace ToolWeave

namespace Shell

/-- Where a descriptor leads. -/
inductive Channel where
  | source (number : Nat)
  | sink (number : Nat)
  /-- The end of a file, by its absolute path. -/
  | file (path : String)
  | nowhere

/-- A variable: its value if it is set, whether commands are told of it, and whether it can no
longer be changed. -/
structure Variable where
  value : Option Bytes
  exported : Bool := false
  fixed : Bool := false

/-- A process that runs side by side with the shell that started it. -/
structure Job where
  id : Nat
  finish : Instant
  status : Nat
  /-- The sinks that its descriptors lead to. -/
  sinks : List Nat

/-- What processes share. -/
structure Machine where
  host : Host
  /-- What was written to each sink, the last chunk first. -/
  sinks : List (Nat × List Chunk)
  sources : List (Nat × Stream)
  /-- The documents that redirections of scripts refer to. -/
  documents : List (Nat × Word)
  jobs : List Job
  /-- A number that nothing goes by yet. -/
  next : Nat

/-- A running process.  All but the first fields matter only while it is a shell. -/
structure Process where
  machine : Machine
  /-- Which process its chunks are said to be written by. -/
  id : Nat
  elapsed : Instant
  /-- The current directory. -/
  directory : String
  channels : List (Nat × Channel)
  vars : Entries Variable
  /-- The name the shell goes by. -/
  title : Bytes
  /-- The number the shell goes by. -/
  number : Nat
  /-- The parameters by position. -/
  arguments : List Bytes
  functions : Entries (Nat × Script)
  /-- The letters of the options that are set. -/
  options : List Char
  status : Nat
  /-- The status of the last script whose output became part of a word. -/
  captured : Nat
  /-- The processes that were started to run side by side, the last one first. -/
  jobs : List Nat
  /-- What is done about signals; the end of the shell counts as one of number zero. -/
  traps : List (Nat × Bytes)
  /-- Signals that have come and not been seen to yet. -/
  pending : List Nat
  /-- For each function that runs, what the variables that are its own were before. -/
  locals : List (Entries (Option Variable))
  /-- How many loops the shell is in. -/
  loops : Nat
  /-- The line of the command that runs, and that of the function it is in. -/
  line : Nat
  functionLine : Option Nat
  /-- The command that messages name. -/
  command : Option String
  /-- How much of an argument has been looked at for options. -/
  optionPlace : Nat

/-- Why a process leaves what it is in the middle of. -/
inductive Stop where
  | exited (code : Nat)
  | killed (signal : Nat)
  /-- It leaves so many loops. -/
  | breaking (levels : Nat)
  /-- It leaves all but the last of so many loops, and goes on with the next turn of that. -/
  | continuing (levels : Nat)
  | returning (code : Nat)
  /-- A mistake ends the command, and in most cases the shell. -/
  | failed
  /-- It waits for input that has not come yet. -/
  | waiting
  /-- It never ends. -/
  | endless

/-- Something a process does. -/
abbrev Action (α : Type) : Type := ExceptT Stop (StateM Process) α

namespace Process

/-- The host as the process sees it. -/
def host (p : Process) : Host := { p.machine.host with directory := p.directory }

/-- The value of a variable, if it is set. -/
def valueOf? (p : Process) (name : String) : Option Bytes :=
  (Entries.get? name p.vars).bind Variable.value

/-- The variables that commands are told of. -/
def environment (p : Process) : Entries Bytes :=
  p.vars.filterMap fun (name, v) => if v.exported then v.value.map fun text => (name, text) else none

/-- Where a descriptor leads. -/
def channel? (p : Process) (descriptor : Nat) : Option Channel :=
  Entries.get? descriptor p.channels

/-- The process with a descriptor led elsewhere, or closed. -/
def lead (p : Process) (descriptor : Nat) (channel : Option Channel) : Process :=
  { p with channels :=
      match channel with
      | some channel => Entries.put descriptor channel p.channels
      | none => Entries.erase descriptor p.channels }

/-- Whether an option is set. -/
def has (p : Process) (option : Char) : Bool := p.options.contains option

/-- The process at some instant, unless it is there already. -/
def reach (p : Process) (time : Instant) : Process := { p with elapsed := max p.elapsed time }

/-- The process with the file at an absolute path given a content. -/
def store (p : Process) (path : String) (content : Bytes) : Process :=
  { p with machine.host.files := Entries.put path content p.machine.host.files }

/-- The sinks that the descriptors lead to. -/
def heldSinks (p : Process) : List Nat :=
  p.channels.filterMap fun (_, channel) => match channel with | .sink k => some k | _ => none

end Process

/-- Writes bytes where a descriptor leads. -/
def emitTo (descriptor : Nat) (text : Bytes) : Action Unit := modify fun p =>
  if text.isEmpty then p
  else
    match p.channel? descriptor with
    | some (.sink k) =>
      let before := (Entries.get? k p.machine.sinks).getD []
      let chunks : List Chunk := ⟨p.elapsed, p.id, text⟩ :: before
      { p with machine.sinks := Entries.put k chunks p.machine.sinks }
    | some (.file path) =>
      p.store path ((Entries.get? path p.machine.host.files).getD [] ++ text)
    | _ => p

/-- Writes to the standard output. -/
def emit (text : Bytes) : Action Unit := emitTo 1 text

/-- Writes to the standard error output. -/
def complain (text : String) : Action Unit := emitTo 2 (bytes text)

/-- The bytes that come next on a descriptor, none at the end of its input. -/
def nextChunkFrom (descriptor : Nat) : Action (Option Bytes) := do
  let p ← get
  match p.channel? descriptor with
  | some (.source k) =>
    match Entries.get? k p.machine.sources with
    | some ⟨(time, text) :: chunks, closes⟩ => do
      set { (p.reach time) with
        machine.sources := Entries.put k ⟨chunks, closes⟩ p.machine.sources }
      return some text
    | some ⟨[], some time⟩ => do
      set (p.reach time)
      return none
    | some ⟨[], none⟩ => throw .waiting
    | none => return none
  | _ => return none

/-- The bytes that come next on the standard input, none at its end. -/
def nextChunk : Action (Option Bytes) := nextChunkFrom 0

/-- Puts bytes back in front of the standard input. -/
def putBack (text : Bytes) : Action Unit := modify fun p =>
  match p.channel? 0 with
  | some (.source k) =>
    match Entries.get? k p.machine.sources with
    | some stream =>
      if text.isEmpty then p
      else
        let stream := { stream with chunks := (p.elapsed, text) :: stream.chunks }
        { p with machine.sources := Entries.put k stream p.machine.sources }
    | none => p
  | _ => p

/-- How many chunks of the standard input there are at most. -/
def chunkBound : Action Nat := do
  return (← get).machine.sources.foldl (fun n entry => n + entry.2.chunks.length) 1

/-- Reads chunks onto what was read before, until that is enough or the input ends. -/
def gatherFrom (enough : Bytes → Bool) : (bound : Nat) → (before : Bytes) → Action Bytes
  | 0, before => return before
  | bound + 1, before =>
    if enough before then return before
    else do
      match ← nextChunk with
      | none => return before
      | some text => gatherFrom enough bound (before ++ text)

/-- Reads from the standard input until there is enough or it ends. -/
def gather (enough : Bytes → Bool) : Action Bytes := do gatherFrom enough (← chunkBound) []

/-- Reads all of the standard input. -/
def drain : Action Bytes := gather fun _ => false

/-- Reads a line of the standard input, with the line feed that ends it if one does. -/
def takeLine : Action Bytes := do
  let text ← gather fun text => text.contains 10
  let line := text.takeWhile (· != 10)
  match text.drop line.length with
  | b :: rest => do
    putBack rest
    return line ++ [b]
  | [] => return line

/-- The place of a line in the messages: in a function it is counted from the start of that. -/
def Process.shownLine (p : Process) : Nat :=
  match p.functionLine with
  | some start => p.line + 1 - start
  | none => p.line

/-- What stands in front of the messages of a shell: its name, the number of a line, and the command
that is at fault. -/
def Process.label (p : Process) : String :=
  let command := match p.command with | some name => s!"{name}: " | none => ""
  s!"{textOf p.title}: {p.shownLine}: {command}"

/-- Says what is wrong, in a shell. -/
def warn (text : String) : Action Unit := do complain s!"{(← get).label}{text}\n"

/-- Says what is wrong, and leaves the command with the status of a mistake. -/
def fail {α : Type} (text : String) : Action α := do
  warn text
  modify fun p => { p with status := 2 }
  throw .failed

/-- Runs for ever. -/
def neverEnd {α : Type} : Action α := do
  modify fun p => p.reach never
  throw .endless

/-- A number that nothing goes by yet. -/
def fresh : Action Nat := do
  let p ← get
  set { p with machine.next := p.machine.next + 1 }
  return p.machine.next

/-- A new source, which holds some text from the start. -/
def newSource (stream : Stream) : Action Nat := do
  let k ← fresh
  modify fun p => { p with machine.sources := (k, stream) :: p.machine.sources }
  return k

/-- A new sink. -/
def newSink : Action Nat := do
  let k ← fresh
  modify fun p => { p with machine.sinks := (k, []) :: p.machine.sinks }
  return k

/-- Ends a sink that a process wrote to up to some instant.  Gives its chunks in their order, and
the instant from which on nothing more can come. -/
def closeSink (k : Nat) (finish : Instant) : Action (List Chunk × Instant) := do
  let p ← get
  set { p with machine.sinks := Entries.erase k p.machine.sinks }
  let holders := p.machine.jobs.filter fun job => job.sinks.contains k
  return (inOrder ((Entries.get? k p.machine.sinks).getD []).reverse,
    holders.foldl (fun time job => max time job.finish) finish)

/-- Gives a variable a value, unless it can no longer be changed. -/
def assign (name : String) (value : Bytes) : Action Unit := do
  let p ← get
  let old := (Entries.get? name p.vars).getD ⟨none, p.has 'a', false⟩
  if old.fixed then fail s!"{name}: is read only"
  else
    let p := if name = "OPTIND" then { p with optionPlace := 0 } else p
    set { p with vars := Entries.put name { old with value := some value } p.vars }

end Shell

end ToolWeave
