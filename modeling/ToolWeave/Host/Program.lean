import ToolWeave.Host.Basic

/-!
# Programs

Which programs the host has, and how one is found by its name or its path.

## Main definitions

* `Host.programs`: the names of the programs.
* `Host.program`: the program at a path, as it can be started.
* `Host.firstProgram`: the program that is found first among some paths.
* `Host.kind?`: what a path leads to, programs and devices included.

## Design notes

**Searching.**  A name without a slash is looked for in the directories of a variable, one after the
other.  The refusal that is reported is the first one that says more than that nothing is there,
and else the last one.
-/

namespace ToolWeave

namespace Host

/-- The parts of the directories in which programs are. -/
def programDirectories : List (List String) := [["bin"], ["usr", "bin"]]

/-- The shell under each of its names. -/
def shells : List String := ["sh", "dash"]

/-- The names of the programs that are no shells. -/
def utilities : List String :=
  ["[", "basename", "cat", "comm", "cp", "cut", "dirname", "echo", "egrep", "env", "expr", "false",
   "fgrep", "fold", "grep", "head", "id", "ls", "mkdir", "mv", "nice", "nl", "nohup", "paste",
   "playback", "printenv", "printf", "pwd", "rev", "rm", "rmdir", "sed", "seq", "sleep", "sort",
   "tac", "tail", "tee", "test", "timeout", "touch", "tr", "true", "uname", "uniq", "wc", "whoami",
   "xargs", "yes"]

/-- Whether a name is that of a program. -/
def isProgram (name : String) : Bool := shells.contains name || utilities.contains name

/-- The name of the program that some parts lead to. -/
def programAt? (parts : List String) : Option String :=
  match parts.getLast? with
  | some name =>
    if programDirectories.contains parts.dropLast && isProgram name then some name else none
  | none => none

/-- The parts of a path without double dots, as seen from the current directory. -/
def climbedParts (host : Host) (path : String) : List String :=
  Path.climb (Path.parts (Path.join host.directory path))

/-- The program at a path, as it can be started. -/
def program (host : Host) (path : String) : Except Refusal String :=
  let parts := host.climbedParts path
  let asDirectory := path.endsWith "/" || path.endsWith "/."
  let isBelow := (List.range parts.length).any fun n => (programAt? (parts.take n)).isSome
  match programAt? parts with
  | some name => if asDirectory then .error .notDirectory else .ok name
  | none =>
    if isBelow then .error .notDirectory
    else if parts == ["dev", "null"] then .error (if asDirectory then .notDirectory else .denied)
    else
      match host.find path with
      | .ok (.file _) => .error (if asDirectory then .notDirectory else .denied)
      | .ok .directory => .error .denied
      | .error e => .error e.refusal

/-- A name seen from a directory of a search. -/
def candidate (directory name : String) : String :=
  if directory = "" || directory.endsWith "/" then directory ++ name else directory ++ "/" ++ name

/-- Where a name is looked for, in the directories that a text names. -/
def candidates (directories name : String) : List String :=
  if name.contains '/' then [name]
  else (directories.splitOn ":").map fun directory => candidate directory name

/-- The program that is found first, or the refusal that is reported. -/
def firstProgram (host : Host) (reported : Refusal) : List String → Except Refusal String
  | [] => .error reported
  | path :: rest =>
    match host.program path with
    | .ok name => .ok name
    | .error refusal =>
      let isVague (r : Refusal) : Bool := r = .notFound || r = .notDirectory
      firstProgram host (if isVague reported then refusal else reported) rest

/-- What a path can lead to. -/
inductive Kind where
  | file (content : List UInt8)
  | directory
  | program
  | device
  deriving DecidableEq

/-- What a path leads to, if to anything. -/
def kind? (host : Host) (path : String) : Option Kind :=
  let parts := host.climbedParts path
  if path = "" then none
  else if (programAt? parts).isSome then some .program
  else if parts.dropLast == ["dev"] && ["null", "stdin", "stdout", "stderr"].contains
      (parts.getLastD "") then some .device
  else if parts == ["dev"] || parts == ["usr"] || programDirectories.contains parts then
    some .directory
  else
    match host.find path with
    | .ok (.file content) => some (.file content)
    | .ok .directory => some .directory
    | .error _ => none

end Host

end ToolWeave
