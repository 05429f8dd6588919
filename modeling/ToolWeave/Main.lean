import ToolWeave.CommandLine.Commands

/-!
# The program

The outer layer of the command line: it gathers what the command may read from the real system,
hands it to `CommandLine.execute`, and prints what comes back.

## Main definitions

* `Outer.gather`: the files and variables that a command line may look at.
* `main`: the program.
-/

namespace ToolWeave

namespace Outer

/-- The bytes of a file, if there is a file that can be read. -/
def bytesOf? (path : String) : IO (Option (List UInt8)) := do
  try
    return some (← IO.FS.readBinFile path).toList
  catch _ => return none

/-- Adds those files of a list that can be read. -/
def addFiles (host : Host) (paths : List String) : IO Host := do
  let mut host := host
  for path in paths do
    let whole := Path.resolve host.directory path
    match ← bytesOf? whole with
    | some content => host := { host with files := Entries.put whole content host.files }
    | none => pure ()
  return host

/-- Adds those variables of a list that are set. -/
def addVariables (host : Host) (names : List String) : IO Host := do
  let mut host := host
  for name in names do
    match ← IO.getEnv name with
    | some value => host := { host with vars := Entries.put name value host.vars }
    | none => pure ()
  return host

/-- The words that stand in placeholders of a text. -/
def placeholderWords : (bound : Nat) → List Char → List String
  | 0, _ => []
  | bound + 1, cs =>
    match Placeholder.at? cs with
    | some (word, rest) => String.ofList word :: placeholderWords bound rest
    | none =>
      match cs with
      | [] => []
      | _ :: rest => placeholderWords bound rest

/-- The words that stand in placeholders of the files of a host. -/
def wantedVariables (host : Host) : List String :=
  host.files.flatMap fun file =>
    match Utf8.decode file.2 with
    | .ok cs => placeholderWords (cs.length + 1) cs
    | .error _ => []

/-- What a command line may look at: configuration files, program files and variables. -/
def gather (arguments : Arguments) (current : String) : IO Host := do
  let host : Host := ⟨[], [current], [], current⟩
  let host ← addVariables host ["HOME", "XDG_CONFIG_HOME", "PYGOSSYP_LOG_LEVEL", "PATH"]
  let given := (arguments.value? "cwd").getD current
  let directory := Path.resolve current ((host.expandHome? given).getD given)
  let host :=
    if ← ((← IO.currentDir) / directory).isDir then
      { host with directories := directory :: host.directories }
    else host
  let explicit :=
    ((arguments.value? "config").bind fun path => (Config.explicitPath host path).toOption).toList
  let host ← addFiles host
    (arguments.positional ++ Config.globalCandidates host ++ Config.projectCandidates directory
      ++ explicit)
  let host ← addVariables host (wantedVariables host)
  match (Config.load host directory (arguments.value? "config") (arguments.has "isolated")).run []
      with
  | (.ok config, _) => addFiles host config.preload
  | (.error _, _) => return host

/-- Prints what a command leaves. -/
def present (output : CommandLine.Output) : IO Unit := do
  IO.print output.printed
  match output.table with
  | none => return ()
  | some table =>
    for line in table.draw do IO.println line

end Outer

end ToolWeave

open ToolWeave in
/-- The program: carries out its command line and ends with the exit code of the command. -/
def main (words : List String) : IO UInt32 := do
  let arguments :=
    match Arguments.parse words with
    | .command _ arguments => arguments
    | _ => .empty
  let host ← Outer.gather arguments (← IO.currentDir).toString
  let stdin ← IO.getStdin
  let input ← if arguments.value? "expr" |>.isSome then pure "" else stdin.readToEnd
  let output := CommandLine.execute host input words
  Outer.present output
  if let some cause := output.crash then
    IO.eprintln (cause.name ++ ": " ++ cause.message)
  return output.exit.toUInt32
