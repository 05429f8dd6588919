import ToolWeave.Host.Program
import ToolWeave.Shell.Process

/-!
# Utilities

What the small commands that processes are made of have in common: options, files to read, and the
words in which they complain.

## Main definitions

* `Shell.Utility`: what a utility does with its arguments; it gives a status.
* `Shell.Choices`, `Shell.choices`: the options and the other arguments of a command line.
* `Shell.readFile`, `Shell.eachInput`: what a utility reads.
-/

namespace ToolWeave

namespace Shell

/-- What a utility does with its arguments; it gives a status. -/
abbrev Utility : Type := List Bytes → Action Nat

/-- A text in the quotes of messages. -/
def quotedName (text : Bytes) : String := "'" ++ textOf text ++ "'"

/-- Where to read more about a utility. -/
def hint (name : String) : String := s!"Try '{name} --help' for more information.\n"

/-- Says that a utility is used wrongly. -/
def misuse (name text : String) (status : Nat := 1) : Action Nat := do
  complain (s!"{name}: {text}\n" ++ hint name)
  return status

/-- The options of a command line, with their values, and the other arguments. -/
structure Choices where
  options : List (Char × Bytes)
  operands : List Bytes

namespace Choices

/-- Whether an option was given. -/
def has (choices : Choices) (option : Char) : Bool := choices.options.any fun o => o.1 == option

/-- The value given to an option last. -/
def value? (choices : Choices) (option : Char) : Option Bytes :=
  (choices.options.reverse.find? fun o => o.1 == option).map Prod.snd

/-- The last option given among some. -/
def last? (choices : Choices) (among : List Char) : Option Char :=
  (choices.options.reverse.find? fun o => among.contains o.1).map Prod.fst

end Choices

/-- The options that a utility knows: those without a value, those with one, and the long names of
some. -/
structure Known where
  flags : String
  valued : String := ""
  long : List (String × Char) := []
  /-- Whether options may stand after other arguments. -/
  anywhere : Bool := true

/-- Reads the letters of one argument.  Gives the options and whether the last one takes the next
argument as its value. -/
def readLetters (known : Known) : List Char → Except String (List (Char × Bytes) × Option Char)
  | [] => .ok ([], none)
  | c :: cs =>
    if known.flags.toList.contains c then do
      let (options, open?) ← readLetters known cs
      return ((c, []) :: options, open?)
    else if known.valued.toList.contains c then
      if cs.isEmpty then .ok ([], some c) else .ok ([(c, bytes (String.ofList cs))], none)
    else .error s!"invalid option -- '{c}'"

/-- Reads arguments one after the other. -/
def readChoices (known : Known) : List Bytes → Except String Choices
  | [] => .ok ⟨[], []⟩
  | argument :: rest =>
    match argument with
    | [45, 45] => .ok ⟨[], rest⟩
    | 45 :: 45 :: name => do
      let text := textOf (name.takeWhile (· != 61))
      match known.long.find? fun entry => entry.1 == text with
      | some (_, letter) =>
        let choices ← readChoices known rest
        let value := (name.dropWhile (· != 61)).drop 1
        return { choices with options := (letter, value) :: choices.options }
      | none => throw s!"unrecognized option '--{textOf name}'"
    | 45 :: letter :: letters => do
      let (options, open?) ← readLetters known (textOf (letter :: letters)).toList
      match open?, rest with
      | none, rest => do
        let choices ← readChoices known rest
        return { choices with options := options ++ choices.options }
      | some option, value :: rest => do
        let choices ← readChoices known rest
        return { choices with options := options ++ (option, value) :: choices.options }
      | some option, [] => throw s!"option requires an argument -- '{option}'"
    | operand =>
      if known.anywhere then do
        let choices ← readChoices known rest
        return { choices with operands := operand :: choices.operands }
      else .ok ⟨[], operand :: rest⟩

/-- Carries a utility out with the options and the other arguments of its command line. -/
def choices (name : String) (known : Known) (status : Nat) (arguments : List Bytes)
    (use : Choices → Action Nat) : Action Nat :=
  match readChoices known arguments with
  | .ok choices => use choices
  | .error text => misuse name text status

/-- What a file holds, or why it cannot be read.  The standard input is a file too. -/
def readFile (path : Bytes) : Action (Except Refusal Bytes) := do
  let name := textOf path
  if name = "/dev/stdin" then return .ok (← drain)
  else
    let p ← get
    match p.host.kind? name with
    | some (.file content) => return .ok content
    | some .directory => return .error .isDirectory
    | some .device | some .program => return .ok []
    | none =>
      match p.host.find name with
      | .error e => return .error e.refusal
      | .ok _ => return .error .notFound

/-- How a refusal is worded in the messages of utilities. -/
def wording : Refusal → String
  | .notFound => "No such file or directory"
  | .denied => "Permission denied"
  | .notDirectory => "Not a directory"
  | .isDirectory => "Is a directory"
  | .nameTooLong => "File name too long"

/-- Uses the content of each of some files, or of the standard input if there are none or for a
dash.  A file that cannot be read is complained of, and makes the status another one. -/
def eachInput (files : List Bytes) (refused : Bytes → Refusal → String) (status : Nat)
    (use : Bytes → Bytes → Action Unit) : Action Nat := do
  let files := if files.isEmpty then [[(45 : UInt8)]] else files
  files.foldlM (fun result file => do
    if file = [45] then do
      let content ← drain
      use file content
      return result
    else
      match ← readFile file with
      | .ok content => do
        use file content
        return result
      | .error refusal => do
        complain (refused file refusal)
        return status) 0

/-- Why a file cannot be read, as most utilities say it. -/
def plainRefusal (name : String) (file : Bytes) (refusal : Refusal) : String :=
  s!"{name}: {textOf file}: {wording refusal}\n"

/-- Why a file cannot be opened, as some utilities say it. -/
def openingRefusal (name : String) (file : Bytes) (refusal : Refusal) : String :=
  match refusal with
  | .isDirectory => s!"{name}: error reading {quotedName file}: {wording refusal}\n"
  | _ => s!"{name}: cannot open {quotedName file} for reading: {wording refusal}\n"

/-- All that the inputs of a utility hold, joined. -/
def joinedInputs (files : List Bytes) (refused : Bytes → Refusal → String) (status : Nat) :
    Action (Bytes × Nat) := do
  let files := if files.isEmpty then [[(45 : UInt8)]] else files
  files.foldlM (fun (text, result) file => do
    if file = [45] then return (text ++ (← drain), result)
    else
      match ← readFile file with
      | .ok content => return (text ++ content, result)
      | .error refusal => do
        complain (refused file refusal)
        return (text, status)) ([], 0)

end Shell

end ToolWeave
