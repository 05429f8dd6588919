import ToolWeave.Entries
import ToolWeave.Number.Spelling
import ToolWeave.Text.Blank

/-!
# Arguments

The words after the name of the program: a command, its positional arguments and its switches.

## Main definitions

* `Command.Name`: the commands.
* `Arguments`: the arguments of a command, sorted out.
* `Arguments.scan?`: sorts out the words after a command.
* `Arguments.parse`: the command line as a whole.
* `Arguments.seconds?`: a number of seconds as people type it.

## Design notes

**Switches.**  A long switch takes its value after an equals sign or from the next word; short ones
may be run together, the last of them taking the rest of the word or the next word as its value.
Two hyphens end the switches.
-/

namespace ToolWeave

/-- The commands. -/
inductive CommandName where
  | run
  | call
  | tools
  | repl
  | serve
  | remotes
  deriving DecidableEq

/-- A switch: its long name, its short name if it has one, and whether it takes a value. -/
structure Switch where
  long : String
  short : Option Char
  takesValue : Bool

namespace CommandName

/-- All commands. -/
def all : List CommandName := [run, call, tools, repl, serve, remotes]

/-- The word for a command. -/
def word : CommandName → String
  | run => "run"
  | call => "call"
  | tools => "tools"
  | repl => "repl"
  | serve => "serve"
  | remotes => "remotes"

/-- The command of a word. -/
def ofWord? (text : String) : Option CommandName := all.find? fun name => name.word == text

/-- The switches that choose a configuration. -/
def configSwitches : List Switch :=
  [⟨"cwd", none, true⟩, ⟨"config", none, true⟩, ⟨"isolated", none, false⟩]

/-- The switch that asks for more reports. -/
def verbose : Switch := ⟨"verbose", some 'v', false⟩

/-- The switch that limits the time. -/
def timeout : Switch := ⟨"timeout", none, true⟩

/-- The switches of a command. -/
def switches : CommandName → List Switch
  | run => ⟨"expr", some 'e', true⟩ :: timeout :: verbose :: configSwitches
  | call => ⟨"input", some 'i', true⟩ :: timeout :: verbose :: configSwitches
  | tools => ⟨"json", none, false⟩ :: verbose :: configSwitches
  | repl => timeout :: verbose :: configSwitches
  | serve => verbose :: configSwitches
  | remotes => configSwitches

/-- The least and the largest number of positional arguments. -/
def positions : CommandName → Nat × Nat
  | run => (0, 1)
  | call => (1, 1)
  | _ => (0, 0)

end CommandName

/-- The arguments of a command, sorted out. -/
structure Arguments where
  positional : List String
  /-- The values of switches, by the long name; of a repeated switch the last value. -/
  values : Entries String
  /-- The switches without a value that are given, by the long name. -/
  flags : List String

namespace Arguments

/-- No arguments. -/
def empty : Arguments := ⟨[], [], []⟩

/-- Whether a switch without a value is given. -/
def has (a : Arguments) (name : String) : Bool := a.flags.contains name

/-- The value of a switch. -/
def value? (a : Arguments) (name : String) : Option String := Entries.get? name a.values

/-- The name of a long switch and the value after its equals sign, if it has one. -/
def splitLong (text : List Char) : String × Option String :=
  let name := text.takeWhile (· != '=')
  match text.drop name.length with
  | [] => (String.ofList name, none)
  | _ :: value => (String.ofList name, some (String.ofList value))

/-- The switch that asks for help, which every command knows. -/
def help : Switch := ⟨"help", none, false⟩

/-- The arguments with a value for a switch. -/
def withValue (a : Arguments) (s : Switch) (value : String) : Arguments :=
  { a with values := Entries.put s.long value a.values }

/-- The arguments with a switch that takes no value. -/
def withFlag (a : Arguments) (s : Switch) : Arguments := { a with flags := a.flags ++ [s.long] }

/-- Takes a long switch.  If it takes a value that has not come yet, it comes back as well. -/
def takeLong (switches : List Switch) (a : Arguments) (text : List Char) :
    Option (Arguments × Option Switch) :=
  let (name, value) := splitLong text
  match switches.find? fun s => s.long == name with
  | none => none
  | some s =>
    match s.takesValue, value with
    | true, some value => some (a.withValue s value, none)
    | true, none => some (a, some s)
    | false, some _ => none
    | false, none => some (a.withFlag s, none)

/-- Takes short switches that are run together, up to one that takes a value: the characters after
it are the value, and if there are none the switch comes back. -/
def takeShort (switches : List Switch) (a : Arguments) :
    List Char → Option (Arguments × Option Switch)
  | [] => some (a, none)
  | c :: rest =>
    match switches.find? fun s => s.short == some c with
    | none => none
    | some s =>
      if !s.takesValue then takeShort switches (a.withFlag s) rest
      else if rest.isEmpty then some (a, some s)
      else some (a.withValue s (String.ofList rest), none)

/-- Takes a word that is not the value of a switch before it. -/
def take (switches : List Switch) (a : Arguments) (word : String) :
    Option (Arguments × Option Switch) :=
  match word.toList with
  | '-' :: '-' :: text => takeLong switches a text
  | '-' :: c :: text => takeShort switches a (c :: text)
  | _ => some ({ a with positional := a.positional ++ [word] }, none)

/-- Sorts out words, the first of which is the value of a switch if one is waiting for it.  There is
no result if a switch is unknown, lacks its value or has one that it does not take. -/
def scan? (switches : List Switch) (waiting : Option Switch) (a : Arguments) :
    List String → Option Arguments
  | [] => if waiting.isSome then none else some a
  | word :: rest =>
    match waiting with
    | some s => scan? switches none (a.withValue s word) rest
    | none =>
      if word = "--" then some { a with positional := a.positional ++ rest }
      else
        match take switches a word with
        | none => none
        | some (a, waiting) => scan? switches waiting a rest

/-- What a command line asks for. -/
inductive Asked where
  | command (name : CommandName) (arguments : Arguments)
  | help
  /-- Nothing that makes sense. -/
  | nothing

/-- What the words of a command line ask for. -/
def parse : List String → Asked
  | [] => .nothing
  | first :: rest =>
    if first = "--help" then .help
    else
      let (word, others) := if first = "--" then (rest.headD "", rest.drop 1) else (first, rest)
      match CommandName.ofWord? word with
      | none => .nothing
      | some name =>
        match scan? (help :: name.switches) none empty others with
        | none => .nothing
        | some a =>
          if a.has "help" then .help
          else
            let (least, largest) := name.positions
            if least ≤ a.positional.length ∧ a.positional.length ≤ largest then .command name a
            else .nothing

/-! ### Numbers of seconds -/

/-- Whether a character is space around a number. -/
def isSpace (c : Char) : Bool := Text.isBlank c && !(28 ≤ c.toNat && c.toNat ≤ 31)

/-- Whether underscores only divide the characters of a number: one at a time, and not at its
ends. -/
def underscoresDivide (cs : List Char) : Bool := (cs.splitOn '_').all fun part => !part.isEmpty

/-- The number of seconds that a text spells: a double that may have space around it, or else one
that underscores divide. -/
def seconds? (text : String) : Option Double :=
  let cs := Text.dropEnd isSpace (text.toList.dropWhile isSpace)
  if underscoresDivide cs then Double.ofText? (cs.filter (· != '_')) else none

end Arguments

end ToolWeave
