import ToolWeave.Shell.Condition
import ToolWeave.Shell.Field
import ToolWeave.Shell.Format
import ToolWeave.Shell.Grammar

/-!
# Commands of the shell itself

What a shell does on its own, without a program: reading lines into variables, changing variables
and parameters, sending signals, leaving loops and functions.

## Main definitions

* `Shell.builtin?`: the command of a name, if the shell itself carries it out.
* `Shell.signal?`: the number of a signal.

## Design notes

**Mistakes.**  A mistake in a command of this kind ends the command; if the command is one of
`specialCommands` it ends the shell too.
-/

namespace ToolWeave

namespace Shell

/-- A command of the shell itself. -/
abbrev Builtin : Type := List Bytes → Action Nat

/-- A natural number as commands take it. -/
def numberOf (text : Bytes) : Action Nat := do
  let digits := textOf text
  match digits.toNat? with
  | some n => if !digits.contains '_' then return n else fail s!"Illegal number: {digits}"
  | none => fail s!"Illegal number: {digits}"

/-- The name and, after an equals sign, the value of an argument. -/
def splitAssignment (argument : Bytes) : String × Option Bytes :=
  let name := argument.takeWhile (· != 61)
  match argument.drop name.length with
  | _ :: value => (textOf name, some value)
  | [] => (textOf name, none)

/-- Stops unless a text is the name of a variable. -/
def checkName (name : String) : Action Unit := do
  unless isName name.toList do fail s!"{name}: bad variable name"

/-- A text in single quotes, as the shell would read it back. -/
def singleQuote (text : Bytes) : Bytes :=
  let parts := text.foldr (fun b (parts : List Bytes) =>
    if b = 39 then [] :: parts
    else
      match parts with
      | [] => [[b]]
      | part :: rest => (b :: part) :: rest) [[]]
  (bytes "\"'\"").intercalate (parts.map fun part => [39] ++ part ++ [39])

/-- Prints its arguments, with escapes. -/
def echo : Builtin := fun arguments => do
  let (newLine, words) : Bytes × List Bytes :=
    match arguments with
    | first :: rest => if first = bytes "-n" then ([], rest) else ([10], arguments)
    | [] => ([10], [])
  let (text, ended) := unescape ⟨true, true, false⟩ (spaced words)
  emit (if ended then text else text ++ newLine)
  return 0

/-- Prints its arguments by a format. -/
def formatted : Builtin := fun arguments => do
  let arguments := if arguments.head? = some (bytes "--") then arguments.drop 1 else arguments
  match arguments with
  | [] => fail "usage: printf format [arg ...]"
  | format :: rest => do
    let escapes : Escapes := ⟨false, false, false⟩
    let (format, _) := unescape escapes format
    let state := Printing.turns escapes format (rest.length + 1) { arguments := rest }
    emit state.text
    state.complaints.forM warn
    return if state.broken then 2 else if state.complaints.isEmpty then 0 else 1

/-- Tests a condition. -/
def tests (name : String) : Builtin := fun arguments => do
  let words := if name = "[" then arguments.dropLast else arguments
  if name = "[" && arguments.getLast? ≠ some (bytes "]") then fail "missing ]"
  else
    match Condition.holds (← get).host (words.map textOf) with
    | .ok result => return if result then 0 else 1
    | .error text => fail text

/-- Whether a line ends with a backslash that stands for itself and the end of the line. -/
def goesOn (line : Bytes) : Bool :=
  line.getLast? = some 10 &&
    ((bareLine line).reverse.takeWhile (· == 92)).length % 2 = 1

/-- Reads lines onto what was read before, as long as they go on. -/
def takeLines : (bound : Nat) → (before : Bytes) → Action Bytes
  | 0, before => return before
  | bound + 1, before => do
    let line ← takeLine
    if goesOn line then takeLines bound (before ++ (bareLine line).dropLast)
    else return before ++ line

/-- Gives variables the fields of a line. -/
def assignFields : List String → List Bytes → Action Unit
  | [], _ => return ()
  | name :: names, fields => do
    assign name (fields.headD [])
    assignFields names (fields.drop 1)

/-- The options at the front of arguments, each a letter, and what follows them. -/
def leadingOptions (known : String) : List Bytes → Except Char (List Char × List Bytes)
  | [45, 45] :: rest => .ok ([], rest)
  | (45 :: letter :: letters) :: rest => do
    let letters := (textOf (letter :: letters)).toList
    match letters.find? fun c => !known.toList.contains c with
    | some c => throw c
    | none => do
      let (more, rest) ← leadingOptions known rest
      return (letters ++ more, rest)
  | rest => .ok ([], rest)

/-- Carries a command out with its options, if they are known. -/
def withOptions (known : String) (arguments : List Bytes)
    (use : List Char → List Bytes → Action Nat) : Action Nat :=
  match leadingOptions known arguments with
  | .ok (options, rest) => use options rest
  | .error c => fail s!"Illegal option -{c}"

/-- Reads one line of input into variables. -/
def read : Builtin := fun arguments => do
  let (prompts, arguments) : Bool × List Bytes :=
    match arguments with
    | [45, 112] :: _ :: rest => (true, rest)
    | rest => (false, rest)
  let _ := prompts
  withOptions "r" arguments fun options names => do
    if names.isEmpty then fail "arg count"
    else do
      let names := names.map textOf
      names.forM checkName
      let raw := options.contains 'r'
      let line ← if raw then takeLine else takeLines (← chunkBound) []
      let text := bareLine line
      let marked := if raw then mark false text else escapedLine text
      assignFields names (assignedFields (← get).separators names.length marked)
      return if line.getLast? = some 10 then 0 else 1

/-- Changes the current directory. -/
def changeDirectory : Builtin := fun arguments =>
  withOptions "LP" arguments fun _ arguments => do
    let p ← get
    let (target, shows) : Bytes × Bool :=
      match arguments with
      | [45] :: _ => ((p.valueOf? "OLDPWD").getD [], true)
      | target :: _ => (target, false)
      | [] => ((p.valueOf? "HOME").getD [], false)
    let path := Path.resolve p.directory (textOf target)
    match if target.isEmpty then some .directory else p.host.kind? (textOf target) with
    | some .directory => do
      let keep (name : String) (value : String) : Action Unit := modify fun p =>
        { p with vars := Entries.put name ⟨some (bytes value), true, false⟩ p.vars }
      keep "OLDPWD" p.directory
      keep "PWD" path
      modify fun p => { p with directory := path }
      if shows then emit (bytes (path ++ "\n"))
      return 0
    | _ => fail s!"can't cd to {textOf target}"

/-- Marks variables: commands are told of them, or they can no longer be changed. -/
def marks (word : String) (change : Variable → Variable) (isMarked : Variable → Bool) : Builtin :=
  fun arguments =>
    withOptions "p" arguments fun options arguments => do
      if arguments.isEmpty || options.contains 'p' then do
        let vars := ((← get).vars.filter fun entry => isMarked entry.2).mergeSort fun a b =>
          noLater (bytes a.1) (bytes b.1)
        emit <| vars.flatMap fun (name, v) =>
          bytes s!"{word} {name}" ++
            (match v.value with | some value => 61 :: singleQuote value | none => []) ++ [10]
        return 0
      else do
        arguments.forM fun argument => do
          let (name, value) := splitAssignment argument
          checkName name
          match value with
          | some value => assign name value
          | none => pure ()
          modify fun p =>
            let old := (Entries.get? name p.vars).getD ⟨none, false, false⟩
            { p with vars := Entries.put name (change old) p.vars }
        return 0

/-- Forgets variables or functions. -/
def unset : Builtin := fun arguments =>
  withOptions "vf" arguments fun options names => do
    names.forM fun name => do
      let name := textOf name
      let p ← get
      if options.contains 'f' then set { p with functions := Entries.erase name p.functions }
      else do
        checkName name
        match Entries.get? name p.vars with
        | some v =>
          if v.fixed then fail s!"{name}: is read only"
          else set { p with vars := Entries.erase name p.vars }
        | none =>
          unless options.contains 'v' do
            set { p with functions := Entries.erase name p.functions }
    return 0

/-- Makes variables a function's own. -/
def localVariables : Builtin := fun arguments => do
  match (← get).locals with
  | [] => fail "not in a function"
  | _ => do
    arguments.forM fun argument => do
      let (name, value) := splitAssignment argument
      if name ≠ "-" then do
        checkName name
        modify fun p =>
          match p.locals with
          | frame :: frames =>
            if Entries.has name frame then p
            else { p with locals := ((name, Entries.get? name p.vars) :: frame) :: frames }
          | [] => p
        match value with
        | some value => assign name value
        | none => modify fun p =>
          if Entries.has name p.vars then p
          else { p with vars := Entries.put name ⟨none, false, false⟩ p.vars }
    return 0

/-- The long names of options. -/
def optionNames : List (String × Char) :=
  [("errexit", 'e'), ("noglob", 'f'), ("ignoreeof", 'I'), ("interactive", 'i'), ("monitor", 'm'),
   ("noexec", 'n'), ("stdin", 's'), ("xtrace", 'x'), ("verbose", 'v'), ("vi", 'V'), ("emacs", 'E'),
   ("noclobber", 'C'), ("allexport", 'a'), ("notify", 'b'), ("nounset", 'u'), ("nolog", 'N'),
   ("debug", 'D')]

/-- The process with an option set or not. -/
def Process.setOption (p : Process) (option : Char) (on : Bool) : Process :=
  { p with options :=
      if on then (if p.has option then p.options else p.options ++ [option])
      else p.options.filter (· != option) }

/-- Sets the options that arguments start with.  Gives what is left, and whether that is meant as
parameters even if there are none; or the option that is not known. -/
def setOptions : (p : Process) → List Bytes → Except String (Process × List Bytes × Bool)
  | p, [] => .ok (p, [], false)
  | p, argument :: rest =>
    match argument with
    | [45, 45] => .ok (p, rest, true)
    | [45] => .ok ((p.setOption 'x' false).setOption 'v' false, rest, !rest.isEmpty)
    | [45, 111] | [43, 111] =>
      match rest with
      | name :: rest =>
        match Entries.get? (textOf name) optionNames with
        | some option => setOptions (p.setOption option (argument.head? = some 45)) rest
        | none => .error s!"-o {textOf name}"
      | [] => .ok (p, [], false)
    | sign :: letter :: letters =>
      if sign = 45 || sign = 43 then
        let wanted := (textOf (letter :: letters)).toList
        match wanted.find? fun c => !(optionNames.map Prod.snd).contains c && c != 'o' with
        | some c => .error s!"-{c}"
        | none => setOptions (wanted.foldl (fun p c => p.setOption c (sign = 45)) p) rest
      else .ok (p, argument :: rest, true)
    | _ => .ok (p, argument :: rest, true)

/-- Sets options and the parameters by position. -/
def setCommand : Builtin := fun arguments => do
  let p ← get
  if arguments.isEmpty then do
    let vars := p.vars.mergeSort fun a b => noLater (bytes a.1) (bytes b.1)
    emit <| vars.flatMap fun (name, v) =>
      match v.value with
      | some value => bytes name ++ 61 :: singleQuote value ++ [10]
      | none => []
    return 0
  else
    match setOptions p arguments with
    | .ok (p, rest, replaces) => do
      set (if replaces then { p with arguments := rest } else p)
      return 0
    | .error option => fail s!"Illegal option {option}"

/-- Drops the first of the parameters by position. -/
def shift : Builtin := fun arguments => do
  let count ← match arguments with
    | text :: _ => numberOf text
    | [] => pure 1
  let p ← get
  if p.arguments.length < count then fail "can't shift that many"
  else do
    set { p with arguments := p.arguments.drop count }
    return 0

/-- Ends the shell with the code of an argument, or else with the last status. -/
def exit : Builtin := fun arguments => do
  match arguments with
  | [] => throw (.exited (← get).status)
  | text :: _ => throw (.exited ((← numberOf text) % 256))

/-- Leaves a function, or else the script. -/
def returns : Builtin := fun arguments => do
  match arguments with
  | [] => throw (.returning (← get).status)
  | text :: _ => throw (.returning ((← numberOf text) % 256))

/-- Leaves loops. -/
def leaves (stop : Nat → Stop) : Builtin := fun arguments => do
  let count ← match arguments with
    | text :: _ => numberOf text
    | [] => pure 1
  if count = 0 then fail s!"Illegal number: {textOf (arguments.headD [])}"
  else do
    let loops := (← get).loops
    if loops = 0 then return 0 else throw (stop (min count loops))

/-- The names of signals, in the order of their numbers. -/
def signalNames : List String :=
  ["EXIT", "HUP", "INT", "QUIT", "ILL", "TRAP", "ABRT", "BUS", "FPE", "KILL", "USR1", "SEGV", "USR2",
   "PIPE", "ALRM", "TERM", "STKFLT", "CHLD", "CONT", "STOP", "TSTP", "TTIN", "TTOU", "URG", "XCPU",
   "XFSZ", "VTALRM", "PROF", "WINCH", "IO", "PWR", "SYS"]

/-- The number of a signal. -/
def signal? (name : String) : Option Nat :=
  match name.toNat? with
  | some n => if n < 65 then some n else none
  | none => signalNames.findIdx? (· == name.toUpper)

/-- What happens to a process that a signal comes to, unless it has made arrangements. -/
def signalsWithoutEffect : List Nat := [17, 18, 23, 28]

/-- Takes a signal. -/
def receive (signal : Nat) : Action Unit := do
  let p ← get
  if signal = 0 then return ()
  else
    match if signal = 9 || signal = 19 then none else Entries.get? signal p.traps with
    | some action =>
      if action.isEmpty then return () else set { p with pending := p.pending ++ [signal] }
    | none =>
      if signalsWithoutEffect.contains signal then return ()
      else if [19, 20, 21, 22].contains signal then neverEnd
      else throw (.killed signal)

/-- Ends a job by a signal: what it would have written later is not written. -/
def stopJob (id signal : Nat) : Action Unit := modify fun p =>
  let now := p.elapsed
  let stopped (job : Job) : Job :=
    if job.id = id && decide (now < job.finish) then
      { job with finish := now, status := 128 + signal }
    else job
  let isRunning := p.machine.jobs.any fun job => job.id = id && decide (now < job.finish)
  if !isRunning || signal = 0 || signalsWithoutEffect.contains signal then p
  else
    let keeps (chunk : Chunk) : Bool := chunk.writer ≠ id || decide (chunk.time ≤ now)
    { p with
      machine.jobs := p.machine.jobs.map stopped
      machine.sinks := p.machine.sinks.map fun (k, chunks) => (k, chunks.filter keeps) }

/-- Sends a signal. -/
def kill : Builtin := fun arguments => do
  let send (signal : Nat) (targets : List Bytes) : Action Nat := do
    if targets.isEmpty then
      fail "Usage: kill [-s sigspec | -signum | -sigspec] [pid | job]... or\nkill -l [exitstatus]"
    else
      targets.foldlM (fun status target => do
        let p ← get
        match target with
        | 37 :: _ => do
          match p.jobs.head? with
          | some id => do
            stopJob id signal
            return status
          | none => fail s!"No such job: {textOf target}"
        | _ =>
          match integer? target with
          | none => fail s!"Illegal number: {textOf target}"
          | some n =>
            if n = (p.number : Int) || n = 0 then do
              receive signal
              return status
            else if p.jobs.any fun id => (id : Int) = n then do
              if p.machine.jobs.any fun job =>
                  (job.id : Int) = n && decide (p.elapsed < job.finish) then do
                stopJob n.toNat signal
                return status
              else do
                warn "No such process\n"
                return 1
            else do
              warn "No such process\n"
              return 1) 0
  match arguments with
  | [45, 108] :: rest => do
    match rest with
    | [] => emit (bytes ("\n".intercalate (signalNames.drop 1) ++ "\n"))
    | text :: _ => do
      let n ← numberOf text
      emit (bytes ((signalNames[if 128 < n then n - 128 else n]?).getD "" ++ "\n"))
    return 0
  | [45, 115] :: name :: targets =>
    match signal? (textOf name) with
    | some signal => send signal targets
    | none => fail s!"invalid signal number or name: {textOf name}"
  | [45, 45] :: targets => send 15 targets
  | (45 :: letter :: letters) :: targets =>
    match signal? (textOf (letter :: letters)) with
    | some signal => send signal targets
    | none => fail s!"Illegal option -{textOf [letter]}"
  | targets => send 15 targets

/-- What the shell says about a process that a signal ended. -/
def signalReport (signal : Nat) : String :=
  match signal with
  | 1 => "Hangup"
  | 3 => "Quit"
  | 4 => "Illegal instruction"
  | 5 => "Trace/breakpoint trap"
  | 6 => "Aborted"
  | 7 => "Bus error"
  | 8 => "Floating point exception"
  | 9 => "Killed"
  | 10 => "User defined signal 1"
  | 11 => "Segmentation fault"
  | 12 => "User defined signal 2"
  | 14 => "Alarm clock"
  | 15 => "Terminated"
  | _ => ""

/-- Reports a process that a signal ended. -/
def reportSignal (status : Nat) : Action Unit := do
  let text := signalReport (status - 128)
  if 128 < status && text ≠ "" then complain (text ++ "\n")

/-- Waits for jobs. -/
def wait : Builtin := fun arguments => do
  let waitFor (job : Job) : Action Unit := do
    if never ≤ job.finish then neverEnd
    else do
      modify fun p => p.reach job.finish
      reportSignal job.status
  let p ← get
  if arguments.isEmpty then do
    (p.jobs.reverse.filterMap fun id => p.machine.jobs.find? (·.id == id)).forM waitFor
    modify fun p => { p with jobs := p.jobs.take 1 }
    return 0
  else
    arguments.foldlM (fun _ argument => do
      let id : Option Nat :=
        match argument with
        | 37 :: _ => p.jobs.head?
        | _ => (integer? argument).map Int.toNat
      match id.bind fun id => p.machine.jobs.find? fun job => job.id == id && p.jobs.contains id with
      | some job => do
        waitFor job
        return job.status
      | none => return 127) 0

/-- Says what is to be done about signals. -/
def trap : Builtin := fun arguments => do
  let arguments := if arguments.head? = some (bytes "--") then arguments.drop 1 else arguments
  let p ← get
  match arguments with
  | [] => do
    let traps := p.traps.mergeSort fun a b => decide (a.1 ≤ b.1)
    emit <| traps.flatMap fun (signal, action) =>
      bytes "trap -- " ++ singleQuote action ++
        bytes (" " ++ (signalNames[signal]?).getD (toString signal) ++ "\n")
    return 0
  | first :: rest => do
    let resets := rest.isEmpty || ((textOf first).toNat?).isSome
    let signals := if resets then arguments else rest
    let action : Option Bytes := if resets || first = [45] then none else some first
    signals.foldlM (fun status name => do
      if status ≠ 0 then return status
      else
        match signal? (textOf name) with
        | none => do
          complain s!"trap: {textOf name}: bad trap\n"
          return 1
        | some signal => do
          modify fun p =>
            match action with
            | some action => { p with traps := Entries.put signal action p.traps }
            | none => { p with traps := Entries.erase signal p.traps }
          return 0) 0

/-- Looks for the next option among arguments. -/
def getopts : Builtin := fun arguments => do
  match arguments with
  | spec :: name :: rest => do
    let p ← get
    let words := if rest.isEmpty then p.arguments else rest
    let next := ((p.valueOf? "OPTIND").bind fun text => (textOf text).toNat?).getD 1
    let place := if p.optionPlace = 0 then next else next - 1
    let quiet := spec.head? == some 58
    let finish (next optionPlace : Nat) (value : Bytes) (status : Nat) : Action Nat := do
      assign "OPTIND" (decimal next)
      assign (textOf name) value
      modify fun p => { p with optionPlace := optionPlace }
      return status
    let forgetValue : Action Unit :=
      modify fun p => { p with vars := Entries.erase "OPTARG" p.vars }
    let word := (words[place - 1]?).getD []
    let letters := word.drop (max 1 p.optionPlace)
    if p.optionPlace = 0 && (word.head? ≠ some 45 || word.length < 2) then finish place 0 [63] 1
    else if p.optionPlace = 0 && word = [45, 45] then finish (place + 1) 0 [63] 1
    else
      match letters with
      | [] => finish (place + 1) 0 [63] 1
      | letter :: more => do
        let used := if more.isEmpty then 0 else word.length - more.length
        match spec.findIdx? fun b => b == letter && b != 58 with
        | none => do
          if quiet then assign "OPTARG" [letter]
          else do
            complain s!"Illegal option -{textOf [letter]}\n"
            forgetValue
          finish (place + 1) used [63] 0
        | some i =>
          if spec[i + 1]? ≠ some 58 then do
            assign "OPTARG" []
            finish (place + 1) used [letter] 0
          else if !more.isEmpty then do
            assign "OPTARG" more
            finish (place + 1) 0 [letter] 0
          else
            match words[place]? with
            | some value => do
              assign "OPTARG" value
              finish (place + 2) 0 [letter] 0
            | none =>
              if quiet then do
                assign "OPTARG" [letter]
                finish (place + 1) 0 [58] 0
              else do
                complain s!"No arg for -{textOf [letter]} option\n"
                forgetValue
                finish (place + 1) 0 [63] 0
  | _ => fail "Usage: getopts optstring var [arg...]"

/-- The command of a name, if the shell carries it out without running anything else. -/
def builtin? (name : String) : Option Builtin :=
  match name with
  | ":" | "true" => some fun _ => return 0
  | "false" => some fun _ => return 1
  | "[" | "test" => some (tests name)
  | "break" => some (leaves .breaking)
  | "continue" => some (leaves .continuing)
  | "cd" | "chdir" => some changeDirectory
  | "echo" => some echo
  | "exit" => some exit
  | "export" => some (marks "export" (fun v => { v with exported := true }) Variable.exported)
  | "readonly" => some (marks "readonly" (fun v => { v with fixed := true }) Variable.fixed)
  | "getopts" => some getopts
  | "hash" | "jobs" | "bg" | "fg" | "alias" | "unalias" => some fun _ => return 0
  | "kill" => some kill
  | "local" => some localVariables
  | "printf" => some formatted
  | "pwd" => some fun _ => do
    emit (bytes ((← get).directory ++ "\n"))
    return 0
  | "read" => some read
  | "return" => some returns
  | "set" => some setCommand
  | "shift" => some shift
  | "times" => some fun _ => do
    emit (bytes "0m0.000000s 0m0.000000s\n0m0.000000s 0m0.000000s\n")
    return 0
  | "trap" => some trap
  | "ulimit" => some fun _ => do
    emit (bytes "unlimited\n")
    return 0
  | "umask" => some fun arguments => do
    if arguments.isEmpty then emit (bytes "0022\n")
    return 0
  | "unset" => some unset
  | "wait" => some wait
  | _ => none

/-- The commands of the shell that run something else. -/
def runningCommands : List String := [".", "command", "eval", "exec", "type"]

/-- Whether the shell itself carries a command out. -/
def isBuiltin (name : String) : Bool := (builtin? name).isSome || runningCommands.contains name

end Shell

end ToolWeave
