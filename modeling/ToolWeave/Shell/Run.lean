import ToolWeave.Shell.Expansion
import ToolWeave.Shell.Utility
import ToolWeave.Shell.Utility.Batches

/-!
# Running scripts

A script runs as a `Process`: words are expanded, programs and the commands of the shell itself are
carried out, and descriptors are led to where they belong.

## Main definitions

* `Shell.run`: a script carried out.
* `Shell.runText`: the text of a script, read and carried out command by command.
* `Shell.runProgram`: a program of the host carried out.
* `Shell.launch`: a command line carried out as a process of its own.

## Design notes

**Bounded running.**  Each script inside another one, each turn of a loop and each command gets one
unit of a bound, so that running is total.  A script that uses the bound up is taken to run for
ever.

**Tested commands.**  A shell can be told to end when a command fails.  That does not hold where the
failure is looked at: in the test of a condition or a loop, before `&&` and `||`, and under a
negation.  `tested` tells that a command stands in such a place.
-/

namespace ToolWeave

namespace Shell

/-- Leaves a loop on the way out of more. -/
def leaveLoop (stop : Stop) : Action Unit := do
  modify fun p => { p with loops := p.loops - 1 }
  throw stop

/-- The deepest that functions may call each other. -/
def maxFunctionDepth : Nat := 1000

mutual

/-- How scripts inside of others are carried out. -/
def runner : (bound : Nat) → Runner
  | 0 => ⟨fun _ => neverEnd, fun _ => neverEnd⟩
  | bound + 1 => ⟨run bound false, runText bound⟩

/-- Reads the text of a script and carries it out command by command. -/
def runText : (bound : Nat) → (text : String) → Action Unit
  | 0, _ => neverEnd
  | bound + 1, text => runCommands bound false (.ofText text)

/-- Carries out the commands that are left of a script.  If more text can still come, what is not
complete yet is waited for. -/
def runCommands : (bound : Nat) → (isOpen : Bool) → Reading → Action Unit
  | 0, _, _ => neverEnd
  | bound + 1, isOpen, reading => do
    let next := (← get).machine.next
    match readCommand { reading with documents := [], next := next } with
    | .error mistake => do
      if isOpen then throw .waiting
      modify fun p => { p with line := mistake.line, functionLine := none }
      fail mistake.flaw.message
    | .ok (command, after) => do
      modify fun p =>
        { p with machine.documents := after.documents ++ p.machine.documents,
                 machine.next := max p.machine.next after.next }
      match command with
      | none => if isOpen then throw .waiting else return ()
      | some script => do
        match script with
        | some script => run bound false script
        | none => pure ()
        runCommands bound isOpen after

/-- Sees to the signals that have come. -/
def runTraps : (bound : Nat) → Action Unit
  | 0 => neverEnd
  | bound + 1 => do
    let p ← get
    match p.pending with
    | [] => return ()
    | signal :: others => do
      set { p with pending := others }
      match Entries.get? signal p.traps with
      | some text => do
        runText bound (textOf text)
        modify fun q => { q with status := p.status }
      | none => pure ()
      runTraps bound

/-- Carries out a script, and what follows from how it ended: signals are seen to, and a failure may
end the shell. -/
def run : (bound : Nat) → (tested : Bool) → Script → Action Unit
  | 0, _, _ => neverEnd
  | bound + 1, tested, script => do
    let mayEnd ← runScript bound tested script
    runTraps bound
    let p ← get
    if mayEnd && !tested && p.has 'e' && p.status ≠ 0 then throw (.exited p.status)

/-- Carries out a script.  Tells whether a failure of it may end the shell. -/
def runScript : (bound : Nat) → (tested : Bool) → Script → Action Bool
  | 0, _, _ => neverEnd
  | bound + 1, tested, script => do
    let finish (status : Nat) : Action Unit := modify fun p => { p with status := status }
    match script with
    | .simple line assignments words redirections => do
      modify fun p => { p with line := line }
      let status ← runSimple bound tested assignments words redirections
      finish status
      return true
    | .sequence first second => do
      run bound tested first
      run bound tested second
      return false
    | .both first second => do
      run bound true first
      if (← get).status = 0 then run bound tested second
      return false
    | .either first second => do
      run bound true first
      if (← get).status ≠ 0 then run bound tested second
      return false
    | .negation inner => do
      run bound true inner
      finish (if (← get).status = 0 then 1 else 0)
      return false
    | .pipe parts => do
      let start := (← get).elapsed
      let ended ← runPipe bound tested start none parts
      finish (← awaitEnd ended)
      return true
    | .background inner => do
      let p ← get
      let id ← fresh
      let ended ← apart (runner bound)
        (fun p => { p.lead 0 (some .nowhere) with id := id, jobs := [] }) (run bound tested inner)
      let finishes := match ended.stop with | some _ => never | none => ended.finish
      let job : Job := ⟨id, finishes, ended.status, p.heldSinks⟩
      modify fun p => { p with machine.jobs := p.machine.jobs ++ [job], jobs := id :: p.jobs }
      finish 0
      return false
    | .apart line inner redirections => do
      modify fun p => { p with line := line }
      let ended ← apart (runner bound) id do
        match ← redirect (runner bound) bound redirections with
        | some text => do
          modify fun p => { p with command := none }
          fail text
        | none => run bound tested inner
      finish (← awaitEnd ended)
      return true
    | .redirected line inner redirections => do
      modify fun p => { p with line := line }
      let channels := (← get).channels
      match ← redirect (runner bound) bound redirections with
      | some text => do
        modify fun p => { p with channels := channels }
        warn text
        finish 2
        return true
      | none => do
        let (stop, p) := outcome (← get) (run bound tested inner)
        set { p with channels := channels }
        resume stop
        return false
    | .condition test yes no => do
      run bound true test
      if (← get).status = 0 then run bound tested yes
      else
        match no with
        | some no => run bound tested no
        | none => finish 0
      return false
    | .loop whileTrue test body => do
      modify fun p => { p with loops := p.loops + 1 }
      runLoop bound whileTrue tested test body 0
      modify fun p => { p with loops := p.loops - 1 }
      return false
    | .each line name words body => do
      modify fun p => { p with line := line }
      let fields ← match words with
        | some words => expandWords (runner bound) bound words
        | none => do pure (← get).arguments
      modify fun p => { p with loops := p.loops + 1 }
      finish 0
      runEach bound name fields tested body
      modify fun p => { p with loops := p.loops - 1 }
      return false
    | .choice line word arms => do
      modify fun p => { p with line := line }
      let text := unmark (← expandWhole (runner bound) bound false word)
      runChoice bound text tested arms
      return false
    | .define line name body => do
      modify fun p => { p with functions := Entries.put name (line, body) p.functions }
      finish 0
      return false

/-- Carries out the parts of a pipeline side by side, from an instant on; the first one reads from a
source if one is given. -/
def runPipe : (bound : Nat) → (tested : Bool) → (start : Instant) → (input : Option Nat) →
    List Script → Action Ended
  | 0, _, _, _, _ => neverEnd
  | _, _, start, _, [] => return ⟨0, start, none⟩
  | bound + 1, tested, start, input, part :: rest => do
    let entrance (p : Process) : Process :=
      match input with
      | some k => { p.lead 0 (some (.source k)) with elapsed := start }
      | none => { p with elapsed := start }
    match rest with
    | [] => apart (runner bound) entrance (run bound tested part)
    | _ => do
      let sink ← newSink
      let first ← apart (runner bound) (fun p => (entrance p).lead 1 (some (.sink sink)))
        (run bound tested part)
      let (chunks, closes) ← closeSink sink first.finish
      let stillOpen : Bool := match first.stop with | some .waiting => true | _ => false
      let source ← newSource
        ⟨chunks.map fun chunk => (chunk.time, chunk.text), if stillOpen then none else some closes⟩
      let last ← runPipe bound tested start (some source) rest
      let left := ((Entries.get? source (← get).machine.sources).map Stream.chunks).getD []
      let isOver : Bool := last.stop.isNone
      let refused := left.find? fun chunk => decide (last.finish ≤ chunk.1)
      match refused, isOver with
      | some chunk, true => return { last with finish := max last.finish (min chunk.1 first.finish) }
      | _, _ =>
        match first.stop, last.stop with
        | some stop, none => return ⟨last.status, max first.finish last.finish, some stop⟩
        | _, stop => return ⟨last.status, max first.finish last.finish, stop⟩

/-- Carries out a simple command, and gives its status. -/
def runSimple : (bound : Nat) → (tested : Bool) → List (String × Word) → List Word →
    List Redirection → Action Nat
  | 0, _, _, _, _ => neverEnd
  | bound + 1, tested, assignments, words, redirections => do
    modify fun p => { p with captured := 0 }
    let fields ← expandWords (runner bound) bound words
    let channels := (← get).channels
    let name := textOf (fields.headD [])
    let isSpecial := specialCommands.contains name
    match ← redirect (runner bound) bound redirections with
    | some text => do
      warn text
      modify fun p => { p with channels := channels, status := 2 }
      if isSpecial then throw .failed else return 2
    | none => do
      let trace (assigned : List (String × Bytes)) : Action Unit := do
        let p ← get
        if p.has 'x' then
          let texts := assigned.map fun (name, value) => bytes name ++ 61 :: value
          emitTo 2 ((p.valueOf? "PS4").getD [] ++ spaced (texts ++ fields) ++ [10])
      let restoring (action : Action Nat) : Action Nat := do
        let (stop, p) := outcome (← get) (do
          let status ← action
          modify fun p => { p with status := status })
        set { p with channels := channels }
        resume stop
        return p.status
      match fields with
      | [] => restoring do
        let assigned ← assignEach (runner bound) bound assignments
        trace assigned
        return (← get).captured
      | _ :: arguments =>
        if name = "exec" && arguments.isEmpty then do
          trace (← assignEach (runner bound) bound assignments)
          return 0
        else if isSpecial then restoring do
          let assigned ← assignEach (runner bound) bound assignments
          trace assigned
          runCommand bound tested fields
        else restoring do
          let before := (← get).vars
          let assigned ← expandAssignments (runner bound) bound assignments
          trace assigned
          assigned.forM fun (name, value) => do
            assign name value
            modify fun p =>
              { p with vars := Entries.put name ⟨some value, true, false⟩ p.vars }
          let (stop, p) := outcome (← get) (do
            let status ← runCommand bound tested fields
            modify fun p => { p with status := status })
          let put (vars : Entries Variable) (name : String) : Entries Variable :=
            match Entries.get? name before with
            | some v => Entries.put name v vars
            | none => Entries.erase name vars
          set { p with vars := (assigned.map Prod.fst).foldl put p.vars }
          resume stop
          return p.status

/-- Carries out a command given by its fields, and gives its status. -/
def runCommand : (bound : Nat) → (tested : Bool) → List Bytes → Action Nat
  | 0, _, _ => neverEnd
  | _, _, [] => return 0
  | bound + 1, tested, fields@(first :: arguments) => do
    let name := textOf first
    let p ← get
    if specialCommands.contains name then runBuiltin bound tested name arguments
    else
      match Entries.get? name p.functions with
      | some (line, body) => callFunction bound tested line body arguments
      | none =>
        if isBuiltin name then do
          let (stop, q) := outcome p (do
            let status ← runBuiltin bound tested name arguments
            modify fun p => { p with status := status })
          match stop with
          | some .failed => do
            set q
            return 2
          | stop => do
            set q
            resume stop
            return q.status
        else runExternal bound fields

/-- Calls a function. -/
def callFunction : (bound : Nat) → (tested : Bool) → (line : Nat) → Script → List Bytes →
    Action Nat
  | 0, _, _, _, _ => neverEnd
  | bound + 1, tested, line, body, arguments => do
    let p ← get
    if maxFunctionDepth ≤ p.locals.length then
      fail s!"Maximum function recursion depth ({maxFunctionDepth}) reached"
    set { p with arguments := arguments, locals := [] :: p.locals, loops := 0,
                 functionLine := some line }
    let (stop, q) := outcome (← get) (run bound tested body)
    let vars := (q.locals.headD []).foldl (fun vars (name, old) =>
      match old with
      | some v => Entries.put name v vars
      | none => Entries.erase name vars) q.vars
    let q :=
      { q with arguments := p.arguments, locals := p.locals, loops := p.loops, vars := vars
               functionLine := p.functionLine }
    match stop with
    | some (.returning code) => do
      set { q with status := code }
      return code
    | stop => do
      set q
      resume stop
      return q.status

/-- Carries out a command of the shell itself.  Its messages name it. -/
def runBuiltin : (bound : Nat) → (tested : Bool) → (name : String) → List Bytes → Action Nat
  | 0, _, _, _ => neverEnd
  | bound + 1, tested, name, arguments => do
    let p ← get
    let act : Action Nat :=
      match name with
      | "eval" => do
        if arguments.isEmpty then modify fun p => { p with status := 0 }
        runTested bound tested (textOf (spaced arguments))
        return (← get).status
      | "." =>
        match arguments with
        | [] => return 0
        | file :: _ => runFile bound tested file
      | "exec" => do
        let file := textOf (arguments.headD [])
        match (← get).findProgram file with
        | .ok program => do
          modify fun p => { p with vars := p.handedOn, number := 0 }
          throw (.exited (← runProgram bound program arguments))
        | .error .denied | .error .isDirectory => do
          warn s!"{file}: Permission denied"
          throw (.exited 126)
        | .error _ => do
          warn s!"{file}: not found"
          throw (.exited 127)
      | "command" => runPlainly bound tested arguments
      | "type" =>
        arguments.foldlM (fun status argument => do
          let (found, text) := (← get).describe (textOf argument) true
          emit (bytes (text ++ "\n"))
          return if found then status else 127) 0
      | _ =>
        match builtin? name with
        | some builtin => builtin arguments
        | none => return 127
    let (stop, q) := outcome { p with command := some name } (do
      let status ← act
      modify fun p => { p with status := status })
    set { q with command := p.command }
    resume stop
    return q.status

/-- Carries out the text of a script in the place of a command. -/
def runTested : (bound : Nat) → (tested : Bool) → (text : String) → Action Unit
  | 0, _, _ => neverEnd
  | bound + 1, tested, text => do
    let options := (← get).options
    let line := (← get).line
    if tested && options.contains 'e' then do
      modify fun p => p.setOption 'e' false
      let (stop, p) := outcome (← get) (runText bound text)
      set { p with options := if p.has 'e' then p.options else p.options ++ ['e'], line := line }
      resume stop
    else do
      runText bound text
      modify fun p => { p with line := line }

/-- Carries out the script in a file in the place of a command. -/
def runFile : (bound : Nat) → (tested : Bool) → (file : Bytes) → Action Nat
  | 0, _, _ => neverEnd
  | bound + 1, tested, file => do
    let name := textOf file
    let p ← get
    let paths := if name.contains '/' then [name] else Host.candidates p.searchPath name
    let content := paths.findSome? fun path =>
      match p.host.kind? path with
      | some (.file content) => some content
      | _ => none
    match content with
    | none => fail (if name.contains '/' then s!"cannot open {name}: No such file"
        else s!"{name}: not found")
    | some content => do
      modify fun p => { p with status := 0 }
      let (stop, q) := outcome (← get) (runTested bound tested (textOf content))
      match stop with
      | some (.returning code) => do
        set q
        return code
      | stop => do
        set q
        resume stop
        return q.status

/-- Carries out a command that is no function, or tells what a name stands for. -/
def runPlainly : (bound : Nat) → (tested : Bool) → List Bytes → Action Nat
  | 0, _, _ => neverEnd
  | bound + 1, tested, arguments => do
    match leadingOptions "pvV" arguments with
    | .error c => fail s!"Illegal option -{c}"
    | .ok (options, rest) =>
      match rest with
      | [] => return 0
      | first :: others => do
        let name := textOf first
        if options.contains 'v' || options.contains 'V' then do
          let (found, text) := (← get).describe name (options.contains 'V')
          if found || options.contains 'V' then emit (bytes (text ++ "\n"))
          return if found then 0 else 127
        else if isBuiltin name then runBuiltin bound tested name others
        else do
          modify fun p => { p with command := none }
          runExternal bound rest

/-- Carries out a program, and gives its status. -/
def runExternal : (bound : Nat) → List Bytes → Action Nat
  | 0, _ => neverEnd
  | _, [] => return 0
  | bound + 1, words@(first :: _) => do
    let p ← get
    match p.findProgram (textOf first) with
    | .error refusal => do
      match refusal with
      | .denied | .isDirectory => do
        warn s!"{textOf first}: Permission denied"
        return 126
      | .nameTooLong => do
        warn s!"{textOf first}: File name too long"
        return 126
      | _ => do
        warn s!"{textOf first}: not found"
        return 127
    | .ok program => do
      let (stop, q) := outcome { p with vars := p.handedOn } (do
        let status ← runProgram bound program words
        modify fun p => { p with status := status })
      set { p with machine := q.machine, elapsed := q.elapsed }
      match stop with
      | some (.killed signal) => do
        reportSignal (128 + signal)
        return 128 + signal
      | stop => do
        resume stop
        return q.status

/-- Carries out a program of the host with a command line, and gives its status. -/
def runProgram : (bound : Nat) → (program : String) → List Bytes → Action Nat
  | 0, _, _ => neverEnd
  | bound + 1, program, words => do
    let arguments := words.drop 1
    let start (words : List Bytes) : Action Nat := do
      let name := textOf (words.headD [])
      match (← get).findProgram name with
      | .ok found => runProgram bound found words
      | .error refusal => do
        complain s!"{program}: {quotedName (words.headD [])}: {wording refusal}\n"
        return if refusal = .notFound then 127 else 126
    if Host.shells.contains program then runShell bound (words.headD []) arguments
    else
      match program with
      | "env" => do
        match readChoices ⟨"i0v", "uC", [("ignore-environment", 'i')], false⟩ arguments with
        | .error text => misuse "env" text 125
        | .ok options => do
          let isAssignment (word : Bytes) : Bool := word.contains 61
          let isBare := options.has 'i' || options.operands.head? = some [45]
          let operands :=
            if options.operands.head? = some [45] then options.operands.drop 1
            else options.operands
          let p ← get
          let vars := if isBare then [] else p.handedOn
          let vars := (options.options.filter fun o => o.1 == 'u').foldl (fun vars o =>
            Entries.erase (textOf o.2) vars) vars
          let vars := (operands.takeWhile isAssignment).foldl (fun vars word =>
            match splitAssignment word with
            | (name, some value) => Entries.put name ⟨some value, true, false⟩ vars
            | _ => vars) vars
          set { p with vars := vars }
          match operands.dropWhile isAssignment with
          | [] => do
            emit ((← get).environment.flatMap fun (name, value) =>
              bytes name ++ [61] ++ value ++ [10])
            return 0
          | rest =>
            if Entries.has "PATH" vars then start rest
            else do
              modify fun p =>
                { p with vars := Entries.put "PATH" ⟨some (bytes "/bin:/usr/bin"), false, false⟩ p.vars }
              start rest
      | "nice" | "nohup" =>
        let rest := arguments.dropWhile fun word => word.head? == some 45
        if rest.isEmpty then misuse program "missing operand" 125 else start rest
      | "timeout" => do
        match readChoices ⟨"vp", "sk", [("preserve-status", 'p'), ("foreground", 'f')], false⟩
            arguments with
        | .error text => misuse "timeout" text 125
        | .ok options =>
          match options.operands with
          | limit :: rest@(_ :: _) =>
            match seconds? limit with
            | none => misuse "timeout" s!"invalid time interval {quotedName limit}" 125
            | some length => do
              let p ← get
              let deadline := p.elapsed + length
              let id ← fresh
              let (stop, q) := outcome { (← get) with id := id } (do
                let status ← start rest
                modify fun p => { p with status := status })
              let isLate := length ≠ 0 && decide (deadline < q.elapsed)
              match stop, isLate with
              | some .endless, true | none, true => do
                let keeps (chunk : Chunk) : Bool :=
                  chunk.writer ≠ id || decide (chunk.time ≤ deadline)
                let sinks := q.machine.sinks.map fun (entry : Nat × List Chunk) =>
                  (entry.1, entry.2.filter keeps)
                set { p with machine := { q.machine with sinks := sinks }, elapsed := deadline }
                return 124
              | stop, _ => do
                set { q with id := p.id }
                resume stop
                return q.status
          | _ => misuse "timeout" "missing operand" 125
      | "xargs" => do
        match readChoices ⟨"0rt", "nIdLP", [("no-run-if-empty", 'r'), ("null", '0')], false⟩
            arguments with
        | .error text => misuse "xargs" text
        | .ok options => do
          let text ← drain
          modify fun p => p.lead 0 (some .nowhere)
          let command := if options.operands.isEmpty then [bytes "echo"] else options.operands
          let cut : Option UInt8 :=
            if options.has '0' then some 0 else (options.value? 'd').bind fun text =>
              (unescape ⟨false, false, true⟩ text).1.head?
          let items :=
            match cut with
            | some b => (cutAt b (if text.getLast? = some b then text.dropLast else text)).filter
                fun item => !item.isEmpty
            | none =>
              if options.has 'I' then
                (bareLines text).map (fun line => line.dropWhile fun b => b == 32 || b == 9)
                  |>.filter fun line => !line.isEmpty
              else quotedWords text
          let batches : List (List Bytes) :=
            match options.value? 'I' with
            | some mark => items.map fun item => command.map fun word => replaceAll mark item word
            | none =>
              match (options.value? 'n').bind fun text => (textOf text).toNat? with
              | some n => (inBatches n (items.length + 1) items).map fun batch => command ++ batch
              | none => if items.isEmpty && options.has 'r' then [] else [command ++ items]
          runBatches bound 0 batches
      | _ =>
        match utility? program with
        | some utility => utility arguments
        | none => return 127

/-- Carries out command lines one after the other, and gives the status of all. -/
def runBatches : (bound : Nat) → (status : Nat) → List (List Bytes) → Action Nat
  | 0, _, _ => neverEnd
  | _, status, [] => return status
  | bound + 1, status, words :: rest => do
    match (← get).findProgram (textOf (words.headD [])) with
    | .error refusal => do
      complain s!"xargs: {textOf (words.headD [])}: {wording refusal}\n"
      return if refusal = .notFound then 127 else 126
    | .ok program => do
      let ended ← apart (runner bound) id do
        let status ← runProgram bound program words
        modify fun p => { p with status := status }
      let code ← awaitEnd ended
      runBatches bound (if code = 0 then status else 123) rest

/-- Carries out a shell, whose script is an argument, a file, or else its input. -/
def runShell : (bound : Nat) → (name : Bytes) → List Bytes → Action Nat
  | 0, _, _ => neverEnd
  | bound + 1, name, arguments => do
    let p ← get
    let number ← if p.number = 0 then pure 4242 else fresh
    let p ← get
    let refuse (text : String) : Action Nat := do
      complain s!"{textOf name}: 0: {text}\n"
      return 2
    match shellOptions (arguments.length + 1) false (p.started p.handedOn name number []) arguments
        with
    | .error text => refuse text
    | .ok (isCommand, inside, rest) => do
      let runInside (inside : Process) (action : Action Unit) : Action Nat := do
        let (stop, q) := outcome inside (finishShell (runner bound) action)
        set { p with machine := q.machine, elapsed := q.elapsed }
        resume stop
        return q.status
      match isCommand, rest with
      | true, [] => refuse "-c requires an argument"
      | true, script :: rest =>
        let inside := { inside with title := rest.headD name, arguments := rest.drop 1 }
        runInside inside (runText bound (textOf script))
      | false, [] =>
        runInside inside do
          let (text, isOpen) ← takeAvailable
          runCommands bound isOpen (.ofText (textOf text))
      | false, file :: others =>
        match p.host.kind? (textOf file) with
        | some (.file script) =>
          runInside { inside with title := file, arguments := others } (runText bound (textOf script))
        | _ => refuse s!"cannot open {textOf file}: No such file"

/-- Carries out a script as long as a test says so.  `last` is the status of the last turn. -/
def runLoop : (bound : Nat) → (whileTrue tested : Bool) → (test body : Script) → (last : Nat) →
    Action Unit
  | 0, _, _, _, _, _ => neverEnd
  | bound + 1, whileTrue, tested, test, body, last => do
    let (stop, p) := outcome (← get) (run bound true test)
    let goesOn := (p.status == 0) == whileTrue
    match stop, goesOn with
    | none, false => set { p with status := last }
    | none, true => do
      let (stop, p) := outcome p (run bound tested body)
      set p
      match stop with
      | none => runLoop bound whileTrue tested test body p.status
      | some (.continuing 1) => runLoop bound whileTrue tested test body 0
      | some (.breaking 1) => set { p with status := 0 }
      | some (.breaking (n + 1)) => leaveLoop (.breaking n)
      | some (.continuing (n + 1)) => leaveLoop (.continuing n)
      | some stop => throw stop
    | some (.continuing 1), _ => do
      set p
      runLoop bound whileTrue tested test body 0
    | some (.breaking 1), _ => set { p with status := 0 }
    | some (.breaking (n + 1)), _ => do
      set p
      leaveLoop (.breaking n)
    | some (.continuing (n + 1)), _ => do
      set p
      leaveLoop (.continuing n)
    | some stop, _ => do
      set p
      throw stop

/-- Carries out a script once for each value of a variable. -/
def runEach : (bound : Nat) → String → List Bytes → (tested : Bool) → Script → Action Unit
  | 0, _, _, _, _ => neverEnd
  | _, _, [], _, _ => return ()
  | bound + 1, name, value :: rest, tested, body => do
    assign name value
    let (stop, p) := outcome (← get) (run bound tested body)
    set p
    match stop with
    | none => runEach bound name rest tested body
    | some (.continuing 1) => do
      modify fun p => { p with status := 0 }
      runEach bound name rest tested body
    | some (.breaking 1) => modify fun p => { p with status := 0 }
    | some (.breaking (n + 1)) => leaveLoop (.breaking n)
    | some (.continuing (n + 1)) => leaveLoop (.continuing n)
    | some stop => throw stop

/-- Carries out the first arm with a pattern that fits. -/
def runChoice : (bound : Nat) → Bytes → (tested : Bool) → List (List Word × Option Script) →
    Action Unit
  | 0, _, _, _ => neverEnd
  | _, _, _, [] => modify fun p => { p with status := 0 }
  | bound + 1, text, tested, (patterns, body) :: rest => do
    if ← fitsOne bound text patterns then
      match body with
      | some body => run bound tested body
      | none => modify fun p => { p with status := 0 }
    else runChoice bound text tested rest

/-- Whether a text fits one of some patterns. -/
def fitsOne : (bound : Nat) → Bytes → List Word → Action Bool
  | 0, _, _ => neverEnd
  | _, _, [] => return false
  | bound + 1, text, pattern :: rest => do
    if Pattern.fits (← expandWhole (runner bound) bound false pattern) text then return true
    else fitsOne bound text rest

end

/-- How many scripts, turns and commands a process may nest and repeat. -/
def runBound : Nat := 100000

/-- What an observer sees of a process: its outputs, the time that passed until nothing more could
come, and how it ended, if it did. -/
structure Observation where
  output : Bytes
  errors : Bytes
  elapsed : Instant
  stop : Stop
  /-- The host as the process leaves it. -/
  host : Host

/-- A process before it does anything: its input is the source of number zero, its outputs are the
sinks of numbers one and two. -/
def Process.fresh (host : Host) (vars : Entries String) (input : Bytes) (isOpen : Bool) : Process :=
  { machine :=
      { host := host
        sinks := [(1, []), (2, [])]
        sources := [(0, ⟨[(0, input)], if isOpen then none else some 0⟩)]
        documents := []
        jobs := []
        next := 4300 }
    id := 0
    elapsed := Instant.millisecond
    directory := host.directory
    channels := [(0, .source 0), (1, .sink 1), (2, .sink 2)]
    vars := vars.map fun entry => (entry.1, ⟨some (bytes entry.2), true, false⟩)
    title := []
    number := 0
    arguments := []
    functions := []
    options := []
    status := 0
    captured := 0
    jobs := []
    traps := []
    pending := []
    locals := []
    loops := 0
    line := 1
    functionLine := none
    command := none
    optionPlace := 0 }

/-- Carries out a command line as a process of its own, the program it starts being known. -/
def launch (host : Host) (vars : Entries String) (program : String) (words : List String)
    (input : Bytes) (isOpen : Bool) : Observation :=
  let (stop, p) := outcome (Process.fresh host vars input isOpen) (do
    let status ← runProgram runBound program (words.map bytes)
    modify fun p => { p with status := status })
  let written (k : Nat) : Bytes := gathered ((Entries.get? k p.machine.sinks).getD []).reverse
  let holders := p.machine.jobs.filter fun job => job.sinks.contains 1 || job.sinks.contains 2
  { output := written 1
    errors := written 2
    elapsed := holders.foldl (fun time job => max time job.finish) p.elapsed
    stop := stop.getD (.exited p.status)
    host := { p.machine.host with directory := host.directory } }

end Shell

end ToolWeave
