import ToolWeave.Failure
import ToolWeave.Host.Program
import ToolWeave.Shell.Run

/-!
# Launching commands

A command line becomes a process of the host.  It may be refused, it may take too long, and the
caller may give up on it; otherwise it ends with an exit code and what it has written.

## Main definitions

* `Host.enter`: the host as a command sees it, if the command can be started.
* `Host.Ending`: how a command ended.
* `Host.complete`: a command carried out to its end, within its time limit and the scopes.

## Design notes

**Time.**  A process takes the time that its script lets pass, and a millisecond to start.
Whichever comes first decides: its end, its limit, or the deadline of a scope.
-/

namespace ToolWeave

namespace Host

/-- Why a command was not started. -/
inductive StartError where
  | system (cause : SystemError)
  /-- Nothing like this can be asked of the system. -/
  | crash (cause : Crash)

/-- The host as seen from a directory, if that is one. -/
def inDirectory (host : Host) (directory : Option String) : Except SystemError Host :=
  match directory with
  | none => .ok host
  | some path =>
    match host.find path with
    | .ok .directory => .ok { host with directory := Path.resolve host.directory path }
    | .ok (.file _) => .error ⟨.notDirectory, path⟩
    | .error e => .error e

/-- The program of a name, which is looked for where some variables say. -/
def findProgram (host : Host) (vars : Entries String) (name : String) :
    Except SystemError String :=
  let directories := (Entries.get? "PATH" vars).getD "/bin:/usr/bin"
  (host.firstProgram .notFound (candidates directories name)).mapError fun refusal =>
    ⟨refusal, name⟩

/-- Whether something for the system holds a null byte. -/
def holdsNull (words : List String) (directory : Option String) (vars : Entries String) : Bool :=
  let isNull (text : String) : Bool := text.contains '\x00'
  words.any isNull || directory.any isNull ||
    vars.any fun entry => isNull entry.1 || isNull entry.2

/-- The host as a command sees it, and the program of the command, if it can be started in a
directory with some variables put over the others. -/
def enter (host : Host) (directory : Option String) (vars : Entries String)
    (words : List String) : Except StartError (Host × String) :=
  match words with
  | [] => .error (.crash (.system "IndexError" "list index out of range"))
  | name :: _ =>
    if vars.any fun entry => entry.1.contains '=' then
      .error (.crash (.refused "illegal environment variable name"))
    else if holdsNull words directory vars then .error (.crash .nullByte)
    else
      match host.inDirectory directory with
      | .error e => .error (.system e)
      | .ok inside =>
        match inside.findProgram (host.overlay vars) name with
        | .ok program => .ok (inside, program)
        | .error e => .error (.system e)

/-- How a command ended. -/
inductive Ending where
  | finished (code : Int) (output errors : String)
  | notStarted (cause : SystemError)
  | timedOut
  | cancelled (error : ToolError)
  | crashed (cause : Crash)

/-- The exit code of a process that stopped: minus the signal if one killed it. -/
def stopCode : Shell.Stop → Int
  | .exited code | .returning code => code
  | .killed signal => -signal
  | _ => 0

/-- The text of an output, lines ended by line feeds. -/
def outputText (output : Shell.Bytes) : Except Utf8.Fault String :=
  (Utf8.decode output).map fun chars => String.ofList (Text.unifyLines chars)

/-- The result of a process that ran to its end. -/
def finish (seen : Shell.Observation) : Ending :=
  match outputText seen.output, outputText seen.errors with
  | .ok output, .ok errors => .finished (stopCode seen.stop) output errors
  | .error cause, _ => .crashed (.undecodable cause)
  | .ok _, .error cause => .crashed (.undecodable cause)

/-- Whether one limit comes before another; no limit never comes. -/
def comesBefore (a b : Option Instant) : Bool :=
  match a, b with
  | some a, some b => decide (a < b)
  | some _, none => true
  | none, _ => false

/-- A length of time of so many milliseconds. -/
def milliseconds (count : Nat) : Instant := (count * Double.unit : Nat) / 1000

/-- The most milliseconds that the system keeps count of. -/
def maxMilliseconds : Nat := 9223372036854

/-- The most milliseconds that the system waits for outputs at once. -/
def maxPoll : Nat := 2147483647

/-- The fault of a time that the system does not keep count of. -/
def timeOverflow : Crash :=
  .system "OverflowError" "timestamp too large to convert to C _PyTime_t"

/-- Why the system cannot wait for outputs, if it cannot.  Inside of scopes it waits for a short
time again and again, which is always possible unless the limit is no number. -/
def unwaitable? (scopes : List Scope) (limit : Double) : Option Crash :=
  match limit with
  | .nan => some (.refused "cannot convert float NaN to integer")
  | limit =>
    if !scopes.isEmpty || limit.isNegative then none
    else
      match limit.mul (Double.ofInt 1000) with
      | .infinite _ => some (.system "OverflowError" "cannot convert float infinity to integer")
      | _ =>
        let length := (Instant.ofSeconds? limit).getD 0
        if milliseconds maxMilliseconds < length then some timeOverflow
        else if milliseconds maxPoll < length then
          some (.system "OverflowError" "timeout is too large")
        else none

/-- The length of time that a limit allows; none if it is without end. -/
def allowance : Double → Option Instant
  | .infinite true => some 0
  | limit => Instant.ofSeconds? limit

/-- What a command leads to: how it ended and when, and the host as it leaves it. -/
structure Completion where
  ending : Ending
  now : Instant
  host : Host

/-- Sees a process that has been started through to its end, from an instant on.  What a process has
done to files stays, if it was not stopped. -/
def await (host : Host) (now : Instant) (scopes : List Scope) (limit : Option Instant)
    (seen : Shell.Observation) : Completion :=
  let left := Scope.remaining? now scopes
  if comesBefore (some seen.elapsed) limit && comesBefore (some seen.elapsed) left then
    let after := { host with files := seen.host.files, directories := seen.host.directories }
    ⟨finish seen, now + seen.elapsed, after⟩
  else if comesBefore left limit then
    ⟨.cancelled (.cancelled Scope.Reason.deadline.message), now + left.getD 0, host⟩
  else ⟨.timedOut, now + (max 0 (limit.getD 0)), host⟩

/-- Carries a command out with some input, from an instant on.  Its limit is a number of seconds. -/
def complete (host : Host) (now : Instant) (scopes : List Scope) (words : List String)
    (directory : Option String) (vars : Entries String) (timeout : Option Number)
    (input : String) : Completion :=
  match host.enter directory vars words with
  | .error (.system cause) => ⟨.notStarted cause, now, host⟩
  | .error (.crash cause) => ⟨.crashed cause, now, host⟩
  | .ok (inside, program) =>
    match Scope.check now scopes, timeout.mapM Number.toDouble with
    | .error e, _ => ⟨.cancelled e, now, host⟩
    | .ok (), .error cause => ⟨.crashed (.overflow cause), now, host⟩
    | .ok (), .ok limit =>
      match limit.bind (unwaitable? scopes) with
      | some cause => ⟨.crashed cause, now, host⟩
      | none =>
        await host now scopes (limit.bind allowance)
          (Shell.launch inside (inside.overlay vars) program words (Shell.bytes input) false)

end Host

end ToolWeave
