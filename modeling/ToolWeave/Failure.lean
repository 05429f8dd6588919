import ToolWeave.Value.Order
import ToolWeave.Value.Display
import ToolWeave.Json.Read
import ToolWeave.Json.Write
import ToolWeave.Text.Utf8

/-!
# Failures

A tool invocation that fails gives a `ToolError`: one of six kinds and a payload that is itself a
JSON value, so that a failure can be printed, sent to another process and looked at by other tools.
What goes wrong outside the language of tools is a `Crash`.

## Main definitions

* `ErrorKind`, `ErrorKind.exitCode`: the six kinds and the exit codes of the command line.
* `ToolError`: a kind and a payload whose numbers are finite.
* `ToolError.toValue`, `ToolError.ofValue?`: a failure as a value, and back.
* `Crash`, `Crash.toError`: what may go wrong inside a tool, and the failure it becomes.
-/

namespace ToolWeave

/-- The kinds of failures. -/
inductive ErrorKind where
  /-- A tool was looked up and not found. -/
  | unknownTool
  /-- A reference names nothing. -/
  | unboundName
  /-- A tool refused the shape of its input. -/
  | invalidInput
  /-- A tool's own work failed. -/
  | toolFailure
  /-- A process or remote call could not be completed. -/
  | transportFailure
  /-- The caller gave up, or its time ran out. -/
  | cancelled
  deriving DecidableEq

namespace ErrorKind

/-- The name of a kind. -/
def name : ErrorKind → String
  | unknownTool => "UnknownTool"
  | unboundName => "UnboundName"
  | invalidInput => "InvalidInput"
  | toolFailure => "ToolFailure"
  | transportFailure => "TransportFailure"
  | cancelled => "Cancelled"

/-- All kinds. -/
def all : List ErrorKind :=
  [unknownTool, unboundName, invalidInput, toolFailure, transportFailure, cancelled]

/-- The kind of a name. -/
def ofName? (text : String) : Option ErrorKind := all.find? fun kind => kind.name == text

/-- The exit code of a command that fails with this kind. -/
def exitCode : ErrorKind → Nat
  | unknownTool => 2
  | unboundName => 2
  | invalidInput => 3
  | toolFailure => 4
  | transportFailure => 5
  | cancelled => 130

end ErrorKind

/-- A failed tool invocation.  The payload is a JSON value: all its numbers are finite. -/
structure ToolError where
  kind : ErrorKind
  payload : Value
  isFinite_payload : payload.isFinite = true

namespace ToolError

/-- A failure with a payload.  A payload that is not a JSON value is replaced by its display
text. -/
def make (kind : ErrorKind) (payload : Value) : ToolError :=
  if h : payload.isFinite = true then ⟨kind, payload, h⟩
  else ⟨kind, .string payload.display, rfl⟩

@[simp]
theorem kind_make (kind : ErrorKind) (payload : Value) : (make kind payload).kind = kind := by
  unfold make
  split <;> rfl

/-- The fields of a message and its details; details that are null are left out. -/
def detailFields (message : Value) (details : Fields) : Fields :=
  details.foldl (fun fields detail =>
    match detail.2 with
    | .null => fields
    | content => Entries.put detail.1 content fields) [("error", message)]

/-- A failure with a message and details; details that are null are left out. -/
def report (kind : ErrorKind) (message : String) (details : Fields := []) : ToolError :=
  make kind (.object (detailFields (.string message) details))

/-- No tool of this name. -/
def unknownTool (name : String) : ToolError :=
  make .unknownTool (.object [("error", .string "Tool not found"), ("tool_name", .string name)])

/-- Nothing bound to this name. -/
def unboundName (name : String) : ToolError :=
  make .unboundName (.object [("error", .string "Name is not bound"), ("name", .string name)])

/-- An input of the wrong shape. -/
def invalidInput (message : String) (details : Fields := []) : ToolError :=
  report .invalidInput message details

/-- A tool whose own work failed. -/
def toolFailure (message : String) (details : Fields := []) : ToolError :=
  report .toolFailure message details

/-- A process or remote call that could not be completed. -/
def transportFailure (message : String) (details : Fields := []) : ToolError :=
  report .transportFailure message details

/-- A call given up for a reason. -/
def cancelled (reason : String) : ToolError :=
  make .cancelled (.object [("error", .string "Call was cancelled"), ("reason", .string reason)])

/-- The gist of a payload: its message if it has one, else all of it. -/
def gist (payload : Value) : String :=
  match payload.field? "error" with
  | some (.string message) => message
  | _ => payload.quoted

/-- A failure in one line. -/
def text (e : ToolError) : String := e.kind.name ++ ": " ++ gist e.payload

/-- A failure as a value. -/
def toValue (e : ToolError) : Value :=
  .object [("kind", .string e.kind.name), ("payload", e.payload)]

/-- The failure a value stands for: an object with exactly the fields `kind` and `payload`, the
kind being one of the six. -/
def ofValue? (v : Value) : Option ToolError :=
  match v with
  | .object fields =>
    if fields.length = 2 then
      match Entries.get? "kind" fields, Entries.get? "payload" fields with
      | some (.string name), some payload =>
        (ErrorKind.ofName? name).map fun kind => make kind payload
      | _, _ => none
    else none
  | _ => none

/-- Whether two failures are the same, where a payload may have `true` for one and `false` for
zero. -/
def equal (a b : ToolError) : Bool :=
  a.kind == b.kind && Value.equal a.payload.countBooleans b.payload.countBooleans

end ToolError

/-- What may go wrong in a tool besides a failure it reports itself. -/
inductive Crash where
  /-- A number is too large. -/
  | overflow (cause : Overflow)
  /-- A value has no JSON text on one line. -/
  | unwritable (cause : Json.Unwritable)
  /-- A value has no indented JSON text. -/
  | unprintable (cause : Json.Unwritable)
  /-- Bytes are not UTF-8. -/
  | undecodable (cause : Utf8.Fault)
  /-- An argument of a routine is given twice. -/
  | repeatedArgument (routine argument : String)
  /-- A routine has no argument of this name. -/
  | unexpectedArgument (routine argument : String)
  /-- An argument of a routine is not given. -/
  | missingArgument (routine argument : String)
  /-- A value is refused. -/
  | refused (message : String)
  /-- A key is missing. -/
  | missing (message : String)
  /-- A command took longer than its limit. -/
  | timedOut (command : List String) (seconds : Value)
  /-- An operation of the system failed. -/
  | system (name : String) (message : String)
  /-- A tool of the host gave up. -/
  | raised (message : String)
  /-- Evaluation nests deeper than the host allows. -/
  | nesting

namespace Crash

/-- The class a crash is reported under. -/
def name : Crash → String
  | overflow _ => "OverflowError"
  | unwritable _ | unprintable _ | refused _ => "ValueError"
  | undecodable _ => "UnicodeDecodeError"
  | repeatedArgument _ _ | unexpectedArgument _ _ | missingArgument _ _ => "TypeError"
  | missing _ => "KeyError"
  | timedOut _ _ => "TimeoutExpired"
  | system name _ => name
  | raised _ => "RuntimeError"
  | nesting => "RecursionError"

/-- The wording of a crash. -/
def message : Crash → String
  | overflow cause => cause.message
  | unwritable cause => cause.message
  | unprintable cause => cause.detailedMessage
  | undecodable cause => cause.message
  | repeatedArgument routine argument =>
    s!"{routine}() got multiple values for argument '{argument}'"
  | unexpectedArgument routine argument =>
    s!"{routine}() got an unexpected keyword argument '{argument}'"
  | missingArgument routine argument =>
    s!"{routine}() missing 1 required positional argument: '{argument}'"
  | refused text => text
  | missing text => Text.quoted text
  | timedOut command seconds =>
    "Command '" ++ (Value.strings command).quoted ++ "' timed out after " ++ seconds.display
      ++ " seconds"
  | system _ text => text
  | raised text => text
  | nesting => "maximum recursion depth exceeded"

/-- A text for the system that holds a null byte. -/
def nullByte : Crash := refused "embedded null byte"

/-- A home directory that is not known. -/
def homeless : Crash := raised "Could not determine home directory."

/-- The failure of a tool that crashed. -/
def toError (c : Crash) : ToolError :=
  .toolFailure "Tool raised an exception"
    [("description", .string c.message), ("exception", .string c.name)]

end Crash

/-- The end of something that did not succeed: a failure, or a crash. -/
inductive Fault where
  | failure (error : ToolError)
  | crash (cause : Crash)

namespace Fault

/-- The failure of a tool that ended in this way. -/
def toError : Fault → ToolError
  | failure e => e
  | crash c => c.toError

end Fault

/-- What succeeds in two parts succeeds in both. -/
theorem exists_of_bind {ε α β : Type} {x : Except ε α} {f : α → Except ε β} {b : β} (h : (x >>= f) = .ok b) :
    ∃ a, x = .ok a ∧ f a = .ok b := by
  cases x with
  | error e => cases h
  | ok a => exact ⟨a, rfl, h⟩

/-- Reads JSON text from outside.  Text that is not JSON is an invalid input. -/
def Value.parse (text : String) : Except ToolError Value :=
  match Json.readText .strict text with
  | .ok v => .ok v
  | .error .tooDeep => .error (.invalidInput "JSON nested too deeply")
  | .error fault =>
    .error (.invalidInput "invalid JSON" [("description", .string (fault.message text))])

/-- Reads JSON text from bytes, which have to be UTF-8. -/
def Value.parseBytes (bytes : List UInt8) : Except Fault Value :=
  match Utf8.decode bytes with
  | .error cause => .error (.crash (.undecodable cause))
  | .ok chars =>
    match Value.parse (String.ofList chars) with
    | .ok v => .ok v
    | .error e => .error (.failure e)

end ToolWeave
