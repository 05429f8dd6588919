import ToolWeave.Failure

/-!
# Building failures

The ways to build a failure, each known by a name and called with one argument, given by its place or
by its name, and with named details if it takes them.

## Main definitions

* `ErrorBuilder`: the ways to build a failure.
* `ErrorBuilder.build`: the failure built from an argument and named values.

## Design notes

**Binding.**  Named values are bound one after the other.  A value that is given twice, or under a
name that means nothing, is refused at once; that something is missing shows only in the end.
-/

namespace ToolWeave

/-- A way to build a failure. -/
inductive ErrorBuilder where
  | unknownTool
  | unboundName
  | invalidInput
  | toolFailure
  | transportFailure
  | cancelled

namespace ErrorBuilder

/-- The name of a way to build a failure. -/
def name : ErrorBuilder → String
  | unknownTool => "unknown_tool"
  | unboundName => "unbound_name"
  | invalidInput => "invalid_input"
  | toolFailure => "tool_failure"
  | transportFailure => "transport_failure"
  | cancelled => "cancelled"

/-- All ways to build a failure. -/
def all : List ErrorBuilder :=
  [unknownTool, unboundName, invalidInput, toolFailure, transportFailure, cancelled]

/-- The way to build a failure that a name stands for. -/
def ofName? (text : String) : Option ErrorBuilder := all.find? fun builder => builder.name == text

/-- The name of the argument. -/
def parameter : ErrorBuilder → String
  | unknownTool | unboundName => "name"
  | invalidInput | toolFailure | transportFailure => "message"
  | cancelled => "reason"

/-- Whether details can be given besides the argument. -/
def takesDetails : ErrorBuilder → Bool
  | invalidInput | toolFailure | transportFailure => true
  | unknownTool | unboundName | cancelled => false

/-- The argument if none is given. -/
def usual? : ErrorBuilder → Option Value
  | cancelled => some (.string "cancelled")
  | _ => none

/-- Binds named values: the argument, if it is among them, and the details. -/
def bind (builder : ErrorBuilder) : (argument : Option Value) → Fields →
    Except Crash (Option Value × Fields)
  | argument, [] => .ok (argument, [])
  | argument, (name, value) :: rest =>
    if name = builder.parameter then
      if argument.isSome then .error (.repeatedArgument builder.name name)
      else builder.bind (some value) rest
    else if builder.takesDetails then do
      let (argument, details) ← builder.bind argument rest
      return (argument, (name, value) :: details)
    else .error (.unexpectedArgument builder.name name)

/-- The failure for an argument and details. -/
def failure (builder : ErrorBuilder) (argument : Value) (details : Fields) : ToolError :=
  let made (kind : ErrorKind) (fields : Fields) : ToolError := .make kind (.object fields)
  match builder with
  | unknownTool =>
    made .unknownTool [("error", .string "Tool not found"), ("tool_name", argument)]
  | unboundName =>
    made .unboundName [("error", .string "Name is not bound"), ("name", argument)]
  | invalidInput => made .invalidInput (ToolError.detailFields argument details)
  | toolFailure => made .toolFailure (ToolError.detailFields argument details)
  | transportFailure => made .transportFailure (ToolError.detailFields argument details)
  | cancelled =>
    made .cancelled [("error", .string "Call was cancelled"), ("reason", argument)]

/-- The failure built from an argument, which may be missing, and named values. -/
def build (builder : ErrorBuilder) (argument : Option Value) (named : Fields) :
    Except Crash ToolError := do
  let (argument, details) ← builder.bind argument named
  match argument.or builder.usual? with
  | some argument => return builder.failure argument details
  | none => throw (.missingArgument builder.name builder.parameter)

end ErrorBuilder

end ToolWeave
