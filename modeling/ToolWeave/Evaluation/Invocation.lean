import ToolWeave.Evaluation.Program
import ToolWeave.Evaluation.Builtins

/-!
# Invoking tools

What each tool does with its input, and how deep invocations may nest.

## Main definitions

* `Tool.act`: what a tool does, given how it may invoke others.
* `Tool.perform`: one invocation, from its beginning to its end.
* `Run.call`: an invocation one call deeper.
* `Run.invoke`, `Run.program`, `Run.named`: what can be asked for from outside.

## Design notes

**Two budgets.**  Calls and references go one call deeper, and the limit on the depth of calls is
what the caller asks for.  Definitions, comparisons and attempts invoke a tool at the depth they are
at; how often that may nest is for the host to say, and more is a crash.
-/

namespace ToolWeave

namespace Control

/-- The fields the tool `if` knows. -/
def branchFields : List String := ["condition", "then", "else"]

/-- The branch that a condition chooses. -/
def branch (input : Value) : Except ToolError Value := do
  let fields ← Expect.object "if" ["condition", "then"] input
  let extra := (Entries.names fields).filter fun name => !branchFields.contains name
  if !extra.isEmpty then
    throw (.invalidInput "if got unexpected field(s)"
      [("tool", .string "if"), ("fields", .strings (Entries.sortedNames extra))])
  let condition ← Expect.bool "if" "condition to be a boolean"
    ((Entries.get? "condition" fields).getD .null)
  return (Entries.get? (if condition then "then" else "else") fields).getD .null

/-- The outcome of an attempt as a value. -/
def outcomeValue : Except ToolError Value → Value
  | .ok value => .object [("ok", .bool true), ("value", value)]
  | .error e => .object [("ok", .bool false), ("error", e.toValue)]

/-- Invokes a tool and captures how it ends, unless it was cancelled. -/
def attempt (reach : Reach) (input : Value) : Run Value := do
  let fields ← Run.ofExcept (Expect.object "try" ["tool"] input)
  let name ← Run.ofExcept
    (Expect.string "try" "a tool name" ((Entries.get? "tool" fields).getD .null))
  match ← Run.lookup name with
  | none => return outcomeValue (.error (.unknownTool name))
  | some tool =>
    match ← Run.capture (reach.again .other tool ((Entries.get? "input" fields).getD .null)) with
    | .error e => if e.kind = .cancelled then throw e else return outcomeValue (.error e)
    | .ok value => return outcomeValue (.ok value)

/-- Whether one item is below another in the eyes of a tool, which answers with a number. -/
def below (reach : Reach) (name : String) (tool : Tool) (a b : Value) : Run Bool := do
  match ← reach.again .other tool (.array [a, b]) with
  | .number n => return n.order (.int 0) == .lt
  | other =>
    throw (.toolFailure "compare tool must return a number"
      [("tool", .string name), ("got", .string other.kind.name)])

/-- Sorts an array in the order of values, or in the order that a tool gives. -/
def sort (reach : Reach) (input : Value) : Run Value := do
  match input with
  | .array items => return .array (Comparison.sort items)
  | _ =>
    match input.field? "array" with
    | none =>
      throw (.invalidInput "sort expects an array or \x7barray, compare_tool\x7d"
        [("tool", .string "sort"), ("got", .string input.kind.name)])
    | some array =>
      let items ← Run.ofExcept (Expect.array "sort" none array)
      match (input.field? "compare_tool").bind Value.nonNull? with
      | none => return .array (Comparison.sort items)
      | some name =>
        let name ← Run.ofExcept (Expect.string "sort" "compare_tool to be a tool name" name)
        match ← Run.lookup name with
        | none => throw (.unknownTool name)
        | some tool => return .array (← Sorting.sort (below reach name tool) items)

end Control

namespace Command

/-- The words of a command as a detail of a failure. -/
def wordsDetail (c : Command) : String × Value := ("command", .strings c.words)

/-- The failure that a command has reported on its output, if it has. -/
def reported? (output : String) : Option ToolError :=
  match Value.parse output with
  | .ok v => ToolError.ofValue? v
  | .error _ => none

/-- What the output of a command stands for: the value it is the text of, or null if there is
none. -/
def outputValue (c : Command) (output : String) : Except ToolError Value :=
  if output = "" then .ok .null
  else
    match Value.parse output with
    | .ok v => .ok v
    | .error e =>
      .error (.transportFailure "Command printed invalid JSON"
        [c.wordsDetail, ("description", (e.payload.field? "description").getD .null)])

/-- What a command that ended gives. -/
def result (c : Command) : Host.Ending → Except ToolError Value
  | .notStarted cause =>
    let message :=
      if cause.refusal = .notFound then "Command not found" else "Command could not be started"
    .error (.transportFailure message
      [c.wordsDetail, ("description", .string cause.message)])
  | .timedOut =>
    .error (.transportFailure "Command timed out"
      [c.wordsDetail, ("timeout", (c.timeout.map Value.number).getD .null)])
  | .cancelled e => .error e
  | .crashed cause => .error cause.toError
  | .finished code output errors =>
    let output := Text.strip output
    if code = 0 then c.outputValue output
    else
      match reported? output with
      | some e => .error e
      | none =>
        .error (.transportFailure "Command exited with an error"
          [c.wordsDetail, ("exit_code", .int code), ("stderr", .string (Text.strip errors))])

/-- Runs a command on the text of its input. -/
def run (c : Command) (input : Value) : Run Value := do
  match Json.line input with
  | .error cause => throw (Crash.unwritable cause).toError
  | .ok text =>
    let world ← get
    let done :=
      world.host.complete world.now world.scopes c.words c.directory c.vars c.timeout text
    set { world with now := done.now, host := done.host }
    Run.ofExcept (c.result done.ending)

end Command

/-- Calls a tool of a remote server. -/
def Remote.call (server : Nat) (name : String) (input : Value) : Run Value := do
  let world ← get
  match world.servers[server]? with
  | none => throw (.transportFailure "Remote server is not running")
  | some client =>
    let ended := client.callTool world.now world.scopes name input
    set { world with servers := world.servers.set server ended.client, now := ended.now }
    Run.ofExcept (ended.outcome.mapError Fault.toError)

namespace HostTool

/-- What a tool of the host does. -/
def act (reach : Reach) : HostTool → Value → Run Value
  | identity, input => return input
  | record, input => do
    modify fun world => { world with notes := input :: world.notes }
    return input
  | boom, _ => throw (Crash.raised "kaput").toError
  | reject, _ => throw (.invalidInput "nope" [("field", .string "x")])
  | cancel, _ => throw (.cancelled Scope.Reason.cancelled.message)
  | cancelScope, _ => do
    modify fun world => { world with scopes := Scope.cancelInnermost world.scopes }
    Run.evaluate reach (.object [("call", .string "add"), ("input", .array [])])
  | frameNames, _ => do
    let world ← get
    return .strings (world.store.localNames world.environment)

end HostTool

namespace Builtin

/-- What a built-in tool does. -/
def act (reach : Reach) : Builtin → Value → Run Value
  | define, input => Bindings.define input
  | undefine, input => Bindings.undefine input
  | rebind, input => Bindings.rebind input
  | listTools, _ => Bindings.listTools
  | print, input => ConsoleTools.print input
  | readLine, _ => ConsoleTools.readLine
  | compare, input => Run.ofExcept (Comparison.compare input)
  | equals, input => Run.ofExcept (Comparison.equals input)
  | sort, input => Control.sort reach input
  | add, input => Run.ofExcept (Arithmetic.add input)
  | multiply, input => Run.ofExcept (Arithmetic.multiply input)
  | subtract, input => Run.ofExcept (Arithmetic.subtract input)
  | divide, input => Run.ofExcept (Arithmetic.divide input)
  | evaluate, input => Run.evaluate reach input
  | choose, input => do Run.evaluate reach (← Run.ofExcept (Control.branch input))
  | attempt, input => Control.attempt reach input

end Builtin

namespace Tool

/-- The names of the parameters that an input has no field for. -/
def missingParameters (parameters : List String) (input : Value) : List String :=
  parameters.filter fun name => (input.field? name).isNone

/-- The constants that the body of a defined tool finds in its frame: the input, and its fields by
parameter. -/
def inputFields (parameters : List String) (input : Value) : Except ToolError Fields :=
  let whole := (Bindings.inputName, input)
  if parameters.isEmpty then .ok [whole]
  else
    match input with
    | .object fields =>
      match missingParameters parameters input with
      | [] =>
        .ok (whole :: parameters.map fun name => (name, (Entries.get? name fields).getD .null))
      | names =>
        .error (.invalidInput ("input is missing parameter(s): " ++ String.intercalate ", " names)
          [("parameters", .strings parameters), ("missing", .strings names)])
    | other =>
      .error (.invalidInput "defined tool expects an object input"
        [("parameters", .strings parameters), ("got", .string other.kind.name)])

/-- What a tool does with its input, given how it may invoke others. -/
def act (reach : Reach) : Tool → Value → Run Value
  | .builtin tool, input => tool.act reach input
  | .constant value, _ => return value
  | .defined parameters _ body closure, input => do
    let constants ← Run.ofExcept (inputFields parameters input)
    Run.inside closure constants ((Form.parse body).run reach)
  | .command c, input => c.run input
  | .remote server name _, input => Remote.call server name input
  | .host tool, input => tool.act reach input

/-- Passes a result on if it is a JSON value. -/
def checked (result : Value) : Run Value :=
  if result.isFinite then return result
  else
    throw (.toolFailure "Tool returned a non-JSON value" [("type", .string result.kind.name)])

/-- One invocation of a tool: its beginning is recorded, and its end, however it ends. -/
def perform (starter : Starter) (reach : Reach) (tool : Tool) (input : Value) : Run Value := do
  Run.record (.began starter tool input)
  let outcome ← Run.capture (tool.act reach input)
  Run.record .ended
  checked (← Run.ofExcept outcome)

end Tool

namespace Run

/-- Invokes a tool at one depth.  `deeper` invokes a tool one call deeper, and `room` says how often
invocations at this depth may still nest. -/
def invokeAt (deeper : Tool → Value → Run Value) :
    (room : Nat) → Starter → Tool → Value → Run Value
  | 0, _, _, _ => throw Crash.nesting.toError
  | room + 1, starter, tool, input =>
    tool.perform starter ⟨deeper, invokeAt deeper room⟩ input

/-- The failure of calls that nest too deep. -/
def tooDeep (limit : Nat) : ToolError :=
  .toolFailure "maximum call depth exceeded" [("limit", .int limit)]

/-- Calls a tool when so many further calls may nest, this one included.  At each depth there is room
for so many invocations. -/
def call (room limit : Nat) : (left : Nat) → Tool → Value → Run Value
  | 0, tool, input => do
    record (.refused tool input)
    throw (tooDeep limit)
  | left + 1, tool, input => invokeAt (call room limit left) room .call tool input

/-- How tools are invoked where so many further calls may nest. -/
def reach (room limit left : Nat) : Reach :=
  ⟨call room limit left, invokeAt (call room limit left) room⟩

/-- How often invocations at one depth may nest. -/
def reentries : Nat := 1000

/-- How a program run from outside invokes tools. -/
def top (limit : Nat) : Reach := reach reentries limit limit

/-- Invokes a tool from outside, where calls may nest as deep as a limit. -/
def invoke (limit : Nat) : Tool → Value → Run Value := (top limit).again .other

/-- How deep calls may nest unless the caller says otherwise. -/
def defaultLimit : Nat := 64

/-- The limit on the depth of calls that a caller asks for, which has to be at least one. -/
def limit? (asked : Int) : Except Crash Nat :=
  if asked < 1 then .error (.refused "max depth must be at least 1") else .ok asked.toNat

/-- Runs a program from outside. -/
def program (limit : Nat) (program : Value) : Run Value := evaluate (top limit) program

/-- Invokes the tool of a name from outside. -/
def named (limit : Nat) (name : String) (input : Value) : Run Value := do
  match ← lookup name with
  | none => throw (.unknownTool name)
  | some tool => invoke limit tool input

/-- How a computation ends, as a value that tools can look at. -/
def outcome (action : Run Value) : Run Value := do
  return Control.outcomeValue (← capture action)

end Run

end ToolWeave
