import ToolWeave.Evaluation.Invocation
import ToolWeave.Tool.Set

/-!
# Serving an environment

The far side of a client: an environment whose tools are listed and called by messages, one JSON
object a line.  A request carries a number, a method and parameters; its reply carries the same
number and a result or an error.

## Main definitions

* `Server.handle`: the answer to one request.
* `Server.answer`: the reply to one line, if it gets one.
* `Server.serve`: the replies to all lines.

## Design notes

**What stops a server.**  Every answer is written as it is found.  A request may carry an `id` that
has no JSON text, and then its reply cannot be written and the server stops; the replies before it
stand.
-/

namespace ToolWeave

namespace Server

/-- Why a request was not answered. -/
inductive Refusal where
  /-- A line is no JSON text. -/
  | unreadable
  /-- A message is no request. -/
  | noRequest
  /-- The parameters are no object. -/
  | parameters
  /-- No tool is named. -/
  | noName
  /-- There is no such method. -/
  | noMethod (name : String)
  /-- The tool failed. -/
  | failed (error : ToolError)

/-- The code of a refusal. -/
def Refusal.code : Refusal → Int
  | unreadable => -32700
  | noRequest => -32600
  | parameters | noName => -32602
  | noMethod _ => -32601
  | failed _ => -32000

/-- The wording of a refusal. -/
def Refusal.message : Refusal → String
  | unreadable => "Parse error"
  | noRequest => "Invalid request"
  | parameters => "params must be an object"
  | noName => "tools/call needs a tool name"
  | noMethod name => "Unknown method: " ++ name
  | failed e => e.text

/-- A refusal as a value.  A failure of a tool is carried along. -/
def Refusal.toValue (r : Refusal) : Value :=
  .object ([("code", .int r.code), ("message", .string r.message)] ++
    match r with
    | failed e => [("data", e.toValue)]
    | _ => [])

/-- What a server says about itself. -/
def greeting : Value :=
  .object
    [("serverInfo", .object [("name", .string "pygossyp"), ("version", .string "0.1.0")]),
      ("capabilities", .object [("tools", .object [])])]

/-- How a server lists a tool. -/
def entryOf (world : World) (name : String) : Value :=
  let spec := ((world.lookup name).map Tool.spec).getD Spec.empty
  .object
    [("name", .string name), ("description", .string spec.description),
      ("inputSchema", .object spec.parameters)]

/-- The list of all tools that resolve. -/
def listing (world : World) : Value :=
  .object [("tools", .array (world.names.map (entryOf world)))]

/-- Calls the tool that the parameters name. -/
def callTool (limit : Nat) (params : Fields) : StateM World (Except Refusal Value) := do
  match Entries.get? "name" params with
  | some (.string name) =>
    let input := (Entries.get? "arguments" params).getD .null
    match ← (Run.named limit name input).run with
    | .ok value => return .ok (.object [("value", value)])
    | .error e => return .error (.failed e)
  | _ => return .error .noName

/-- Answers a method with its parameters. -/
def dispatch (limit : Nat) (method : String) (params : Fields) :
    StateM World (Except Refusal Value) := do
  if method = "initialize" then return .ok greeting
  else if method = "tools/list" then return .ok (listing (← get))
  else if method = "tools/call" then callTool limit params
  else return .error (.noMethod method)

/-- Answers a request. -/
def handle (limit : Nat) (request : Value) : StateM World (Except Refusal Value) := do
  match request.field? "method" with
  | some (.string method) =>
    let params := (request.field? "params").getD .null
    if !params.isGiven then dispatch limit method []
    else
      match params with
      | .object fields => dispatch limit method fields
      | _ => return .error .parameters
  | _ => return .error .noRequest

/-- The message that carries an answer. -/
def reply (id : Value) (answer : Except Refusal Value) : Value :=
  .object ([("jsonrpc", .string "2.0"), ("id", id)] ++
    match answer with
    | .ok result => [("result", result)]
    | .error refusal => [("error", refusal.toValue)])

/-- The reply to a line, if it gets one: lines that are blank and messages without an `id` get
none. -/
def answer (limit : Nat) (line : List Char) : StateM World (Option Value) := do
  let line := Text.stripChars line
  if line.isEmpty then return none
  else
    match Json.readChars .lenient line with
    | .error _ => return some (reply .null (.error .unreadable))
    | .ok (.object fields) =>
      match Entries.get? "id" fields with
      | none => return none
      | some id => return some (reply id (← handle limit (.object fields)))
    | .ok request => return some (reply .null (← handle limit request))

/-- Answers lines one after the other.  Gives the replies written, and what stopped the server
before the last line, if anything did. -/
def serve (limit : Nat) : List (List Char) →
    StateM World (List String × Option Json.Unwritable)
  | [] => return ([], none)
  | line :: rest => do
    match ← answer limit line with
    | none => serve limit rest
    | some message =>
      match Json.line message with
      | .error cause => return ([], some cause)
      | .ok text =>
        let (replies, stopped) ← serve limit rest
        return (text :: replies, stopped)

/-- The lines of a text; a line feed at the end ends the last line. -/
def lines (text : List Char) : List (List Char) :=
  let pieces := text.splitOn '\n'
  if pieces.getLast? == some [] then pieces.dropLast else pieces

end Server

end ToolWeave
