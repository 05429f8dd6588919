import ToolWeave.Remote.Table
import ToolWeave.Host.Launch
import ToolWeave.Json.Write

/-!
# Clients of tool servers

A client starts a server and exchanges messages with it, one JSON object a line: a request carries
a number, a method and parameters, its response the same number and a result or an error.

## Main definitions

* `Remote.Peer`: a server, as its clients see it; `Remote.Peer.launched` is watched by replaying a command
  on everything sent to it so far.
* `Remote.Client`: a connection to a server.
* `Remote.Client.request`: one request, and how it ended.
* `Remote.Client.listTools`, `Remote.Client.callTool`: the two methods clients use.
* `Remote.contentText`: the text of a result given as content.

## Design notes

**One thing at a time.**  A request is written, then everything the server has written by then is
received line by line, then the request ends: cancelled, timed out, answered, or left alone because
the server is gone, in this order of precedence.
-/

namespace ToolWeave

namespace Remote

/-- A server, as a client sees it: what it has written after everything that was sent to it, the time it
has taken, and whether it still runs. -/
structure Peer where
  observe : (sent : List Char) → Shell.Bytes × Instant × Bool

/-- The server that a command line starts, on a host and with some variables. -/
def Peer.launched (host : Host) (vars : Entries String) (program : String) (words : List String) : Peer where
  observe sent :=
    let seen := Shell.launch host vars program words (Utf8.encode sent) true
    (seen.output, seen.elapsed, match seen.stop with | .waiting => true | _ => false)

/-- A connection to a server. -/
structure Client where
  name : String
  /-- How many seconds a request may take. -/
  timeout : Number
  peer : Peer
  table : Table
  /-- Everything written to the server. -/
  sent : List Char
  /-- How many bytes of what the server has written have been looked at. -/
  seen : Nat
  /-- The start of a line that is not complete yet. -/
  partialLine : Shell.Bytes
  /-- The time the server had taken when it was last looked at. -/
  elapsed : Instant

namespace Client

/-- Whether nothing more will arrive. -/
def closed (c : Client) : Bool := c.table.closed

/-- Starts a server by a command line. -/
def start (host : Host) (words : List String) (directory : Option String)
    (vars : Entries String) (timeout : Number) (name : Option String) :
    Except Fault Client :=
  match host.enter directory vars words with
  | .error (.system cause) =>
    .error (.failure (.transportFailure "Remote server could not be started"
      [("command", .strings words), ("description", .string cause.message)]))
  | .error (.crash cause) => .error (.crash cause)
  | .ok (inside, program) =>
    let given := match name with | some "" => none | other => other
    let name := given.getD (words.headD "remote")
    .ok ⟨name, timeout, .launched inside (inside.overlay vars) program words, .fresh, [], 0, [], 0⟩

/-- Lets the server go. -/
def close (c : Client) : Client := { c with table := c.table.close }

/-- Receives lines one after the other. -/
def receiveAll (c : Client) (lines : List (List Char)) : Client :=
  { c with table := lines.foldl Table.receive c.table }

/-- Takes in what the server has written since it was last looked at.  Bytes that are not UTF-8 end
the connection, and so does the end of the server; a line that was not complete by then counts as
one. -/
def takeIn (c : Client) : Client :=
  let (output, elapsed, running) := c.peer.observe c.sent
  let chunk := c.partialLine ++ output.drop c.seen
  let c := { c with seen := output.length, elapsed := elapsed }
  let decoded : Except Unit (List Char × Shell.Bytes) :=
    match Utf8.decode chunk with
    | .ok chars => .ok (chars, [])
    | .error fault =>
      if fault.reason = .incomplete && running then
        match Utf8.decode (chunk.take fault.position) with
        | .ok chars => .ok (chars, chunk.drop fault.position)
        | .error _ => .error ()
      else .error ()
  match decoded with
  | .error () => c.close
  | .ok (chars, left) =>
    let lines := (Text.unifyLines chars).splitOn '\n'
    if running then
      { c.receiveAll lines.dropLast with
        partialLine := Utf8.encode (lines.getLastD []) ++ left }
    else (c.receiveAll lines).close

/-- The text of a request. -/
def requestLine (number : Nat) (method : String) (params : Value) :
    Except Json.Unwritable String :=
  Json.line (.object
    [("jsonrpc", .string "2.0"), ("id", .int number), ("method", .string method),
      ("params", if params.isGiven then params else .object [])])

/-- The result that a message carries, or the error it carries.

An error with a failure in its data is that failure.  Any other error ends in a crash: its report
would name its message twice. -/
def resultOf (message : Fields) : Except Fault Value :=
  match Entries.get? "error" message with
  | some error =>
    match (error.field? "data").bind ToolError.ofValue? with
    | some carried => .error (.failure carried)
    | none => .error (.crash (.repeatedArgument "tool_failure" "message"))
  | none => .ok ((Entries.get? "result" message).getD .null)

/-- How a request ended, and when. -/
structure Exchange where
  outcome : Except Fault Value
  client : Client
  now : Instant

/-- A failure of the connection. -/
def lost (c : Client) (message : String) (details : Fields) : Except Fault Value :=
  .error (.failure (.transportFailure message (("server", .string c.name) :: details)))

/-- Why the system cannot wait for an answer for so long, if it cannot.  Inside of scopes it waits
for a short time again and again. -/
def unwaitable? (scopes : List Scope) (limit : Double) : Option Crash :=
  if !scopes.isEmpty then none
  else
    match limit with
    | .infinite false => some Host.timeOverflow
    | limit =>
      let length := (Instant.ofSeconds? limit).getD 0
      if Host.milliseconds (Host.maxMilliseconds) < length then some Host.timeOverflow else none

/-- How a request in flight ends, the server having been looked at: cancelled, timed out, answered,
or left alone. -/
def settle (c : Client) (now : Instant) (scopes : List Scope) (method : String) (limit : Number)
    (seconds : Double) (number : Nat) (delay : Instant) : Exchange :=
  let after := { c with table := c.table.forget number }
  let allowed := Host.allowance seconds
  let timedOut := c.lost "Remote request timed out"
    [("method", .string method), ("timeout", .number limit)]
  let left := Scope.remaining? now scopes
  match Scope.check now scopes with
  | .error e => ⟨.error (.failure e), after, now⟩
  | .ok () =>
    if allowed.any fun length => decide (length ≤ 0) then ⟨timedOut, after, now⟩
    else
      match unwaitable? scopes seconds with
      | some cause => ⟨.error (.crash cause), after, now⟩
      | none =>
        let arrived := (c.table.answer? number).isSome || c.closed
        if arrived && Host.comesBefore (some delay) allowed && Host.comesBefore (some delay) left
        then
          match c.table.answer? number with
          | some message => ⟨resultOf message, after, now + delay⟩
          | none =>
            ⟨c.lost "Remote server exited" [("method", .string method)], after, now + delay⟩
        else if Host.comesBefore left allowed then
          ⟨.error (.failure (.cancelled Scope.Reason.deadline.message)), after,
            now + left.getD 0⟩
        else ⟨timedOut, after, now + allowed.getD 0⟩

/-- Sends a request and sees it through to its end. -/
def request (c : Client) (now : Instant) (scopes : List Scope) (method : String) (params : Value)
    (timeout : Option Number := none) : Exchange :=
  let limit := timeout.getD c.timeout
  let (number, table) := c.table.reserve
  let c := { c with table := table }
  if c.closed then
    ⟨c.lost "Remote server is not running" [("method", .string method)], c, now⟩
  else
    match requestLine number method params with
    | .error cause =>
      ⟨c.lost "Could not write to remote server" [("description", .string cause.message)], c, now⟩
    | .ok line =>
      let before := c.elapsed
      let c := { c with sent := c.sent ++ line.toList ++ ['\n'],
                        table := c.table.register number }
      let c := c.takeIn
      match limit.toDouble with
      | .error cause => ⟨.error (.crash (.overflow cause)), c, now⟩
      | .ok seconds =>
        c.settle now scopes method limit seconds number
          (max Instant.millisecond (c.elapsed - before))

/-- A tool as a server lists it. -/
structure Listing where
  name : String
  description : String
  schema : Fields

/-- The schema of a listed tool: the first one given under any of three names, if it is an
object. -/
def schemaOf (fields : Fields) : Fields :=
  let given (name : String) : Option Value :=
    match Entries.get? name fields with
    | some v => if v.isGiven then some v else none
    | none => none
  match ((given "inputSchema").or (given "input_schema")).or (given "parameters") with
  | some (.object schema) => schema
  | _ => []

/-- A tool from its entry in a list; entries without a name are passed over. -/
def listing? : Value → Option Listing
  | .object fields =>
    match Entries.get? "name" fields with
    | some (.string name) =>
      let description := (Entries.get? "description" fields).getD (.string "")
      some ⟨name, description.display, schemaOf fields⟩
    | _ => none
  | _ => none

/-- The tools of a result: of a list, or of the list in the field `tools`. -/
def listingsOf (result : Value) : List Listing :=
  let entries :=
    match result with
    | .object fields => (Entries.get? "tools" fields).getD (.array [])
    | v => v
  match entries with
  | .array items => items.filterMap listing?
  | _ => []

/-- Asks the server for its tools. -/
def listTools (c : Client) (now : Instant) (scopes : List Scope) :
    Except Fault (List Listing) × Client × Instant :=
  let ended := c.request now scopes "tools/list" (.object [])
  (ended.outcome.map listingsOf, ended.client, ended.now)

end Client

/-- The text of one part of a content. -/
def partText : Value → Except Json.Unwritable String
  | .object fields =>
    match Entries.get? "type" fields with
    | some (.string "text") => .ok ((Entries.get? "text" fields).getD (.string "")).display
    | _ => Json.line (.object fields)
  | v => .ok v.display

/-- The text of a result given as content: a string is itself, a list gives the texts of its parts,
one a line, and anything else its JSON text. -/
def contentText : Value → Except Json.Unwritable String
  | .string s => .ok s
  | .array parts => do
    let texts ← parts.mapM partText
    return String.intercalate "\n" texts
  | v => Json.line v

/-- The value that the result of a call stands for: what is in its only field `value`, the text of
its content, or the result itself. -/
def valueOf (result : Value) : Except Fault Value :=
  match result with
  | .object [("value", v)] => .ok v
  | .object fields =>
    match Entries.get? "content" fields with
    | some content =>
      match contentText content with
      | .error cause => .error (.crash (.unwritable cause))
      | .ok text =>
        if ((Entries.get? "isError" fields).getD .null).isGiven then
          .error (.crash (.repeatedArgument "tool_failure" "message"))
        else .ok (.string text)
    | none => .ok result
  | v => .ok v

/-- Calls a tool of the server. -/
def Client.callTool (c : Client) (now : Instant) (scopes : List Scope) (tool : String)
    (input : Value) : Client.Exchange :=
  let ended := c.request now scopes "tools/call"
    (.object [("name", .string tool), ("arguments", input)])
  { ended with outcome := ended.outcome.bind valueOf }

end Remote

end ToolWeave
