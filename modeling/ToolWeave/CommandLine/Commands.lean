import ToolWeave.CommandLine.Arguments
import ToolWeave.CommandLine.Table
import ToolWeave.Context

/-!
# Commands

What each command of the program does, as a function of its arguments, its input and the host.

## Main definitions

* `CommandLine.Output`: the exit code and what is printed.
* `CommandLine.execute`: a command line carried out.

## Design notes

**Exit codes.**  A value gives zero and a failure the code of its kind; a command line that makes no
sense gives two.  A command that crashes says why, and what it has printed by then stays.
-/

namespace ToolWeave

namespace CommandLine

/-- What a command leaves: an exit code, what it printed, and a table that it printed last; and why
it crashed, if it did. -/
structure Output where
  exit : Nat
  printed : String
  table : Option Table
  crash : Option Crash

/-- The output for a command line that makes no sense. -/
def Output.usage : Output := ⟨2, "", none, none⟩

/-- The output of a command that prints a text and ends. -/
def Output.ended (exit : Nat) (printed : String) : Output := ⟨exit, printed, none, none⟩

/-- The output of a crash. -/
def Output.crashed (printed : String) (cause : Crash) : Output := ⟨1, printed, none, some cause⟩

/-- A value as a document of its own, unless it has no JSON text. -/
def documentText (v : Value) : Except Crash String :=
  match Json.print Json.indented v with
  | .ok text => .ok (text ++ "\n")
  | .error cause => .error (.unprintable cause)

/-- A failure as a value of its own. -/
def errorValue (e : ToolError) : Value := .object [("error", e.toValue)]

/-- The output of a command that ends with a value or a failure. -/
def conclude (printed : String) (outcome : Except Fault Value) : Output :=
  let finish (exit : Nat) (v : Value) : Output :=
    match documentText v with
    | .ok text => .ended exit (printed ++ text)
    | .error cause => .crashed printed cause
  match outcome with
  | .ok v => finish 0 v
  | .error (.failure e) => finish e.kind.exitCode (errorValue e)
  | .error (.crash cause) => .crashed printed cause

/-- Something that depends on the directory that a command works in, if that is one. -/
def inDirectory (host : Host) (a : Arguments) (use : String → Output) : Output :=
  match host.expandHome? ((a.value? "cwd").getD host.directory) with
  | none => .crashed "" .homeless
  | some path =>
    let path := Path.resolve host.directory path
    match host.find path with
    | .ok .directory => use path
    | .ok (.file _) => .usage
    | .error e => if e.refusal = .nameTooLong then .crashed "" (.system e.name e.message) else .usage

/-- What is asked for of a context by the switches of a command. -/
def contextRequest (a : Arguments) (directory : String) : ContextRequest where
  directory := directory
  config := a.value? "config"
  isolated := a.has "isolated"
  logLevel := if a.has "verbose" then some "DEBUG" else none
  remotes := true

/-- The state with the scope that a command puts around an evaluation. -/
def underTimeout (timeout : Option Double) (world : World) : World :=
  { world with scopes := [Scope.enter world.now timeout] }

/-- A run under the time limit of a command. -/
def limited (timeout : Option Double) (action : Run Value) (world : World) :
    Except Fault Value × World :=
  let (outcome, world) := action.run (underTimeout timeout world)
  (outcome.mapError Fault.failure, world)

/-- What the tools have printed. -/
def printedIn (world : World) : String := world.console.printed

/-- Brings a context up and goes on with it.  A failure is the output, after what is shown of the
state by then. -/
def inContext (host : Host) (a : Arguments) (console : Console) (shown : World → String)
    (use : Context → World → Output) : Output :=
  inDirectory host a fun directory =>
    match Context.start (contextRequest a directory) console host with
    | (.error fault, progress) => conclude (shown progress.world) (.error fault)
    | (.ok context, progress) => use context progress.world

/-- Evaluates a program, given as text. -/
def evaluateText (host : Host) (a : Arguments) (timeout : Option Double) (console : Console)
    (text : String) : Output :=
  inContext host a console printedIn fun context world =>
    match Value.parse text with
    | .error e => conclude world.console.printed (.error (.failure e))
    | .ok program =>
      let (outcome, world) := limited timeout (Run.program context.limit program) world
      conclude world.console.printed outcome

/-- Evaluates the program that is given inline, in a file, or else as the input. -/
def run (host : Host) (a : Arguments) (timeout : Option Double) (input : String) : Output :=
  match a.value? "expr", a.positional with
  | some _, _ :: _ => .usage
  | some text, [] => evaluateText host a timeout (.reading input) text
  | none, path :: _ =>
    match host.readBytes (Path.normal path) with
    | .error _ => .usage
    | .ok content =>
      match Utf8.decode content with
      | .error cause => .crashed "" (.undecodable cause)
      | .ok chars =>
        evaluateText host a timeout (.reading input) (String.ofList (Text.unifyLines chars))
  | none, [] => evaluateText host a timeout (.reading "") input

/-- Invokes one tool. -/
def call (host : Host) (a : Arguments) (timeout : Option Double) (input : String) : Output :=
  inContext host a (.reading input) printedIn fun context world =>
    match Value.parse ((a.value? "input").getD "null") with
    | .error e => conclude world.console.printed (.error (.failure e))
    | .ok v =>
      let (outcome, world) :=
        limited timeout (Run.named context.limit (a.positional.headD "") v) world
      conclude world.console.printed outcome

/-- The output of a table. -/
def showTable (printed : String) (t : Table) : Output :=
  match t.plain with
  | .ok t => ⟨0, printed, some t, none⟩
  | .error fault => .crashed printed (.system "MarkupError" fault.message)

/-- Lists the tools of the root environment. -/
def tools (host : Host) (a : Arguments) (input : String) : Output :=
  inContext host a (.reading input) printedIn fun _ world =>
    if a.has "json" then
      conclude world.console.printed (.ok (.object [("names", .strings world.names)]))
    else
      let row (name : String) : List String :=
        [name, (((world.lookup name).map Tool.spec).getD Spec.empty).description]
      showTable world.console.printed ⟨"Tools", ["name", "description"], world.names.map row⟩

/-- What is printed in front of each line that is read. -/
def prompt : String := "pygossyp> "

/-- Whether a line ends a conversation. -/
def isFarewell (line : String) : Bool :=
  ["exit", "quit", ":q"].contains (Text.strip line).toLower

/-- Prints a text. -/
def printing (text : String) (world : World) : World :=
  { world with console.printed := world.console.printed ++ text }

/-- Reads one program a line and evaluates it, up to a bound on the number of lines.  An empty line
is asked for again. -/
def converse (limit : Nat) (timeout : Option Double) : (bound : Nat) → World → Output
  | 0, world => .ended 0 world.console.printed
  | bound + 1, world =>
    let world := printing prompt world
    if world.console.input.isEmpty then .ended 0 world.console.printed
    else
      let (line, rest) := ConsoleTools.cutLine world.console.input
      let world := { world with console.input := rest }
      let line := String.ofList (if line.getLast? == some '\n' then line.dropLast else line)
      if line = "" then converse limit timeout bound world
      else if isFarewell line then .ended 0 world.console.printed
      else
        let (outcome, world) : Except Fault Value × World :=
          match Value.parse line with
          | .error e => (.error (.failure e), world)
          | .ok program => limited timeout (Run.program limit program) world
        let shown : Except Crash String :=
          match outcome with
          | .ok v => documentText v
          | .error (.failure e) => documentText (errorValue e)
          | .error (.crash cause) => .error cause
        match shown with
        | .ok text => converse limit timeout bound (printing text world)
        | .error cause => .crashed world.console.printed cause

/-- Evaluates one program a line in a root environment that lasts. -/
def repl (host : Host) (a : Arguments) (timeout : Option Double) (input : String) : Output :=
  inContext host a (.reading input) printedIn fun context world =>
    converse context.limit timeout (world.console.input.length + 1) world

/-- Serves the root environment.  What its tools print does not appear on the output. -/
def serve (host : Host) (a : Arguments) (input : String) : Output :=
  inContext host a (.reading "") (fun _ => "") fun context world =>
    let ((replies, stopped), _) :=
      (Server.serve context.limit (Server.lines input.toList)).run world
    let text := String.join (replies.map (· ++ "\n"))
    match stopped with
    | some cause => .crashed text (.unwritable cause)
    | none => .ended 0 text

/-- The rows for one server: one for each of its tools, or one that says what went wrong. -/
def serverRows (host : Host) (usual : Double) (now : Instant) (e : ServerEntry) :
    Except Crash (List (List String) × Instant) :=
  match e.start host usual with
  | .error (.failure error) => .ok ([[e.name, "[red](not started)[/red]", error.text]], now)
  | .error (.crash cause) => .error cause
  | .ok client =>
    let (listed, _, now) := client.listTools now []
    match listed with
    | .ok listings =>
      .ok (listings.map fun listing =>
        [e.name, e.toolHeading ++ "." ++ listing.name, listing.description], now)
    | .error (.failure error) => .ok ([[e.name, "[red](no listing)[/red]", error.text]], now)
    | .error (.crash cause) => .error cause

/-- The rows for servers one after the other. -/
def allServerRows (host : Host) (usual : Double) :
    Instant → List ServerEntry → Except Crash (List (List String))
  | _, [] => .ok []
  | now, e :: rest => do
    let (rows, now) ← serverRows host usual now e
    return rows ++ (← allServerRows host usual now rest)

/-- Lists the configured servers and their tools. -/
def remotes (host : Host) (a : Arguments) : Output :=
  inDirectory host a fun directory =>
    match (Config.load host directory (a.value? "config") (a.has "isolated")).run [] with
    | (.error cause, _) => .crashed "" cause
    | (.ok config, _) =>
      if config.servers.isEmpty then
        .ended 0 "No remote servers configured. Add remote_servers to pygossyp.json.\n"
      else
        match allServerRows host config.remoteTimeout 0 (config.servers.map Prod.snd) with
        | .error cause => .crashed "" cause
        | .ok rows => showTable "" ⟨"Remote tools", ["server", "tool", "description"], rows⟩

/-- The paths among the arguments of a command. -/
def pathsOf (name : CommandName) (a : Arguments) : List String :=
  (a.value? "cwd").toList ++ (a.value? "config").toList ++
    match name with
    | .run => a.positional
    | _ => []

/-- Carries a command out. -/
def perform (host : Host) (input : String) (name : CommandName) (a : Arguments)
    (timeout : Option Double) : Output :=
  match name with
  | .run => run host a timeout input
  | .call => call host a timeout input
  | .tools => tools host a input
  | .repl => repl host a timeout input
  | .serve => serve host a input
  | .remotes => remotes host a

/-- Carries a command line out. -/
def execute (host : Host) (input : String) (words : List String) : Output :=
  match Arguments.parse words with
  | .nothing => .usage
  | .help => .ended 0 ""
  | .command name a =>
    if (pathsOf name a).any fun path => path.contains '\x00' then .crashed "" .nullByte
    else
      match a.value? "timeout" with
      | none => perform host input name a none
      | some text =>
        match Arguments.seconds? text with
        | none => .usage
        | some seconds => perform host input name a (some seconds)

end CommandLine

end ToolWeave
