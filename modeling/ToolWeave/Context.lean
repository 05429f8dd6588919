import ToolWeave.Config.Loading
import ToolWeave.Remote.Server

/-!
# Contexts

A configuration brought to life: a root environment with the built-in tools, the configured commands
and the tools of the remote servers, in which the preload programs have been run.

## Main definitions

* `Context`: what a configuration has been brought to.
* `Opening`: a computation that brings one up; it warns, and what it has done stays done if it
  fails.
* `Context.assemble`: the tools of a configuration in a root frame.
* `Context.bringUp`: a context from the configuration of a project.

## Design notes

**Names that are taken.**  Built-in tools come first, then commands, then the tools of the servers
in the order in which they are listed.  Whoever comes later does without a name that is taken, with
a warning.

**Servers left running.**  The servers that were started stay in the state, whatever happens, so
that it can be said of each whether its connection has been closed.
-/

namespace ToolWeave

/-- What a configuration has been brought to. -/
structure Context where
  directory : String
  config : Config
  /-- How deep calls may nest. -/
  limit : Nat
  tools : ToolSet
  /-- The places of the servers that are in use among all that were started. -/
  clients : List Nat

/-- How a context is asked for. -/
structure ContextRequest where
  directory : String
  /-- An explicit configuration file. -/
  config : Option String
  /-- Whether global and project files are left aside. -/
  isolated : Bool
  /-- A log level that goes before all others. -/
  logLevel : Option String
  /-- Whether servers are started. -/
  remotes : Bool

/-- What bringing a context up has led to so far. -/
structure Progress where
  warnings : List String
  /-- Whether warnings are reported. -/
  reporting : Bool
  world : World

/-- A computation that brings a context up. -/
abbrev Opening : Type → Type := ExceptT Fault (StateM Progress)

namespace Opening

/-- Gives a warning. -/
def warn (text : String) : Opening Unit :=
  modify fun progress =>
    if progress.reporting then { progress with warnings := progress.warnings ++ [text] }
    else progress

/-- Loads something. -/
def ofLoading {α : Type} (loading : Loading α) : Opening α := do
  let (outcome, warnings) := loading.run []
  for text in warnings do warn text
  match outcome with
  | .ok a => return a
  | .error cause => throw (.crash cause)

/-- Registers a tool, or warns that its name is taken. -/
def register (set : ToolSet) (what name : String) (tool : Tool) : Opening ToolSet := do
  match set.register name tool with
  | .ok set => return set
  | .error cause =>
    warn ("skipping " ++ what ++ " " ++ name ++ ": " ++ cause.message)
    return set

/-- Registers tools one after the other. -/
def registerAll (what : String) : List (String × Tool) → ToolSet → Opening ToolSet
  | [], set => return set
  | (name, tool) :: rest, set => do registerAll what rest (← register set what name tool)

/-- A server in the state. -/
def setServer (number : Nat) (client : Remote.Client) : Opening Unit :=
  modify fun progress =>
    { progress with world.servers := progress.world.servers.set number client }

/-- Closes the connections to some servers. -/
def close (numbers : List Nat) : Opening Unit :=
  modify fun progress =>
    { progress with
      world.servers := progress.world.servers.mapIdx fun i client =>
        if numbers.contains i then client.close else client }

end Opening

/-- The tool of a configured command. -/
def CommandEntry.tool (directory : String) (e : CommandEntry) : Tool :=
  let inside :=
    match e.directory with
    | some path => if path = "" then directory else Path.resolve directory path
    | none => directory
  let description :=
    if e.description = "" then "[process] " ++ String.intercalate " " e.words else e.description
  .command ⟨e.words, some inside, e.vars, e.timeout.map Number.double, ⟨description, []⟩⟩

/-- Whether the directory of a command is no path. -/
def CommandEntry.misplaced (e : CommandEntry) : Bool := (e.directory.getD "").contains '\x00'

/-- The name and the tool for an entry that a server lists. -/
def ServerEntry.tool (e : ServerEntry) (server : Nat) (listing : Remote.Client.Listing) :
    String × Tool :=
  (e.toolHeading ++ "." ++ listing.name,
    .remote server listing.name
      ⟨Text.strip ("[remote:" ++ e.name ++ "] " ++ listing.description), listing.schema⟩)

/-- Starts the server of an entry. -/
def ServerEntry.start (e : ServerEntry) (host : Host) (usual : Double) :
    Except Fault Remote.Client :=
  Remote.Client.start host e.words e.directory e.vars (.double (e.timeout.getD usual))
    (some e.name)

namespace Context

/-- Starts a server and registers its tools.  Gives the tools and, if the server is in use, its
place. -/
def addServer (usual : Double) (e : ServerEntry) (set : ToolSet) :
    Opening (ToolSet × Option Nat) := do
  match e.start (← get).world.host usual with
  | .error (.failure error) =>
    Opening.warn ("remote server " ++ e.name ++ " not started: " ++ error.text)
    return (set, none)
  | .error crash => throw crash
  | .ok client =>
    let number := (← get).world.servers.length
    let (listed, client, now) := client.listTools (← get).world.now []
    modify fun progress =>
      { progress with world.servers := progress.world.servers ++ [client], world.now := now }
    match listed with
    | .error (.failure error) =>
      Opening.warn ("remote server " ++ e.name ++ " did not list its tools: " ++ error.text)
      Opening.close [number]
      return (set, none)
    | .error crash => throw crash
    | .ok listings =>
      let set ← Opening.registerAll "remote tool" (listings.map (e.tool number)) set
      return (set, some number)

/-- Starts servers one after the other and registers their tools. -/
def addServers (usual : Double) : List ServerEntry → ToolSet → List Nat →
    Opening (ToolSet × List Nat)
  | [], set, clients => return (set, clients)
  | e :: rest, set, clients => do
    let (set, client) ← addServer usual e set
    addServers usual rest set (clients ++ client.toList)

/-- The limit on the depth of calls.  The host has to reserve room for each call, and there is an
end to what it can reserve. -/
def limitOf (config : Config) : Except Crash Nat :=
  if 2147483648 ≤ config.maxDepth * 25 + 200 then
    .error (.system "OverflowError" "Python int too large to convert to C int")
  else .ok config.maxDepth.toNat

/-- The bytes of a program file. -/
def programBytes (host : Host) (path : String) : Except Fault (List UInt8) :=
  if path.contains '\x00' then .error (.crash .nullByte)
  else
    (host.readBytes path).mapError fun cause =>
      .failure (.toolFailure "Cannot read preload file"
        [("path", .string path), ("description", .string cause.message)])

/-- The program in a file. -/
def readProgram (host : Host) (path : String) : Except Fault Value := do
  match Utf8.decode (← programBytes host path) with
  | .error cause => throw (.crash (.undecodable cause))
  | .ok chars =>
    (Value.parse (String.ofList (Text.unifyLines chars))).mapError Fault.failure

/-- Runs the program in a file. -/
def preload (limit : Nat) (path : String) : Opening Unit := do
  match readProgram (← get).world.host path with
  | .error fault => throw fault
  | .ok program =>
    let progress ← get
    let (outcome, world) := (Run.program limit program).run progress.world
    set { progress with world := world }
    match outcome with
    | .ok _ => return ()
    | .error e => throw (.failure e)

/-- Runs the programs in some files.  A failure closes the connections to the servers first. -/
def preloadAll (limit : Nat) (clients : List Nat) : List String → Opening Unit
  | [] => return ()
  | path :: rest => do
    try preload limit path
    catch fault =>
      match fault with
      | .failure _ => Opening.close clients
      | .crash _ => pure ()
      throw fault
    preloadAll limit clients rest

/-- The log level that counts: one asked for, else one in the variables, else a configured one. -/
def logLevel (asked : Option String) (host : Host) (config : Config) : Option String :=
  let given (text : Option String) : Option String := text.filter (· ≠ "")
  ((given asked).or (given (host.valueOf? "PYGOSSYP_LOG_LEVEL"))).or config.logLevel

/-- Crashes if the directory of a command is no path, after the commands before have been registered. -/
def checkDirectories (request : ContextRequest) (config : Config) : Opening Unit := do
  if config.commands.any fun entry => entry.2.misplaced then
    let placed := config.commands.takeWhile fun entry => !entry.2.misplaced
    let _ ← Opening.registerAll "process tool"
      (placed.map fun entry => (entry.1, entry.2.tool request.directory)) ToolSet.builtins
    throw (.crash .nullByte)

/-- Registers the tools of a configuration, and puts them together with the built-in ones into a root
frame.  Gives the tools and the places of the servers that are in use. -/
def assemble (request : ContextRequest) (config : Config) : Opening (ToolSet × List Nat) := do
  let tools ← Opening.registerAll "process tool"
    (config.commands.map fun entry => (entry.1, entry.2.tool request.directory)) ToolSet.builtins
  let (tools, clients) ←
    if request.remotes then
      addServers config.remoteTimeout (config.servers.map Prod.snd) tools []
    else pure (tools, [])
  modify fun progress => { progress with world := progress.world.enterRoot tools }
  return (tools, clients)

/-- Brings up a context in a directory, which is given as an absolute path. -/
def bringUp (request : ContextRequest) : Opening Context := do
  let host := (← get).world.host
  let directory := request.directory
  let config ← Opening.ofLoading
    (Config.load host directory request.config request.isolated)
  modify fun progress =>
    { progress with
      reporting := LogLevel.reportsWarnings (logLevel request.logLevel host config) }
  checkDirectories request config
  let (tools, clients) ← assemble request config
  match limitOf config with
  | .error cause => throw (.crash cause)
  | .ok limit =>
    preloadAll limit clients config.preload
    return ⟨directory, config, limit, tools, clients⟩

/-- A context brought up from nothing on a host. -/
def start (request : ContextRequest) (console : Console) (host : Host) :
    Except Fault Context × Progress :=
  (bringUp request).run ⟨[], true, World.fresh [] console host⟩

end Context

end ToolWeave
