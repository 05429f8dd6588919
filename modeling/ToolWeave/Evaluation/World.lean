import ToolWeave.Environment.Store
import ToolWeave.Remote.Client

/-!
# The state of a run

A run reads and changes one state: the frames, the environment it works in, the console, the scopes
it has to heed, the servers it talks to and the time.  It ends with a value or with a failure.

## Main definitions

* `World`: the state of a run.
* `Run`: a computation over the state that may fail; the state is kept when it does.
* `Run.inside`: a computation in a new frame, which is left again however it ends.
* `Run.checkScopes`: passes if no scope has stopped.

## Design notes

**The environment is part of the state.**  Tools find their caller's environment there, and change
its frame in the store.  Whoever works in another environment does so by `Run.inside`, which makes
the one around it current again at the end.  The frames themselves are not put back: what was done to
any of them stays done.

**The trace.**  The beginning and the end of every invocation is recorded, the latest first, and so
is every invocation that was refused because it would have been one call too deep, so that statements
about which tools are invoked have something to speak about.
-/

namespace ToolWeave

/-- The text streams of a run. -/
structure Console where
  /-- What has been printed. -/
  printed : String
  /-- What is left to be read. -/
  input : List Char
  /-- Whether the streams work. -/
  working : Bool

/-- Streams that work, with some text to be read. -/
def Console.reading (text : String) : Console := ⟨"", text.toList, true⟩

/-- What starts an invocation. -/
inductive Starter where
  /-- A reference or a call of a program. -/
  | call
  /-- A definition of a program. -/
  | definition
  /-- A tool that invokes another one, or the host. -/
  | other
  deriving DecidableEq

/-- A step of the invocations of a run: one begins, the one begun last ends, or one is refused. -/
inductive Step where
  | began (starter : Starter) (tool : Tool) (input : Value)
  | ended
  | refused (tool : Tool) (input : Value)

/-- The state of a run. -/
structure World where
  store : Store
  environment : Environment
  console : Console
  /-- The inputs that recording tools have noted, the latest first. -/
  notes : List Value
  /-- The scopes the run is inside, innermost first. -/
  scopes : List Scope
  now : Instant
  /-- The steps of all invocations, the latest first. -/
  trace : List Step
  servers : List Remote.Client
  host : Host

namespace World

/-- A state in a new frame inside no other. -/
def enterRoot (world : World) (tools : Entries Tool) : World :=
  let (store, environment) := world.store.root tools
  { world with store := store, environment := environment }

/-- The state before anything was run, in a root frame with some tools. -/
def fresh (tools : Entries Tool) (console : Console) (host : Host) : World :=
  enterRoot
    { store := .empty
      environment := ⟨0, []⟩
      console := console
      notes := []
      scopes := []
      now := 0
      trace := []
      servers := []
      host := host } tools

/-- The state in a new frame inside an environment, with some constants. -/
def enter (world : World) (outer : Environment) (constants : Fields) : World :=
  let tools := constants.map fun entry => (entry.1, Tool.constant entry.2)
  let (store, environment) := world.store.child outer tools
  { world with store := store, environment := environment }

/-- The tool that a name is bound to. -/
def lookup (world : World) (name : String) : Option Tool :=
  world.store.lookup world.environment name

/-- The names that resolve. -/
def names (world : World) : List String := world.store.names world.environment

end World

/-- A computation over the state of a run that gives a value or fails. -/
abbrev Run : Type → Type := ExceptT ToolError (StateM World)

namespace Run

variable {α : Type}

/-- A computation in a new frame inside an environment, with some constants.  However it ends, the
environment around it is current again afterwards. -/
def inside (outer : Environment) (constants : Fields) (action : Run α) : Run α := fun world =>
  let (outcome, after) := action (world.enter outer constants)
  (outcome, { after with environment := world.environment })

/-- How a computation ends, as a value. -/
def capture (action : Run α) : Run (Except ToolError α) := fun world =>
  let (outcome, after) := action world
  (.ok outcome, after)

/-- The end of a computation that has ended already. -/
def ofExcept : Except ToolError α → Run α
  | .ok a => pure a
  | .error e => throw e

/-- The environment the run works in. -/
def environment : Run Environment := do return (← get).environment

/-- The tool a name is bound to. -/
def lookup (name : String) : Run (Option Tool) := do return (← get).lookup name

/-- Records a step. -/
def record (step : Step) : Run Unit :=
  modify fun world => { world with trace := step :: world.trace }

/-- Passes if no scope has stopped. -/
def checkScopes : Run Unit := do
  let world ← get
  ofExcept (Scope.check world.now world.scopes)

end Run

end ToolWeave
