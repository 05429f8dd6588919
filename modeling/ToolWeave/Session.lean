import ToolWeave.Remote.Server

/-!
# Sessions

A host works with several environments side by side.  It numbers the frames it holds on to, and asks
for one thing after another: a program evaluated in a frame, a tool invoked from it, a name bound.

## Main definitions

* `Session`: the environments that are held, and the state that all runs share.
* `Session.run`: a computation in the environment of a frame.
* `Conditions`: the limit on the depth of calls and the scopes that a run is put under.
-/

namespace ToolWeave

/-- What a run is put under. -/
structure Conditions where
  /-- The limit on the depth of calls that is asked for. -/
  limit : Int
  /-- The scopes entered around the run, the outermost first. -/
  scopes : List Scope.Request

/-- The usual limit, and no scope. -/
def Conditions.usual : Conditions := ⟨Run.defaultLimit, []⟩

/-- Environments side by side, and the state that all runs share. -/
structure Session where
  /-- The environments that are held on to, in the order of their numbers. -/
  held : List Environment
  world : World

namespace Session

/-- A session that holds the environment of a state. -/
def ofWorld (world : World) : Session := ⟨[world.environment], world⟩

/-- The environment of a number. -/
def environment (s : Session) (number : Nat) : Environment :=
  s.held[number]?.getD s.world.environment

/-- The frames after a change. -/
def setStore (s : Session) (store : Store) : Session := { s with world.store := store }

/-- Holds on to an environment, which gets the next number. -/
def hold (s : Session) (added : Store × Environment) : Session :=
  { s.setStore added.1 with held := s.held ++ [added.2] }

/-- A new frame inside a numbered one. -/
def child (s : Session) (number : Nat) (tools : Entries Tool) : Session :=
  s.hold (s.world.store.child (s.environment number) tools)

/-- A new root frame without tools. -/
def root (s : Session) : Session := s.hold (s.world.store.root [])

/-- A copy of a numbered frame and of those around it. -/
def snapshot (s : Session) (number : Nat) : Session :=
  s.hold (s.world.store.snapshot (s.environment number))

/-- Whether a name may be bound: it is not empty. -/
def bindable (name : String) : Except Crash Unit :=
  if name = "" then .error (.refused "Tool name must be a non-empty string.") else .ok ()

/-- Binds a name in a numbered frame to a new tool. -/
def define (s : Session) (number : Nat) (name : String) (tool : Tool) : Except Crash Session := do
  bindable name
  return s.setStore (s.world.store.define (s.environment number) name tool)

/-- Binds a name in a numbered frame to what a name is bound to in another environment. -/
def bind (s : Session) (number : Nat) (name : String) (binding : Binding) :
    Except Crash Session := do
  bindable name
  return s.setStore (s.world.store.bind (s.environment number) name binding)

/-- Removes the binding of a name from a numbered frame. -/
def undefine (s : Session) (number : Nat) (name : String) : Session :=
  s.setStore (s.world.store.undefine (s.environment number) name)

/-- The frame of a number. -/
def frame (s : Session) (number : Nat) : Frame :=
  s.world.store.frameAt (s.environment number).frame

/-- What a name is bound to in the environment of a number. -/
def binding? (s : Session) (number : Nat) (name : String) : Option Binding :=
  s.world.store.binding? (s.environment number) name

/-- The tool a name is bound to in the environment of a number. -/
def lookup (s : Session) (number : Nat) (name : String) : Option Tool :=
  s.world.store.lookup (s.environment number) name

/-- Whether a name is bound in a numbered frame itself. -/
def isLocal (s : Session) (number : Nat) (name : String) : Bool :=
  Entries.has name (s.frame number)

/-- Whether two names in two environments are bound to one tool, or both to none. -/
def same (s : Session) (number : Nat) (name : String) (other : Nat) (source : String) : Bool :=
  let origin (number : Nat) (name : String) : Option Origin :=
    (s.binding? number name).map Prod.fst
  decide (origin number name = origin other source)

/-- What a frame is inside of. -/
inductive Surrounding where
  | none
  /-- A frame with a number. -/
  | held (number : Nat)
  /-- A frame that nobody holds on to. -/
  | unnamed

/-- What a numbered frame is inside of. -/
def surrounding (s : Session) (number : Nat) : Surrounding :=
  match (s.environment number).outer with
  | [] => .none
  | outer :: _ =>
    match s.held.findIdx? fun env => env.frame == outer with
    | some number => .held number
    | none => .unnamed

/-- A description of a numbered frame: how many frames are around it and how many names it binds. -/
def describe (s : Session) (number : Nat) : String :=
  s!"<Environment depth={(s.environment number).outer.length} local={(s.frame number).length}>"

/-- The session with what was printed and noted before left aside. -/
def forget (s : Session) : Session :=
  { s with world := { s.world with notes := [], console.printed := "" } }

/-- A computation over the state, in the environment of a numbered frame. -/
def step {α : Type} (s : Session) (number : Nat) (action : StateM World α) : α × Session :=
  let (result, after) :=
    action { s.world with environment := s.environment number, trace := [] }
  (result, { s with world := after })

/-- A run in the environment of a numbered frame, under conditions. -/
def run (s : Session) (number : Nat) (conditions : Conditions)
    (action : (limit : Nat) → Run Value) : Except Fault Value × Session :=
  match Run.limit? conditions.limit with
  | .error cause => (.error (.crash cause), s)
  | .ok limit =>
    let scopes := (conditions.scopes.map (Scope.Request.scope s.world.now)).reverse
    let (result, after) :=
      s.step number fun world =>
        let (result, after) := (action limit).run { world with scopes := scopes }
        (result, { after with scopes := [] })
    (result.mapError Fault.failure, after)

end Session

end ToolWeave
