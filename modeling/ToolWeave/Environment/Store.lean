import ToolWeave.Environment.Basic

/-!
# Stores of frames

Environments share frames.  A store keeps every frame ever made under its number, so that a change
of a frame is seen from all environments it is part of.  Frames are added and changed, never moved
and never removed.

## Main definitions

* `Store`: the frames made so far.
* `Store.frameAt`, `Store.chain`: the frame of a number, and the frames of an environment.
* `Store.lookup`: the tool that a name is bound to in an environment.
* `Store.bind`, `Store.define`, `Store.undefine`: changes of the innermost frame.
* `Store.child`, `Store.root`: a new frame inside an environment or inside none.
* `Store.snapshot`: copies of the frames of an environment.
* `Store.create`: a tool over copies of the frames it is defined in.
-/

namespace ToolWeave

/-- The frames made so far, each under its number. -/
structure Store where
  frames : Array Frame
  /-- How many tools have been made so far. -/
  tools : Nat

namespace Store

/-- No frames. -/
def empty : Store := ⟨#[], 0⟩

/-- How many frames there are; the number of the next one. -/
def size (store : Store) : Nat := store.frames.size

/-- The frame of a number.  A number that was not given out yet stands for an empty frame. -/
def frameAt (store : Store) (number : Nat) : Frame := store.frames.getD number []

/-- The frames of an environment, innermost first. -/
def chain (store : Store) (env : Environment) : List Frame := env.path.map store.frameAt

/-- What a name is bound to in an environment. -/
def binding? (store : Store) (env : Environment) (name : String) : Option Binding :=
  Frame.find? name (store.chain env)

/-- The tool that a name is bound to in an environment. -/
def lookup (store : Store) (env : Environment) (name : String) : Option Tool :=
  (store.binding? env name).map Prod.snd

/-- The names that resolve in an environment, in increasing order. -/
def names (store : Store) (env : Environment) : List String := Frame.visible (store.chain env)

/-- The names that the innermost frame of an environment binds, in increasing order. -/
def localNames (store : Store) (env : Environment) : List String :=
  Entries.sortedNames (Entries.names (store.frameAt env.frame))

/-- A store with one more frame, which gets the next number. -/
def push (store : Store) (frame : Frame) : Store :=
  { store with frames := store.frames.push frame }

/-- A store with one frame changed. -/
def change (store : Store) (number : Nat) (f : Frame → Frame) : Store :=
  { store with frames := store.frames.modify number f }

/-- Binds a name in the innermost frame of an environment. -/
def bind (store : Store) (env : Environment) (name : String) (binding : Binding) : Store :=
  store.change env.frame (Entries.put name binding)

/-- Binds a name in the innermost frame of an environment to a tool made for it. -/
def define (store : Store) (env : Environment) (name : String) (tool : Tool) : Store :=
  { store.bind env name (store.tools, tool) with tools := store.tools + 1 }

/-- Removes the binding of a name from the innermost frame of an environment. -/
def undefine (store : Store) (env : Environment) (name : String) : Store :=
  store.change env.frame (Entries.erase name)

/-- A new frame with tools made for it, inside the frames of some numbers. -/
def add (store : Store) (outer : List Nat) (tools : Entries Tool) : Store × Environment :=
  ({ store.push (Frame.ofTools store.tools tools) with tools := store.tools + tools.length },
    ⟨store.size, outer⟩)

/-- A new frame inside an environment. -/
def child (store : Store) (env : Environment) (tools : Entries Tool) : Store × Environment :=
  store.add env.path tools

/-- A new frame inside no other. -/
def root (store : Store) (tools : Entries Tool) : Store × Environment := store.add [] tools

/-- New frames around one another, given innermost first, and their numbers.  The outermost is made
first. -/
def pushAll (store : Store) : List Frame → Store × List Nat
  | [] => (store, [])
  | frame :: outer =>
    let (store, numbers) := store.pushAll outer
    (store.push frame, store.size :: numbers)

/-- Copies of the frames of an environment, as they stand. -/
def snapshot (store : Store) (env : Environment) : Store × Environment :=
  let (copied, numbers) := store.pushAll (env.outer.map store.frameAt)
  (copied.push (store.frameAt env.frame), ⟨copied.size, numbers⟩)

/-- Makes a tool from a program and binds it in an environment.  The tool looks names up in copies of
the frames of the environment, with one more frame inside them in which the tool has its own name. -/
def create (store : Store) (env : Environment) (name : String) (parameters : List String)
    (description : String) (body : Value) : Store :=
  let (copied, surroundings) := store.snapshot env
  let closure : Environment := ⟨copied.size, surroundings.path⟩
  let binding : Binding := (store.tools, .defined parameters description body closure)
  { (copied.push [(name, binding)]).bind env name binding with tools := store.tools + 1 }

end Store

end ToolWeave
