import ToolWeave.Tool.Builtin

/-!
# Tools

Everything a name can be bound to: built-in tools, constants, tools defined by programs, external
commands, tools of remote servers, and tools of the host that embeds the language.

## Main definitions

* `Environment`: a frame and the frames around it, by their numbers.
* `Tool`: a tool.
* `Origin`, `Binding`, `Frame`: what a name is bound to, and the bindings of one frame.
* `Tool.spec`: what a tool says about itself.
* `Frame.ofTools`: a frame made of tools.

## Design notes

**Frames by number.**  Frames are shared: an environment, its children and the tools defined in it
may all reach the same one.  So frames live in a store, everybody else holds their numbers, and a
change of a frame is seen by whoever holds its number.  What a frame is inside of is settled when it
is made, which is why an environment carries the numbers of the frames around it along.

**Origins.**  Two tools may say and do the same and still be two.  A binding therefore records when
its tool was made, and an alias keeps the record.  No tool ever looks at it.
-/

namespace ToolWeave

/-- An external command: the words of its command line, where it runs, the variables set for it,
and how many seconds it may take. -/
structure Command where
  words : List String
  directory : Option String
  vars : Entries String
  timeout : Option Number
  spec : Spec

/-- Tools that the host offers besides the built-in ones. -/
inductive HostTool where
  /-- Returns its input. -/
  | identity
  /-- Notes its input and returns it. -/
  | record
  /-- Crashes. -/
  | boom
  /-- Refuses its input. -/
  | reject
  /-- Reports that the call was cancelled. -/
  | cancel
  /-- Cancels the innermost scope, then calls `add` in the calling environment. -/
  | cancelScope
  /-- Lists the names of the calling frame. -/
  | frameNames
  deriving DecidableEq

/-- A frame and the frames around it, by their numbers in a store, innermost first. -/
structure Environment where
  frame : Nat
  outer : List Nat
  deriving DecidableEq

/-- The numbers of all frames of an environment, innermost first. -/
def Environment.path (env : Environment) : List Nat := env.frame :: env.outer

/-- A tool. -/
inductive Tool where
  | builtin (tool : Builtin)
  | constant (value : Value)
  /-- A program with parameters, over the environment its names are looked up in. -/
  | defined (parameters : List String) (description : String) (body : Value)
      (closure : Environment)
  | command (command : Command)
  /-- A tool of a remote server, known there under a name of its own. -/
  | remote (server : Nat) (name : String) (spec : Spec)
  | host (tool : HostTool)

/-- When a tool was made: after so many others. -/
abbrev Origin : Type := Nat

/-- What a name is bound to: a tool, and when it was made. -/
abbrev Binding : Type := Origin × Tool

/-- The bindings of one frame. -/
abbrev Frame : Type := Entries Binding

namespace HostTool

/-- What a tool of the host says about itself. -/
def spec : HostTool → Spec
  | identity => ⟨"identity", []⟩
  | record => ⟨"record", []⟩
  | _ => Spec.empty

end HostTool

/-- The schema of the input of a defined tool with parameters. -/
def definedSchema (parameters : List String) : Fields :=
  if parameters.isEmpty then []
  else [("type", .string "object"), ("required", .strings parameters)]

/-- What a tool says about itself. -/
def Tool.spec : Tool → Spec
  | builtin b => b.spec
  | constant _ => ⟨"Constant value.", []⟩
  | defined parameters description _ _ => ⟨description, definedSchema parameters⟩
  | command c => c.spec
  | remote _ _ s => s
  | host h => h.spec

/-- A frame with tools put in one after the other, of which so many had been made before. -/
def Frame.ofTools (before : Nat) (tools : Entries Tool) : Frame :=
  Entries.ofList (tools.mapIdx fun i entry => (entry.1, (before + i, entry.2)))

end ToolWeave
