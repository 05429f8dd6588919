import ToolWeave.Evaluation.World
import ToolWeave.Form

/-!
# Running programs

A form is run in the environment of the state.  Its parts run from left to right and depth first,
and a failure anywhere is the failure of the whole.

## Main definitions

* `Reach`: how a program invokes tools.
* `Form.run`: a form, run.
* `Run.evaluate`: a value read as a program and run.

## Design notes

**Invocation as a parameter.**  A program invokes tools, and tools run programs.  The knot is tied
in one place only, by the depth of calls; here the recursion follows the form, and whatever a call
leads to is a parameter.
-/

namespace ToolWeave

/-- How a program or a tool invokes other tools. -/
structure Reach where
  /-- Invokes a tool one call deeper. -/
  call : Tool → Value → Run Value
  /-- Invokes a tool at the same depth. -/
  again : Starter → Tool → Value → Run Value

/-- What a definition hands to the tool bound to `define`. -/
def Form.definitionRequest (name : String) (parameters : List String) (body : Value) : Value :=
  .object [("name", .string name), ("parameters", .strings parameters), ("body", body)]

namespace Form

mutual

/-- Runs a form. -/
def run (reach : Reach) : Form → Run Value
  | literal v => pure v
  | quote v => pure v
  | reference name => do
    match ← Run.lookup name with
    | none => throw (.unboundName name)
    | some tool =>
      Run.checkScopes
      reach.call tool .null
  | call name input => do
    let input ← run reach input
    match ← Run.lookup name with
    | none => throw (.unknownTool name)
    | some tool =>
      Run.checkScopes
      reach.call tool input
  | sequence items => runSequence reach .null items
  | binding name value body => do
    let value ← run reach value
    Run.inside (← Run.environment) [(name, value)] (run reach body)
  | definition name parameters body => do
    match ← Run.lookup Builtin.define.name with
    | none => throw (.unknownTool Builtin.define.name)
    | some tool =>
      Run.checkScopes
      reach.again .definition tool (definitionRequest name parameters body)
  | array items => do return .array (← runItems reach items)
  | object fields => do return .object (← runFields reach fields)

/-- Runs forms one after the other and gives the value of the last, or of what came before them. -/
def runSequence (reach : Reach) (before : Value) : List Form → Run Value
  | [] => pure before
  | item :: rest => do
    let value ← run reach item
    runSequence reach value rest

/-- Runs forms one after the other and gives all values. -/
def runItems (reach : Reach) : List Form → Run (List Value)
  | [] => pure []
  | item :: rest => do
    let value ← run reach item
    return value :: (← runItems reach rest)

/-- Runs the forms of fields one after the other and gives the fields with their values. -/
def runFields (reach : Reach) : List (String × Form) → Run Fields
  | [] => pure []
  | (name, item) :: rest => do
    let value ← run reach item
    return (name, value) :: (← runFields reach rest)

end

end Form

/-- How many levels of arrays and objects a program may nest. -/
def programLevels : Nat := 4000

/-- Runs a value as a program. -/
def Run.evaluate (reach : Reach) (program : Value) : Run Value :=
  if program.nestedWithin programLevels then (Form.parse program).run reach
  else throw (.toolFailure "program nested too deeply")

end ToolWeave
