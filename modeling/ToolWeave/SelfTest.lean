import ToolWeave.Tool.Set
import ToolWeave.Evaluation.Invocation

/-!
# Self-test

A short tour through the language on a fresh root environment, which prints what it sees.

## Main definitions

* `SelfTest.transcript`: what the tour prints.
-/

namespace ToolWeave

namespace SelfTest

/-- A form that calls a tool. -/
def calling (tool : String) (input : Value) : Value :=
  .object [("call", .string tool), ("input", input)]

/-- A form that refers to a name. -/
def referring (name : String) : Value := .object [("$", .string name)]

/-- Prints a line. -/
def say (text : String) : Run Unit :=
  modify fun world => { world with console.printed := world.console.printed ++ text ++ "\n" }

/-- Prints a value under a heading. -/
def present (heading : String) (value : Value) : Run Unit := say (heading ++ ": " ++ value.display)

/-- Evaluates a program. -/
def evaluate (program : Value) : Run Value := Run.program Run.defaultLimit program

/-- Invokes a tool. -/
def invoke (name : String) (input : Value) : Run Value := Run.named Run.defaultLimit name input

/-- A command that returns its input. -/
def echo : Tool := .command ⟨["cat"], none, [], some (.int 120), ⟨"External command.", []⟩⟩

/-- The tour. -/
def tour : Run Unit := do
  let _ ← evaluate (calling "print" (.string "Hello, world"))
  present "LET" (← evaluate
    (.object [("let", .string "x"), ("value", .int 5), ("in", referring "x")]))
  let _ ← evaluate
    (.object
      [("define", .string "double"), ("parameters", .strings ["n"]),
        ("body", calling "multiply" (.array [referring "n", .int 2]))])
  present "DOUBLE" (← invoke "double" (.object [("n", .int 21)]))
  present "SORT" (← invoke "sort"
    (.array [.int 3, .string "a", .null, .int 1, .array [.int 2]]))
  present "TRY" (← invoke "try"
    (.object [("tool", .string "divide"), ("input", .array [.int 1, .int 0])]))
  modify fun world =>
    { world with store := world.store.define world.environment "echo" echo }
  present "PROCESS" (← invoke "echo" (.object [("hello", .strings ["world"])]))
  match ← Run.capture (evaluate (calling "missing-tool" .null)) with
  | .ok _ => return ()
  | .error e => present "ERROR" e.toValue

/-- What the tour prints on a host. -/
def transcript (host : Host) : String :=
  let world := World.fresh ToolSet.builtins (.reading "") host
  (tour.run world).2.console.printed

end SelfTest

end ToolWeave
