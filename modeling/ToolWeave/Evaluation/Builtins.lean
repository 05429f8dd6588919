import ToolWeave.Evaluation.World
import ToolWeave.Expect
import ToolWeave.Sorting

/-!
# What the built-in tools do

The built-in tools that invoke no other tool: arithmetic, comparison, bindings and the console.

## Main definitions

* `Arithmetic.add`, `multiply`, `subtract`, `divide`: exact on integers, finite on doubles.
* `Bindings.define`, `undefine`, `rebind`, `listTools`: changes and views of the calling frame.
* `ConsoleTools.print`, `ConsoleTools.readLine`: the text streams.
-/

namespace ToolWeave

namespace Arithmetic

/-- The numbers of an array. -/
def numbers (tool : String) (length : Option Nat) (input : Value) :
    Except ToolError (List Number) := do
  let items ← Expect.array tool length input
  items.mapM (Expect.number tool "an array of numbers")

/-- A result, unless it overflowed or is not finite. -/
def finite (tool : String) : Except Overflow Number → Except ToolError Value
  | .error cause => .error (Crash.overflow cause).toError
  | .ok n =>
    if n.isFinite then .ok (.number n)
    else .error (.toolFailure "Result is not a finite number" [("tool", .string tool)])

/-- The sum of an array of numbers. -/
def add (input : Value) : Except ToolError Value := do
  finite "add" (Number.sum (← numbers "add" none input))

/-- The product of an array of numbers. -/
def multiply (input : Value) : Except ToolError Value := do
  finite "multiply" (Number.product (← numbers "multiply" none input))

/-- The difference of two numbers. -/
def subtract (input : Value) : Except ToolError Value := do
  match ← numbers "subtract" (some 2) input with
  | [a, b] => finite "subtract" (a.sub b)
  | _ => throw (Expect.mismatch "subtract" "an array" input)

/-- The quotient of two numbers. -/
def divide (input : Value) : Except ToolError Value := do
  match ← numbers "divide" (some 2) input with
  | [a, b] =>
    if b.isZero then throw (.toolFailure "Division by zero" [("tool", .string "divide")])
    else finite "divide" (a.div b)
  | _ => throw (Expect.mismatch "divide" "an array" input)

end Arithmetic

namespace Comparison

/-- The order of two values as a number. -/
def compare (input : Value) : Except ToolError Value := do
  let (a, b) ← Expect.pair "compare" input
  return .int (Value.sign (a.order b))

/-- Whether two values are equal. -/
def equals (input : Value) : Except ToolError Value := do
  let (a, b) ← Expect.pair "equals" input
  return .bool (a.equal b)

/-- Items in increasing order, equal ones in the order they came in. -/
def sort (items : List Value) : List Value :=
  Id.run (Sorting.sort (fun a b => pure (a.order b == .lt)) items)

end Comparison

namespace Bindings

/-- What the define tool is asked for. -/
structure Request where
  name : String
  parameters : List String
  description : String
  body : Value

/-- The names of the parameters a value gives: an array of names, or nothing given. -/
def parameterNames (given : Value) : Except ToolError (List String) :=
  let refused : ToolError :=
    .invalidInput "define expects parameters to be an array of names"
      [("tool", .string "define")]
  if !given.isGiven then .ok []
  else
    match given with
    | .array items =>
      items.mapM fun item =>
        match item with
        | .string name => if name = "" then .error refused else .ok name
        | _ => .error refused
    | _ => .error refused

/-- The description a value gives: a string, or nothing given. -/
def descriptionText (given : Value) : Except ToolError String :=
  if !given.isGiven then .ok ""
  else
    match given with
    | .string text => .ok text
    | _ =>
      .error (.invalidInput "define expects description to be a string"
        [("tool", .string "define")])

/-- The name of the constant that holds the whole input of a defined tool. -/
def inputName : String := "input"

/-- Reads the input of the define tool. -/
def request (input : Value) : Except ToolError Request := do
  let fields ← Expect.object "define" ["name", "body"] input
  let name ← Expect.string "define" "a string name" ((Entries.get? "name" fields).getD .null)
  if name = "" then
    throw (.invalidInput "define expects a non-empty name" [("tool", .string "define")])
  let parameters ← parameterNames ((Entries.get? "parameters" fields).getD .null)
  let description ← descriptionText ((Entries.get? "description" fields).getD .null)
  if parameters.contains inputName then
    throw (.invalidInput s!"parameter name '{inputName}' is reserved" [("tool", .string "define")])
  if !decide parameters.Nodup then
    throw (.invalidInput "duplicate parameter names"
      [("tool", .string "define"), ("parameters", .strings parameters)])
  return ⟨name, parameters, if description = "" then "Defined tool." else description,
    (Entries.get? "body" fields).getD .null⟩

/-- Makes a tool from a program and binds it in the calling frame. -/
def define (input : Value) : Run Value := do
  let request ← Run.ofExcept (request input)
  modify fun world =>
    { world with
      store := world.store.create world.environment request.name request.parameters
        request.description request.body }
  return .string request.name

/-- Removes a binding from the calling frame. -/
def undefine (input : Value) : Run Value := do
  let fields ← Run.ofExcept (Expect.object "undefine" ["name"] input)
  let name ← Run.ofExcept
    (Expect.string "undefine" "a string name" ((Entries.get? "name" fields).getD .null))
  let world ← get
  set { world with store := world.store.undefine world.environment name }
  return .bool (Entries.has name (world.store.frameAt world.environment.frame))

/-- Binds the tool of one name under another in the calling frame. -/
def rebind (input : Value) : Run Value := do
  let fields ← Run.ofExcept (Expect.object "alias" ["name", "tool"] input)
  let name ← Run.ofExcept
    (Expect.string "alias" "a string name" ((Entries.get? "name" fields).getD .null))
  let source ← Run.ofExcept
    (Expect.string "alias" "a string tool name" ((Entries.get? "tool" fields).getD .null))
  if name = "" then
    throw (.invalidInput "alias expects a non-empty name" [("tool", .string "alias")])
  let world ← get
  match world.store.binding? world.environment source with
  | none => throw (.unknownTool source)
  | some binding =>
    set { world with store := world.store.bind world.environment name binding }
    return .string name

/-- The names visible from the calling frame. -/
def listTools : Run Value := do
  return .object [("names", .strings (← get).names)]

end Bindings

namespace ConsoleTools

/-- The text that is printed for a value: a string as it is, anything else as indented JSON. -/
def textOf : Value → Except ToolError String
  | .string s => .ok s
  | v =>
    match Json.print Json.indented v with
    | .ok text => .ok text
    | .error cause => .error (Crash.unprintable cause).toError

/-- Prints a value and a line feed, and returns the value. -/
def print (input : Value) : Run Value := do
  let text ← Run.ofExcept (textOf input)
  if (← get).console.working then
    modify fun world =>
      { world with console.printed := world.console.printed ++ text ++ "\n" }
    return input
  else
    throw (.toolFailure "Write failed"
      [("description", .string "[Errno 28] No space left on device")])

/-- The first line of some characters with its line feed, and the characters after it. -/
def cutLine (cs : List Char) : List Char × List Char :=
  let line := cs.takeWhile (· ≠ '\n')
  match cs.drop line.length with
  | c :: rest => (line ++ [c], rest)
  | [] => (line, [])

/-- What is read from a line: the line without the carriage returns and line feeds at its end, and
whether the input ended before a line feed. -/
def lineValue (line : List Char) : Value :=
  let text := Text.dropEnd (fun c => c == '\r' || c == '\n') line
  .object
    [("line", .string (String.ofList text)), ("eof", .bool (line.getLast? != some '\n'))]

/-- Reads one line. -/
def readLine : Run Value := do
  let console := (← get).console
  if console.working then
    let (line, rest) := cutLine console.input
    modify fun world => { world with console.input := rest }
    return lineValue line
  else
    throw (.toolFailure "Read failed" [("description", .string "[Errno 9] Bad file descriptor")])

end ConsoleTools

end ToolWeave
