import ToolWeave.Failure

/-!
# Shapes of inputs

A tool checks the shape of its input before it works on it.  Each check gives back the part of the
value that the tool needs, or an invalid input that says what the tool expects and what it got.

## Main definitions

* `Expect.object`, `Expect.array`, `Expect.string`, `Expect.number`, `Expect.bool`.
-/

namespace ToolWeave

namespace Expect

/-- The failure of a tool that expects something else. -/
def mismatch (tool expected : String) (got : Value) : ToolError :=
  .invalidInput s!"{tool} expects {expected}"
    [("tool", .string tool), ("got", .string got.kind.name)]

/-- The names that are no fields, in the order given. -/
def missing (required : List String) (fields : Fields) : List String :=
  required.filter fun name => !Entries.has name fields

/-- The fields of an object that has all required ones. -/
def object (tool : String) (required : List String) (input : Value) : Except ToolError Fields :=
  match input with
  | .object fields =>
    match missing required fields with
    | [] => .ok fields
    | names =>
      .error (.invalidInput
        (tool ++ " input is missing field(s): " ++ String.intercalate ", " names)
        [("tool", .string tool), ("missing", .strings names)])
  | v => .error (mismatch tool "an object" v)

/-- The items of an array, of a given length if there is one. -/
def array (tool : String) (length : Option Nat) (input : Value) : Except ToolError (List Value) :=
  match input with
  | .array items =>
    match length with
    | none => .ok items
    | some expected =>
      if items.length = expected then .ok items
      else
        .error (.invalidInput s!"{tool} expects an array of {expected} values"
          [("tool", .string tool), ("length", .int items.length)])
  | v => .error (mismatch tool "an array" v)

/-- Exactly two items. -/
def pair (tool : String) (input : Value) : Except ToolError (Value × Value) := do
  match ← array tool (some 2) input with
  | [a, b] => return (a, b)
  | _ => throw (mismatch tool "an array" input)

/-- A string; `expected` says in a message what is expected. -/
def string (tool expected : String) (input : Value) : Except ToolError String :=
  match input with
  | .string s => .ok s
  | v => .error (mismatch tool expected v)

/-- A number; `expected` says in a message what is expected. -/
def number (tool expected : String) (input : Value) : Except ToolError Number :=
  match input with
  | .number n => .ok n
  | v => .error (mismatch tool expected v)

/-- A boolean; `expected` says in a message what is expected. -/
def bool (tool expected : String) (input : Value) : Except ToolError Bool :=
  match input with
  | .bool b => .ok b
  | v => .error (mismatch tool expected v)

end Expect

end ToolWeave
