import ToolWeave.Value.Basic

/-!
# Built-in tools

The sixteen tools every root environment starts with, and what each says about itself.

## Main definitions

* `Spec`: the description of a tool and the schema of its input.
* `Builtin`: the built-in tools; `Builtin.name`, `Builtin.spec`.
* `Builtin.all`: the built-in tools in the order in which they are registered.
-/

namespace ToolWeave

/-- What a tool says about itself: a description, and a schema of its input for information. -/
structure Spec where
  description : String
  parameters : Fields

/-- A tool that says nothing about itself. -/
def Spec.empty : Spec := ⟨"", []⟩

/-- The built-in tools. -/
inductive Builtin where
  | define
  | undefine
  | rebind
  | listTools
  | print
  | readLine
  | compare
  | equals
  | sort
  | add
  | multiply
  | subtract
  | divide
  | evaluate
  | choose
  | attempt
  deriving DecidableEq

namespace Builtin

/-- The built-in tools in the order in which they are registered. -/
def all : List Builtin :=
  [define, undefine, rebind, listTools, print, readLine, compare, equals, sort, add, multiply,
    subtract, divide, evaluate, choose, attempt]

/-- The name a built-in tool is bound to. -/
def name : Builtin → String
  | define => "define"
  | undefine => "undefine"
  | rebind => "alias"
  | listTools => "list-tools"
  | print => "print"
  | readLine => "read-line"
  | compare => "compare"
  | equals => "equals"
  | sort => "sort"
  | add => "add"
  | multiply => "multiply"
  | subtract => "subtract"
  | divide => "divide"
  | evaluate => "eval"
  | choose => "if"
  | attempt => "try"

/-- The description of a built-in tool. -/
def description : Builtin → String
  | define =>
    "Create a tool from an orchestration program and bind it in the calling environment. " ++
      "The new tool resolves names against the bindings in place when it was defined, " ++
      "plus its own name."
  | undefine =>
    "Remove a binding from the calling environment. Returns whether anything was removed."
  | rebind => "Bind an existing tool under another name in the calling environment."
  | listTools => "List the names visible from the calling environment."
  | print => "Print a string (or any other value as JSON) followed by a newline. Returns the input."
  | readLine =>
    "Read one line. Returns \x7bline, eof\x7d; the trailing newline is removed."
  | compare =>
    "Compare two values: [a, b] -> -1, 0 or 1. Values of different types order as " ++
      "array < boolean < null < number < object < string."
  | equals => "Structural equality of two values: [a, b] -> boolean."
  | sort =>
    "Sort an array. Input is the array itself, or \x7barray, compare_tool\x7d where compare_tool "
      ++ "names a tool taking [a, b] and returning a negative, zero or positive number."
  | add => "Sum of an array of numbers (0 when empty)."
  | multiply => "Product of an array of numbers (1 when empty)."
  | subtract => "[a, b] -> a - b."
  | divide => "[a, b] -> a / b. Integers that divide exactly give an integer."
  | evaluate => "Evaluate the input as a program in the calling environment."
  | choose =>
    "Evaluate 'then' or 'else' depending on a boolean condition. Only the chosen branch runs; " ++
      "quote the branches so they reach this tool unevaluated."
  | attempt =>
    "Invoke a tool and capture the outcome: \x7bok: true, value\x7d or " ++
      "\x7bok: false, error: \x7bkind, payload\x7d\x7d. Cancellation is never captured."

/-- A schema that names a type. -/
def ofType (type : String) : Fields := [("type", .string type)]

/-- A schema that only describes. -/
def described (text : String) : Value := .object [("description", .string text)]

/-- The schema of an array of two values. -/
def pairSchema : Fields :=
  [("type", .string "array"), ("minItems", .int 2), ("maxItems", .int 2)]

/-- The schema of an array of numbers. -/
def numbersSchema : Fields :=
  [("type", .string "array"), ("items", .object (ofType "number"))]

/-- The schema of an array of two numbers. -/
def numberPairSchema : Fields := numbersSchema ++ [("minItems", .int 2), ("maxItems", .int 2)]

/-- The schema of an object with some properties, some of them required. -/
def objectSchema (properties : Fields) (required : List String) : Fields :=
  [("type", .string "object"), ("properties", .object properties),
    ("required", .strings required)]

/-- The schema of the input of a built-in tool. -/
def parameters : Builtin → Fields
  | define =>
    objectSchema
      [("name", .object (ofType "string" ++
          [("description", .string "Name to bind the new tool to.")])),
        ("body", described "Program run on each invocation."),
        ("parameters", .object
          [("type", .string "array"), ("items", .object (ofType "string")),
            ("description", .string "Input fields bound as names while the body runs.")]),
        ("description", .object (ofType "string"))]
      ["name", "body"]
  | undefine => objectSchema [("name", .object (ofType "string"))] ["name"]
  | rebind =>
    objectSchema
      [("name", .object (ofType "string" ++ [("description", .string "New name.")])),
        ("tool", .object (ofType "string" ++
          [("description", .string "Name of the tool to copy.")]))]
      ["name", "tool"]
  | listTools => ofType "null"
  | print => []
  | readLine => ofType "null"
  | compare => pairSchema
  | equals => pairSchema
  | sort =>
    [("type", .strings ["array", "object"]),
      ("properties", .object
        [("array", .object (ofType "array")), ("compare_tool", .object (ofType "string"))])]
  | add => numbersSchema
  | multiply => numbersSchema
  | subtract => numberPairSchema
  | divide => numberPairSchema
  | evaluate => []
  | choose =>
    objectSchema
      [("condition", .object (ofType "boolean")),
        ("then", described "Program run when the condition is true."),
        ("else", described "Program run when the condition is false (default null).")]
      ["condition", "then"]
  | attempt =>
    objectSchema
      [("tool", .object (ofType "string")),
        ("input", described "Input passed to the tool (default null).")]
      ["tool"]

/-- What a built-in tool says about itself. -/
def spec (b : Builtin) : Spec := ⟨b.description, b.parameters⟩

end Builtin

end ToolWeave
