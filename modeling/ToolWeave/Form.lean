import ToolWeave.Value.Basic

/-!
# Forms

The orchestration language is written in JSON.  An object whose fields are exactly those of one of
six shapes is a form; everything else is data and stands for itself, built member by member.

| Shape | Form |
|---|---|
| `$` | reference to a name |
| `call`, optionally `input` | call of a tool |
| `do` | sequence of programs |
| `let`, `value`, `in` | a name bound while a program runs |
| `define`, `body`, optionally `parameters` | a new tool |
| `quote` | the value, not interpreted |

Arrays mean two things.  In **program position** (the top, the body of `let`, the items of a
sequence) an array is a sequence; in **data position** (inputs, the value of `let`, the members of
arrays and objects) it builds an array.

## Main definitions

* `Shape.ofFields?`: the shape an object has.
* `Form`: a program with its positions resolved.
* `Form.Readings`, `Value.readings`: both readings of a value, as a program and as data.
* `Form.parse`, `Form.parseData`: the form of a value in program position and in data position.

## Design notes

**Both readings at once.**  Which reading of a member is wanted depends on the shape around it, so
every value is read both ways in one pass from the inside out, and the shape picks.

**Literals.**  Data without any form inside is one literal, however large: it evaluates to itself
without being rebuilt.  A quoted value is kept apart from such data, because an array that holds a
quote is not literal.
-/

namespace ToolWeave

/-- The shapes of objects that are forms. -/
inductive Shape where
  | reference
  | call
  | sequence
  | binding
  | definition
  | quote
  deriving DecidableEq

namespace Shape

/-- All shapes. -/
def all : List Shape := [reference, call, sequence, binding, definition, quote]

/-- The field that gives a shape its name. -/
def tag : Shape → String
  | reference => "$"
  | call => "call"
  | sequence => "do"
  | binding => "let"
  | definition => "define"
  | quote => "quote"

/-- The fields a shape must have. -/
def required : Shape → List String
  | reference => ["$"]
  | call => ["call"]
  | sequence => ["do"]
  | binding => ["let", "value", "in"]
  | definition => ["define", "body"]
  | quote => ["quote"]

/-- The fields a shape may have besides. -/
def optional : Shape → List String
  | call => ["input"]
  | definition => ["parameters"]
  | _ => []

/-- Whether an object has all the fields a shape must have and none that it may not have. -/
def hasFields (shape : Shape) (fields : Fields) : Bool :=
  shape.required.all (fun name => Entries.has name fields) &&
  fields.all fun entry => (shape.required ++ shape.optional).contains entry.1

/-- Whether a value is a name: a string that is not empty. -/
def isName : Value → Bool
  | .string s => s != ""
  | _ => false

/-- Whether the content of a field is a name. -/
def isNameField (name : String) (fields : Fields) : Bool :=
  (Entries.get? name fields).any isName

/-- Whether the fields of a shape hold what the shape asks for: names are strings that are not
empty, a sequence is an array, and parameters are an array of names. -/
def hasContents (shape : Shape) (fields : Fields) : Bool :=
  match shape with
  | reference | call | binding => isNameField shape.tag fields
  | sequence =>
    match Entries.get? "do" fields with
    | some (.array _) => true
    | _ => false
  | definition =>
    isNameField "define" fields &&
      match Entries.get? "parameters" fields with
      | none => true
      | some (.array names) => names.all isName
      | some _ => false
  | quote => true

/-- The shape of an object, if its fields are exactly those of a shape and hold what it asks for. -/
def ofFields? (fields : Fields) : Option Shape :=
  all.find? fun shape => shape.hasFields fields && shape.hasContents fields

/-- The shape of a value, if it is a form. -/
def ofValue? : Value → Option Shape
  | .object fields => ofFields? fields
  | _ => none

end Shape

/-- A program whose positions are resolved. -/
inductive Form where
  /-- Data without forms inside, which stands for itself. -/
  | literal (value : Value)
  /-- A value that is not interpreted. -/
  | quote (value : Value)
  | reference (name : String)
  | call (tool : String) (input : Form)
  | sequence (items : List Form)
  | binding (name : String) (value : Form) (body : Form)
  | definition (name : String) (parameters : List String) (body : Value)
  | array (items : List Form)
  | object (fields : List (String × Form))

namespace Form

/-- Whether a form is data that stands for itself. -/
def isLiteral : Form → Bool
  | literal _ => true
  | _ => false

/-- The readings of one value: in program position, and in data position. -/
structure Readings where
  program : Form
  data : Form

/-- A value with one reading in both positions. -/
def Readings.both (form : Form) : Readings := ⟨form, form⟩

/-- The name in a field. -/
def nameIn (field : String) (fields : Fields) : String :=
  ((Entries.get? field fields).bind Value.string?).getD ""

/-- The names in a field that holds an array of them. -/
def namesIn (field : String) (fields : Fields) : List String :=
  match Entries.get? field fields with
  | some (.array names) => names.filterMap Value.string?
  | _ => []

/-- The reading in program position of a field; null if there is no such field. -/
def programIn (field : String) (readings : Entries Readings) : Form :=
  match Entries.get? field readings with
  | some reading => reading.program
  | none => literal .null

/-- The reading in data position of a field; null if there is no such field. -/
def dataIn (field : String) (readings : Entries Readings) : Form :=
  match Entries.get? field readings with
  | some reading => reading.data
  | none => literal .null

/-- The form of an object that has a shape, from its fields and their readings. -/
def ofShape (shape : Shape) (fields : Fields) (readings : Entries Readings) : Form :=
  match shape with
  | .reference => reference (nameIn "$" fields)
  | .call => call (nameIn "call" fields) (dataIn "input" readings)
  | .sequence => programIn "do" readings
  | .binding => binding (nameIn "let" fields) (dataIn "value" readings) (programIn "in" readings)
  | .definition =>
    definition (nameIn "define" fields) (namesIn "parameters" fields)
      ((Entries.get? "body" fields).getD .null)
  | .quote => quote ((Entries.get? "quote" fields).getD .null)

/-- The form of an array in data position, from the readings of its items. -/
def ofItems (items : List Value) (readings : List Readings) : Form :=
  if readings.all fun reading => reading.data.isLiteral then literal (.array items)
  else array (readings.map Readings.data)

/-- The form of an object without a shape, from the readings of its fields. -/
def ofContents (fields : Fields) (readings : Entries Readings) : Form :=
  if readings.all fun entry => entry.2.data.isLiteral then literal (.object fields)
  else object (readings.map fun entry => (entry.1, entry.2.data))

mutual

/-- Both readings of a value. -/
def readings : Value → Readings
  | .array items =>
    let rs := itemReadings items
    ⟨sequence (rs.map Readings.program), ofItems items rs⟩
  | .object fields =>
    let rs := fieldReadings fields
    match Shape.ofFields? fields with
    | some shape => .both (ofShape shape fields rs)
    | none => .both (ofContents fields rs)
  | v => .both (literal v)

/-- Both readings of each item. -/
def itemReadings : List Value → List Readings
  | [] => []
  | item :: rest => readings item :: itemReadings rest

/-- Both readings of the content of each field. -/
def fieldReadings : List (String × Value) → List (String × Readings)
  | [] => []
  | (name, content) :: rest => (name, readings content) :: fieldReadings rest

end

/-- The form of a value in program position. -/
def parse (program : Value) : Form := (readings program).program

/-- The form of a value in data position. -/
def parseData (data : Value) : Form := (readings data).data

end Form

/-- Whether a value is no array and holds no form, and so evaluates to itself as a program. -/
def Value.isLiteral (v : Value) : Bool := (Form.parse v).isLiteral

end ToolWeave
