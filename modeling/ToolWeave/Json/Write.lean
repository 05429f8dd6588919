import ToolWeave.Value.Display

/-!
# Writing JSON

A value is written as JSON text in one of two styles: on one line, or indented by two spaces a
level.  Characters beyond ASCII are written as they are.

## Main definitions

* `Json.Style`: the text between the parts of arrays and objects; `Json.compact`, `Json.indented`.
* `Json.write`: the text of a value put in front of what follows.
* `Json.unwritable?`: the first part of a value that has no JSON text.
* `Json.print`: the text of a value, or why there is none.

## Design notes

**Text in front of text.**  `write style depth v rest` is the text of `v` followed by `rest`.  So
the writer never joins pieces, and a statement about reading can leave what follows arbitrary.
-/

namespace ToolWeave

namespace Json

/-- The most decimal digits an integer may have in JSON text. -/
def digitLimit : Nat := 4300

/-- Why a value has no JSON text. -/
inductive Unwritable where
  /-- A number is infinite or not a number. -/
  | notFinite (number : Double)
  /-- An integer has more digits than `digitLimit`. -/
  | longInteger

/-- The wording of a failure to write on one line. -/
def Unwritable.message : Unwritable → String
  | notFinite _ => "Out of range float values are not JSON compliant"
  | longInteger =>
    "Exceeds the limit (4300 digits) for integer string conversion; " ++
      "use sys.set_int_max_str_digits() to increase the limit"

/-- The wording of a failure to write with indentation, which names the number. -/
def Unwritable.detailedMessage : Unwritable → String
  | notFinite d => (notFinite d).message ++ ": " ++ d.text
  | longInteger => longInteger.message

/-- What is written between the parts of an array or object: before the first part, between two
parts after the comma, and after the last part.  Each depends on how deep the parts are. -/
structure Style where
  opening : (depth : Nat) → List Char
  between : (depth : Nat) → List Char
  closing : (depth : Nat) → List Char

/-- Everything on one line, a space after each comma. -/
def compact : Style := ⟨fun _ => [], fun _ => [' '], fun _ => []⟩

/-- A new line, indented by two spaces a level. -/
def newLine (depth : Nat) : List Char := '\n' :: List.replicate (2 * depth) ' '

/-- Each part on a line of its own. -/
def indented : Style := ⟨fun d => newLine (d + 1), fun d => newLine (d + 1), newLine⟩

/-- A character inside a JSON string.  Only the quote, the backslash and characters below the space
are escaped, by a letter where there is one. -/
def escape (c : Char) : List Char :=
  if c = '"' then ['\\', '"']
  else if c = '\\' then ['\\', '\\']
  else if c = '\n' then ['\\', 'n']
  else if c = '\r' then ['\\', 'r']
  else if c = '\t' then ['\\', 't']
  else if c = '\x08' then ['\\', 'b']
  else if c = '\x0c' then ['\\', 'f']
  else if c.toNat < 32 then '\\' :: 'u' :: Text.hex 4 c.toNat
  else [c]

/-- A string in quotes, followed by `rest`. -/
def writeString (s : String) (rest : List Char) : List Char :=
  '"' :: (s.toList.flatMap escape ++ '"' :: rest)

/-- An integer in decimal. -/
def integerChars (i : Int) : List Char :=
  if i < 0 then '-' :: Nat.toDigits 10 i.natAbs else Nat.toDigits 10 i.natAbs

/-- The text of a number. -/
def numberChars : Number → List Char
  | .int i => integerChars i
  | .double d => d.chars

mutual

/-- The text of a value at a depth, followed by `rest`. -/
def write (style : Style) (depth : Nat) : Value → List Char → List Char
  | .null, rest => 'n' :: 'u' :: 'l' :: 'l' :: rest
  | .bool true, rest => 't' :: 'r' :: 'u' :: 'e' :: rest
  | .bool false, rest => 'f' :: 'a' :: 'l' :: 's' :: 'e' :: rest
  | .number n, rest => numberChars n ++ rest
  | .string s, rest => writeString s rest
  | .array [], rest => '[' :: ']' :: rest
  | .array (item :: items), rest =>
    '[' :: style.opening depth ++ write style (depth + 1) item (writeItems style depth items rest)
  | .object [], rest => '\x7b' :: '\x7d' :: rest
  | .object ((name, content) :: fields), rest =>
    '\x7b' :: style.opening depth ++ writeString name
      (':' :: ' ' :: write style (depth + 1) content (writeFields style depth fields rest))

/-- The items of an array after the first one, up to its end. -/
def writeItems (style : Style) (depth : Nat) : List Value → List Char → List Char
  | [], rest => style.closing depth ++ ']' :: rest
  | item :: items, rest =>
    ',' :: style.between depth ++
      write style (depth + 1) item (writeItems style depth items rest)

/-- The fields of an object after the first one, up to its end. -/
def writeFields (style : Style) (depth : Nat) : List (String × Value) → List Char → List Char
  | [], rest => style.closing depth ++ '\x7d' :: rest
  | (name, content) :: fields, rest =>
    ',' :: style.between depth ++ writeString name
      (':' :: ' ' :: write style (depth + 1) content (writeFields style depth fields rest))

end

/-- Why a number has no JSON text, if it has none. -/
def unwritableNumber? : Number → Option Unwritable
  | .int i => if i.natAbs < Nat.pow 10 digitLimit then none else some .longInteger
  | .double d => if d.isFinite then none else some (.notFinite d)

mutual

/-- The first part of a value, in the order of writing, that has no JSON text. -/
def unwritable? : Value → Option Unwritable
  | .number n => unwritableNumber? n
  | .array items => unwritableItem? items
  | .object fields => unwritableField? fields
  | _ => none

/-- The first part of the items that has no JSON text. -/
def unwritableItem? : List Value → Option Unwritable
  | [] => none
  | item :: items => (unwritable? item).or (unwritableItem? items)

/-- The first part of the fields that has no JSON text. -/
def unwritableField? : List (String × Value) → Option Unwritable
  | [] => none
  | (_, content) :: fields => (unwritable? content).or (unwritableField? fields)

end

/-- The JSON text of a value in a style, whether or not it is JSON. -/
def render (style : Style) (v : Value) : String := String.ofList (write style 0 v [])

/-- The JSON text of a value, or why there is none. -/
def print (style : Style) (v : Value) : Except Unwritable String :=
  match unwritable? v with
  | some cause => .error cause
  | none => .ok (render style v)

/-- The JSON text of a value on one line, or why there is none. -/
def line (v : Value) : Except Unwritable String := print compact v

end Json

end ToolWeave
