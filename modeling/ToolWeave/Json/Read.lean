import ToolWeave.Number.Spelling
import ToolWeave.Value.Basic

/-!
# Reading JSON

A reader takes the characters that are left and gives back a result together with the characters
after it, or says what is wrong and where.

## Main definitions

* `Json.Fault`: what is wrong with a text, `Json.Fault.message` its wording.
* `Json.readString`, `Json.readNumber`: the readers of strings and numbers.
* `Json.readItems`, `Json.readFields`: the readers of arrays and objects over a reader of values.
* `Json.readValue`: the reader of values nested at most so many levels.
* `Json.readText`: a whole text, which is one value with blanks around it.

## Design notes

**Places.**  A fault names its place by the number of characters that are left there, which every
reader has at hand; `Json.readText` turns it into an offset, a line and a column.

**Levels.**  `readValue` recurses on the number of levels still allowed and hands the reader of one
level less to the readers of arrays and objects.  These loop over the text, one turn for each comma,
so the length of the whole text bounds the turns; it is taken once and handed on.
-/

namespace ToolWeave

namespace Json

/-- What is wrong at a place of a text. -/
inductive Complaint where
  | byteOrderMark
  | value
  | extraData
  | unterminated
  | control
  | escape
  | codePoint
  | comma
  | colon
  | name
  deriving DecidableEq

/-- The wording of a complaint. -/
def Complaint.message : Complaint → String
  | byteOrderMark => "Unexpected UTF-8 BOM (decode using utf-8-sig)"
  | value => "Expecting value"
  | extraData => "Extra data"
  | unterminated => "Unterminated string starting at"
  | control => "Invalid control character at"
  | escape => "Invalid \\escape"
  | codePoint => "Invalid \\uXXXX escape"
  | comma => "Expecting ',' delimiter"
  | colon => "Expecting ':' delimiter"
  | name => "Expecting property name enclosed in double quotes"

/-- Why a text is not read. -/
inductive Fault where
  /-- Something is wrong at the place where `left` characters are left. -/
  | at (complaint : Complaint) (left : Nat)
  /-- A name of a number that is not finite, where such names are refused. -/
  | constant (name : String)
  /-- An integer with too many digits. -/
  | longInteger (digits : Nat)
  /-- Arrays and objects are nested too deeply. -/
  | tooDeep
  deriving DecidableEq

/-- What a reader gives: a result and the characters after it, or a fault. -/
abbrev Reading (α : Type) : Type := Except Fault (α × List Char)

/-- The most levels of arrays and objects inside each other that are read. -/
def nestingLimit : Nat := 4096

/-- Whether a character may stand between the parts of a text. -/
def isSpace (c : Char) : Bool := c == ' ' || c == '\t' || c == '\n' || c == '\r'

/-- The characters after the space at the front. -/
def skip (cs : List Char) : List Char := cs.dropWhile isSpace

/-- The value of a hexadecimal digit. -/
def hexDigit? (c : Char) : Option Nat :=
  if '0' ≤ c ∧ c ≤ '9' then some (c.toNat - 48)
  else if 'a' ≤ c ∧ c ≤ 'f' then some (c.toNat - 87)
  else if 'A' ≤ c ∧ c ≤ 'F' then some (c.toNat - 55)
  else none

/-- The code unit that four hexadecimal digits spell. -/
def codeUnit? (a b c d : Char) : Option Nat := do
  let a ← hexDigit? a
  let b ← hexDigit? b
  let c ← hexDigit? c
  let d ← hexDigit? d
  return ((a * 16 + b) * 16 + c) * 16 + d

/-- The character that a backslash and a letter stand for. -/
def unescape? : Char → Option Char
  | '"' => some '"'
  | '\\' => some '\\'
  | '/' => some '/'
  | 'b' => some '\x08'
  | 'f' => some '\x0c'
  | 'n' => some '\n'
  | 'r' => some '\r'
  | 't' => some '\t'
  | _ => none

/-- Whether a code unit is the first half of a surrogate pair. -/
def isHighHalf (unit : Nat) : Bool := decide (0xD800 ≤ unit) && decide (unit ≤ 0xDBFF)

/-- Whether a code unit is the second half of a surrogate pair. -/
def isLowHalf (unit : Nat) : Bool := decide (0xDC00 ≤ unit) && decide (unit ≤ 0xDFFF)

/-- The character of a surrogate pair. -/
def joinHalves (high low : Nat) : Char :=
  Char.ofNat (0x10000 + (high - 0xD800) * 0x400 + (low - 0xDC00))

/-- The character of a code unit; half of a pair that stands alone gives the replacement
character. -/
def ofCodeUnit (unit : Nat) : Char :=
  if isHighHalf unit || isLowHalf unit then '\uFFFD' else Char.ofNat unit

/-- Reads the rest of a string after its opening quote.  `start` holds the characters left at that
quote, and `read` those read so far, the last one first.

An escape by code point needs four hexadecimal digits and one more character after them. -/
def readString (start : List Char) : (read : List Char) → List Char → Reading (List Char)
  | _, [] => .error (.at .unterminated start.length)
  | read, '"' :: rest => .ok (read.reverse, rest)
  | _, ['\\'] => .error (.at .unterminated start.length)
  | read, '\\' :: 'u' :: a :: b :: c :: d :: '\\' :: 'u' :: e :: f :: g :: h :: next :: rest =>
    match codeUnit? a b c d with
    | none => .error (.at .codePoint (rest.length + 12))
    | some high =>
      if isHighHalf high then
        match codeUnit? e f g h with
        | none => .error (.at .codePoint (rest.length + 6))
        | some low =>
          if isLowHalf low then readString start (joinHalves high low :: read) (next :: rest)
          else
            readString start (ofCodeUnit high :: read)
              ('\\' :: 'u' :: e :: f :: g :: h :: next :: rest)
      else
        readString start (ofCodeUnit high :: read)
          ('\\' :: 'u' :: e :: f :: g :: h :: next :: rest)
  | read, '\\' :: 'u' :: a :: b :: c :: d :: next :: rest =>
    match codeUnit? a b c d with
    | none => .error (.at .codePoint (rest.length + 6))
    | some unit => readString start (ofCodeUnit unit :: read) (next :: rest)
  | _, '\\' :: 'u' :: rest => .error (.at .codePoint (rest.length + 1))
  | read, '\\' :: c :: rest =>
    match unescape? c with
    | some plain => readString start (plain :: read) rest
    | none => .error (.at .escape (rest.length + 2))
  | read, c :: rest =>
    if c.toNat < 32 then .error (.at .control (rest.length + 1))
    else readString start (c :: read) rest

/-- The digits at the front and the characters after them. -/
def spanDigits (cs : List Char) : List Char × List Char :=
  (cs.takeWhile Char.isDigit, cs.dropWhile Char.isDigit)

/-- The digits of the whole part at the front, if there is one: a zero alone, or digits that do not
start with zero. -/
def wholePart? : List Char → Option (List Char × List Char)
  | '0' :: rest => some (['0'], rest)
  | c :: rest => if c.isDigit then some (spanDigits (c :: rest)) else none
  | [] => none

/-- The digits of the fraction at the front, none if there is no fraction. -/
def fractionPart (cs : List Char) : List Char × List Char :=
  match cs with
  | '.' :: rest => if (spanDigits rest).1.isEmpty then ([], cs) else spanDigits rest
  | _ => ([], cs)

/-- The exponent after its letter and sign, if it has digits. -/
def exponentDigits? (negative : Bool) (cs : List Char) : Option (Int × List Char) :=
  let (digits, rest) := spanDigits cs
  if digits.isEmpty then none
  else
    let value : Int := Number.natOfDigits digits
    some (if negative then -value else value, rest)

/-- The exponent at the front, if there is one. -/
def exponentPart? : List Char → Option (Int × List Char)
  | 'e' :: rest | 'E' :: rest =>
    match rest with
    | '-' :: rest => exponentDigits? true rest
    | '+' :: rest => exponentDigits? false rest
    | _ => exponentDigits? false rest
  | _ => none

/-- An integer from its sign and digits. -/
def integerOf (negative : Bool) (digits : List Char) : Int :=
  let value : Int := Number.natOfDigits digits
  if negative then -value else value

/-- Reads a number without its sign: the longest prefix that is one.  Without fraction and exponent
it is an integer, which may have 4300 digits; otherwise it is the nearest double. -/
def readMagnitude? (negative : Bool) (cs : List Char) : Option (Reading Number) :=
  (wholePart? cs).map fun (whole, rest) =>
    let (fraction, rest) := fractionPart rest
    match exponentPart? rest with
    | some (exponent, rest) =>
      .ok (.double (Double.ofDecimal negative (Number.natOfDigits (whole ++ fraction))
        (exponent - fraction.length)), rest)
    | none =>
      if fraction.isEmpty then
        if 4300 < whole.length then .error (.longInteger whole.length)
        else .ok (.int (integerOf negative whole), rest)
      else
        .ok (.double (Double.ofDecimal negative (Number.natOfDigits (whole ++ fraction))
          (-fraction.length)), rest)

/-- Which names of numbers that are not finite are read as values: none, or all of them. -/
inductive Dialect where
  | strict
  | lenient
  deriving DecidableEq

/-- What a name of a number that is not finite gives. -/
def Dialect.constant (dialect : Dialect) (name : String) (d : Double) (rest : List Char) :
    Reading Value :=
  match dialect with
  | .strict => .error (.constant name)
  | .lenient => .ok (.double d, rest)

/-- Reads a number with its sign; anything else at the front is no value. -/
def readNumber (cs : List Char) : Reading Value :=
  let found : Option (Reading Number) :=
    match cs with
    | '-' :: rest => readMagnitude? true rest
    | _ => readMagnitude? false cs
  match found with
  | some (.ok (n, rest)) => .ok (.number n, rest)
  | some (.error fault) => .error fault
  | none => .error (.at .value cs.length)

/-- Reads the items of an array from the place where the next one should be, up to its end.
`read` holds the items read so far, the last one first. -/
def readItems (item : List Char → Reading Value) :
    (turns : Nat) → (read : List Value) → List Char → Reading (List Value)
  | 0, _, cs => .error (.at .value cs.length)
  | turns + 1, read, cs =>
    match item cs with
    | .error fault => .error fault
    | .ok (v, rest) =>
      match skip rest with
      | ',' :: rest => readItems item turns (v :: read) (skip rest)
      | ']' :: rest => .ok ((v :: read).reverse, rest)
      | rest => .error (.at .comma rest.length)

/-- Reads an array after its opening bracket. -/
def readArray (item : List Char → Reading Value) (turns : Nat) (cs : List Char) : Reading Value :=
  match skip cs with
  | ']' :: rest => .ok (.array [], rest)
  | rest =>
    match readItems item turns [] rest with
    | .error fault => .error fault
    | .ok (items, rest) => .ok (.array items, rest)

/-- Reads the fields of an object from the place where the next name should be, up to its end.
A name that comes again keeps its place and takes the new content. -/
def readFields (content : List Char → Reading Value) :
    (turns : Nat) → (read : Fields) → List Char → Reading Fields
  | turns + 1, read, '"' :: cs =>
    match readString ('"' :: cs) [] cs with
    | .error fault => .error fault
    | .ok (name, rest) =>
      match skip rest with
      | ':' :: rest =>
        match content (skip rest) with
        | .error fault => .error fault
        | .ok (v, rest) =>
          let read := Entries.put (String.ofList name) v read
          match skip rest with
          | ',' :: rest => readFields content turns read (skip rest)
          | '\x7d' :: rest => .ok (read, rest)
          | rest => .error (.at .comma rest.length)
      | rest => .error (.at .colon rest.length)
  | _, _, cs => .error (.at .name cs.length)

/-- Reads an object after its opening brace. -/
def readObject (content : List Char → Reading Value) (turns : Nat) (cs : List Char) :
    Reading Value :=
  match skip cs with
  | '\x7d' :: rest => .ok (.object [], rest)
  | rest =>
    match readFields content turns [] rest with
    | .error fault => .error fault
    | .ok (fields, rest) => .ok (.object fields, rest)

/-- Reads a value that starts at the front, given the reader of the values inside it, if one more
level is allowed, and a bound on the number of values side by side. -/
def readWith (dialect : Dialect) (turns : Nat) (inner : Option (List Char → Reading Value))
    (cs : List Char) : Reading Value :=
  match cs with
  | '"' :: rest =>
    match readString cs [] rest with
    | .error fault => .error fault
    | .ok (chars, rest) => .ok (.string (String.ofList chars), rest)
  | '[' :: rest =>
    match inner with
    | none => .error .tooDeep
    | some item => readArray item turns rest
  | '\x7b' :: rest =>
    match inner with
    | none => .error .tooDeep
    | some content => readObject content turns rest
  | 'n' :: 'u' :: 'l' :: 'l' :: rest => .ok (.null, rest)
  | 't' :: 'r' :: 'u' :: 'e' :: rest => .ok (.bool true, rest)
  | 'f' :: 'a' :: 'l' :: 's' :: 'e' :: rest => .ok (.bool false, rest)
  | 'N' :: 'a' :: 'N' :: rest => dialect.constant "NaN" .nan rest
  | 'I' :: 'n' :: 'f' :: 'i' :: 'n' :: 'i' :: 't' :: 'y' :: rest =>
    dialect.constant "Infinity" (.infinite false) rest
  | '-' :: 'I' :: 'n' :: 'f' :: 'i' :: 'n' :: 'i' :: 't' :: 'y' :: rest =>
    dialect.constant "-Infinity" (.infinite true) rest
  | _ => readNumber cs

/-- Reads a value that starts at the front, with at most `levels` arrays and objects inside each
other. -/
def readValue (dialect : Dialect) (turns : Nat) : (levels : Nat) → List Char → Reading Value
  | 0 => readWith dialect turns none
  | levels + 1 => readWith dialect turns (some (readValue dialect turns levels))

/-- Reads a whole text: one value, with space around it. -/
def readChars (dialect : Dialect) (cs : List Char) : Except Fault Value :=
  match cs with
  | '\uFEFF' :: _ => .error (.at .byteOrderMark cs.length)
  | _ =>
    match readValue dialect cs.length nestingLimit (skip cs) with
    | .error fault => .error fault
    | .ok (v, rest) =>
      match skip rest with
      | [] => .ok v
      | rest => .error (.at .extraData rest.length)

/-- Reads a whole text: one value, with space around it. -/
def readText (dialect : Dialect) (text : String) : Except Fault Value :=
  readChars dialect text.toList

/-- A place of a text in words: its line, its column and its offset. -/
def placeText (cs : List Char) (left : Nat) : String :=
  let offset := cs.length - left
  let before := cs.take offset
  let line := before.count '\n' + 1
  let column := (before.reverse.takeWhile (· ≠ '\n')).length + 1
  s!"line {line} column {column} (char {offset})"

/-- The wording of a fault of a text. -/
def Fault.message (text : String) : Fault → String
  | .at complaint left => complaint.message ++ ": " ++ placeText text.toList left
  | .constant name => name ++ " is not a valid JSON number"
  | .longInteger digits =>
    s!"Exceeds the limit (4300 digits) for integer string conversion: value has {digits} digits; "
      ++ "use sys.set_int_max_str_digits() to increase the limit"
  | .tooDeep => "JSON nested too deeply"

end Json

end ToolWeave
