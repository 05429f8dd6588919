import ToolWeave.Value.Basic
import ToolWeave.Text.Printable

/-!
# Display text of values

Messages show values in a form for people, which is not JSON: `None`, `True` and `False`, lists in
brackets, and strings in single quotes unless the string stands alone.

## Main definitions

* `Value.quoted`: the display text of a value inside another one; strings are quoted.
* `Value.display`: the display text of a value that stands alone; a string is itself.
-/

namespace ToolWeave

namespace Text

/-- A number in lower-case hexadecimal, filled up with zeros to a width. -/
def hex (width : Nat) (n : Nat) : List Char :=
  let digits := Nat.toDigits 16 n
  List.replicate (width - digits.length) '0' ++ digits

/-- The quote that encloses a string: single, unless the string holds single quotes and no double
ones. -/
def quoteFor (cs : List Char) : Char :=
  if cs.contains '\'' && !cs.contains '"' then '"' else '\''

/-- A character inside quotes.  The backslash and the quote are escaped, and so is every character
that is not printable: by a letter, or by its code point. -/
def quotedChar (quote : Char) (c : Char) : List Char :=
  if c = '\\' then ['\\', '\\']
  else if c = quote then ['\\', c]
  else if c = '\n' then ['\\', 'n']
  else if c = '\r' then ['\\', 'r']
  else if c = '\t' then ['\\', 't']
  else if isPrintable c then [c]
  else if c.toNat < 0x100 then '\\' :: 'x' :: hex 2 c.toNat
  else if c.toNat < 0x10000 then '\\' :: 'u' :: hex 4 c.toNat
  else '\\' :: 'U' :: hex 8 c.toNat

/-- A string in quotes. -/
def quoted (s : String) : String :=
  let cs := s.toList
  let quote := quoteFor cs
  String.ofList (quote :: cs.flatMap (quotedChar quote) ++ [quote])

end Text

namespace Value

/-- The display text of a number. -/
def numberText : Number → String
  | .int i => toString i
  | .double d => d.text

mutual

/-- The display text of a value inside another one. -/
def quoted : Value → String
  | null => "None"
  | bool true => "True"
  | bool false => "False"
  | number n => numberText n
  | string s => Text.quoted s
  | array items => "[" ++ String.intercalate ", " (quotedItems items) ++ "]"
  | object fields => "\x7b" ++ String.intercalate ", " (quotedFields fields) ++ "\x7d"

/-- The display texts of items. -/
def quotedItems : List Value → List String
  | [] => []
  | item :: rest => item.quoted :: quotedItems rest

/-- The display texts of fields. -/
def quotedFields : List (String × Value) → List String
  | [] => []
  | (name, content) :: rest =>
    (Text.quoted name ++ ": " ++ content.quoted) :: quotedFields rest

end

/-- The display text of a value that stands alone. -/
def display : Value → String
  | string s => s
  | v => v.quoted

end Value

end ToolWeave
