/-!
# Places in an indented text

Indentation matters, so a reader has to know not only what is left of a text but also where it is.

## Main definitions

* `Yaml.Cursor`: what is left of a text, and the place it starts at.
* `Yaml.Cursor.advance`, `Yaml.Cursor.takeWhile`: going on in a text.
* `Yaml.Cursor.lineBreak?`: the end of a line at the front.

## Design notes

**Ends of lines.**  A carriage return, a line feed, both, and a next-line character all count as a
line feed.  The separators of lines and of paragraphs end a line too, but stay what they are.
-/

namespace ToolWeave

namespace Yaml

/-- Whether a character ends a line. -/
def isBreak (c : Char) : Bool :=
  c == '\r' || c == '\n' || c == '\u0085' || c == '\u2028' || c == '\u2029'

/-- Whether a character is space within a line. -/
def isGap (c : Char) : Bool := c == ' ' || c == '\t'

/-- Whether nothing or the end of a line comes next. -/
def endsLine : Option Char → Bool
  | none => true
  | some c => isBreak c

/-- Whether nothing, space or the end of a line comes next. -/
def endsPart : Option Char → Bool
  | none => true
  | some c => isGap c || isBreak c

/-- What is left of a text, and the place it starts at. -/
structure Cursor where
  rest : List Char
  /-- How many characters came before. -/
  index : Nat
  /-- How many lines came before. -/
  line : Nat
  /-- How many characters of the line came before. -/
  column : Nat

namespace Cursor

/-- The beginning of a text.  A mark of the byte order in front does not count. -/
def start (text : List Char) : Cursor :=
  match text with
  | '\ufeff' :: rest => ⟨rest, 1, 0, 0⟩
  | rest => ⟨rest, 0, 0, 0⟩

/-- The next character. -/
def next? (c : Cursor) : Option Char := c.rest.head?

/-- The character that comes some characters later. -/
def ahead? (c : Cursor) (distance : Nat) : Option Char := c.rest[distance]?

/-- The cursor one character later. -/
def advance (c : Cursor) : Cursor :=
  match c.rest with
  | [] => c
  | x :: rest =>
    if isBreak x && !(x == '\r' && rest.head? == some '\n') then
      ⟨rest, c.index + 1, c.line + 1, 0⟩
    else ⟨rest, c.index + 1, c.line, if x == '\ufeff' then c.column else c.column + 1⟩

/-- The cursor some characters later. -/
def advanceBy (c : Cursor) : Nat → Cursor
  | 0 => c
  | count + 1 => c.advance.advanceBy count

/-- The characters at the front that satisfy a predicate, and the cursor after them. -/
def takeWhile (c : Cursor) (p : Char → Bool) : List Char × Cursor :=
  let taken := c.rest.takeWhile p
  (taken, c.advanceBy taken.length)

/-- The cursor after the characters at the front that satisfy a predicate. -/
def skip (c : Cursor) (p : Char → Bool) : Cursor := (c.takeWhile p).2

/-- The end of a line at the front, and the cursor after it. -/
def lineBreak? (c : Cursor) : Option (Char × Cursor) :=
  match c.rest with
  | '\r' :: '\n' :: _ => some ('\n', c.advanceBy 2)
  | x :: _ =>
    if x == '\u2028' || x == '\u2029' then some (x, c.advance)
    else if isBreak x then some ('\n', c.advance)
    else none
  | [] => none

/-- Whether three equal characters stand at the front, with nothing more attached to them. -/
def isMark (c : Cursor) (x : Char) : Bool :=
  c.rest.take 3 == [x, x, x] && endsPart (c.ahead? 3)

/-- Whether the mark that begins a document or the one that ends it stands at the front. -/
def isAtMark (c : Cursor) : Bool := c.isMark '-' || c.isMark '.'

/-- The cursor after spaces and a comment. -/
def skipComment (c : Cursor) : Cursor :=
  let c := c.skip (· == ' ')
  if c.next? == some '#' then c.skip fun x => !isBreak x else c

end Cursor

end Yaml

end ToolWeave
