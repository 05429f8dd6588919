import ToolWeave.Config.Yaml.Cursor
import ToolWeave.Failure

/-!
# Scalars as they are written

The four ways to write a scalar: in double quotes, in single quotes, as a block of lines, and plain.

## Main definitions

* `Yaml.Fault`: why a text holds no document.
* `Yaml.readQuoted`: a scalar in quotes.
* `Yaml.readBlock`: a scalar that is a block of lines.
* `Yaml.readPlain`: a plain scalar.

## Design notes

**Folding.**  Where a scalar goes on in the next line, the end of the line counts as a space; if
lines without content lie between, the ends of those stand in its place.

**Tabs.**  A tab is space inside of quotes only.  Elsewhere it belongs to nothing, so that a text in
which one stands between two parts is no document.
-/

namespace ToolWeave

namespace Yaml

/-- Why a text holds no document. -/
inductive Fault where
  /-- It does not keep to the notation. -/
  | malformed
  /-- A scalar stands for nothing. -/
  | senseless (cause : Crash)

/-- What the end of a line and the ends of the empty lines after it count as. -/
def folded (first : Char) (more : List Char) : List Char :=
  if first != '\n' then first :: more else if more.isEmpty then [' '] else more

/-! ### In quotes -/

/-- The character that a backslash and a letter stand for. -/
def escape? : Char → Option Char
  | '0' => some '\x00'
  | 'a' => some '\x07'
  | 'b' => some '\x08'
  | 't' => some '\t'
  | '\t' => some '\t'
  | 'n' => some '\n'
  | 'v' => some '\x0b'
  | 'f' => some '\x0c'
  | 'r' => some '\r'
  | 'e' => some '\x1b'
  | ' ' => some ' '
  | '"' => some '"'
  | '/' => some '/'
  | '\\' => some '\\'
  | 'N' => some '\u0085'
  | '_' => some '\u00a0'
  | 'L' => some '\u2028'
  | 'P' => some '\u2029'
  | _ => none

/-- How many hexadecimal digits follow a backslash and a letter. -/
def escapeWidth? : Char → Option Nat
  | 'x' => some 2
  | 'u' => some 4
  | 'U' => some 8
  | _ => none

/-- The character of a code. -/
def character (code : Nat) : Except Fault Char :=
  if 0x80000000 ≤ code then
    .error (.senseless (.system "OverflowError" "Python int too large to convert to C int"))
  else if 0x110000 ≤ code then
    .error (.senseless (.refused "chr() arg not in range(0x110000)"))
  else .ok (Char.ofNat code)

/-- The ends of lines at the front, space at the beginning of each line left out. -/
def quotedBreaks : (bound : Nat) → (read : List Char) → Cursor → Except Fault (List Char × Cursor)
  | 0, _, _ => .error .malformed
  | bound + 1, read, c =>
    if c.isAtMark then .error .malformed
    else
      let c := c.skip isGap
      match c.lineBreak? with
      | some (x, c) => quotedBreaks bound (read ++ [x]) c
      | none => .ok (read, c)

/-- What the space at the front counts as. -/
def quotedGap (bound : Nat) (c : Cursor) : Except Fault (List Char × Cursor) := do
  let (gap, after) := c.takeWhile isGap
  if after.next? == none then throw .malformed
  match after.lineBreak? with
  | none => return (gap, after)
  | some (first, after) =>
    let (more, after) ← quotedBreaks bound [] after
    return (folded first more, after)

/-- The characters up to space or the closing quote. -/
def quotedPart (double : Bool) : (bound : Nat) → (read : List Char) → Cursor →
    Except Fault (List Char × Cursor)
  | 0, _, _ => .error .malformed
  | bound + 1, read, c => do
    let (plain, c) := c.takeWhile fun x =>
      !(x == '\'' || x == '"' || x == '\\' || isGap x || isBreak x)
    let read := read ++ plain
    match double, c.rest with
    | false, '\'' :: '\'' :: _ => quotedPart double bound (read ++ ['\'']) (c.advanceBy 2)
    | true, '\'' :: _ => quotedPart double bound (read ++ ['\'']) c.advance
    | false, '"' :: _ => quotedPart double bound (read ++ ['"']) c.advance
    | false, '\\' :: _ => quotedPart double bound (read ++ ['\\']) c.advance
    | true, '\\' :: x :: digits =>
      let after := c.advanceBy 2
      match escape? x, escapeWidth? x with
      | some plain, _ => quotedPart double bound (read ++ [plain]) after
      | none, some width =>
        match Number.natIn? 16 (digits.take width) with
        | some code =>
          if digits.length < width then throw .malformed
          quotedPart double bound (read ++ [← character code]) (after.advanceBy width)
        | none => throw .malformed
      | none, none =>
        match c.advance.lineBreak? with
        | some (_, after) =>
          let (more, after) ← quotedBreaks bound [] after
          quotedPart double bound (read ++ more) after
        | none => throw .malformed
    | true, ['\\'] => throw .malformed
    | _, _ => return (read, c)

/-- The parts of a quoted scalar up to its closing quote. -/
def quotedParts (double : Bool) : (bound : Nat) → (read : List Char) → Cursor →
    Except Fault (List Char × Cursor)
  | 0, _, _ => .error .malformed
  | bound + 1, read, c => do
    if c.next? == some (if double then '"' else '\'') then return (read, c.advance)
    let (gap, c) ← quotedGap bound c
    let (part, c) ← quotedPart double bound [] c
    quotedParts double bound (read ++ gap ++ part) c

/-- The quoted scalar at the front. -/
def readQuoted (double : Bool) (c : Cursor) : Except Fault (List Char × Cursor) := do
  let bound := c.rest.length + 1
  let (part, c) ← quotedPart double bound [] c.advance
  quotedParts double bound part c

/-! ### Blocks of lines -/

/-- What becomes of the ends of the last lines of a block. -/
inductive Ending where
  /-- One is kept. -/
  | one
  | none
  | all
  deriving DecidableEq

/-- The marks after the sign of a block: what becomes of its end, and its indentation if that is
given. -/
def blockMarks (c : Cursor) : Except Fault ((Ending × Option Nat) × Cursor) := do
  let ending? (c : Cursor) : Option Ending :=
    match c.next? with
    | some '+' => some .all
    | some '-' => some .none
    | _ => Option.none
  let width? (c : Cursor) : Option Nat :=
    c.next?.bind fun x => if x.isDigit then some (x.toNat - 48) else Option.none
  let step (given : Bool) (c : Cursor) : Cursor := if given then c.advance else c
  let early := ending? c
  let c := step early.isSome c
  let width := width? c
  let c := step width.isSome c
  let late := if early.isSome || width.isNone then Option.none else ending? c
  let c := step late.isSome c
  if width == some 0 then throw .malformed
  if !(c.next? == some ' ' || endsLine c.next?) then throw .malformed
  return (((early.or late).getD .one, width), c)

/-- The empty lines at the front, the width of the widest indentation among them and of the first
line with content. -/
def blockIndentation : (bound : Nat) → (read : List Char) → (widest : Nat) → Cursor →
    List Char × Nat × Cursor
  | 0, read, widest, c => (read, widest, c)
  | bound + 1, read, widest, c =>
    match c.lineBreak? with
    | some (x, c) => blockIndentation bound (read ++ [x]) widest c
    | Option.none =>
      if c.next? == some ' ' then
        blockIndentation bound read (max widest c.advance.column) c.advance
      else (read, widest, c)

/-- The cursor after spaces that belong to an indentation. -/
def skipIndent (indent : Nat) (c : Cursor) : Cursor :=
  c.advanceBy (min (indent - c.column) (c.rest.takeWhile (· == ' ')).length)

/-- The ends of the empty lines at the front. -/
def blockBreaks (indent : Nat) : (bound : Nat) → (read : List Char) → Cursor → List Char × Cursor
  | 0, read, c => (read, c)
  | bound + 1, read, c =>
    let c := skipIndent indent c
    match c.lineBreak? with
    | some (x, c) => blockBreaks indent bound (read ++ [x]) c
    | Option.none => (read, c)

/-- The lines of a block: their characters, the end of the last line, and the ends of the empty
lines after it. -/
structure BlockLines where
  text : List Char
  last : List Char
  empty : List Char
  cursor : Cursor

/-- Whether a line of a block comes next. -/
def BlockLines.goesOn (lines : BlockLines) (indent : Nat) : Bool :=
  lines.cursor.column == indent && lines.cursor.next?.isSome

/-- The lines of a block and those that come next.  Where lines are folded, the end of a line counts
as a space if neither it nor the next one starts with space. -/
def blockLines (isFolded : Bool) (indent : Nat) : (bound : Nat) → BlockLines → BlockLines
  | 0, lines => lines
  | bound + 1, lines =>
    if lines.goesOn indent then
      let solid (c : Cursor) : Bool := !c.next?.any isGap
      let starts := solid lines.cursor
      let (line, c) := lines.cursor.takeWhile fun x => !isBreak x
      let (last, c) : List Char × Cursor :=
        match c.lineBreak? with
        | some (x, c) => ([x], c)
        | Option.none => ([], c)
      let (empty, c) := blockBreaks indent (c.rest.length + 1) [] c
      let text := lines.text ++ lines.empty ++ line
      let after : BlockLines := ⟨text, last, empty, c⟩
      if after.goesOn indent then
        let joint : List Char :=
          if isFolded && last == ['\n'] && starts && solid c then
            if empty.isEmpty then [' '] else []
          else last
        blockLines isFolded indent bound { after with text := text ++ joint }
      else after
    else lines

/-- The block of lines at the front, inside a block whose content is indented by `margin` at
least. -/
def readBlock (margin : Nat) (c : Cursor) : Except Fault (List Char × Cursor) := do
  let isFolded := c.next? == some '>'
  let ((ending, width), c) ← blockMarks c.advance
  let c := c.skipComment
  if !endsLine c.next? then throw .malformed
  let c := (c.lineBreak?.map Prod.snd).getD c
  let bound := c.rest.length + 1
  let least := max margin 1
  let (indent, empty, c) : Nat × List Char × Cursor :=
    match width with
    | some width =>
      let indent := least + width - 1
      (indent, blockBreaks indent bound [] c)
    | Option.none =>
      let (empty, widest, c) := blockIndentation bound [] 0 c
      (max least widest, empty, c)
  let lines := blockLines isFolded indent bound ⟨[], [], empty, c⟩
  let tail : List Char :=
    match ending with
    | .one => lines.last
    | .none => []
    | .all => lines.last ++ lines.empty
  return (lines.text ++ tail, lines.cursor)

/-! ### Plain -/

/-- Whether a character has a meaning inside brackets. -/
def isFlowMark (c : Char) : Bool := ",[]\x7b\x7d".toList.contains c

/-- The characters of a plain scalar up to space: a colon ends it only in front of space, and inside
brackets what has a meaning there ends it too. -/
def plainPart (inFlow : Bool) : List Char → List Char
  | [] => []
  | c :: rest =>
    let isEnd :=
      isGap c || isBreak c || (inFlow && (isFlowMark c || c == '?')) ||
      (c == ':' && (endsPart rest.head? || (inFlow && rest.head?.any isFlowMark)))
    if isEnd then [] else c :: plainPart inFlow rest

/-- The space after a part of a plain scalar. -/
structure PlainGap where
  /-- What it counts as, which is nothing if the scalar ends here. -/
  text : List Char
  cursor : Cursor
  /-- Whether the line has ended. -/
  broken : Bool

/-- The empty lines and the indentation after the end of a line, up to the mark of a document. -/
def plainBreaks : (bound : Nat) → (read : List Char) → Cursor → Option (List Char) × Cursor
  | 0, _, c => (none, c)
  | bound + 1, read, c =>
    if c.next? == some ' ' then plainBreaks bound read c.advance
    else
      match c.lineBreak? with
      | none => (some read, c)
      | some (x, c) =>
        if c.isAtMark then (none, c) else plainBreaks bound (read ++ [x]) c

/-- The space at the front. -/
def plainGap (c : Cursor) : PlainGap :=
  let (gap, after) := c.takeWhile (· == ' ')
  match after.lineBreak? with
  | none => ⟨gap, after, false⟩
  | some (first, after) =>
    if after.isAtMark then ⟨[], after, true⟩
    else
      match plainBreaks (after.rest.length + 1) [] after with
      | (none, after) => ⟨[], after, true⟩
      | (some more, after) => ⟨folded first more, after, true⟩

/-- A plain scalar as it has been read. -/
structure Plain where
  text : List Char
  cursor : Cursor
  /-- Whether its line has ended. -/
  broken : Bool

/-- The parts of a plain scalar.  Outside of brackets, a line that goes on with it is indented by
`margin` at least. -/
def plainParts (inFlow : Bool) (margin : Nat) : (bound : Nat) → (read : List Char) →
    (before : PlainGap) → Plain
  | 0, read, before => ⟨read, before.cursor, before.broken⟩
  | bound + 1, read, before =>
    let ended : Plain := ⟨read, before.cursor, before.broken⟩
    if before.cursor.next? == some '#' then ended
    else
      let part := plainPart inFlow before.cursor.rest
      if part.isEmpty then ended
      else
        let read := read ++ before.text ++ part
        let gap := plainGap (before.cursor.advanceBy part.length)
        let isLast :=
          gap.text.isEmpty || gap.cursor.next? == some '#' ||
          (!inFlow && gap.cursor.column < margin)
        if isLast then ⟨read, gap.cursor, gap.broken⟩ else plainParts inFlow margin bound read gap

/-- The plain scalar at the front. -/
def readPlain (inFlow : Bool) (margin : Nat) (c : Cursor) : Plain :=
  plainParts inFlow margin (c.rest.length + 1) [] ⟨[], c, false⟩

/-- Whether a plain scalar stands at the front: it starts with no mark, or, outside of brackets for
two of them, with one of three marks that nothing separates from what follows. -/
def startsPlain (inFlow : Bool) (c : Cursor) : Bool :=
  match c.rest with
  | [] => false
  | x :: rest =>
    if x == '-' then !endsPart rest.head?
    else if x == '?' || x == ':' then !inFlow && !endsPart rest.head?
    else !(endsPart (some x) || ",[]\x7b\x7d#&*!|>'\"%@\x60".toList.contains x)

end Yaml

end ToolWeave
