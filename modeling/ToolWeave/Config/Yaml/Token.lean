import ToolWeave.Config.Yaml.Scalar
import ToolWeave.Entries

/-!
# Tokens of an indented text

A text is cut into tokens before its structure is read.  Indentation becomes tokens of its own: one
where a block of items or entries begins, and one where it ends.

## Main definitions

* `Yaml.Token`: what a text is cut into.
* `Yaml.Lexer`: a text of which some tokens have been cut off.
* `Yaml.tokens`: all tokens of a text.

## Design notes

**Keys.**  That something is a key shows only at the colon after it.  So the lexer remembers, for
each level of brackets, where a key may have started last; when a colon comes, the token that says
so goes there.  A key stands on one line and is no longer than 1024 characters.

**Faults.**  A text that goes wrong somewhere still has the tokens before that place.  The fault is
then the last token, so that it counts only if nothing is wrong with those before it.
-/

namespace ToolWeave

namespace Yaml

/-- What a line that begins with a percent sign says about the document after it. -/
inductive Directive where
  /-- The version of the notation. -/
  | version (major : Nat)
  /-- What the handle of a tag stands for. -/
  | handle (name text : String)
  | other

/-- What a text is cut into. -/
inductive Token where
  | directive (content : Directive)
  | documentStart
  | documentEnd
  | itemsStart
  | entriesStart
  /-- The end of items or entries by indentation. -/
  | blockEnd
  | listStart
  | listEnd
  | mapStart
  | mapEnd
  | comma
  | item
  | key
  | value
  /-- The name of something that stands elsewhere. -/
  | reference (name : String)
  /-- A name for what follows. -/
  | anchor (name : String)
  /-- What kind of thing follows: a handle, if there is one, and what is attached to it. -/
  | tag (handle : Option String) (suffix : String)
  | scalar (isPlain : Bool) (text : List Char)
  /-- The place where the text goes wrong. -/
  | fault (cause : Fault)

/-- Where a key may have started. -/
structure KeyStart where
  /-- How many tokens came before. -/
  count : Nat
  /-- Whether nothing else but a key can stand there. -/
  required : Bool
  cursor : Cursor

/-- A text of which some tokens have been cut off. -/
structure Lexer where
  cursor : Cursor
  /-- The tokens so far, the last one first. -/
  tokens : List Token
  /-- How many tokens there are so far. -/
  count : Nat
  /-- The least indentation of what stands in the innermost block: one more than its column, or zero
  if there is none. -/
  margin : Nat
  /-- The margins of the blocks around it, the innermost first. -/
  outer : List Nat
  /-- How many brackets are open. -/
  depth : Nat
  /-- Whether a key may start here. -/
  keyAllowed : Bool
  /-- Where keys may have started, by the number of brackets that were open. -/
  keys : List (Nat × KeyStart)

/-- A step of a lexer. -/
abbrev Lexing : Type := Except Fault Lexer

namespace Lexer

/-- The lexer before a text. -/
def start (text : List Char) : Lexer where
  cursor := .start text
  tokens := []
  count := 0
  margin := 0
  outer := []
  depth := 0
  keyAllowed := true
  keys := []

/-- Adds a token. -/
def push (l : Lexer) (t : Token) : Lexer := { l with tokens := t :: l.tokens, count := l.count + 1 }

/-- Adds a token in the place after so many tokens. -/
def insert (l : Lexer) (place : Nat) (t : Token) : Lexer :=
  let later := l.count - place
  { l with tokens := l.tokens.take later ++ t :: l.tokens.drop later, count := l.count + 1 }

/-- The lexer at another place of the text. -/
def moveTo (l : Lexer) (c : Cursor) : Lexer := { l with cursor := c }

/-- Adds a token and goes on by so many characters. -/
def take (l : Lexer) (length : Nat) (t : Token) : Lexer :=
  (l.push t).moveTo (l.cursor.advanceBy length)

/-! ### Keys -/

/-- Forgets where a key may have started at this level of brackets. -/
def forgetKey (l : Lexer) : Lexing :=
  match Entries.get? l.depth l.keys with
  | some start => if start.required then .error .malformed
    else .ok { l with keys := Entries.erase l.depth l.keys }
  | none => .ok l

/-- Remembers that a key may start here, if one may. -/
def markKey (l : Lexer) : Lexing :=
  if l.keyAllowed then do
    let required := l.depth == 0 && l.margin == l.cursor.column + 1
    let l ← l.forgetKey
    return { l with keys := Entries.put l.depth ⟨l.count, required, l.cursor⟩ l.keys }
  else .ok l

/-- Forgets all places from which a key would reach over the end of a line or be too long. -/
def forgetStale (l : Lexer) : Lexing :=
  let isStale (start : KeyStart) : Bool :=
    start.cursor.line != l.cursor.line || start.cursor.index + 1024 < l.cursor.index
  if l.keys.any fun entry => isStale entry.2 && entry.2.required then .error .malformed
  else .ok { l with keys := l.keys.filter fun entry => !isStale entry.2 }

/-- Says whether a key may start here. -/
def allowKey (l : Lexer) (allowed : Bool) : Lexer := { l with keyAllowed := allowed }

/-! ### Indentation -/

/-- Ends blocks while the margin is greater than a bound. -/
def unwindTo (bound : Nat) : (outer : List Nat) → Lexer → Lexer
  | [], l => { l with outer := [] }
  | before :: outer, l =>
    if bound < l.margin then unwindTo bound outer { l.push .blockEnd with margin := before }
    else { l with outer := before :: outer }

/-- Ends the blocks that something at a column is not part of.  Inside brackets columns do not
matter. -/
def unwind (l : Lexer) (column : Nat) : Lexer :=
  if l.depth = 0 then unwindTo (column + 1) l.outer l else l

/-- Ends all blocks. -/
def unwindAll (l : Lexer) : Lexer := if l.depth = 0 then unwindTo 0 l.outer l else l

/-- Begins a block at a column if it is deeper than the one around it; its token goes to a place. -/
def indent (l : Lexer) (column place : Nat) (t : Token) : Lexer :=
  if l.margin < column + 1 then
    { l.insert place t with margin := column + 1, outer := l.margin :: l.outer }
  else l

/-! ### Tokens -/

/-- Begins a list or a mapping in brackets. -/
def openBracket (l : Lexer) (t : Token) : Lexing := do
  let l ← l.markKey
  return { (l.take 1 t).allowKey true with depth := l.depth + 1 }

/-- Ends a list or a mapping in brackets. -/
def closeBracket (l : Lexer) (t : Token) : Lexing := do
  if l.depth = 0 then throw .malformed
  let l ← l.forgetKey
  return { (l.take 1 t).allowKey false with depth := l.depth - 1 }

/-- Takes a comma. -/
def takeComma (l : Lexer) : Lexing := do return ((← l.forgetKey).take 1 .comma).allowKey true

/-- Takes the mark of an item.  Outside of brackets it may begin a block of items. -/
def takeItem (l : Lexer) : Lexing := do
  if l.depth = 0 && !l.keyAllowed then throw .malformed
  let l := if l.depth = 0 then l.indent l.cursor.column l.count .itemsStart else l
  return ((← l.forgetKey).take 1 .item).allowKey true

/-- Takes the mark of a key.  Outside of brackets it may begin a block of entries. -/
def takeKey (l : Lexer) : Lexing := do
  if l.depth = 0 && !l.keyAllowed then throw .malformed
  let l := if l.depth = 0 then l.indent l.cursor.column l.count .entriesStart else l
  return ((← l.forgetKey).take 1 .key).allowKey (l.depth == 0)

/-- Takes the mark of a value.  What came before it was a key if one may have started. -/
def takeValue (l : Lexer) : Lexing := do
  match Entries.get? l.depth l.keys with
  | some start =>
    let l := { l with keys := Entries.erase l.depth l.keys }
    let l := l.insert start.count .key
    let l := if l.depth = 0 then l.indent start.cursor.column start.count .entriesStart else l
    return (l.allowKey false).take 1 .value
  | none =>
    if l.depth = 0 && !l.keyAllowed then throw .malformed
    let l := if l.depth = 0 then l.indent l.cursor.column l.count .entriesStart else l
    return ((← l.forgetKey).allowKey (l.depth == 0)).take 1 .value

/-- Whether a character may be in a name. -/
def isNameChar (c : Char) : Bool := c.isAlphanum || c == '-' || c == '_'

/-- Takes the name of an anchor, or one that refers to it. -/
def takeName (l : Lexer) (token : String → Token) : Lexing := do
  let l ← l.markKey
  let (name, c) := l.cursor.advance.takeWhile isNameChar
  if name.isEmpty then throw .malformed
  if !(endsPart c.next? || c.next?.any "?:,]\x7d%@\x60".toList.contains) then throw .malformed
  return ((l.push (token (String.ofList name))).allowKey false).moveTo c

/-- Whether a character may be in the suffix of a tag. -/
def isSuffixChar (c : Char) : Bool := c.isAlphanum || "-;/?:@&=+$,_.!~*'()[]".toList.contains c

/-- The bytes that percent signs with two hexadecimal digits stand for. -/
def codedBytes : (bound : Nat) → Cursor → Except Fault (List UInt8 × Cursor)
  | 0, _ => .error .malformed
  | bound + 1, c =>
    match c.rest with
    | '%' :: a :: b :: _ => do
      match Number.natIn? 16 [a, b] with
      | none => throw .malformed
      | some code =>
        let (more, c) ← codedBytes bound (c.advanceBy 3)
        return (UInt8.ofNat code :: more, c)
    | '%' :: _ => .error .malformed
    | _ => .ok ([], c)

/-- The suffix of a tag at the front, which is not empty. -/
def readSuffix : (bound : Nat) → (read : List Char) → Cursor → Except Fault (String × Cursor)
  | 0, _, _ => .error .malformed
  | bound + 1, read, c => do
    let (plain, c) := c.takeWhile isSuffixChar
    let read := read ++ plain
    if c.next? == some '%' then
      let (coded, c) ← codedBytes (c.rest.length + 1) c
      match Utf8.decode coded with
      | .ok chars => readSuffix bound (read ++ chars) c
      | .error _ => throw .malformed
    else if read.isEmpty then throw .malformed
    else return (String.ofList read, c)

/-- The handle of a tag at the front: an exclamation mark, or a name between two of them. -/
def readHandle (c : Cursor) : Except Fault (String × Cursor) := do
  if c.next? != some '!' then throw .malformed
  let (name, after) := c.advance.takeWhile isNameChar
  if name.isEmpty && after.next? == some ' ' then return ("!", after)
  if after.next? != some '!' then throw .malformed
  return ("!" ++ String.ofList name ++ "!", after.advance)

/-- The tag at the front: its handle, if it has one, and its suffix. -/
def readTag (c : Cursor) : Except Fault ((Option String × String) × Cursor) := do
  let bound := c.rest.length + 1
  match c.ahead? 1 with
  | some '<' =>
    let (suffix, c) ← readSuffix bound [] (c.advanceBy 2)
    if c.next? != some '>' then throw .malformed
    return ((none, suffix), c.advance)
  | next =>
    if endsPart next then return ((none, "!"), c.advance)
    let rest := c.advance.rest.takeWhile fun x => !(x == ' ' || isBreak x)
    let (handle, c) ← if rest.contains '!' then readHandle c else pure ("!", c.advance)
    let (suffix, c) ← readSuffix bound [] c
    return ((some handle, suffix), c)

/-- Takes a tag. -/
def takeTag (l : Lexer) : Lexing := do
  let l ← l.markKey
  let ((handle, suffix), c) ← readTag l.cursor
  if !(c.next? == some ' ' || endsLine c.next?) then throw .malformed
  return ((l.push (.tag handle suffix)).allowKey false).moveTo c

/-- Takes a block of lines. -/
def takeBlock (l : Lexer) : Lexing := do
  let l ← (l.allowKey true).forgetKey
  let (text, c) ← readBlock l.margin l.cursor
  return (l.push (.scalar false text)).moveTo c

/-- Takes a scalar in quotes. -/
def takeQuoted (l : Lexer) (double : Bool) : Lexing := do
  let l ← l.markKey
  let (text, c) ← readQuoted double l.cursor
  return ((l.push (.scalar false text)).allowKey false).moveTo c

/-- Takes a plain scalar. -/
def takePlain (l : Lexer) : Lexing := do
  let l ← l.markKey
  let plain := readPlain (l.depth != 0) l.margin l.cursor
  return ((l.push (.scalar true plain.text)).allowKey plain.broken).moveTo plain.cursor

/-- Takes the mark that begins or ends a document. -/
def takeMark (l : Lexer) (t : Token) : Lexing := do
  return (((← l.unwindAll.forgetKey).allowKey false).take 3 t)

/-- The directive after a percent sign. -/
def readDirective (c : Cursor) : Except Fault (Directive × Cursor) := do
  let isSpace (x : Char) : Bool := x == ' '
  let endsWord (c : Cursor) : Bool := c.next? == some ' ' || endsLine c.next?
  let (name, c) := c.takeWhile isNameChar
  if name.isEmpty || !endsWord c then throw .malformed
  match String.ofList name with
  | "YAML" =>
    let (major, c) := (c.skip isSpace).takeWhile Char.isDigit
    let (minor, after) := c.advance.takeWhile Char.isDigit
    if major.isEmpty || c.next? != some '.' || minor.isEmpty || !endsWord after then
      throw .malformed
    return (.version (Number.natOfDigits major), after)
  | "TAG" =>
    let (handle, c) ← readHandle (c.skip isSpace)
    if c.next? != some ' ' then throw .malformed
    let c := c.skip isSpace
    let (text, c) ← readSuffix (c.rest.length + 1) [] c
    if !endsWord c then throw .malformed
    return (.handle handle text, c)
  | _ => return (.other, c.skip fun x => !isBreak x)

/-- Takes a line that begins with a percent sign. -/
def takeDirective (l : Lexer) : Lexing := do
  let l ← l.unwindAll.forgetKey
  let (directive, c) ← readDirective l.cursor.advance
  let c := c.skipComment
  if !endsLine c.next? then throw .malformed
  let c := (c.lineBreak?.map Prod.snd).getD c
  return ((l.push (.directive directive)).allowKey false).moveTo c

/-- Goes on to the next token, over spaces, comments and ends of lines. -/
def toNext : (bound : Nat) → Lexer → Lexer
  | 0, l => l
  | bound + 1, l =>
    let c := l.cursor.skipComment
    match c.lineBreak? with
    | some (_, c) =>
      toNext bound { l with cursor := c, keyAllowed := l.keyAllowed || l.depth == 0 }
    | none => { l with cursor := c }

/-- Takes the token that some character begins, the lexer being there. -/
def takeToken (l : Lexer) (x : Char) : Lexing :=
  let next := l.cursor.ahead? 1
  let isLineStart := l.cursor.column = 0
  if x = '%' && isLineStart then l.takeDirective
  else if isLineStart && l.cursor.isMark '-' then l.takeMark .documentStart
  else if isLineStart && l.cursor.isMark '.' then l.takeMark .documentEnd
  else
    match x with
    | '[' => l.openBracket .listStart
    | '\x7b' => l.openBracket .mapStart
    | ']' => l.closeBracket .listEnd
    | '\x7d' => l.closeBracket .mapEnd
    | ',' => l.takeComma
    | '*' => l.takeName .reference
    | '&' => l.takeName .anchor
    | '!' => l.takeTag
    | '\'' => l.takeQuoted false
    | '"' => l.takeQuoted true
    | _ =>
      if x = '-' && endsPart next then l.takeItem
      else if x = '?' && (l.depth ≠ 0 || endsPart next) then l.takeKey
      else if x = ':' && (l.depth ≠ 0 || endsPart next) then l.takeValue
      else if (x = '|' || x = '>') && l.depth = 0 then l.takeBlock
      else if startsPlain (l.depth ≠ 0) l.cursor then l.takePlain
      else .error .malformed

/-- Takes the next token, if there is one. -/
def step (l : Lexer) : Except Fault (Lexer × Bool) := do
  let l ← (toNext (l.cursor.rest.length + 1) l).forgetStale
  match l.cursor.next? with
  | none => return (← l.unwindAll.forgetKey, false)
  | some x => return (← (l.unwind l.cursor.column).takeToken x, true)

/-- Takes all tokens. -/
def run : (bound : Nat) → Lexer → List Token
  | 0, l => l.tokens.reverse
  | bound + 1, l =>
    match l.step with
    | .error cause => (.fault cause :: l.tokens).reverse
    | .ok (l, true) => run bound l
    | .ok (l, false) => l.tokens.reverse

end Lexer

/-- The tokens of a text. -/
def tokens (text : List Char) : List Token := Lexer.run (text.length + 1) (.start text)

end Yaml

end ToolWeave
