import ToolWeave.CommandLine.Emoji
import ToolWeave.CommandLine.Style
import ToolWeave.Text.Word
import ToolWeave.Value.Display

/-!
# Markup in cells

The cells of tables are read as markup: a tag in brackets changes how the text after it looks, and
is itself not shown; the name of an emoji between colons stands for the emoji.

## Main definitions

* `Markup.tag?`: the tag at the front of some characters.
* `Markup.parts`: the texts and tags of a cell.
* `Markup.plain`: the characters of a cell that are shown.

## Design notes

**What is a tag.**  A bracket opens a tag if a small letter, a slash, a number sign or an at sign
follows, and the tag goes up to the next closing bracket, with no opening one in between.  A
backslash in front of a tag takes its meaning away, and two backslashes stand for one.

**Closing.**  A tag that starts with a slash closes the last open tag that describes the same style,
or without a name just the last one.  A tag that starts with an at sign names an action; what it is
called with is looked at when the tag is closed.
-/

namespace ToolWeave

namespace Markup

/-- Why a cell cannot be shown. -/
inductive Fault where
  /-- A closing tag at a position finds no tag to close. -/
  | unmatched (tag : String) (position : Nat)
  | nothingOpen (position : Nat)
  /-- An action is called with something that cannot be read. -/
  | unreadable (call parameters : String) (reason : String)

/-- The wording of a fault. -/
def Fault.message : Fault → String
  | unmatched tag position =>
    s!"closing tag '[{tag}]' at position {position} doesn't match any open tag"
  | nothingOpen position => s!"closing tag '[/]' at position {position} has nothing to close"
  | unreadable call parameters reason =>
    s!"error parsing {Text.quoted call} in {Text.quoted parameters}; {reason}"

/-- A tag: its name, and what stands behind its equals sign if it has one. -/
structure Tag where
  name : String
  parameters : Option String

/-- The tag that stands between brackets. -/
def Tag.ofChars (inside : List Char) : Tag :=
  let name := inside.takeWhile (· != '=')
  ⟨String.ofList name, (inside.drop name.length).tail?.map String.ofList⟩

/-- The inside of a tag as it is written. -/
def Tag.written (tag : Tag) : String :=
  tag.name ++ (tag.parameters.map ("=" ++ ·)).getD ""

/-- Whether a character may come first in a tag. -/
def startsTag (c : Char) : Bool := ('a' ≤ c && c ≤ 'z') || c == '/' || c == '#' || c == '@'

/-- The tag at the front of some characters, without its brackets, and the characters after it. -/
def tag? : List Char → Option (List Char × List Char)
  | '[' :: c :: rest =>
    if startsTag c then
      let inside := rest.takeWhile fun d => d != ']' && d != '['
      match rest.drop inside.length with
      | ']' :: after => some (c :: inside, after)
      | _ => none
    else none
  | _ => none

/-- What a cell consists of. -/
inductive Part where
  | text (chars : List Char)
  | tag (tag : Tag) (position : Nat)

/-- Characters with the brackets after backslashes instead of both. -/
def freeBrackets : List Char → List Char
  | '\\' :: '[' :: rest => '[' :: freeBrackets rest
  | c :: rest => c :: freeBrackets rest
  | [] => []

/-- The parts of some characters, read up to a bound.  `held` holds the text before, its last
character first. -/
def partsFrom : (bound : Nat) → (position : Nat) → (held : List Char) → List Char → List Part
  | 0, _, held, _ => [.text (freeBrackets held.reverse)]
  | _, _, held, [] => [.text (freeBrackets held.reverse)]
  | bound + 1, position, held, c :: rest =>
    let marks := (c :: rest).takeWhile (· == '\\')
    match tag? ((c :: rest).drop marks.length) with
    | some (inside, after) =>
      let half := marks.length / 2
      let place := position + marks.length + inside.length + 2
      let before := [.text (freeBrackets held.reverse), .text (List.replicate half '\\')]
      let this : Part :=
        if marks.length % 2 = 1 then .text ('[' :: inside ++ [']'])
        else .tag (Tag.ofChars inside) (position + 2 * half)
      before ++ this :: partsFrom bound place [] after
    | none =>
      if marks.isEmpty then partsFrom bound (position + 1) (c :: held) rest
      else
        partsFrom bound (position + marks.length) (marks ++ held) ((c :: rest).drop marks.length)

/-- The texts and tags of a cell. -/
def parts (cell : List Char) : List Part := partsFrom (cell.length + 1) 0 [] cell

/-! ### Emoji -/

/-- The name of an emoji and what it is to look like, from what stands between colons. -/
def variant (cs : List Char) : List Char × List Char :=
  let ending (text : String) (mark : Char) : Option (List Char × List Char) :=
    if text.toList.isSuffixOf cs then some (cs.take (cs.length - text.length), [mark]) else none
  ((ending "-emoji" '\ufe0f').or (ending "-text" '\ufe0e')).getD (cs, [])

/-- Characters with the names of emoji between colons replaced, read up to a bound. -/
def replaceEmoji : (bound : Nat) → List Char → List Char
  | 0, cs => cs
  | _, [] => []
  | bound + 1, ':' :: rest =>
    let code := rest.takeWhile fun c => c != ':' && !Text.isBlank c
    match rest.drop code.length with
    | ':' :: after =>
      let (name, mark) := variant code
      let shown :=
        match Emoji.find? (String.ofList name).toLower with
        | some emoji => emoji.toList ++ mark
        | none => ':' :: code ++ [':']
      shown ++ replaceEmoji bound after
    | _ => ':' :: replaceEmoji bound rest
  | bound + 1, c :: rest => c :: replaceEmoji bound rest

/-- Whether a character is shown at all: the bell and the characters that move back or to another
line are not, save the line feed. -/
def isShown (c : Char) : Bool :=
  !(c == '\x07' || c == '\x08' || c == '\x0b' || c == '\x0c' || c == '\r')

/-- A text as it is shown. -/
def shownText (cs : List Char) : List Char :=
  (replaceEmoji (cs.length + 1) cs).filter isShown

/-! ### Actions -/

/-- The bracket that closes another one. -/
def closing? : Char → Option Char
  | '(' => some ')'
  | '[' => some ']'
  | '\x7b' => some '\x7d'
  | _ => none

/-- What is wrong with the brackets of a text, `openBrackets` being open, the last one first. -/
def bracketFault? : (openBrackets : List Char) → List Char → Option String
  | [], [] => none
  | c :: _, [] => some s!"'{c}' was never closed"
  | openBrackets, c :: rest =>
    if (closing? c).isSome then bracketFault? (c :: openBrackets) rest
    else if c == ')' || c == ']' || c == '\x7d' then
      match openBrackets with
      | [] => some s!"unmatched '{c}'"
      | before :: outer =>
        if closing? before == some c then bracketFault? outer rest
        else some s!"closing parenthesis '{c}' does not match opening parenthesis '{before}'"
    else bracketFault? openBrackets rest

/-- What an action is called with: what stands in the parentheses after its name, or else all of
it. -/
def callOf (parameters : String) : String :=
  let cs := Text.stripChars parameters.toList
  let name := cs.takeWhile fun c => Text.isWord c || c == '.'
  match cs.drop name.length with
  | [] => "()"
  | '(' :: inside =>
    if inside.getLast? == some ')' && !inside.contains '\n' then String.ofList ('(' :: inside)
    else String.ofList cs
  | _ => String.ofList cs

/-- Why an action cannot be read, if it cannot. -/
def actionFault? (tag : Tag) : Option Fault :=
  match tag.name.startsWith "@", tag.parameters with
  | true, some parameters =>
    if parameters = "" then none
    else
      let call := callOf parameters
      (bracketFault? [] call.toList).map fun reason => .unreadable call parameters reason
  | _, _ => none

/-! ### Cells -/

/-- Takes the first of some tags with a name out of them. -/
def takeOut? (name : String) : List Tag → Option (Tag × List Tag)
  | [] => none
  | tag :: rest =>
    if tag.name = name then some (tag, rest)
    else (takeOut? name rest).map fun (found, others) => (found, tag :: others)

/-- The tags that are open after another one, the latest first. -/
def follow (openTags : List Tag) (tag : Tag) (position : Nat) : Except Fault (List Tag) :=
  match tag.name.toList with
  | '/' :: closed =>
    let closed := Text.strip (String.ofList closed)
    let found : Except Fault (Tag × List Tag) :=
      if closed = "" then
        match openTags with
        | [] => .error (.nothingOpen position)
        | last :: rest => .ok (last, rest)
      else
        match takeOut? (Style.normal closed) openTags with
        | some found => .ok found
        | none => .error (.unmatched tag.written position)
    match found with
    | .error fault => .error fault
    | .ok (tag, rest) =>
      match actionFault? tag with
      | some fault => .error fault
      | none => .ok rest
  | _ => .ok ({ tag with name := Style.normal tag.name } :: openTags)

/-- The characters that are shown of some parts, where some tags are open. -/
def shownParts : (openTags : List Tag) → List Part → Except Fault (List Char)
  | _, [] => .ok []
  | openTags, .text cs :: rest => do return shownText cs ++ (← shownParts openTags rest)
  | openTags, .tag tag position :: rest => do shownParts (← follow openTags tag position) rest

/-- The characters of a cell that are shown. -/
def plain (cell : String) : Except Fault String :=
  (shownParts [] (parts cell.toList)).map String.ofList

end Markup

end ToolWeave
