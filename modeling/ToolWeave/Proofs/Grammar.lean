import ToolWeave.Proofs.Nearest
import ToolWeave.Value.Basic

/-!
# The grammar of JSON

What a JSON text is, without a reader.  A syntax tree records everything that is written: the space between
the parts, the digits of a number, the pieces of a string.  It has one text, and it denotes at most one
value.

## Main definitions

* `Json.Numeral`: a number as it is written, with the number it denotes.
* `Json.Piece`: a piece of a string, with the characters that pieces spell.
* `Json.Tree`: the syntax of a value; `Json.Tree.write` its text and `Json.Tree.Denotes` its value.
* `Json.Document`: a value with space around it.

## Design notes

**Text in front of text.**  As with the writer of values, the text of a tree is put in front of what follows.

**What denotes nothing.**  An escape for half of a surrogate pair is written like any other escape, but a
half that stands alone spells no character.  So a tree may have a text and no value.
-/

namespace ToolWeave

/-- The fields as they are kept when names may have been given more than once: a name has the place where it
came first and the content that came last. -/
def Entries.settled {α : Type} (given : Entries α) : Entries α :=
  (names given).eraseDups.filterMap fun name => (get? name given.reverse).map fun content => (name, content)

namespace Json

/-! ### Space and digits -/

/-- Characters that may stand between the parts of a text. -/
structure Gap where
  chars : List Char
  blank : ∀ c ∈ chars, c = ' ' ∨ c = '\t' ∨ c = '\n' ∨ c = '\r'

/-- No space at all. -/
def Gap.none : Gap := ⟨[], nofun⟩

/-- Decimal digits, one at least. -/
structure Digits where
  chars : List Char
  allDigits : ∀ c ∈ chars, c.isDigit = true
  ne_nil : chars ≠ []

/-- The number that digits spell. -/
def Digits.value (digits : Digits) : Nat := Nat.ofDigitChars 10 digits.chars 0

/-! ### Numbers -/

/-- The sign of an exponent. -/
inductive Sign where
  | none
  | plus
  | minus
  deriving DecidableEq

/-- A sign as it is written. -/
def Sign.chars : Sign → List Char
  | none => []
  | plus => ['+']
  | minus => ['-']

/-- An exponent: a letter, a sign and digits. -/
structure Exponent where
  letter : Char
  sign : Sign
  digits : Digits
  isLetter : letter = 'e' ∨ letter = 'E'

/-- The value of an exponent. -/
def Exponent.value (e : Exponent) : Int :=
  match e.sign with
  | .minus => -(e.digits.value : Int)
  | _ => e.digits.value

/-- A number as it is written.  The whole part starts with zero only if it is zero. -/
structure Numeral where
  negative : Bool
  whole : Digits
  fraction : Option Digits
  exponent : Option Exponent
  zero_alone : whole.chars.head? = some '0' → whole.chars = ['0']

namespace Numeral

/-- The text of a fraction, if there is one, followed by `rest`. -/
def writeFraction : Option Digits → List Char → List Char
  | none, rest => rest
  | some digits, rest => '.' :: (digits.chars ++ rest)

/-- The text of an exponent, if there is one, followed by `rest`. -/
def writeExponent : Option Exponent → List Char → List Char
  | none, rest => rest
  | some e, rest => e.letter :: (e.sign.chars ++ (e.digits.chars ++ rest))

/-- The text of a number without its sign, followed by `rest`. -/
def writeMagnitude (n : Numeral) (rest : List Char) : List Char :=
  n.whole.chars ++ writeFraction n.fraction (writeExponent n.exponent rest)

/-- The text of a number, followed by `rest`. -/
def write (n : Numeral) (rest : List Char) : List Char :=
  if n.negative then '-' :: n.writeMagnitude rest else n.writeMagnitude rest

/-- Whether a number has neither fraction nor exponent. -/
def isInteger (n : Numeral) : Bool := n.fraction.isNone && n.exponent.isNone

/-- The digits of the fraction, none if there is no fraction. -/
def fractionDigits (n : Numeral) : List Char :=
  match n.fraction with
  | none => []
  | some digits => digits.chars

/-- The value of the exponent, zero if there is no exponent. -/
def exponentValue (n : Numeral) : Int :=
  match n.exponent with
  | none => 0
  | some e => e.value

/-- The number without its sign, exactly. -/
def magnitude (n : Numeral) : ℚ :=
  (n.whole.value + Nat.ofDigitChars 10 n.fractionDigits 0 / 10 ^ n.fractionDigits.length) *
    10 ^ n.exponentValue

/-- The number that is denoted: an integer exactly, any other as the double nearest to it. -/
inductive Denotes (n : Numeral) : Number → Prop
  | integer : n.isInteger = true →
      Denotes n (.int (if n.negative then -(n.whole.value : Int) else n.whole.value))
  | double {d : Double} : n.isInteger = false → d.Nearest n.negative n.magnitude → Denotes n (.double d)

end Numeral

/-! ### Strings -/

/-- A hexadecimal digit in either case. -/
structure HexDigit where
  value : Fin 16
  capital : Bool

/-- A hexadecimal digit as it is written. -/
def HexDigit.char (h : HexDigit) : Char :=
  if h.capital then (Nat.digitChar h.value).toUpper else Nat.digitChar h.value

/-- The characters that have an escape of their own. -/
inductive Escape where
  | quote
  | backslash
  | slash
  | backspace
  | formFeed
  | lineFeed
  | carriageReturn
  | tab

/-- The letter behind the backslash of an escape. -/
def Escape.letter : Escape → Char
  | quote => '"'
  | backslash => '\\'
  | slash => '/'
  | backspace => 'b'
  | formFeed => 'f'
  | lineFeed => 'n'
  | carriageReturn => 'r'
  | tab => 't'

/-- The character that an escape stands for. -/
def Escape.char : Escape → Char
  | quote => '"'
  | backslash => '\\'
  | slash => '/'
  | backspace => '\x08'
  | formFeed => '\x0c'
  | lineFeed => '\n'
  | carriageReturn => '\r'
  | tab => '\t'

/-- A piece of a string: a character as it is, an escape, or a code unit in four hexadecimal digits. -/
inductive Piece where
  | plain (c : Char) (isPlain : c ≠ '"' ∧ c ≠ '\\' ∧ 32 ≤ c.toNat)
  | escape (e : Escape)
  | unit (a b c d : HexDigit)

/-- The code unit that four hexadecimal digits spell. -/
def unitOf (a b c d : HexDigit) : Nat :=
  ((a.value * 16 + b.value) * 16 + c.value) * 16 + d.value

/-- The text of a piece, followed by `rest`. -/
def Piece.write : Piece → List Char → List Char
  | plain c _, rest => c :: rest
  | escape e, rest => '\\' :: e.letter :: rest
  | unit a b c d, rest => '\\' :: 'u' :: a.char :: b.char :: c.char :: d.char :: rest

/-- The text of a string in quotes, followed by `rest`. -/
def writePieces (pieces : List Piece) (rest : List Char) : List Char :=
  '"' :: pieces.foldr Piece.write ('"' :: rest)

/-- The characters that pieces spell.  A code unit is the code point of its character, or it is the first
half of a surrogate pair and the second half follows at once.  A half that stands alone is the code point
of no character. -/
inductive Spells : List Piece → List Char → Prop
  | nil : Spells [] []
  | plain {c : Char} {h : c ≠ '"' ∧ c ≠ '\\' ∧ 32 ≤ c.toNat} {pieces : List Piece} {cs : List Char} :
      Spells pieces cs → Spells (.plain c h :: pieces) (c :: cs)
  | escape {e : Escape} {pieces : List Piece} {cs : List Char} :
      Spells pieces cs → Spells (.escape e :: pieces) (e.char :: cs)
  | unit {a b c d : HexDigit} {char : Char} {pieces : List Piece} {cs : List Char} :
      char.toNat = unitOf a b c d → Spells pieces cs → Spells (.unit a b c d :: pieces) (char :: cs)
  | pair {a b c d e f g h : HexDigit} {char : Char} {pieces : List Piece} {cs : List Char} :
      0xD800 ≤ unitOf a b c d → unitOf a b c d ≤ 0xDBFF →
      0xDC00 ≤ unitOf e f g h → unitOf e f g h ≤ 0xDFFF →
      char.toNat = 0x10000 + (unitOf a b c d - 0xD800) * 0x400 + (unitOf e f g h - 0xDC00) →
      Spells pieces cs → Spells (.unit a b c d :: .unit e f g h :: pieces) (char :: cs)

/-! ### Values -/

/-- The name of a member of an object, with the space around it and the colon. -/
structure Label where
  before : Gap
  name : List Piece
  after : Gap

/-- The text of a label, followed by `rest`. -/
def Label.write (label : Label) (rest : List Char) : List Char :=
  label.before.chars ++ writePieces label.name (label.after.chars ++ ':' :: rest)

mutual

/-- The syntax of a value. -/
inductive Tree where
  | null
  | bool (value : Bool)
  | number (numeral : Numeral)
  | string (pieces : List Piece)
  | emptyArray (inside : Gap)
  | array (items : Items)
  | emptyObject (inside : Gap)
  | object (members : Members)

/-- The syntax of the items of an array, with the space around each and commas between. -/
inductive Items where
  | last (before : Gap) (item : Tree) (after : Gap)
  | more (before : Gap) (item : Tree) (after : Gap) (rest : Items)

/-- The syntax of the members of an object, with the space around each and commas between. -/
inductive Members where
  | last (label : Label) (before : Gap) (content : Tree) (after : Gap)
  | more (label : Label) (before : Gap) (content : Tree) (after : Gap) (rest : Members)

end

mutual

/-- The text of a value, followed by `rest`. -/
def Tree.write : Tree → List Char → List Char
  | .null, rest => 'n' :: 'u' :: 'l' :: 'l' :: rest
  | .bool true, rest => 't' :: 'r' :: 'u' :: 'e' :: rest
  | .bool false, rest => 'f' :: 'a' :: 'l' :: 's' :: 'e' :: rest
  | .number n, rest => n.write rest
  | .string pieces, rest => writePieces pieces rest
  | .emptyArray inside, rest => '[' :: (inside.chars ++ ']' :: rest)
  | .array items, rest => '[' :: items.write (']' :: rest)
  | .emptyObject inside, rest => '\x7b' :: (inside.chars ++ '\x7d' :: rest)
  | .object members, rest => '\x7b' :: members.write ('\x7d' :: rest)

/-- The text of items, followed by `rest`. -/
def Items.write : Items → List Char → List Char
  | .last before item after, rest => before.chars ++ item.write (after.chars ++ rest)
  | .more before item after more, rest =>
    before.chars ++ item.write (after.chars ++ ',' :: more.write rest)

/-- The text of members, followed by `rest`. -/
def Members.write : Members → List Char → List Char
  | .last label before content after, rest =>
    label.write (before.chars ++ content.write (after.chars ++ rest))
  | .more label before content after more, rest =>
    label.write (before.chars ++ content.write (after.chars ++ ',' :: more.write rest))

end

mutual

/-- The value that a tree denotes. -/
inductive Tree.Denotes : Tree → Value → Prop
  | null : Tree.Denotes .null .null
  | bool (b : Bool) : Tree.Denotes (.bool b) (.bool b)
  | number {numeral : Numeral} {n : Number} : numeral.Denotes n → Tree.Denotes (.number numeral) (.number n)
  | string {pieces : List Piece} {cs : List Char} :
      Spells pieces cs → Tree.Denotes (.string pieces) (.string (String.ofList cs))
  | emptyArray (inside : Gap) : Tree.Denotes (.emptyArray inside) (.array [])
  | array {items : Items} {values : List Value} :
      Items.Denotes items values → Tree.Denotes (.array items) (.array values)
  | emptyObject (inside : Gap) : Tree.Denotes (.emptyObject inside) (.object [])
  | object {members : Members} {given : Fields} :
      Members.Denotes members given → Tree.Denotes (.object members) (.object (Entries.settled given))

/-- The values that items denote, in order. -/
inductive Items.Denotes : Items → List Value → Prop
  | last {before after : Gap} {item : Tree} {v : Value} :
      Tree.Denotes item v → Items.Denotes (.last before item after) [v]
  | more {before after : Gap} {item : Tree} {rest : Items} {v : Value} {values : List Value} :
      Tree.Denotes item v → Items.Denotes rest values →
        Items.Denotes (.more before item after rest) (v :: values)

/-- The names and contents that members denote, in order, with those that come again. -/
inductive Members.Denotes : Members → Fields → Prop
  | last {label : Label} {before after : Gap} {content : Tree} {cs : List Char} {v : Value} :
      Spells label.name cs → Tree.Denotes content v →
        Members.Denotes (.last label before content after) [(String.ofList cs, v)]
  | more {label : Label} {before after : Gap} {content : Tree} {rest : Members} {cs : List Char} {v : Value}
      {given : Fields} : Spells label.name cs → Tree.Denotes content v → Members.Denotes rest given →
        Members.Denotes (.more label before content after rest) ((String.ofList cs, v) :: given)

end

mutual

/-- How many levels of arrays and objects are inside each other. -/
def Tree.levels : Tree → Nat
  | .emptyArray _ | .emptyObject _ => 1
  | .array items => items.levels + 1
  | .object members => members.levels + 1
  | _ => 0

/-- The levels of the deepest item. -/
def Items.levels : Items → Nat
  | .last _ item _ => item.levels
  | .more _ item _ rest => max item.levels rest.levels

/-- The levels of the deepest content. -/
def Members.levels : Members → Nat
  | .last _ _ content _ => content.levels
  | .more _ _ content _ rest => max content.levels rest.levels

end

mutual

/-- All numbers in a tree, as they are written. -/
def Tree.numerals : Tree → List Numeral
  | .number n => [n]
  | .array items => items.numerals
  | .object members => members.numerals
  | _ => []

/-- All numbers in the items. -/
def Items.numerals : Items → List Numeral
  | .last _ item _ => item.numerals
  | .more _ item _ rest => item.numerals ++ rest.numerals

/-- All numbers in the contents of the members. -/
def Members.numerals : Members → List Numeral
  | .last _ _ content _ => content.numerals
  | .more _ _ content _ rest => content.numerals ++ rest.numerals

end

mutual

/-- All strings in a tree, names included, as they are written. -/
def Tree.strings : Tree → List (List Piece)
  | .string pieces => [pieces]
  | .array items => items.strings
  | .object members => members.strings
  | _ => []

/-- All strings in the items. -/
def Items.strings : Items → List (List Piece)
  | .last _ item _ => item.strings
  | .more _ item _ rest => item.strings ++ rest.strings

/-- All strings in the members, the names included. -/
def Members.strings : Members → List (List Piece)
  | .last label _ content _ => label.name :: content.strings
  | .more label _ content _ rest => label.name :: (content.strings ++ rest.strings)

end

/-- No integer is written with more digits than an integer may have. -/
def ShortIntegers (numerals : List Numeral) : Prop :=
  ∀ n ∈ numerals, n.isInteger = true → n.whole.chars.length ≤ 4300

/-- All strings spell characters, which is to say that no half of a surrogate pair stands alone. -/
def Paired (strings : List (List Piece)) : Prop := ∀ pieces ∈ strings, ∃ cs, Spells pieces cs

/-- A whole text: a value with space around it. -/
structure Document where
  before : Gap
  tree : Tree
  after : Gap

/-- The text of a document. -/
def Document.text (d : Document) : List Char := d.before.chars ++ d.tree.write d.after.chars

/-- No integer is written with more digits than an integer may have. -/
def Document.ShortIntegers (d : Document) : Prop := Json.ShortIntegers d.tree.numerals

/-- No half of a surrogate pair stands alone. -/
def Document.Paired (d : Document) : Prop := Json.Paired d.tree.strings

end Json

end ToolWeave
