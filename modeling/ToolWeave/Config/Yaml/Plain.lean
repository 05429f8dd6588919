import ToolWeave.Calendar
import ToolWeave.Config.Document
import ToolWeave.Config.Yaml.Scalar
import ToolWeave.Text.Blank

/-!
# What scalars mean

A plain scalar tells by its text what kind of thing it is: nothing, a truth value, a number, a day
or a moment, and otherwise a text.

## Main definitions

* `Yaml.Kind`, `Yaml.Kind.ofPlain`: the kinds of things, and the one that a plain scalar is.
* `Yaml.Kind.scalar`: the scalar of a kind that a text stands for.

## Design notes

**Sixties.**  Numbers may be written like a clock, with colons between parts of which each counts
sixty times as much as the next one.

**Kinds that are written down.**  A tag may claim a kind that the text does not look like.  So what
a text stands for is read with less care than its kind is recognised, and may not exist.
-/

namespace ToolWeave

namespace Yaml

/-- The kinds of things that a node may be. -/
inductive Kind where
  | null
  | bool
  | int
  | float
  | timestamp
  | text
  | list
  | mapping
  /-- The key of what is merged into a mapping. -/
  | merge
  /-- The key of what a mapping counts as. -/
  | value
  | unknown
  deriving DecidableEq

/-! ### Recognising kinds -/

/-- Whether a character is a digit or separates digits. -/
def isDigitPart (c : Char) : Bool := c.isDigit || c == '_'

/-- Whether some characters are a number with digits of a sort, their first one of another sort. -/
def startsWith (first rest : Char → Bool) : List Char → Bool
  | [] => false
  | c :: cs => first c && cs.all rest

/-- Whether some characters are a number below sixty, with one digit or two. -/
def isSixtieth : List Char → Bool
  | [b] => b.isDigit
  | [a, b] => '0' ≤ a && a ≤ '5' && b.isDigit
  | _ => false

/-- Whether some characters are parts with colons between them, two at least and the first one with
a leading digit of some sort. -/
def isClock (first : Char → Bool) (cs : List Char) : Bool :=
  match cs.splitOn ':' with
  | head :: part :: parts => startsWith first isDigitPart head && (part :: parts).all isSixtieth
  | _ => false

/-- Whether a plain scalar is an integer: binary, octal, decimal, hexadecimal or like a clock. -/
def isInt (cs : List Char) : Bool :=
  let cs := (Number.cutSign cs).2
  let isHex (c : Char) : Bool := ((Number.digit? c).any (· < 16)) || c == '_'
  let isFirst (c : Char) : Bool := c.isDigit && c != '0'
  match cs with
  | ['0'] => true
  | '0' :: 'b' :: c :: digits => (c :: digits).all fun c => c == '0' || c == '1' || c == '_'
  | '0' :: 'x' :: c :: digits => (c :: digits).all isHex
  | '0' :: c :: digits => (c :: digits).all fun c => ('0' ≤ c && c ≤ '7') || c == '_'
  | cs => startsWith isFirst isDigitPart cs || isClock isFirst cs

/-- Whether some characters are an exponent with a sign, or nothing. -/
def isExponent : List Char → Bool
  | [] => true
  | e :: sign :: digits =>
    (e == 'e' || e == 'E') && (sign == '+' || sign == '-') && !digits.isEmpty &&
      digits.all Char.isDigit
  | _ => false

/-- Whether some characters are digits and an exponent, which may both be missing. -/
def isFraction (cs : List Char) : Bool := isExponent (cs.dropWhile isDigitPart)

/-- Whether a plain scalar is a double: a decimal with a point, like a clock with a point, or a name
for one that is not finite. -/
def isFloat (cs : List Char) : Bool :=
  let (whole, fraction) := (Number.cutSign cs).2.span (· != '.')
  match fraction with
  | [] => false
  | _ :: fraction =>
    if whole.isEmpty then
      ["inf", "Inf", "INF"].contains (String.ofList fraction) ||
        cs.head? == some '.' &&
          (["nan", "NaN", "NAN"].contains (String.ofList fraction) ||
            fraction.head?.any Char.isDigit && isFraction fraction)
    else
      startsWith Char.isDigit isDigitPart whole && isFraction fraction ||
        isClock Char.isDigit whole && fraction.all isDigitPart

/-! ### Days and moments -/

/-- The parts of a day or moment as they are written. -/
structure Stamp where
  year : List Char
  month : List Char
  day : List Char
  /-- Hour, minute, second, and parts of a second. -/
  clock : Option (List Char × List Char × List Char × List Char)
  /-- Whether the clock is behind the universal one, by how many hours, and by how many minutes. -/
  offset : Option (Bool × List Char × List Char)

/-- Digits at the front, as many as there are up to a bound. -/
def cutDigits (atMost : Nat) (cs : List Char) : List Char × List Char :=
  let digits := (cs.take atMost).takeWhile Char.isDigit
  (digits, cs.drop digits.length)

/-- Takes one or two digits off the front. -/
def cutShort? (cs : List Char) : Option (List Char × List Char) :=
  match cutDigits 2 cs with
  | ([], _) => none
  | parts => some parts

/-- Takes exactly two digits off the front. -/
def cutPair? (cs : List Char) : Option (List Char × List Char) :=
  match cutDigits 2 cs with
  | (digits, rest) => if digits.length = 2 then some (digits, rest) else none

/-- Takes a character off the front. -/
def cutChar? (c : Char) : List Char → Option (List Char)
  | x :: rest => if x == c then some rest else none
  | [] => none

/-- The offset of a clock, if some characters are one or nothing. -/
def offset? (cs : List Char) : Option (Option (Bool × List Char × List Char)) :=
  match cs, cs.dropWhile isGap with
  | [], _ => some none
  | _, ['Z'] => some (some (false, [], []))
  | _, sign :: rest => do
    if !(sign == '+' || sign == '-') then none
    let (hours, rest) ← cutShort? rest
    match rest with
    | [] => some (some (sign == '-', hours, []))
    | rest =>
      let (minutes, rest) ← cutPair? (← cutChar? ':' rest)
      if rest.isEmpty then some (some (sign == '-', hours, minutes)) else none
  | _, [] => none

/-- The parts of a day or moment, if some characters are one. -/
def Stamp.of? (cs : List Char) : Option Stamp := do
  let (year, rest) := cutDigits 4 cs
  if year.length != 4 then none
  let (month, rest) ← cutShort? (← cutChar? '-' rest)
  let (day, rest) ← cutShort? (← cutChar? '-' rest)
  if rest.isEmpty then return ⟨year, month, day, none, none⟩
  let after := rest.dropWhile isGap
  let rest ←
    if rest.head? == some 'T' || rest.head? == some 't' then some (rest.drop 1)
    else if after.length < rest.length then some after
    else none
  let (hour, rest) ← cutShort? rest
  let (minute, rest) ← cutPair? (← cutChar? ':' rest)
  let (second, rest) ← cutPair? (← cutChar? ':' rest)
  let (fraction, rest) :=
    match cutChar? '.' rest with
    | some rest => rest.span Char.isDigit
    | none => ([], rest)
  return ⟨year, month, day, some (hour, minute, second, fraction), ← offset? rest⟩

/-- Whether a plain scalar is a day or a moment.  A day without a time has two digits for its month
and two for itself. -/
def isTimestamp (cs : List Char) : Bool :=
  (Stamp.of? cs).any fun stamp =>
    stamp.clock.isSome || stamp.month.length == 2 && stamp.day.length == 2

/-- The day or moment with some parts. -/
def Stamp.scalar (stamp : Stamp) : Except CalendarFault Scalar := do
  let n := Number.natOfDigits
  match stamp.clock with
  | none => return .date (← Date.ofParts (n stamp.year) (n stamp.month) (n stamp.day))
  | some (hour, minute, second, fraction) =>
    let microsecond := n ((fraction ++ List.replicate 6 '0').take 6)
    let offset := stamp.offset.map fun (behind, hours, minutes) =>
      let ahead : Int := n hours * 60 + n minutes
      if behind then -ahead else ahead
    return .moment (← Moment.ofParts (n stamp.year) (n stamp.month) (n stamp.day) (n hour)
      (n minute) (n second) microsecond offset)

/-! ### Kinds -/

namespace Kind

/-- The texts that are truth values, in lower case. -/
def truths : List (String × Bool) :=
  [("yes", true), ("no", false), ("true", true), ("false", false), ("on", true), ("off", false)]

/-- Whether a word is written in lower case, in upper case, or in lower case after the first
letter. -/
def isWritten (word : String) (cs : List Char) : Bool :=
  let lower := word.toList
  let upper := lower.map Char.toUpper
  cs == lower || cs == upper || cs == upper.take 1 ++ lower.drop 1

/-- The kind that a plain scalar is. -/
def ofPlain (cs : List Char) : Kind :=
  if cs.isEmpty || cs == ['~'] || isWritten "null" cs then null
  else if truths.any fun truth => isWritten truth.1 cs then bool
  else if isFloat cs then float
  else if isInt cs then int
  else if isTimestamp cs then timestamp
  else if cs == ['<', '<'] then merge
  else if cs == ['='] then value
  else text

/-- What the names of kinds begin with. -/
def heading : String := "tag:yaml.org,2002:"

/-- The names of kinds, without what they begin with. -/
def names : List (String × Kind) :=
  [("null", null), ("bool", bool), ("int", int), ("float", float), ("timestamp", timestamp),
    ("str", text), ("seq", list), ("map", mapping), ("merge", merge), ("value", value)]

/-- The kind of a name. -/
def named (name : String) : Kind :=
  ((names.find? fun entry => heading ++ entry.1 == name).map Prod.snd).getD unknown

end Kind

/-! ### Scalars of a kind -/

/-- The fault of a text that is refused. -/
def refuse {α : Type} (message : String) : Except Fault α :=
  .error (.senseless (.refused message))

/-- The fault of a text of which there is nothing left to look at. -/
def outOfRange {α : Type} : Except Fault α :=
  .error (.senseless (.system "IndexError" "string index out of range"))

/-- The most decimal digits an integer may have. -/
def maxDigits : Nat := 4300

/-- The integer that some characters spell in a base. -/
def readInt (base : Nat) (cs : List Char) : Except Fault Int :=
  let (negative, digits) := Number.cutSign (Text.stripChars cs)
  let digits := if base = 8 && digits.take 2 == ['0', 'o'] then digits.drop 2 else digits
  match Number.natIn? base digits with
  | none =>
    refuse s!"invalid literal for int() with base {base}: {Text.quoted (String.ofList cs)}"
  | some n =>
    if base = 10 && maxDigits < digits.length then
      refuse (s!"Exceeds the limit ({maxDigits} digits) for integer string conversion: value has "
        ++ s!"{digits.length} digits; use sys.set_int_max_str_digits() to increase the limit")
    else .ok (if negative then -(n : Int) else n)

/-- The double that some characters spell. -/
def readDouble (cs : List Char) : Except Fault Double :=
  match Double.ofText? (Text.stripChars cs) with
  | some d => .ok d
  | none => refuse s!"could not convert string to float: {Text.quoted (String.ofList cs)}"

/-- The sum of parts of which each counts sixty times as much as the next one. -/
def readClock (zero : Number) (parts : List Number) : Except Fault Number :=
  let step (state : Number × Int) (part : Number) : Except Overflow (Number × Int) := do
    return (← state.1.add (← part.mul (.int state.2)), state.2 * 60)
  match parts.reverse.foldlM step (zero, 1) with
  | .ok (total, _) => .ok total
  | .error cause => .error (.senseless (.overflow cause))

/-- The number with the opposite sign. -/
def negated : Number → Number
  | .int i => .int (-i)
  | .double d => .double d.neg

/-- The numbers that the parts between colons spell. -/
def clockParts (readPart : List Char → Except Fault Number) (cs : List Char) :
    Except Fault (List Number) :=
  (cs.splitOn ':').mapM readPart

/-- The integer that a text without a sign stands for. -/
def magnitudeOf (cs : List Char) : Except Fault Number :=
  let whole (base : Nat) (digits : List Char) : Except Fault Number :=
    (readInt base digits).map Number.int
  match cs with
  | [] => outOfRange
  | '0' :: 'b' :: digits => whole 2 digits
  | '0' :: 'x' :: digits => whole 16 digits
  | '0' :: _ => whole 8 cs
  | cs =>
    if cs.contains ':' then clockParts (whole 10) cs >>= readClock (.int 0) else whole 10 cs

/-- The integer that a text stands for. -/
def intOf (cs : List Char) : Except Fault Number :=
  let (negative, cs) := Number.cutSign (cs.filter (· != '_'))
  (magnitudeOf cs).map fun n => if negative then negated n else n

/-- The double that a text without a sign stands for. -/
def doubleMagnitudeOf (cs : List Char) : Except Fault Number :=
  let decimal (cs : List Char) : Except Fault Number := (readDouble cs).map Number.double
  if cs.isEmpty then outOfRange
  else if cs == ".inf".toList then .ok (.double (.infinite false))
  else if cs == ".nan".toList then .ok (.double .nan)
  else if cs.contains ':' then clockParts decimal cs >>= readClock (.double .zero)
  else decimal cs

/-- The double that a text stands for. -/
def floatOf (cs : List Char) : Except Fault Number :=
  let (negative, cs) := Number.cutSign ((cs.filter (· != '_')).map Char.toLower)
  (doubleMagnitudeOf cs).map fun n => if negative then negated n else n

/-- The truth value that a text stands for. -/
def boolOf (cs : List Char) : Except Fault Bool :=
  let name := String.ofList (cs.map Char.toLower)
  match Entries.get? name Kind.truths with
  | some truth => .ok truth
  | none => .error (.senseless (.missing name))

/-- The day or moment that a text stands for. -/
def timestampOf (cs : List Char) : Except Fault Scalar :=
  match Stamp.of? cs with
  | none =>
    .error (.senseless
      (.system "AttributeError" "'NoneType' object has no attribute 'groupdict'"))
  | some stamp =>
    match stamp.scalar with
    | .ok s => .ok s
    | .error cause => refuse cause.message

/-- The scalar of a kind that a text stands for. -/
def Kind.scalar (kind : Kind) (cs : List Char) : Except Fault Scalar :=
  match kind with
  | .null => .ok .null
  | .bool => .bool <$> boolOf cs
  | .int => .number <$> intOf cs
  | .float => .number <$> floatOf cs
  | .timestamp => timestampOf cs
  | .text => .ok (.string (String.ofList cs))
  | .list | .mapping | .merge | .value | .unknown => .error .malformed

end Yaml

end ToolWeave
