import ToolWeave.Number.Decimal
import ToolWeave.Number.Places
import ToolWeave.Shell.Arithmetic
import ToolWeave.Shell.Stream

/-!
# Formats

How scripts print: escapes in a text, and formats with directives that use up arguments.

## Main definitions

* `Shell.unescape`: a text with its escapes replaced.
* `Shell.Layout`: how one argument is laid out.
* `Shell.readReal`: the number at the front of a text, as directives for such numbers take it.
* `Shell.Printing.turns`: a format applied until its arguments are used up.

## Design notes

**Two dialects.**  The commands of the shell itself know fewer escapes than the utilities of the
same names, and word their complaints in another way.  The record `Escapes` says which escapes
there are.
-/

namespace ToolWeave

namespace Shell

/-- The value of an octal digit. -/
def octalDigit? (b : UInt8) : Option Nat :=
  if 48 ≤ b.toNat ∧ b.toNat ≤ 55 then some (b.toNat - 48) else none

/-- The value of a hexadecimal digit. -/
def hexDigit? (b : UInt8) : Option Nat := Arithmetic.digit? 16 (Char.ofNat b.toNat)

/-- Reads up to `count` octal digits. -/
def octal (count : Nat) (value : Nat) : Bytes → Nat × Bytes
  | [] => (value, [])
  | b :: rest =>
    match count, octalDigit? b with
    | count + 1, some digit => octal count (value * 8 + digit) rest
    | _, _ => (value, b :: rest)

/-- How backslashes are read. -/
structure Escapes where
  /-- Whether a zero may stand before three octal digits. -/
  extraZero : Bool
  /-- Whether `c` ends all output. -/
  ends : Bool
  /-- Whether quotes and hexadecimal codes have escapes too, as they have for utilities but not for the
  commands of the shell itself. -/
  rich : Bool

/-- The byte that a backslash and a letter stand for. -/
def letterEscape? (escapes : Escapes) (b : UInt8) : Option UInt8 :=
  match Char.ofNat b.toNat with
  | 'a' => some 7
  | 'b' => some 8
  | 'f' => some 12
  | 'n' => some 10
  | 'r' => some 13
  | 't' => some 9
  | 'v' => some 11
  | '\\' => some 92
  | '"' => if escapes.rich then some 34 else none
  | 'e' => some 27
  | _ => none

/-- Replaces escapes: a backslash with a letter, or with up to three octal digits.  Also tells
whether an escape ends all output. -/
def unescapeFrom (escapes : Escapes) : (bound : Nat) → (read : Bytes) → Bytes → Bytes × Bool
  | 0, read, _ => (read.reverse, false)
  | _, read, [] => (read.reverse, false)
  | bound + 1, read, 92 :: b :: rest =>
    if b = 99 && escapes.ends then (read.reverse, true)
    else
      match octalDigit? b, letterEscape? escapes b with
      | some digit, _ =>
        let count := if digit = 0 && escapes.extraZero then 4 else 3
        let (value, rest) := octal count 0 (b :: rest)
        unescapeFrom escapes bound (UInt8.ofNat value :: read) rest
      | none, some plain => unescapeFrom escapes bound (plain :: read) rest
      | none, none =>
        match rest.head?.bind hexDigit?, (rest.drop 1).head?.bind hexDigit? with
        | some high, some low =>
          if b = 120 && escapes.rich then
            unescapeFrom escapes bound (UInt8.ofNat (16 * high + low) :: read) (rest.drop 2)
          else unescapeFrom escapes bound (b :: 92 :: read) rest
        | _, _ => unescapeFrom escapes bound (b :: 92 :: read) rest
  | bound + 1, read, b :: rest => unescapeFrom escapes bound (b :: read) rest

/-- Replaces escapes, and tells whether one ends all output. -/
def unescape (escapes : Escapes) (text : Bytes) : Bytes × Bool :=
  unescapeFrom escapes (text.length + 1) [] text

/-- How one argument is to be laid out. -/
structure Layout where
  left : Bool := false
  zeros : Bool := false
  sign : Bool := false
  space : Bool := false
  alternate : Bool := false
  width : Nat := 0
  precision : Option Nat := none

/-- Fills a text up to the width. -/
def Layout.fill (layout : Layout) (text : Bytes) : Bytes :=
  let gap (b : UInt8) : Bytes := List.replicate (layout.width - text.length) b
  if layout.left then text ++ gap 32 else gap 32 ++ text

/-- Lays a text out, cut to the precision. -/
def Layout.text (layout : Layout) (text : Bytes) : Bytes :=
  layout.fill (text.take (layout.precision.getD text.length))

/-- The sign in front of a number. -/
def Layout.signOf (layout : Layout) (negative : Bool) : Bytes :=
  if negative then [45] else if layout.sign then [43] else if layout.space then [32] else []

/-- Lays digits out behind what stands in front of them, filled up with zeros if that is asked
for. -/
def Layout.behind (layout : Layout) (front digits : Bytes) : Bytes :=
  if layout.zeros && !layout.left then
    front ++ List.replicate (layout.width - front.length - digits.length) (48 : UInt8) ++ digits
  else layout.fill (front ++ digits)

/-- Lays the digits of an integer out behind what stands in front of them. -/
def Layout.digits (layout : Layout) (front digits : Bytes) : Bytes :=
  match layout.precision with
  | some precision =>
    let zeros : Bytes := List.replicate (precision - digits.length) (48 : UInt8)
    { layout with zeros := false }.behind front
      (if precision = 0 && digits == [48] then [] else zeros ++ digits)
  | none => layout.behind front digits

/-- A number as directives for real numbers take it. -/
inductive Real where
  | finite (negative : Bool) (ratio : Places.Ratio)
  | infinite (negative : Bool)
  | nan (negative : Bool)

/-- The ratio that decimal digits stand for, with a power of ten; far outside of all formats it is
zero or has no bound. -/
def ratioOf (negative : Bool) (digits : Nat) (exponent : Int) : Real :=
  if digits = 0 || exponent < -6000 then .finite negative ⟨0, 1⟩
  else if 6000 < exponent then .infinite negative
  else .finite negative
    ⟨digits * Nat.pow 10 exponent.toNat, Nat.pow 10 (-exponent).toNat⟩

/-- Reads a real number, if there is one: decimal digits with a point and an exponent, an integer in
hexadecimal digits, or one of the words for what is no such number. -/
def readReal (cs : List Char) : Option (Real × List Char) :=
  let cs := cs.dropWhile Arithmetic.isSpace
  let negative := cs.head? == some '-'
  let cs := match cs with | '-' :: cs | '+' :: cs => cs | cs => cs
  let starts (word : String) : Bool := word.toList.isPrefixOf (cs.map Char.toLower)
  if starts "infinity" then some (.infinite negative, cs.drop 8)
  else if starts "inf" then some (.infinite negative, cs.drop 3)
  else if starts "nan" then some (.nan negative, cs.drop 3)
  else if starts "0x" && (cs.drop 2).head?.any fun c => (Arithmetic.digit? 16 c).isSome then
    let (n, rest) := Arithmetic.readDigits 16 0 (cs.drop 2)
    some (.finite negative ⟨n, 1⟩, rest)
  else
    let whole := cs.takeWhile Char.isDigit
    let rest := cs.drop whole.length
    let (places, rest) :=
      match rest with
      | '.' :: after =>
        let places := after.takeWhile Char.isDigit
        if whole.isEmpty && places.isEmpty then ([], rest) else (places, after.drop places.length)
      | _ => ([], rest)
    if whole.isEmpty && places.isEmpty then none
    else
      let digits := (Arithmetic.readDigits 10 0 (whole ++ places)).1
      let (exponent, rest) : Int × List Char :=
        match rest with
        | e :: after =>
          let minus := after.head? == some '-'
          let after := match after with | '-' :: cs | '+' :: cs => cs | cs => cs
          let power := after.takeWhile Char.isDigit
          if (e == 'e' || e == 'E') && !power.isEmpty then
            let n : Int := (Arithmetic.readDigits 10 0 (power.take 8)).1
            (if minus then -n else n, after.drop power.length)
          else (0, rest)
        | [] => (0, rest)
      some (ratioOf negative digits (exponent - places.length), rest)

/-- A real number in the precision of the numbers that scripts print: that of a double for the shell
itself, and of a significand of 64 bits for utilities. -/
def Real.rounded (wide : Bool) : Real → Real
  | finite negative ratio =>
    if wide then .finite negative (Places.significant 64 ratio)
    else
      match Double.ofRatio negative ratio.num ratio.den with
      | .finite negative code => .finite negative ⟨Double.magnitude code, Double.unit⟩
      | .infinite negative => .infinite negative
      | .nan => .nan negative
  | other => other

/-- Lays a real number out by a directive: fixed, with an exponent, or the shorter of the two. -/
def Layout.real (layout : Layout) (letter : Char) (value : Real) : Bytes :=
  let upper (text : List Char) : Bytes :=
    bytes (String.ofList (if letter.isUpper then text.map Char.toUpper else text))
  let places := layout.precision.getD 6
  match value with
  | .infinite negative =>
    { layout with zeros := false }.behind (layout.signOf negative) (upper ['i', 'n', 'f'])
  | .nan negative =>
    { layout with zeros := false }.behind (layout.signOf negative) (upper ['n', 'a', 'n'])
  | .finite negative ratio =>
    layout.behind (layout.signOf negative) <| upper <|
      match letter.toLower with
      | 'e' => Places.scientific ratio places layout.alternate
      | 'g' => Places.general ratio places layout.alternate
      | _ => Places.fixed ratio places layout.alternate

/-- What a format has produced so far. -/
structure Printing where
  /-- The arguments that are left. -/
  arguments : List Bytes
  text : Bytes := []
  complaints : List String := []
  /-- Whether the format has used an argument. -/
  used : Bool := false
  /-- Whether nothing more is to be printed. -/
  ended : Bool := false
  /-- Whether the format itself is wrong. -/
  broken : Bool := false

namespace Printing

/-- Adds to the text. -/
def add (state : Printing) (text : Bytes) : Printing := { state with text := state.text ++ text }

/-- The next argument, used up. -/
def next (state : Printing) : Bytes × Printing :=
  (state.arguments.headD [], { state with arguments := state.arguments.drop 1, used := true })

/-- Complains about an argument: that it is no number, or that only a part of it is one. -/
def complain (state : Printing) (escapes : Escapes) (argument : Bytes) (isPart : Bool) : Printing :=
  let text := textOf argument
  let shown := if escapes.rich then "'" ++ text ++ "'" else text
  let problem :=
    if isPart then
      if escapes.rich then "value not completely converted" else "not completely converted"
    else if escapes.rich then "expected a numeric value"
    else "expected numeric value"
  { state with complaints := state.complaints ++ [s!"{shown}: {problem}"] }

/-- The number of the character after a quote, which stands for it. -/
def quoted? (argument : Bytes) : Option Nat :=
  match argument with
  | 39 :: b :: _ | 34 :: b :: _ => some b.toNat
  | [39] | [34] => some 0
  | _ => none

/-- The integer that an argument spells, with a complaint if it spells none. -/
def integer (state : Printing) (escapes : Escapes) (argument : Bytes) : Int × Printing :=
  match quoted? argument with
  | some n => (n, state)
  | none =>
    if argument.isEmpty then (0, state)
    else
      match Arithmetic.readInteger? (textOf argument).toList with
      | some (value, rest) =>
        (value, if rest.isEmpty then state else state.complain escapes argument true)
      | none => (0, state.complain escapes argument false)

/-- The real number that an argument spells, with a complaint if it spells none. -/
def real (state : Printing) (escapes : Escapes) (argument : Bytes) : Real × Printing :=
  match quoted? argument with
  | some n => (.finite false ⟨n, 1⟩, state)
  | none =>
    if argument.isEmpty then (.finite false ⟨0, 1⟩, state)
    else
      match readReal (textOf argument).toList with
      | some (value, rest) =>
        (value, if rest.isEmpty then state else state.complain escapes argument true)
      | none => (.finite false ⟨0, 1⟩, state.complain escapes argument false)

/-- A format that is wrong. -/
def refuse (state : Printing) (text : String) : Printing :=
  { state with complaints := state.complaints ++ [text], ended := true, broken := true }

/-- Prints by one directive: a layout, how that is spelled, and a letter. -/
def directive (escapes : Escapes) (state : Printing) (layout : Layout) (spelled : Bytes)
    (letter : Char) : Printing :=
  let (argument, state') := state.next
  let based (base : Nat) (upper : Bool) (front : Bytes) : Printing :=
    let (value, state) := state'.integer escapes argument
    let n := Arithmetic.bits (min value (Arithmetic.wordCount - 1 : Nat))
    let digits := String.ofList (Nat.toDigits base n)
    state.add (layout.digits (if layout.alternate && n != 0 then front else [])
      (bytes (if upper then digits.toUpper else digits)))
  match letter with
  | 's' => state'.add (layout.text argument)
  | 'b' =>
    let (text, ended) := unescape { escapes with extraZero := true, ends := true } argument
    { state'.add (layout.text text) with ended := ended }
  | 'c' => state'.add (layout.fill (argument.take 1))
  | 'd' | 'i' =>
    let (value, state) := state'.integer escapes argument
    let value := max (-(Arithmetic.largest : Int) - 1) (min value Arithmetic.largest)
    state.add (layout.digits (layout.signOf (value < 0)) (bytes (toString value.natAbs)))
  | 'u' => based 10 false []
  | 'o' => based 8 false [48]
  | 'x' => based 16 false [48, 120]
  | 'X' => based 16 true [48, 88]
  | 'e' | 'E' | 'f' | 'F' | 'g' | 'G' =>
    let (value, state) := state'.real escapes argument
    state.add (layout.real letter (value.rounded escapes.rich))
  | _ => state.refuse s!"%{textOf spelled}{letter}: invalid directive"

/-- A count in a layout: digits, or a star for the next argument. -/
def count (escapes : Escapes) (state : Printing) (text : Bytes) : Int × Printing × Bytes :=
  match text with
  | 42 :: rest =>
    let (argument, state) := state.next
    let (value, state) := state.integer escapes argument
    (value, state, rest)
  | _ =>
    let digits := text.takeWhile fun b => 48 ≤ b && b ≤ 57
    (digits.foldl (fun n b => 10 * n + (b.toNat - 48)) 0, state, text.drop digits.length)

/-- Reads the layout after a percent sign. -/
def layout (escapes : Escapes) (state : Printing) (text : Bytes) : Layout × Printing × Bytes :=
  let isFlag (b : UInt8) : Bool := b == 45 || b == 48 || b == 43 || b == 32 || b == 35
  let flags := text.takeWhile isFlag
  let (width, state, text) := state.count escapes (text.drop flags.length)
  let layout : Layout :=
    { left := flags.contains 45 || width < 0, zeros := flags.contains 48,
      sign := flags.contains 43, space := flags.contains 32, alternate := flags.contains 35,
      width := width.natAbs }
  match text with
  | 46 :: rest =>
    let (precision, state, text) := state.count escapes rest
    ({ layout with precision := if precision < 0 then none else some precision.toNat }, state, text)
  | _ => (layout, state, text)

/-- Prints by a format, once. -/
def turn (escapes : Escapes) : (bound : Nat) → Printing → Bytes → Printing
  | 0, state, _ => state
  | _, state, [] => state
  | bound + 1, state, 37 :: 37 :: rest => turn escapes bound (state.add [37]) rest
  | bound + 1, state, 37 :: rest =>
    let (layout, state, after) := state.layout escapes rest
    match after with
    | [] => state.refuse "missing format character"
    | letter :: after =>
      let spelled := rest.take (rest.length - after.length - 1)
      let state := directive escapes state layout spelled (Char.ofNat letter.toNat)
      if state.ended then state else turn escapes bound state after
  | bound + 1, state, b :: rest => turn escapes bound (state.add [b]) rest

/-- Prints by a format until the arguments are used up. -/
def turns (escapes : Escapes) (format : Bytes) : (bound : Nat) → Printing → Printing
  | 0, state => state
  | bound + 1, state =>
    let state := turn escapes (format.length + 1) { state with used := false } format
    if state.used && !state.arguments.isEmpty && !state.ended then turns escapes format bound state
    else state

end Printing

end Shell

end ToolWeave
