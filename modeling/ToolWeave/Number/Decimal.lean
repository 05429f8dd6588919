import ToolWeave.Number.Double

/-!
# Decimal spelling of binary numbers

How a double is read from decimal digits and how it is written back: reading rounds the exact
decimal once, writing chooses the fewest digits that read back to the same double.

## Main definitions

* `Double.ofDecimal`: the double nearest to `digits * 10 ^ exponent`.
* `Double.shortest`: the shortest decimal that reads back, as digits and a power of ten.
* `Double.Layout`, `Double.chars`: the decimal written out, positional or with an exponent.

## Design notes

**The interval.**  The decimals that read back to a magnitude are those between the midpoints to
its two neighbours, the midpoints belonging to it when its code is even.  `shortest` walks down the
powers of ten until some multiple of the power lies in that interval; a larger power leaves fewer
digits, so the first hit has the fewest, and of two hits on one grid the nearer is taken.
-/

namespace ToolWeave

namespace Double

/-- The double nearest to `digits * 10 ^ exponent`, with the given sign.

Exponents far outside the range of the format are settled without building the power. -/
def ofDecimal (negative : Bool) (digits : Nat) (exponent : Int) : Double :=
  if digits = 0 then signedZero negative
  else if 400 < exponent then infinite negative
  else if (digits.log2 : Int) + 1 + exponent < -400 then signedZero negative
  else if 0 ≤ exponent then ofRatio negative (digits * Nat.pow 10 exponent.toNat) 1
  else ofRatio negative digits (Nat.pow 10 (-exponent).toNat)

/-- The decimals that read back to a magnitude, in units of `2 ^ (-1075)`. -/
structure Interval where
  lower : Nat
  upper : Nat
  closed : Bool

namespace Interval

/-- The interval around the magnitude of a code. -/
def around (code : Nat) : Interval where
  lower := magnitude (code - 1) + magnitude code
  upper := magnitude code + magnitude (code + 1)
  closed := code % 2 == 0

/-- Whether the ratio `num / den` lies in the interval. -/
def contains (i : Interval) (num den : Nat) : Bool :=
  if i.closed then decide (i.lower * den ≤ num) && decide (num ≤ i.upper * den)
  else decide (i.lower * den < num) && decide (num < i.upper * den)

end Interval

/-- The multiple of `10 ^ exponent` nearest to the magnitude of a code, if it reads back to it.

The two candidates are the multiples on either side of the magnitude; of two that read back the
nearer is taken, and the even one if both are equally near. -/
def multipleAt (code : Nat) (exponent : Int) : Option Nat :=
  let num := Nat.pow 10 exponent.toNat * (2 * unit)
  let den := Nat.pow 10 (-exponent).toNat
  let exact := 2 * magnitude code * den
  let low := exact / num
  let interval := Interval.around code
  let reads (digits : Nat) : Bool := interval.contains (digits * num) den
  let below := exact - low * num
  let above := (low + 1) * num - exact
  if reads low && (!reads (low + 1) || decide (below < above) ||
      (decide (below = above) && low % 2 == 0)) then some low
  else if reads (low + 1) then some (low + 1)
  else none

/-- A power of ten at least as large as the magnitude of a code. -/
def topExponent (code : Nat) : Int :=
  ((Nat.log2 (magnitude code) : Int) - 1073) * 30103 / 100000 + 1

/-- The first power of ten, from `exponent` down, that has a multiple reading back to the magnitude
of a code.  After `steps` powers without one the exact decimal of the magnitude is given, which
always reads back. -/
def shortestFrom (code : Nat) : (steps : Nat) → (exponent : Int) → Nat × Int
  | 0, _ => (magnitude code * Nat.pow 5 1074, -1074)
  | steps + 1, exponent =>
    match multipleAt code exponent with
    | some digits => (digits, exponent)
    | none => shortestFrom code steps (exponent - 1)

/-- The shortest decimal `digits * 10 ^ exponent` that reads back to the magnitude of a code.

Seventeen digits always suffice, so twenty-four powers from `topExponent` down do. -/
def shortest (code : Nat) : Nat × Int :=
  if code = 0 then (0, 0) else shortestFrom code 24 (topExponent code)

/-- Where a decimal is written with its point in place and where with an exponent: positionally
from `10 ^ least` up to below `10 ^ bound`, and exponents have at least `width` digits. -/
structure Layout where
  least : Int
  bound : Int
  width : Nat

/-- Numbers from a ten-thousandth up to below ten quadrillion are written positionally, all others
with an exponent of two digits or more. -/
def Layout.standard : Layout := ⟨-4, 16, 2⟩

/-- A natural number in decimal, filled up with zeros to a width. -/
def paddedDigits (width : Nat) (n : Nat) : List Char :=
  let digits := Nat.toDigits 10 n
  List.replicate (width - digits.length) '0' ++ digits

/-- A decimal written out: a point always shows in positional notation, and an exponent has a
sign. -/
def Layout.chars (layout : Layout) (digits : Nat) (exponent : Int) : List Char :=
  let shown := Nat.toDigits 10 digits
  let order := exponent + shown.length - 1
  if layout.least ≤ order ∧ order < layout.bound then
    if 0 ≤ exponent then shown ++ List.replicate exponent.toNat '0' ++ ['.', '0']
    else if 0 ≤ order then
      shown.take (order.toNat + 1) ++ '.' :: shown.drop (order.toNat + 1)
    else '0' :: '.' :: List.replicate (-order - 1).toNat '0' ++ shown
  else
    let fraction := if shown.length ≤ 1 then [] else '.' :: shown.drop 1
    let sign := if order < 0 then '-' else '+'
    shown.take 1 ++ fraction ++ 'e' :: sign :: paddedDigits layout.width order.natAbs

/-- The text of a double: a minus for a negative sign, then the shortest decimal that reads back. -/
def chars : Double → List Char
  | finite negative code =>
    let (digits, exponent) := shortest code
    let body := Layout.standard.chars digits exponent
    if negative then '-' :: body else body
  | infinite negative => if negative then ['-', 'i', 'n', 'f'] else ['i', 'n', 'f']
  | nan => ['n', 'a', 'n']

/-- The text of a double. -/
def text (d : Double) : String := String.ofList d.chars

end Double

end ToolWeave
