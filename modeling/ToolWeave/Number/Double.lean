/-!
# Binary floating point numbers

A `Double` is a number of the 64-bit binary format, kept as data: every operation below is exact
arithmetic on natural numbers followed by one rounding, so nothing about it is opaque.

## Main definitions

* `Double`: a signed finite magnitude, an infinity, or not-a-number.
* `Double.magnitude`: the magnitude behind a code, counted in units of `2 ^ (-1074)`.
* `Double.nearestCode`: the code of the magnitude nearest to a ratio, a tie going to the even code.
* `Double.add`, `Double.mul`, `Double.div`: the exact result, rounded once.

## Design notes

**Codes.**  Finite magnitudes are numbered in increasing order, `0` being zero: the code of a
magnitude is its bit pattern without the sign.  Every finite magnitude is a whole number of units
of `2 ^ (-1074)`, so one integer scale serves for comparison, addition and rounding alike.
-/

namespace ToolWeave

namespace Double

/-- How many codes there are between one doubling of the step and the next: `2 ^ 52`. -/
abbrev block : Nat := 4503599627370496

/-- How many finite magnitudes there are: 2047 blocks.  The code of infinity is the first one beyond
them. -/
abbrev codes : Nat := 2047 * block

end Double

/-- A number of the 64-bit binary floating point format.

A finite number is a sign and the code of its magnitude, so that the two zeros differ; there is one
not-a-number. -/
inductive Double where
  | finite (negative : Bool) (code : Fin Double.codes)
  | infinite (negative : Bool)
  | nan
  deriving DecidableEq

namespace Double

/-- How many units of `2 ^ (-1074)` make one. -/
abbrev unit : Nat := Nat.pow 2 1074

/-- The magnitude of a code, in units of `2 ^ (-1074)`.

The magnitudes of the first two blocks are counted one by one; each block after them doubles the
step of the one before it.  The rule makes sense beyond the finite codes too, where it gives the
upper neighbour of the largest finite magnitude. -/
def magnitude (code : Nat) : Nat :=
  if code < block then code else (block + code % block) * Nat.pow 2 (code / block - 1)

/-- The whole number nearest to `num / den`, a tie going to the even one. -/
def roundHalfEven (num den : Nat) : Nat :=
  let quotient := num / den
  let twice := 2 * (num % den)
  if twice < den then quotient
  else if den < twice then quotient + 1
  else if quotient % 2 = 0 then quotient else quotient + 1

/-- The code of the magnitude nearest to `num / den` units, a tie going to the even code.

The significand has 53 bits; rounding it up to `2 ^ 53` carries into the next block by itself.  A
result of `codes` or more means that the nearest magnitude is infinite. -/
def nearestCode (num den : Nat) : Nat :=
  let shift := Nat.log2 (num / den) - 52
  roundHalfEven num (den * Nat.pow 2 shift) + shift * block

/-- The number of a sign and a code, infinite when the code is not a finite one. -/
def ofCode (negative : Bool) (code : Nat) : Double :=
  if h : code < codes then finite negative ⟨code, h⟩ else infinite negative

/-- The number nearest to `num / den` units, with the given sign. -/
def ofUnits (negative : Bool) (num den : Nat) : Double :=
  ofCode negative (nearestCode num den)

/-- The number nearest to `num / den`, with the given sign. -/
def ofRatio (negative : Bool) (num den : Nat) : Double :=
  ofUnits negative (num * unit) den

/-- The zero of a sign. -/
def signedZero (negative : Bool) : Double := finite negative ⟨0, by decide⟩

/-- Positive zero. -/
def zero : Double := signedZero false

/-- The number nearest to an integer. -/
def ofInt (i : Int) : Double := ofRatio (decide (i < 0)) i.natAbs 1

/-- Whether a number is neither infinite nor not-a-number. -/
def isFinite : Double → Bool
  | finite _ _ => true
  | _ => false

/-- Whether a number is one of the two zeros. -/
def isZero : Double → Bool
  | finite _ code => code.val == 0
  | _ => false

/-- Whether the sign of a number is a minus. -/
def isNegative : Double → Bool
  | finite negative _ => negative
  | infinite negative => negative
  | nan => false

/-- A finite number in units of `2 ^ (-1074)`, with its sign. -/
def signedUnits (negative : Bool) (code : Nat) : Int :=
  if negative then -(magnitude code : Int) else magnitude code

/-- The number with the opposite sign. -/
def neg : Double → Double
  | finite negative code => finite (!negative) code
  | infinite negative => infinite (!negative)
  | nan => nan

/-- The sum, rounded once.  A sum of zero is negative only when both numbers are. -/
def add : Double → Double → Double
  | finite n a, finite m b =>
    let sum := signedUnits n a + signedUnits m b
    if sum = 0 then signedZero (n && m) else ofUnits (decide (sum < 0)) sum.natAbs 1
  | nan, _ => nan
  | _, nan => nan
  | infinite n, infinite m => if n = m then infinite n else nan
  | infinite n, finite _ _ => infinite n
  | finite _ _, infinite m => infinite m

/-- The difference, rounded once. -/
def sub (a b : Double) : Double := a.add b.neg

/-- The product, rounded once. -/
def mul : Double → Double → Double
  | finite n a, finite m b => ofUnits (n != m) (magnitude a * magnitude b) unit
  | nan, _ => nan
  | _, nan => nan
  | a, b => if a.isZero || b.isZero then nan else infinite (a.isNegative != b.isNegative)

/-- The quotient, rounded once. -/
def div : Double → Double → Double
  | finite n a, finite m b =>
    if b.val = 0 then (if a.val = 0 then nan else infinite (n != m))
    else ofUnits (n != m) (magnitude a * unit) (magnitude b)
  | nan, _ => nan
  | _, nan => nan
  | infinite n, finite m _ => infinite (n != m)
  | finite n _, infinite m => signedZero (n != m)
  | infinite _, infinite _ => nan

/-- Where a number stands on the extended line, in units of `2 ^ (-1074)`: the infinities lie below
and above every finite place, and the two zeros share one. -/
def place : Double → Option (Int × Int)
  | finite negative code => some (0, signedUnits negative code)
  | infinite true => some (-1, 0)
  | infinite false => some (1, 0)
  | nan => none

end Double

end ToolWeave
