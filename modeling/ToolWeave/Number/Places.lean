import ToolWeave.Number.Double

/-!
# Decimal places

Ratios written with a given number of decimal places or of significant digits, the last of them
rounded.

## Main definitions

* `Places.significant`: a ratio with so many significant bits, as numbers of a binary format have.
* `Places.fixed`: a ratio with so many places after the point.
* `Places.scientific`: a ratio with one digit before the point and an exponent.
* `Places.general`: the shorter of the two.
-/

namespace ToolWeave

namespace Places

/-- A ratio of natural numbers. -/
structure Ratio where
  num : Nat
  den : Nat

/-- The ratio nearest to another that has so many significant bits, a tie going to the even one. -/
def significant (bits : Nat) (ratio : Ratio) : Ratio :=
  if ratio.num = 0 || ratio.den = 0 then ratio
  else
    let order : Int := (ratio.num.log2 : Int) - ratio.den.log2
    let shift : Int := bits - order
    let num := ratio.num * Nat.pow 2 shift.toNat
    let den := ratio.den * Nat.pow 2 (-shift).toNat
    let excess := (num / den).log2 + 1 - bits
    let whole := Double.roundHalfEven num (den * Nat.pow 2 excess) * Nat.pow 2 excess
    ⟨whole * Nat.pow 2 (-shift).toNat, Nat.pow 2 shift.toNat⟩

/-- Digits filled up with zeros in front. -/
def padded (width n : Nat) : List Char :=
  let digits := Nat.toDigits 10 n
  List.replicate (width - digits.length) '0' ++ digits

/-- A point and digits after it; there is no point without digits unless it is asked for. -/
def fraction (point : Bool) (digits : List Char) : List Char :=
  if digits.isEmpty && !point then [] else '.' :: digits

/-- A ratio with so many places after the point. -/
def fixed (ratio : Ratio) (places : Nat) (point : Bool) : List Char :=
  let scale := Nat.pow 10 places
  let n := Double.roundHalfEven (ratio.num * scale) ratio.den
  Nat.toDigits 10 (n / scale) ++
    fraction point (if places = 0 then [] else padded places (n % scale))

/-- A ratio divided by a power of ten. -/
def shifted (ratio : Ratio) (exponent : Int) : Ratio :=
  ⟨ratio.num * Nat.pow 10 (-exponent).toNat, ratio.den * Nat.pow 10 exponent.toNat⟩

/-- The exponent of the power of ten that is not more than a ratio, from a guess that may be too
large by so many steps. -/
def exponentFrom (ratio : Ratio) : (steps : Nat) → (guess : Int) → Int
  | 0, guess => guess
  | steps + 1, guess =>
    let scaled := shifted ratio guess
    if scaled.den ≤ scaled.num then guess else exponentFrom ratio steps (guess - 1)

/-- The exponent of a ratio in scientific notation, zero for zero. -/
def exponent (ratio : Ratio) : Int :=
  if ratio.num = 0 then 0
  else
    let order : Int := (ratio.num.log2 : Int) - ratio.den.log2
    exponentFrom ratio 4 (order * 30103 / 100000 + 2)

/-- The digits of a ratio, one before the point and so many after it, and the exponent. -/
def digitsOf (ratio : Ratio) (places : Nat) : List Char × Int :=
  let e := exponent ratio
  let scaled := shifted ratio (e - places)
  let n := Double.roundHalfEven scaled.num scaled.den
  if Nat.pow 10 (places + 1) ≤ n then (padded (places + 1) (n / 10), e + 1)
  else (padded (places + 1) n, e)

/-- An exponent with its sign and at least two digits. -/
def exponentText (e : Int) : List Char :=
  'e' :: (if e < 0 then '-' else '+') :: padded 2 e.natAbs

/-- A ratio with one digit before the point, so many after it, and an exponent. -/
def scientific (ratio : Ratio) (places : Nat) (point : Bool) : List Char :=
  let (digits, e) := digitsOf ratio places
  digits.take 1 ++ fraction point (digits.drop 1) ++ exponentText e

/-- Digits without the zeros at their end. -/
def bare (digits : List Char) : List Char := (digits.reverse.dropWhile (· == '0')).reverse

/-- A ratio with so many significant digits: positional from a ten-thousandth on as long as all
digits before the point are significant, and else with an exponent.  Zeros at the end are left out
unless a point is asked for. -/
def general (ratio : Ratio) (digits : Nat) (point : Bool) : List Char :=
  let count := max 1 digits
  let (shown, e) := digitsOf ratio (count - 1)
  let trim (cs : List Char) : List Char := if point then cs else bare cs
  if e < -4 || (count : Int) ≤ e then
    shown.take 1 ++ fraction point (trim (shown.drop 1)) ++ exponentText e
  else if 0 ≤ e then
    shown.take (e.toNat + 1) ++ fraction point (trim (shown.drop (e.toNat + 1)))
  else '0' :: fraction point (trim (List.replicate ((-e).toNat - 1) '0' ++ shown))

end Places

end ToolWeave
