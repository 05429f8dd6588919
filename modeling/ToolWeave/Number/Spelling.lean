import ToolWeave.Number.Decimal

/-!
# Numbers in digits

What digits spell: natural numbers in some base, and doubles with a point and an exponent.

## Main definitions

* `Number.natOfDigits`, `Number.natIn?`: the natural number that digits spell.
* `Double.ofText?`: the double that a text spells, also by name.
-/

namespace ToolWeave

namespace Number

/-- The value of a digit.  Letters go on where the decimal digits end. -/
def digit? (c : Char) : Option Nat :=
  if c.isDigit then some (c.toNat - 48)
  else if c.isAlpha then some (c.toLower.toNat - 87)
  else none

/-- The natural number that decimal digits spell. -/
def natOfDigits (digits : List Char) : Nat :=
  digits.foldl (fun value c => value * 10 + (c.toNat - 48)) 0

/-- The natural number that some characters spell in a base, if all of them are digits of the base
and there is one at least. -/
def natIn? (base : Nat) (cs : List Char) : Option Nat :=
  if cs.isEmpty then none
  else
    cs.foldlM (fun value c =>
      match digit? c with
      | some digit => if digit < base then some (value * base + digit) else none
      | none => none) 0

/-- Takes the sign off the front of some characters: whether it is a minus, and what is left. -/
def cutSign : List Char → Bool × List Char
  | '-' :: rest => (true, rest)
  | '+' :: rest => (false, rest)
  | cs => (false, cs)

end Number

namespace Double

/-- The exponent that is left after the digits of a decimal: none, or a letter, a sign if there is
one, and digits. -/
def exponent? : List Char → Option Int
  | [] => some 0
  | e :: rest =>
    if e == 'e' || e == 'E' then
      let (down, digits) := Number.cutSign rest
      (Number.natIn? 10 digits).map fun n => if down then -(n : Int) else n
    else none

/-- The double that digits, a point and an exponent spell.  The point and the exponent may be
missing, but a digit has to stand before the point or after it. -/
def ofDecimalText? (negative : Bool) (cs : List Char) : Option Double :=
  let whole := cs.takeWhile Char.isDigit
  let rest := cs.drop whole.length
  let (fraction, rest) : List Char × List Char :=
    match rest with
    | '.' :: after =>
      let fraction := after.takeWhile Char.isDigit
      (fraction, after.drop fraction.length)
    | rest => ([], rest)
  if whole.isEmpty && fraction.isEmpty then none
  else
    (exponent? rest).map fun exponent =>
      ofDecimal negative (Number.natOfDigits (whole ++ fraction)) (exponent - fraction.length)

/-- The double that some characters spell: a decimal, or the name of one that is not finite, with a
sign in front or not. -/
def ofText? (cs : List Char) : Option Double :=
  let (negative, cs) := Number.cutSign cs
  let name := String.ofList (cs.map Char.toLower)
  if name = "inf" ∨ name = "infinity" then some (infinite negative)
  else if name = "nan" then some nan
  else ofDecimalText? negative cs

end Double

end ToolWeave
