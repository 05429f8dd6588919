import ToolWeave.Number.Decimal

/-!
# Numbers

A number is an integer of any size or a double; the two spellings of one number, such as `1` and
`1.0`, are different numbers that compare equal.

## Main definitions

* `Number.order`: comparison by exact value.
* `Number.add`, `Number.mul`, `Number.sub`, `Number.div`: integers stay exact as long as they can,
  and an integer that meets a double is converted to the nearest double first.

## Design notes

**Two ways to overflow.**  An integer may be too large for the double it has to become, and the
quotient of two integers may be too large for a double though the integers themselves never are
converted.  Each is a cause of its own.
-/

namespace ToolWeave

/-- An integer of any size, or a double. -/
inductive Number where
  | int (value : Int)
  | double (value : Double)
  deriving DecidableEq

/-- Why an operation on numbers has no result. -/
inductive Overflow where
  /-- An integer has no nearest finite double. -/
  | conversion
  /-- The quotient of two integers has no nearest finite double. -/
  | quotient
  deriving DecidableEq

/-- The wording of an overflow. -/
def Overflow.message : Overflow → String
  | conversion => "int too large to convert to float"
  | quotient => "integer division result too large for a float"

namespace Number

/-- Whether a number is neither infinite nor not-a-number. -/
def isFinite : Number → Bool
  | int _ => true
  | double d => d.isFinite

/-- Whether a number is zero, in either spelling and of either sign. -/
def isZero : Number → Bool
  | int i => i == 0
  | double d => d.isZero

/-- Where a number stands on the extended line, in units of `2 ^ (-1074)`. -/
def place : Number → Option (Int × Int)
  | int i => some (0, i * Double.unit)
  | double d => d.place

/-- The order of two places: infinities first, then finite places. -/
def placeOrder (a b : Int × Int) : Ordering :=
  (compare a.1 b.1).then (compare a.2 b.2)

/-- Comparison by exact value, with no rounding of either side.

Not-a-number is neither below nor above anything, so it compares equal. -/
def order (a b : Number) : Ordering :=
  match a.place, b.place with
  | some p, some q => placeOrder p q
  | _, _ => .eq

/-- Whether two numbers have the same exact value. -/
def equal (a b : Number) : Bool :=
  match a.place, b.place with
  | some p, some q => placeOrder p q == .eq
  | _, _ => false

/-- A double that was rounded to, unless it is infinite. -/
def bounded (cause : Overflow) : Double → Except Overflow Double
  | .infinite _ => .error cause
  | d => .ok d

/-- The double nearest to an integer, unless it would be infinite. -/
def convert (i : Int) : Except Overflow Double := bounded .conversion (Double.ofInt i)

/-- The double a number stands for in an operation on doubles. -/
def toDouble : Number → Except Overflow Double
  | int i => convert i
  | double d => .ok d

/-- The sum: exact on integers, rounded once otherwise. -/
def add : Number → Number → Except Overflow Number
  | int a, int b => .ok (int (a + b))
  | a, b => do return double ((← a.toDouble).add (← b.toDouble))

/-- The product: exact on integers, rounded once otherwise. -/
def mul : Number → Number → Except Overflow Number
  | int a, int b => .ok (int (a * b))
  | a, b => do return double ((← a.toDouble).mul (← b.toDouble))

/-- The difference: exact on integers, rounded once otherwise. -/
def sub : Number → Number → Except Overflow Number
  | int a, int b => .ok (int (a - b))
  | a, b => do return double ((← a.toDouble).sub (← b.toDouble))

/-- The quotient.  Integers that divide exactly give an integer, other integers the double nearest
to the exact quotient. -/
def div : Number → Number → Except Overflow Number
  | int a, int b =>
    if b ∣ a then .ok (int (a / b))
    else
      (bounded .quotient
        (Double.ofRatio (decide (a < 0) != decide (b < 0)) a.natAbs b.natAbs)).map double
  | a, b => do return double ((← a.toDouble).div (← b.toDouble))

/-- The sum of a list, from left to right, starting with the integer zero. -/
def sum (xs : List Number) : Except Overflow Number :=
  xs.foldlM add (int 0)

/-- The product of a list, from left to right, starting with the integer one. -/
def product (xs : List Number) : Except Overflow Number :=
  xs.foldlM mul (int 1)

end Number

end ToolWeave
