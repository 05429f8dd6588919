import Mathlib.Order.Compare
import ToolWeave.Number.Basic
import ToolWeave.Proofs.Nearest

/-!
# Numbers compare by exact value

Finite numbers, integers and doubles alike, are ordered as the rational numbers that they are
(`Number.order_eq_compare`), and they are equal exactly if these are (`Number.equal_iff`).

## Main definitions

* `Number.exact`: the rational number that a finite number is.
-/

namespace ToolWeave

/-- The rational number that a finite double is. -/
def Double.exact : Double → ℚ
  | finite negative code => if negative then -exactMagnitude code else exactMagnitude code
  | _ => 0

namespace Number

/-- The rational number that a finite number is. -/
def exact : Number → ℚ
  | int i => i
  | double d => d.exact

/-- A finite number stands in a finite place, as far from zero as its exact value says. -/
theorem exists_place {n : Number} (h : n.isFinite = true) :
    ∃ units : Int, n.place = some (0, units) ∧ n.exact = units * Double.least := by
  cases n with
  | int i =>
    refine ⟨i * Double.unit, rfl, ?_⟩
    rw [Int.cast_mul, Int.cast_natCast, mul_assoc, Double.unit_mul_least, mul_one]
    rfl
  | double d =>
    cases d with
    | finite negative code =>
      refine ⟨Double.signedUnits negative code, rfl, ?_⟩
      show (if negative then -Double.exactMagnitude code else Double.exactMagnitude code) = _
      unfold Double.signedUnits
      rw [Double.exactMagnitude_eq]
      cases negative
      · simp
      · simp
    | infinite negative => cases h
    | nan => cases h

theorem placeOrder_finite (a b : Int) : placeOrder (0, a) (0, b) = compare a b := rfl

theorem compare_units (a b : Int) :
    compare ((a : ℚ) * Double.least) ((b : ℚ) * Double.least) = compare a b := by
  have hmono : StrictMono fun units : Int => (units : ℚ) * Double.least :=
    fun _ _ hlt => mul_lt_mul_of_pos_right (Int.cast_lt.mpr hlt) Double.least_pos
  rw [← cmp_eq_compare, ← cmp_eq_compare]
  exact hmono.cmp_map_eq a b

variable {m n : Number}

/-- **Finite numbers compare by exact value.** -/
theorem order_eq_compare (hm : m.isFinite = true) (hn : n.isFinite = true) :
    m.order n = compare m.exact n.exact := by
  obtain ⟨a, ha, hexact⟩ := exists_place hm
  obtain ⟨b, hb, hexact'⟩ := exists_place hn
  unfold order
  rw [ha, hb, hexact, hexact']
  dsimp only
  rw [placeOrder_finite, compare_units]

/-- **Finite numbers are equal if their exact values are.** -/
theorem equal_iff (hm : m.isFinite = true) (hn : n.isFinite = true) : m.equal n = true ↔ m.exact = n.exact := by
  have hcompare : compare m.exact n.exact = .eq ↔ m.exact = n.exact := compare_eq_iff_eq
  rw [← hcompare, ← order_eq_compare hm hn]
  obtain ⟨a, ha, -⟩ := exists_place hm
  obtain ⟨b, hb, -⟩ := exists_place hn
  unfold equal order
  rw [ha, hb]
  exact beq_iff_eq

end Number

end ToolWeave
