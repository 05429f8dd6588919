import Mathlib.Algebra.Order.Field.Power
import Mathlib.Algebra.Order.Field.Rat
import Mathlib.Tactic.FieldSimp
import Mathlib.Tactic.Linarith
import Mathlib.Tactic.LinearCombination
import Mathlib.Tactic.Ring
import ToolWeave.Proofs.Rounding

/-!
# The nearest double

A finite double stands for a rational number, and a rational number has one nearest double: the finite one
that is nearer than all others, the even one of two that are equally near, and an infinity from halfway
between the largest finite magnitude and the one that would come next.  Both ways of the program to round
give it, ratios (`Double.ofRatio_nearest`) and decimals (`Double.ofDecimal_nearest`).

## Main definitions

* `Double.exactMagnitude`: the number behind a code, from its exponent bits and its fraction bits.
* `Double.tooLarge`: from here on magnitudes are rounded to infinity.
* `Double.Nearest`: a double is the nearest one to a number with a sign.

## Design notes

**Intervals.**  Being nearer than every other finite double comes down to the two neighbours, which is
what `Interval.around` is about.  The intervals of all codes, the infinite ones included, cover the
nonnegative numbers (`Double.exists_contains`), and rounding picks the code of the interval.
-/

namespace ToolWeave

namespace Double

/-! ### Exact values -/

/-- The smallest positive magnitude. -/
def least : ℚ := 2 ^ (-1074 : ℤ)

/-- The number that the magnitude of a code stands for.  While the exponent bits are zero the fraction
bits count multiples of the smallest magnitude; otherwise a leading bit goes in front of them, and the
exponent bits move them up. -/
def exactMagnitude (code : Nat) : ℚ :=
  if code / block = 0 then ((code % block : Nat) : ℚ) * 2 ^ (-1074 : ℤ)
  else ((block + code % block : Nat) : ℚ) * 2 ^ (((code / block : Nat) : ℤ) - 1075)

/-- From this magnitude on there is no nearest finite one: it lies halfway between the largest finite
magnitude and the one that would come next. -/
def tooLarge : ℚ := 2 ^ 1024 - 2 ^ 970

/-- A double is the nearest one to a magnitude with a sign.  A finite double is nearer than every other
one, or as near with an even last bit. -/
def Nearest (negative : Bool) (x : ℚ) : Double → Prop
  | finite sign code => sign = negative ∧ x < tooLarge ∧
      ∀ other : Fin codes, other ≠ code →
        |exactMagnitude code - x| < |exactMagnitude other - x| ∨
          (|exactMagnitude code - x| = |exactMagnitude other - x| ∧ code.val % 2 = 0)
  | infinite sign => sign = negative ∧ tooLarge ≤ x
  | nan => False

theorem least_pos : 0 < least := by
  unfold least
  positivity

theorem tooLarge_pos : 0 < tooLarge := sub_pos.mpr (pow_lt_pow_right₀ one_lt_two (by decide))

/-- The units of magnitudes are multiples of the smallest one. -/
theorem exactMagnitude_eq (code : Nat) : exactMagnitude code = magnitude code * least := by
  unfold exactMagnitude magnitude least
  by_cases h : code / block = 0
  · have hlt : code < block := (Nat.div_eq_zero_iff_lt (by decide)).mp h
    rw [if_pos h, if_pos hlt, Nat.mod_eq_of_lt hlt]
  · have hge : ¬ code < block := fun hlt => h (Nat.div_eq_of_lt hlt)
    rw [if_neg h, if_neg hge]
    have hpos : 1 ≤ code / block := Nat.one_le_iff_ne_zero.mpr h
    generalize code / block = exponent at *
    generalize block + code % block = significand
    have hpower : (2 : ℚ) ^ ((exponent : ℤ) - 1075) = 2 ^ (exponent - 1) * 2 ^ (-1074 : ℤ) := by
      have hexponent : (exponent : ℤ) - 1075 = (exponent - 1 : Nat) + -1074 := by omega
      rw [← zpow_natCast, ← zpow_add₀ two_ne_zero, hexponent]
    have hcast : ((significand * Nat.pow 2 (exponent - 1) : Nat) : ℚ) = significand * 2 ^ (exponent - 1) := by
      rw [Nat.cast_mul]
      exact congrArg _ (Nat.cast_pow 2 _)
    rw [hpower, hcast, mul_assoc]

theorem unit_mul_least : (unit : ℚ) * least = 1 := by
  obtain ⟨n, hn⟩ : ∃ n, n = 1074 := ⟨_, rfl⟩
  have hleast : least = 2 ^ (-(n : ℤ)) := by
    rw [hn]
    rfl
  rw [unit_eq hn, hleast, Nat.cast_pow, Nat.cast_ofNat, zpow_neg, zpow_natCast]
  exact mul_inv_cancel₀ (pow_ne_zero n two_ne_zero)

/-- The interval of the largest finite magnitude ends where magnitudes are too large. -/
theorem upper_around_last : ((Interval.around (codes - 1)).upper : ℚ) * least = 2 * tooLarge := by
  obtain ⟨shift, hshift⟩ : ∃ shift, shift = 2045 := ⟨_, rfl⟩
  have hcode : codes - 1 = shift * block + (2 * block - 1) := by rw [hshift]; rfl
  have hcodes : codes - 1 + 1 = shift * block + 2 * block := by rw [hshift]; rfl
  have hlast : magnitude (codes - 1) = (2 * block - 1) * 2 ^ shift := by
    rw [hcode, magnitude_eq (fun _ => by decide) (by decide)]
  have hnext : magnitude (codes - 1 + 1) = 2 * block * 2 ^ shift := by
    rw [hcodes, magnitude_eq (fun _ => by decide) le_rfl]
  have hleast : (2 : ℚ) ^ shift * least = 2 ^ 970 * 2 := by
    have hexponent : (shift : ℤ) + -1074 = 970 + 1 := by omega
    unfold least
    rw [← zpow_natCast, ← zpow_add₀ two_ne_zero, hexponent, zpow_add_one₀ two_ne_zero]
    rfl
  have hlarge : tooLarge = 2 ^ 970 * (4 * block - 1) := by
    unfold tooLarge
    rw [show 1024 = 970 + 54 from rfl, pow_add]
    generalize (2 : ℚ) ^ 970 = power
    norm_num
    ring
  unfold Interval.around
  dsimp only
  rw [hlast, hnext, hlarge]
  generalize (2 : ℚ) ^ 970 = power at *
  push_cast
  linear_combination (4 * block - 1 : ℚ) * hleast

/-! ### Distances -/

/-- How far the magnitude of a code is from a ratio of units, times the denominator. -/
def distance (code num den : Nat) : Nat := ((magnitude code * den : Nat) - num : Int).natAbs

/-- Distances between numbers are distances between whole numbers, on a finer scale. -/
theorem abs_exactMagnitude_sub (code num : Nat) {den : Nat} (hden : 0 < den) :
    |exactMagnitude code - num / den| = distance code (num * unit) den * (least / den) := by
  have hpos : (0 : ℚ) < den := by exact_mod_cast hden
  have hsub : exactMagnitude code - num / den =
      (((magnitude code * den : Nat) - (num * unit : Nat) : Int) : ℚ) * (least / den) := by
    rw [exactMagnitude_eq]
    push_cast
    field_simp
    linear_combination (num : ℚ) * unit_mul_least
  rw [hsub, abs_mul, abs_of_pos (div_pos least_pos hpos), distance, Nat.cast_natAbs, Int.cast_abs]

theorem lt_tooLarge_iff (num : Nat) {den : Nat} (hden : 0 < den) :
    (num / den : ℚ) < tooLarge ↔ 2 * (num * unit) < (Interval.around (codes - 1)).upper * den := by
  have hpos : (0 : ℚ) < den := by exact_mod_cast hden
  have hnum : ((2 * (num * unit) : Nat) : ℚ) * least = 2 * num := by
    push_cast
    linear_combination (2 * num : ℚ) * unit_mul_least
  have hend : (((Interval.around (codes - 1)).upper * den : Nat) : ℚ) * least = 2 * (tooLarge * den) := by
    push_cast
    linear_combination (den : ℚ) * upper_around_last
  calc (num / den : ℚ) < tooLarge ↔ 2 * (num : ℚ) < 2 * (tooLarge * den) := by
        rw [div_lt_iff₀ hpos, mul_lt_mul_iff_right₀ two_pos]
    _ ↔ 2 * (num * unit) < (Interval.around (codes - 1)).upper * den := by
        rw [← hnum, ← hend, mul_lt_mul_iff_left₀ least_pos, Nat.cast_lt]

section Distances

variable {code other x den : Nat}

/-- A magnitude is the nearer one of itself and a greater one as long as the ratio is below the middle of
the two; on the middle a tie-break decides. -/
theorem distance_le_iff_of_lt (h : magnitude code < magnitude other) (hden : 0 < den) (even : Prop) :
    (distance code x den < distance other x den ∨ (distance code x den = distance other x den ∧ even)) ↔
      2 * x < (magnitude code + magnitude other) * den ∨
        (2 * x = (magnitude code + magnitude other) * den ∧ even) := by
  have hlt : magnitude code * den < magnitude other * den := Nat.mul_lt_mul_of_pos_right h hden
  have hnear : distance code x den < distance other x den ↔
      2 * x < (magnitude code + magnitude other) * den := by
    unfold distance
    rw [Nat.add_mul]
    omega
  have htie : distance code x den = distance other x den ↔
      2 * x = (magnitude code + magnitude other) * den := by
    unfold distance
    rw [Nat.add_mul]
    omega
  rw [hnear, htie]

/-- Against a smaller magnitude the ratio has to be above the middle of the two. -/
theorem distance_le_iff_of_gt (h : magnitude other < magnitude code) (hden : 0 < den) (even : Prop) :
    (distance code x den < distance other x den ∨ (distance code x den = distance other x den ∧ even)) ↔
      (magnitude other + magnitude code) * den < 2 * x ∨
        ((magnitude other + magnitude code) * den = 2 * x ∧ even) := by
  have hlt : magnitude other * den < magnitude code * den := Nat.mul_lt_mul_of_pos_right h hden
  have hnear : distance code x den < distance other x den ↔
      (magnitude other + magnitude code) * den < 2 * x := by
    unfold distance
    rw [Nat.add_mul]
    omega
  have htie : distance code x den = distance other x den ↔
      (magnitude other + magnitude code) * den = 2 * x := by
    unfold distance
    rw [Nat.add_mul]
    omega
  rw [hnear, htie]

end Distances

/-! ### Intervals -/

/-- The interval of a code reaches from the middle before it to the middle after it, and these belong to
it if the code is even. -/
theorem contains_around_iff {code x den : Nat} : (Interval.around code).contains x den = true ↔
    ((magnitude (code - 1) + magnitude code) * den < x ∨
      ((magnitude (code - 1) + magnitude code) * den = x ∧ code % 2 = 0)) ∧
    (x < (magnitude code + magnitude (code + 1)) * den ∨
      (x = (magnitude code + magnitude (code + 1)) * den ∧ code % 2 = 0)) := by
  have hopen : (code % 2 == 0) = false ↔ code % 2 = 1 := by
    rw [beq_eq_false_iff_ne]
    omega
  unfold Interval.contains Interval.around
  dsimp only
  generalize (magnitude (code - 1) + magnitude code) * den = lower
  generalize (magnitude code + magnitude (code + 1)) * den = upper
  split
  · next hclosed =>
    have heven : code % 2 = 0 := eq_of_beq hclosed
    rw [Bool.and_eq_true, decide_eq_true_iff, decide_eq_true_iff]
    omega
  · next hclosed =>
    have hodd : code % 2 = 1 := hopen.mp (Bool.eq_false_iff.mpr hclosed)
    rw [Bool.and_eq_true, decide_eq_true_iff, decide_eq_true_iff]
    omega

/-- A finite double is the nearest one to the ratios in its interval. -/
theorem nearest_finite_iff {negative : Bool} {code : Fin codes} {num den : Nat} (hden : 0 < den) :
    Nearest negative (num / den) (finite negative code) ↔
      (Interval.around code).contains (2 * (num * unit)) den = true := by
  have hpos : (0 : ℚ) < den := by exact_mod_cast hden
  have hscale : 0 < least / den := div_pos least_pos hpos
  unfold Nearest
  simp only [abs_exactMagnitude_sub _ _ hden, mul_lt_mul_iff_left₀ hscale, mul_left_inj' hscale.ne',
    Nat.cast_lt, Nat.cast_inj, true_and]
  rw [lt_tooLarge_iff _ hden, contains_around_iff]
  generalize num * unit = x
  obtain ⟨code, hcode⟩ := code
  dsimp only
  constructor
  · -- only the two neighbours matter, and after the last code the bound stands in for one
    rintro ⟨hbound, hnearest⟩
    refine ⟨?_, ?_⟩
    · rcases Nat.eq_zero_or_pos code with rfl | hpositive
      · have hzero : (magnitude (0 - 1) + magnitude 0) * den = 0 := Nat.zero_mul den
        rw [hzero]
        omega
      · have hless : magnitude (code - 1) < magnitude code := magnitude_strictMono (by omega)
        have hnear := hnearest ⟨code - 1, by omega⟩ (by simp; omega)
        exact (distance_le_iff_of_gt hless hden _).mp hnear
    · rcases Nat.lt_or_ge (code + 1) codes with hnext | hlast
      · have hnear := hnearest ⟨code + 1, hnext⟩ (by simp)
        exact (distance_le_iff_of_lt (magnitude_lt_succ code) hden _).mp hnear
      · obtain rfl : code = codes - 1 := by omega
        exact .inl hbound
  · rintro ⟨hlower, hupper⟩
    refine ⟨?_, ?_⟩
    · rcases Nat.lt_or_ge (code + 1) codes with hnext | hlast
      · have hless : magnitude code + magnitude (code + 1) < (Interval.around (codes - 1)).upper :=
          Nat.add_lt_add_of_lt_of_le (magnitude_strictMono (by omega))
            (magnitude_strictMono.monotone (by omega))
        have hends := Nat.mul_lt_mul_of_pos_right hless hden
        omega
      · obtain rfl : code = codes - 1 := by omega
        have hodd : ¬ (codes - 1) % 2 = 0 := by decide
        exact hupper.resolve_right fun htie => hodd htie.2
    · rintro ⟨other, hother⟩ hne
      have hne : other ≠ code := fun heq => hne (Fin.ext heq)
      dsimp only
      rcases Nat.lt_or_gt_of_ne hne with hless | hmore
      · rw [distance_le_iff_of_gt (magnitude_strictMono hless) hden]
        have hle : magnitude other ≤ magnitude (code - 1) := magnitude_strictMono.monotone (by omega)
        have hends := Nat.mul_le_mul_right den (Nat.add_le_add_right hle (magnitude code))
        omega
      · rw [distance_le_iff_of_lt (magnitude_strictMono hmore) hden]
        have hle : magnitude (code + 1) ≤ magnitude other := magnitude_strictMono.monotone (by omega)
        have hends := Nat.mul_le_mul_right den (Nat.add_le_add_left hle (magnitude code))
        omega

/-- Every ratio lies in the interval of some code, finite or not. -/
theorem exists_contains (x : Nat) {den : Nat} (hden : 0 < den) :
    ∃ code, (Interval.around code).contains x den = true := by
  have hsome : ∃ code, x ≤ (magnitude code + magnitude (code + 1)) * den := by
    refine ⟨x, ?_⟩
    have hle : x ≤ magnitude x := magnitude_strictMono.id_le x
    calc x ≤ magnitude x + magnitude (x + 1) := by omega
      _ ≤ (magnitude x + magnitude (x + 1)) * den := Nat.le_mul_of_pos_right _ hden
  -- the first code that reaches up to the ratio, or the one after it if the ratio is on an odd one's end
  obtain ⟨code, hupper, hfirst⟩ : ∃ code, x ≤ (magnitude code + magnitude (code + 1)) * den ∧
      ∀ before < code, ¬ x ≤ (magnitude before + magnitude (before + 1)) * den := by
    classical
    exact ⟨Nat.find hsome, Nat.find_spec hsome, fun before hbefore => Nat.find_min hsome hbefore⟩
  by_cases hseam : x = (magnitude code + magnitude (code + 1)) * den ∧ code % 2 = 1
  · refine ⟨code + 1, contains_around_iff.mpr ⟨?_, ?_⟩⟩
    · rw [Nat.add_sub_cancel]
      exact .inr ⟨hseam.1.symm, by omega⟩
    · have hmore : magnitude code < magnitude (code + 1 + 1) := magnitude_strictMono (by omega)
      have hends : (magnitude code + magnitude (code + 1)) * den <
          (magnitude (code + 1) + magnitude (code + 1 + 1)) * den :=
        Nat.mul_lt_mul_of_pos_right (by omega) hden
      omega
  · refine ⟨code, contains_around_iff.mpr ⟨?_, by omega⟩⟩
    cases code with
    | zero =>
      have hzero : (magnitude (0 - 1) + magnitude 0) * den = 0 := Nat.zero_mul den
      rw [hzero]
      omega
    | succ before =>
      have hbelow := hfirst before (by omega)
      rw [Nat.add_sub_cancel]
      omega

/-- What lies in the interval of a code beyond the finite ones is too large. -/
theorem tooLarge_le_of_contains {code num den : Nat} (hcode : codes ≤ code) (hden : 0 < den)
    (h : (Interval.around code).contains (2 * (num * unit)) den = true) : tooLarge ≤ (num / den : ℚ) := by
  have hends : (Interval.around (codes - 1)).upper ≤ (Interval.around code).lower :=
    Nat.add_le_add (magnitude_strictMono.monotone (by omega)) (magnitude_strictMono.monotone (by omega))
  have hbeyond := Nat.mul_le_mul_right den hends
  obtain ⟨⟨hlower, -⟩, -⟩ := Interval.bounds_of_contains h
  rw [← not_lt, lt_tooLarge_iff num hden, not_lt]
  omega

/-! ### Rounding -/

/-- There is one nearest number only. -/
theorem Nearest.unique {negative : Bool} {num den : Nat} {d e : Double} (hden : 0 < den)
    (hd : Nearest negative (num / den) d) (he : Nearest negative (num / den) e) : d = e := by
  cases d with
  | finite sign code =>
    cases e with
    | finite sign' code' =>
      obtain rfl := hd.1
      obtain rfl := he.1
      rw [nearest_finite_iff hden] at hd he
      have hcode := (nearestCode_of_contains hden hd).symm.trans (nearestCode_of_contains hden he)
      rw [Fin.ext hcode]
    | infinite sign' => exact absurd hd.2.1 (not_lt.mpr he.2)
    | nan => exact he.elim
  | infinite sign =>
    cases e with
    | finite sign' code' => exact absurd he.2.1 (not_lt.mpr hd.2)
    | infinite sign' => rw [hd.1, he.1]
    | nan => exact he.elim
  | nan => exact hd.elim

/-- **Ratios are rounded to the number nearest to them.** -/
theorem ofRatio_nearest (negative : Bool) (num : Nat) {den : Nat} (hden : 0 < den) :
    Nearest negative (num / den) (ofRatio negative num den) := by
  obtain ⟨code, hcontains⟩ := exists_contains (2 * (num * unit)) hden
  unfold ofRatio ofUnits ofCode
  rw [nearestCode_of_contains hden hcontains]
  split
  · next hcode => exact (nearest_finite_iff hden).mpr hcontains
  · next hcode => exact ⟨rfl, tooLarge_le_of_contains (Nat.not_lt.mp hcode) hden hcontains⟩

/-- A decimal as a ratio of natural numbers. -/
theorem decimal_eq_ratio (digits : Nat) (exponent : Int) :
    (digits : ℚ) * 10 ^ exponent =
      (digits * 10 ^ exponent.toNat : Nat) / (10 ^ (-exponent).toNat : Nat) := by
  push_cast
  rcases le_total 0 exponent with h | h
  · obtain ⟨n, rfl⟩ := Int.eq_ofNat_of_zero_le h
    simp
  · obtain ⟨n, hn⟩ := Int.eq_ofNat_of_zero_le (Int.neg_nonneg.mpr h)
    obtain rfl : exponent = -n := by omega
    simp [div_eq_mul_inv]

theorem containsDecimal_eq (i : Interval) (digits : Nat) (exponent : Int) :
    i.containsDecimal digits exponent =
      i.contains (2 * (digits * 10 ^ exponent.toNat * unit)) (10 ^ (-exponent).toNat) := by
  have hnum (power u : Nat) : digits * (power * (2 * u)) = 2 * (digits * power * u) := by ring
  unfold Interval.containsDecimal
  rw [hnum]
  rfl

/-- **Decimals are read as the number nearest to them.** -/
theorem ofDecimal_nearest (negative : Bool) (digits : Nat) (exponent : Int) :
    Nearest negative (digits * 10 ^ exponent) (ofDecimal negative digits exponent) := by
  have hden : 0 < 10 ^ (-exponent).toNat := Nat.pow_pos (by decide)
  obtain ⟨code, hcontains⟩ := exists_contains (2 * (digits * 10 ^ exponent.toNat * unit)) hden
  have hdecimal := (containsDecimal_eq (.around code) digits exponent).trans hcontains
  have hratio := ofRatio_nearest negative (digits * 10 ^ exponent.toNat) hden
  rw [← decimal_eq_ratio] at hratio
  rcases Nat.lt_or_ge code codes with hcode | hcode
  · rw [ofDecimal_of_contains negative hcode hdecimal, decimal_eq_ratio]
    exact (nearest_finite_iff hden).mpr hcontains
  -- too large a decimal is neither zero nor small, so it is settled by its exponent or as a ratio
  have hlarge := tooLarge_le_of_contains hcode hden hcontains
  rw [← decimal_eq_ratio] at hlarge
  unfold ofDecimal
  split
  · next hzero =>
    rw [hzero, Nat.cast_zero, zero_mul] at hlarge
    exact absurd hlarge (not_le.mpr tooLarge_pos)
  split
  · exact ⟨rfl, hlarge⟩
  split
  · next hsmall =>
    rw [not_contains_of_small (Nat.lt_of_lt_of_le (by decide) hcode) hsmall] at hdecimal
    cases hdecimal
  split
  · next hnonneg =>
    rw [show (-exponent).toNat = 0 by omega] at hratio
    exact hratio
  · next hneg =>
    rw [show exponent.toNat = 0 by omega, Nat.pow_zero, Nat.mul_one] at hratio
    exact hratio

/-- A decimal has one nearest number, and it is the one read. -/
theorem nearest_decimal_iff {negative : Bool} {digits : Nat} {exponent : Int} {d : Double} :
    Nearest negative (digits * 10 ^ exponent) d ↔ d = ofDecimal negative digits exponent := by
  have hread := ofDecimal_nearest negative digits exponent
  constructor
  · intro hd
    rw [decimal_eq_ratio] at hd hread
    exact hd.unique (Nat.pow_pos (by decide)) hread
  · rintro rfl
    exact hread

end Double

end ToolWeave
