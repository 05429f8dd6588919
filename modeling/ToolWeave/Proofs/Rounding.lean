import Mathlib.Tactic.Linarith
import Mathlib.Tactic.Ring
import ToolWeave.Number.Decimal

/-!
# Decimals that read back

A finite magnitude has two neighbours, and whatever lies nearer to it than to either of them is read as
that magnitude: this is what `Double.Interval.around` is for, and here it is shown that rounding agrees
(`Double.ofRatio_of_contains`).  So every spelling of a decimal in the interval of a double gives the
double (`Double.ofDecimal_of_contains`), and the shortest decimal is one of these
(`Double.contains_shortest`).

## Design notes

**Significands.**  A code is `shift * block + significand`, and its magnitude is the significand moved
up by the shift.  At the seam between two blocks there are two such pairs, which is what lets a
significand be rounded up to `2 ^ 53` without a case of its own.
-/

namespace ToolWeave

namespace Double

/-! ### Rounding to whole numbers -/

/-- What lies within a half of a whole number is rounded to it, and so is what lies right between two
of them if it is the even one. -/
theorem roundHalfEven_eq {num den m : Nat} (hden : 0 < den) (hlower : 2 * m * den ≤ 2 * num + den)
    (hupper : 2 * num ≤ (2 * m + 1) * den)
    (hodd : m % 2 = 1 → 2 * m * den < 2 * num + den ∧ 2 * num < (2 * m + 1) * den) :
    roundHalfEven num den = m := by
  have hnum : den * (num / den) + num % den = num := Nat.div_add_mod num den
  have hrest : num % den < den := Nat.mod_lt num hden
  unfold roundHalfEven
  dsimp only
  generalize num / den = quotient at *
  generalize num % den = rest at *
  -- the number is one of the two whole numbers around the ratio
  have hle : quotient ≤ m := by
    by_contra h
    have : den * (m + 1) ≤ den * quotient := Nat.mul_le_mul_left den (by omega)
    nlinarith
  have hge : m ≤ quotient + 1 := by
    by_contra h
    have : den * (quotient + 2) ≤ den * m := Nat.mul_le_mul_left den (by omega)
    nlinarith
  rcases Nat.lt_or_ge quotient m with hlt | hge'
  · obtain rfl : m = quotient + 1 := by omega
    have hhalf : den ≤ 2 * rest := by nlinarith
    rw [if_neg (by omega)]
    split
    · rfl
    · next hnot =>
      have htie : 2 * rest = den := by omega
      have heven : quotient % 2 ≠ 0 := by
        intro heven
        obtain ⟨hstrict, -⟩ := hodd (by omega)
        nlinarith
      rw [if_neg heven]
  · obtain rfl : m = quotient := by omega
    have hhalf : 2 * rest ≤ den := by nlinarith
    split
    · rfl
    · rw [if_neg (by omega)]
      have htie : 2 * rest = den := by omega
      have heven : m % 2 = 0 := by
        by_contra hnot
        obtain ⟨-, hstrict⟩ := hodd (by omega)
        nlinarith
      rw [if_pos heven]

/-! ### Magnitudes -/

/-- The magnitude of a code is its significand moved up by its shift. -/
theorem magnitude_eq {shift m : Nat} (hlower : 0 < shift → block ≤ m) (hupper : m ≤ 2 * block) :
    magnitude (shift * block + m) = m * 2 ^ shift := by
  have hblock : 0 < block := by decide
  unfold magnitude
  by_cases hsmall : shift * block + m < block
  · -- counted one by one
    have hshift : shift = 0 := by
      by_contra hnot
      exact absurd (hlower (by omega)) (by omega)
    subst hshift
    rw [if_pos hsmall, Nat.zero_mul, Nat.zero_add, Nat.pow_zero, Nat.mul_one]
  · have hm : block ≤ m := by
      rcases Nat.eq_zero_or_pos shift with rfl | hpos
      · omega
      · exact hlower hpos
    have hdiv : (shift * block + m) / block = shift + m / block := by
      rw [Nat.mul_comm, Nat.mul_add_div hblock]
    have hmod : (shift * block + m) % block = m % block := Nat.mul_add_mod_self_right shift block m
    rw [if_neg hsmall, hdiv, hmod]
    show (block + m % block) * 2 ^ (shift + m / block - 1) = m * 2 ^ shift
    rcases Nat.lt_or_ge m (2 * block) with hlt | hge
    · have hone : m / block = 1 := Nat.div_eq_of_lt_le (by omega) (by omega)
      have hrest : m % block = m - block := by
        rw [Nat.mod_eq_sub_mod hm, Nat.mod_eq_of_lt (by omega)]
      rw [hone, hrest, Nat.add_sub_cancel, Nat.add_sub_cancel' hm]
    · obtain rfl : m = 2 * block := by omega
      rw [Nat.mul_div_cancel _ hblock, Nat.mul_mod_left]
      show (block + 0) * 2 ^ (shift + 1) = 2 * block * 2 ^ shift
      rw [Nat.pow_succ]
      ring

/-- Every code has a shift and a significand. -/
theorem exists_significand (code : Nat) :
    ∃ shift m, code = shift * block + m ∧ (0 < shift → block ≤ m) ∧ m < 2 * block := by
  have hcode : block * (code / block) + code % block = code := Nat.div_add_mod code block
  have hrest : code % block < block := Nat.mod_lt code (by decide)
  cases hshift : code / block with
  | zero =>
    rw [hshift] at hcode
    exact ⟨0, code, by omega, by omega, by omega⟩
  | succ shift =>
    rw [hshift, Nat.mul_succ, Nat.mul_comm] at hcode
    exact ⟨shift, block + code % block, by omega, by omega, by omega⟩

theorem magnitude_lt_succ (code : Nat) : magnitude code < magnitude (code + 1) := by
  obtain ⟨shift, m, rfl, hlower, hupper⟩ := exists_significand code
  have hpow : 0 < 2 ^ shift := Nat.two_pow_pos shift
  rw [Nat.add_assoc, magnitude_eq hlower hupper.le, magnitude_eq (by omega) (by omega)]
  exact Nat.mul_lt_mul_of_pos_right (Nat.lt_succ_self m) hpow

theorem magnitude_strictMono : StrictMono magnitude := strictMono_nat_of_lt_succ magnitude_lt_succ

/-! ### The nearest code -/

namespace Interval

/-- What lies in an interval lies between its ends, and between them properly unless they belong to
it. -/
theorem bounds_of_contains {i : Interval} {num den : Nat} (h : i.contains num den = true) :
    (i.lower * den ≤ num ∧ num ≤ i.upper * den) ∧
      (i.closed = false → i.lower * den < num ∧ num < i.upper * den) := by
  unfold contains at h
  split at h
  · next hclosed =>
    rw [Bool.and_eq_true, decide_eq_true_iff, decide_eq_true_iff] at h
    exact ⟨h, fun hopen => absurd (hclosed.symm.trans hopen) (by decide)⟩
  · rw [Bool.and_eq_true, decide_eq_true_iff, decide_eq_true_iff] at h
    exact ⟨⟨h.1.le, h.2.le⟩, fun _ => h⟩

/-- Whether a ratio lies in an interval does not depend on how the ratio is written. -/
theorem contains_congr (i : Interval) {num den num' den' : Nat} (hden : 0 < den) (hden' : 0 < den')
    (h : num * den' = num' * den) : i.contains num den = i.contains num' den' := by
  have hle (bound : Nat) : bound * den ≤ num ↔ bound * den' ≤ num' := by
    rw [← Nat.mul_le_mul_right_iff hden', h, Nat.mul_right_comm, Nat.mul_le_mul_right_iff hden]
  have hge (bound : Nat) : num ≤ bound * den ↔ num' ≤ bound * den' := by
    rw [← Nat.mul_le_mul_right_iff hden', h, Nat.mul_right_comm bound, Nat.mul_le_mul_right_iff hden]
  unfold contains
  have hlt (bound : Nat) : bound * den < num ↔ bound * den' < num' := by
    rw [← Nat.not_le, ← Nat.not_le, hge]
  have hgt (bound : Nat) : num < bound * den ↔ num' < bound * den' := by
    rw [← Nat.not_le, ← Nat.not_le, hle]
  simp only [hle, hge, hlt, hgt]

end Interval

/-- Rounding settles on a shift by the size of the ratio. -/
theorem nearestCode_eq {num den shift : Nat} (hden : 0 < den)
    (hlower : 0 < shift → block * 2 ^ shift * den ≤ num) (hupper : num < 2 * block * 2 ^ shift * den) :
    nearestCode num den = shift * block + roundHalfEven num (den * 2 ^ shift) := by
  have hlt : num / den < 2 ^ (53 + shift) := by
    rw [Nat.div_lt_iff_lt_mul hden, Nat.pow_add]
    exact hupper
  have hshift : (num / den).log2 - 52 = shift := by
    rcases Nat.eq_zero_or_pos shift with rfl | hpos
    · rcases Nat.eq_zero_or_pos (num / den) with hzero | hsome
      · rw [hzero]
        rfl
      · have hlog : (num / den).log2 < 53 := (Nat.log2_lt (by omega)).mpr hlt
        omega
    · have hle : 2 ^ (52 + shift) ≤ num / den := by
        rw [Nat.le_div_iff_mul_le hden, Nat.pow_add]
        exact hlower hpos
      have hne : num / den ≠ 0 := by
        have : 0 < 2 ^ (52 + shift) := Nat.two_pow_pos _
        omega
      have hlog : (num / den).log2 = 52 + shift := by
        refine (Nat.log2_eq_iff hne).mpr ⟨hle, ?_⟩
        rw [show 52 + shift + 1 = 53 + shift by omega]
        exact hlt
      omega
  unfold nearestCode
  rw [hshift, Nat.add_comm]
  rfl

/-- A ratio that is nearest to a significand in its block has the code of that significand. -/
theorem nearestCode_of_near {num den shift m : Nat} (hden : 0 < den) (hm : m < 2 * block)
    (hblock : 0 < shift → block * 2 ^ shift * den ≤ num)
    (hlower : 2 * m * (den * 2 ^ shift) ≤ 2 * num + den * 2 ^ shift)
    (hupper : 2 * num ≤ (2 * m + 1) * (den * 2 ^ shift))
    (hodd : m % 2 = 1 → 2 * m * (den * 2 ^ shift) < 2 * num + den * 2 ^ shift ∧
      2 * num < (2 * m + 1) * (den * 2 ^ shift)) :
    nearestCode num den = shift * block + m := by
  have hstep : 0 < den * 2 ^ shift := Nat.mul_pos hden (Nat.two_pow_pos shift)
  have hlt : num < 2 * block * 2 ^ shift * den := by
    have hle : (2 * m + 2) * (den * 2 ^ shift) ≤ (4 * block) * (den * 2 ^ shift) :=
      Nat.mul_le_mul_right _ (by omega)
    have hdouble : (4 * block) * (den * 2 ^ shift) = 2 * (2 * block * 2 ^ shift * den) := by ring
    rw [hdouble, Nat.add_mul] at hle
    rw [Nat.add_mul] at hupper
    omega
  rw [nearestCode_eq hden hblock hlt, roundHalfEven_eq hstep hlower hupper hodd]

/-- The interval of a code is closed if its significand is even. -/
theorem closed_around {shift m : Nat} (hodd : m % 2 = 1) :
    (Interval.around (shift * block + m)).closed = false := by
  have heven : block % 2 = 0 := by decide
  have hcode : (shift * block + m) % 2 = 1 := by
    rw [Nat.add_mod, Nat.mul_mod, heven, Nat.mul_zero, Nat.zero_mod, Nat.zero_add, hodd]
  unfold Interval.around
  rw [beq_eq_false_iff_ne, hcode]
  decide

/-- A ratio below the first magnitude of a block, but nearest to it, is rounded up to it. -/
theorem nearestCode_below_seam {num den shift : Nat} (hden : 0 < den)
    (hnear : 2 * (2 * block) * (den * 2 ^ shift) ≤ 2 * num + den * 2 ^ shift)
    (hlt : num < block * 2 ^ (shift + 1) * den) : nearestCode num den = (shift + 1) * block + block := by
  have hseam : block * 2 ^ (shift + 1) * den = 2 * (block * (den * 2 ^ shift)) := by
    rw [Nat.pow_succ]
    ring
  have hquad : 2 * (2 * block) * (den * 2 ^ shift) = 4 * (block * (den * 2 ^ shift)) := by ring
  have hunit : den * 2 ^ shift ≤ block * (den * 2 ^ shift) := Nat.le_mul_of_pos_left _ (by decide)
  -- the ratio has the shift of the block before, and its significand is rounded out of that block
  have hcode : nearestCode num den = shift * block + roundHalfEven num (den * 2 ^ shift) := by
    refine nearestCode_eq hden (fun _ => ?_) ?_
    · rw [Nat.mul_assoc, Nat.mul_comm _ den]
      omega
    · rw [Nat.mul_assoc, Nat.mul_assoc, Nat.mul_comm _ den]
      omega
  have hround : roundHalfEven num (den * 2 ^ shift) = 2 * block := by
    refine roundHalfEven_eq (Nat.mul_pos hden (Nat.two_pow_pos shift)) (by omega) ?_ (by omega)
    rw [Nat.add_mul, hquad]
    omega
  rw [hcode, hround]
  ring

/-- A ratio in the interval of a code is rounded to the code. -/
theorem nearestCode_of_contains {code num den : Nat} (hden : 0 < den)
    (h : (Interval.around code).contains (2 * num) den = true) : nearestCode num den = code := by
  obtain ⟨⟨hlower, hupper⟩, hstrict⟩ := Interval.bounds_of_contains h
  obtain ⟨shift, m, rfl, hm, hm'⟩ := exists_significand code
  have hopen (hodd : m % 2 = 1) := hstrict (closed_around hodd)
  have hblock : 0 < block := by decide
  have hmagnitude : magnitude (shift * block + m) = m * 2 ^ shift := magnitude_eq hm hm'.le
  have hnext : magnitude (shift * block + m + 1) = (m + 1) * 2 ^ shift := by
    rw [Nat.add_assoc, magnitude_eq (by omega) (by omega)]
  have hupperEnd : (m * 2 ^ shift + (m + 1) * 2 ^ shift) * den = (2 * m + 1) * (den * 2 ^ shift) := by
    ring
  simp only [Interval.around, hmagnitude, hnext, hupperEnd] at hlower hupper hopen
  by_cases hseam : 0 < shift ∧ m = block
  · -- the code is the first of its block, and its lower neighbour is in the block before
    obtain ⟨hpos, rfl⟩ := hseam
    obtain ⟨shift, rfl⟩ : ∃ s, shift = s + 1 := ⟨shift - 1, by omega⟩
    obtain ⟨last, hlast⟩ : ∃ last, 2 * block = last + 1 := ⟨2 * block - 1, by omega⟩
    have hprevious : magnitude ((shift + 1) * block + block - 1) = last * 2 ^ shift := by
      rw [show (shift + 1) * block + block - 1 = shift * block + last by rw [Nat.succ_mul]; omega]
      exact magnitude_eq (by omega) (by omega)
    have hlowerEnd : (last * 2 ^ shift + block * 2 ^ (shift + 1)) * den + den * 2 ^ shift =
        2 * (2 * block) * (den * 2 ^ shift) := by
      have htwice : block * 2 ^ (shift + 1) = (last + 1) * 2 ^ shift := by
        rw [← hlast, Nat.pow_succ]
        ring
      rw [htwice, hlast]
      ring
    rw [hprevious] at hlower
    rcases Nat.lt_or_ge num (block * 2 ^ (shift + 1) * den) with hlt | hge
    · exact nearestCode_below_seam hden (by omega) hlt
    · refine nearestCode_of_near hden hm' (fun _ => hge) ?_ hupper fun hodd => absurd hodd (by decide)
      have htwice : 2 * block * (den * 2 ^ (shift + 1)) = 2 * (block * 2 ^ (shift + 1) * den) := by ring
      omega
  · -- the lower neighbour is in the same block, or the magnitude is zero
    cases m with
    | zero =>
      refine nearestCode_of_near hden hm' (fun hpos => absurd (hm hpos) (by omega)) ?_ hupper
        fun hodd => absurd hodd (by decide)
      rw [Nat.mul_zero, Nat.zero_mul]
      exact Nat.zero_le _
    | succ k =>
      have hk : 0 < shift → block ≤ k := by
        intro hpos
        have := hm hpos
        have : k + 1 ≠ block := fun heq => hseam ⟨hpos, heq⟩
        omega
      have hprevious : magnitude (shift * block + (k + 1) - 1) = k * 2 ^ shift := by
        rw [← Nat.add_assoc, Nat.add_sub_cancel]
        exact magnitude_eq hk (by omega)
      have hlowerEnd : (k * 2 ^ shift + (k + 1) * 2 ^ shift) * den + den * 2 ^ shift =
          2 * (k + 1) * (den * 2 ^ shift) := by
        ring
      rw [hprevious] at hlower hopen
      refine nearestCode_of_near hden hm' (fun hpos => ?_) (by omega) hupper fun hodd => ?_
      · have hle : block * (den * 2 ^ shift) ≤ k * (den * 2 ^ shift) :=
          Nat.mul_le_mul_right _ (hk hpos)
        have hsplit : 2 * (k + 1) * (den * 2 ^ shift) =
            2 * (k * (den * 2 ^ shift)) + 2 * (den * 2 ^ shift) := by ring
        rw [Nat.mul_assoc, Nat.mul_comm _ den]
        omega
      · have := hopen hodd
        omega

/-- A decimal in the interval of a code is read as the double of the code. -/
theorem ofRatio_of_contains {code num den : Nat} (negative : Bool) (hcode : code < codes)
    (hden : 0 < den) (h : (Interval.around code).contains (num * (2 * unit)) den = true) :
    ofRatio negative num den = finite negative ⟨code, hcode⟩ := by
  have hunits : num * (2 * unit) = 2 * (num * unit) := Nat.mul_left_comm num 2 unit
  rw [hunits] at h
  unfold ofRatio ofUnits ofCode
  rw [nearestCode_of_contains hden h, dif_pos hcode]

/-! ### Decimals -/

/-- Whether the decimal `digits * 10 ^ exponent` lies in an interval. -/
def Interval.containsDecimal (i : Interval) (digits : Nat) (exponent : Int) : Bool :=
  i.contains (digits * (Nat.pow 10 exponent.toNat * (2 * unit))) (Nat.pow 10 (-exponent).toNat)

/-- Zeros at the end of the digits make no difference. -/
theorem Interval.containsDecimal_shift (i : Interval) (digits k : Nat) (exponent : Int) :
    i.containsDecimal (digits * 10 ^ k) (exponent - k) = i.containsDecimal digits exponent := by
  refine i.contains_congr (Nat.pow_pos (by decide)) (Nat.pow_pos (by decide)) ?_
  show digits * 10 ^ k * (10 ^ (exponent - k).toNat * (2 * unit)) * 10 ^ (-exponent).toNat =
    digits * (10 ^ exponent.toNat * (2 * unit)) * 10 ^ (-(exponent - k)).toNat
  have hpowers : 10 ^ k * 10 ^ (exponent - k).toNat * 10 ^ (-exponent).toNat =
      10 ^ exponent.toNat * 10 ^ (-(exponent - k)).toNat := by
    rw [← Nat.pow_add, ← Nat.pow_add, ← Nat.pow_add]
    congr 1
    omega
  calc digits * 10 ^ k * (10 ^ (exponent - k).toNat * (2 * unit)) * 10 ^ (-exponent).toNat
      = digits * (2 * unit) * (10 ^ k * 10 ^ (exponent - k).toNat * 10 ^ (-exponent).toNat) := by
        ring
    _ = digits * (10 ^ exponent.toNat * (2 * unit)) * 10 ^ (-(exponent - k)).toNat := by
        rw [hpowers]
        ring

theorem magnitude_pos {code : Nat} (h : 0 < code) : 0 < magnitude code :=
  Nat.lt_of_le_of_lt (Nat.zero_le _) (magnitude_strictMono h)

/-- The intervals of finite doubles end at `2 ^ 2099` units of `2 ^ (-1075)`. -/
theorem upper_around_le {code n : Nat} (hcode : code < codes) (hn : 2099 ≤ n) :
    (Interval.around code).upper ≤ 2 ^ n := by
  obtain ⟨shift, rfl⟩ : ∃ shift, n = 53 + shift := ⟨n - 53, by omega⟩
  have htop : magnitude (shift * block + block) = block * 2 ^ shift :=
    magnitude_eq (fun _ => Nat.le_refl _) (Nat.le_mul_of_pos_left _ (by decide))
  have hcodes : codes ≤ shift * block + block := by
    rw [← Nat.succ_mul]
    exact Nat.mul_le_mul_right block (by omega)
  have hthis : magnitude code ≤ magnitude (shift * block + block) :=
    magnitude_strictMono.monotone (hcode.le.trans hcodes)
  have hnext : magnitude (code + 1) ≤ magnitude (shift * block + block) :=
    magnitude_strictMono.monotone (Nat.lt_of_lt_of_le hcode hcodes)
  have hblock : 2 * block = 2 ^ 53 := by decide
  have hpowers : 2 ^ (53 + shift) = 2 * (block * 2 ^ shift) := by
    rw [Nat.pow_add, ← Nat.mul_assoc, hblock]
  show magnitude code + magnitude (code + 1) ≤ _
  omega

theorem two_pow_le_ten_pow {a b : Nat} (h : a ≤ 3 * b) : 2 ^ a ≤ 10 ^ b := by
  calc 2 ^ a ≤ 2 ^ (3 * b) := Nat.pow_le_pow_right (by decide) h
    _ = 8 ^ b := Nat.pow_mul 2 3 b
    _ ≤ 10 ^ b := Nat.pow_le_pow_left (by decide) b

theorem unit_eq {n : Nat} (hn : n = 1074) : unit = 2 ^ n := by
  unfold unit
  rw [← hn]
  exact Nat.pow_eq

/-- A decimal beyond `10 ^ 400` lies in no interval of a finite double. -/
theorem not_contains_of_large {code digits : Nat} {exponent : Int} (hcode : code < codes)
    (hdigits : digits ≠ 0) (hlarge : 400 < exponent) :
    (Interval.around code).containsDecimal digits exponent = false := by
  rw [← Bool.not_eq_true]
  intro h
  obtain ⟨⟨-, hupper⟩, -⟩ := Interval.bounds_of_contains h
  obtain ⟨n, hn⟩ : ∃ n, n = 1074 := ⟨_, rfl⟩
  have hden : Nat.pow 10 (-exponent).toNat = 1 := by
    rw [show (-exponent).toNat = 0 by omega]
  have hpower : 2 ^ (n + 26) ≤ 10 ^ exponent.toNat := two_pow_le_ten_pow (by omega)
  have hnum : 2 ^ (n + 26) * 2 ^ (n + 1) ≤ digits * (Nat.pow 10 exponent.toNat * (2 * unit)) := by
    rw [unit_eq hn, ← Nat.pow_succ', ← Nat.one_mul (2 ^ (n + 26) * _)]
    exact Nat.mul_le_mul (Nat.pos_of_ne_zero hdigits) (Nat.mul_le_mul_right _ hpower)
  have hend : (Interval.around code).upper ≤ 2 ^ (2 * n) := upper_around_le hcode (by omega)
  rw [hden, Nat.mul_one] at hupper
  have hpowers : 2 ^ (n + 26) * 2 ^ (n + 1) ≤ 2 ^ (2 * n) := hnum.trans (hupper.trans hend)
  rw [← Nat.pow_add, Nat.pow_le_pow_iff_right (by decide)] at hpowers
  omega

/-- A decimal below `10 ^ (-400)` lies in the interval of zero only. -/
theorem not_contains_of_small {code digits : Nat} {exponent : Int} (hcode : 0 < code)
    (hsmall : (digits.log2 : Int) + 1 + exponent < -400) :
    (Interval.around code).containsDecimal digits exponent = false := by
  rw [← Bool.not_eq_true]
  intro h
  obtain ⟨⟨hlower, -⟩, -⟩ := Interval.bounds_of_contains h
  obtain ⟨n, hn⟩ : ∃ n, n = 1074 := ⟨_, rfl⟩
  have hpos : 0 < (Interval.around code).lower :=
    Nat.lt_of_lt_of_le (magnitude_pos hcode) (Nat.le_add_left _ _)
  have hone : Nat.pow 10 exponent.toNat = 1 := by
    rw [show exponent.toNat = 0 by omega]
  have hnum : digits * (Nat.pow 10 exponent.toNat * (2 * unit)) < 10 ^ (digits.log2 + 400) := by
    calc digits * (Nat.pow 10 exponent.toNat * (2 * unit)) = digits * 2 ^ (n + 1) := by
          rw [hone, Nat.one_mul, unit_eq hn, ← Nat.pow_succ']
      _ < 2 ^ (digits.log2 + 1) * 2 ^ (n + 1) :=
        Nat.mul_lt_mul_of_pos_right Nat.lt_log2_self (Nat.two_pow_pos _)
      _ = 2 ^ (digits.log2 + 1 + (n + 1)) := (Nat.pow_add 2 _ _).symm
      _ ≤ 10 ^ (digits.log2 + 400) := two_pow_le_ten_pow (by omega)
  have hden : 10 ^ (digits.log2 + 400) ≤ Nat.pow 10 (-exponent).toNat :=
    Nat.pow_le_pow_right (by decide) (by omega)
  have hle : Nat.pow 10 (-exponent).toNat ≤ digits * (Nat.pow 10 exponent.toNat * (2 * unit)) :=
    (Nat.le_mul_of_pos_left _ hpos).trans hlower
  exact absurd (hden.trans hle) (Nat.not_le.mpr hnum)

/-- **Decimals read back.**  A decimal in the interval of a finite double is read as that double. -/
theorem ofDecimal_of_contains {code digits : Nat} {exponent : Int} (negative : Bool)
    (hcode : code < codes) (h : (Interval.around code).containsDecimal digits exponent = true) :
    ofDecimal negative digits exponent = finite negative ⟨code, hcode⟩ := by
  have hzero (hsmall : code = 0) : signedZero negative = finite negative ⟨code, hcode⟩ := by
    subst hsmall
    rfl
  unfold ofDecimal
  split
  · next hdigits =>
    refine hzero (Nat.eq_zero_of_not_pos fun hpos => ?_)
    obtain ⟨⟨hlower, -⟩, -⟩ := Interval.bounds_of_contains h
    have hlowerPos : 0 < (Interval.around code).lower :=
      Nat.lt_of_lt_of_le (magnitude_pos hpos) (Nat.le_add_left _ _)
    have hden : 0 < Nat.pow 10 (-exponent).toNat := Nat.pow_pos (by decide)
    rw [hdigits, Nat.zero_mul] at hlower
    exact absurd hlower (Nat.not_le.mpr (Nat.mul_pos hlowerPos hden))
  next hdigits =>
  split
  · next hlarge =>
    rw [not_contains_of_large hcode hdigits hlarge] at h
    cases h
  split
  · next hsmall =>
    refine hzero (Nat.eq_zero_of_not_pos fun hpos => ?_)
    rw [not_contains_of_small hpos hsmall] at h
    cases h
  split
  · next hnonneg =>
    refine ofRatio_of_contains negative hcode Nat.one_pos ?_
    unfold Interval.containsDecimal at h
    rw [show (-exponent).toNat = 0 by omega, ← Nat.mul_assoc] at h
    exact h
  · next hneg =>
    refine ofRatio_of_contains negative hcode (Nat.pow_pos (by decide)) ?_
    unfold Interval.containsDecimal at h
    have hone : Nat.pow 10 exponent.toNat = 1 := by
      rw [show exponent.toNat = 0 by omega]
    rw [hone, Nat.one_mul] at h
    exact h

/-! ### The shortest decimal -/

theorem contains_multipleAt {code digits : Nat} {exponent : Int}
    (h : multipleAt code exponent = some digits) :
    (Interval.around code).containsDecimal digits exponent = true := by
  unfold multipleAt at h
  dsimp only at h
  split at h
  · next hlow =>
    cases h
    rw [Bool.and_eq_true] at hlow
    exact hlow.1
  · split at h
    · next hhigh =>
      cases h
      exact hhigh
    · cases h

/-- A magnitude lies in its own interval. -/
theorem contains_magnitude {code : Nat} (hcode : 0 < code) :
    (Interval.around code).contains (2 * magnitude code) 1 = true := by
  have hprevious : magnitude (code - 1) < magnitude code := magnitude_strictMono (by omega)
  have hnext : magnitude code < magnitude (code + 1) := magnitude_lt_succ code
  unfold Interval.contains Interval.around
  dsimp only
  split
  · rw [Bool.and_eq_true, decide_eq_true_iff, decide_eq_true_iff]
    omega
  · rw [Bool.and_eq_true, decide_eq_true_iff, decide_eq_true_iff]
    omega

/-- The exact decimal of a magnitude lies in its interval. -/
theorem contains_exact {code n : Nat} (hcode : 0 < code) (hn : n = 1074) :
    (Interval.around code).containsDecimal (magnitude code * Nat.pow 5 n) (-n) = true := by
  rw [← contains_magnitude hcode]
  refine Interval.contains_congr _ (Nat.pow_pos (by decide)) Nat.one_pos ?_
  have hten : Nat.pow 10 n = Nat.pow 5 n * 2 ^ n := Nat.mul_pow 5 2 n
  rw [unit_eq hn, show (-(-(n : Int))).toNat = n by omega, show (-(n : Int)).toNat = 0 by omega, hten]
  show magnitude code * Nat.pow 5 n * (1 * (2 * 2 ^ n)) * 1 = 2 * magnitude code * _
  ring

theorem contains_shortestFrom {code : Nat} (hcode : 0 < code) (steps : Nat) (exponent : Int) :
    (Interval.around code).containsDecimal (shortestFrom code steps exponent).1
      (shortestFrom code steps exponent).2 = true := by
  induction steps generalizing exponent with
  | zero =>
    obtain ⟨n, hn⟩ : ∃ n, n = 1074 := ⟨_, rfl⟩
    rw [shortestFrom, ← hn, show (-1074 : Int) = -(n : Int) by omega]
    exact contains_exact hcode hn
  | succ steps ih =>
    unfold shortestFrom
    cases hmultiple : multipleAt code exponent with
    | some digits => exact contains_multipleAt hmultiple
    | none => exact ih (exponent - 1)

/-- The shortest decimal of a magnitude lies in its interval. -/
theorem contains_shortest (code : Nat) :
    (Interval.around code).containsDecimal (shortest code).1 (shortest code).2 = true := by
  unfold shortest
  split
  · next h =>
    subst h
    unfold Interval.containsDecimal
    rw [Nat.zero_mul]
    decide
  · next h => exact contains_shortestFrom (Nat.pos_of_ne_zero h) _ _

/-- Only zero has the digit zero. -/
theorem shortest_ne_zero (code : Nat) : (shortest code).1 ≠ 0 ∨ (shortest code).2 = 0 := by
  by_cases hcode : code = 0
  · subst hcode
    exact .inr rfl
  · refine .inl fun hzero => ?_
    have hcontains := contains_shortest code
    rw [hzero, Interval.containsDecimal, Nat.zero_mul] at hcontains
    obtain ⟨⟨hlower, -⟩, -⟩ := Interval.bounds_of_contains hcontains
    have hpos : 0 < (Interval.around code).lower :=
      Nat.lt_of_lt_of_le (magnitude_pos (Nat.pos_of_ne_zero hcode)) (Nat.le_add_left _ _)
    have hden : 0 < Nat.pow 10 (-(shortest code).2).toNat := Nat.pow_pos (by decide)
    exact absurd hlower (Nat.not_le.mpr (Nat.mul_pos hpos hden))

end Double

end ToolWeave
