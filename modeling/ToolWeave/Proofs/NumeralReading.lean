import Mathlib.Tactic.NormNum
import ToolWeave.Proofs.Grammar
import ToolWeave.Proofs.ReadValues

/-!
# Numerals are what is read as numbers

The reader of numbers takes the longest numeral at the front of a text.  So it reads a numeral up to
anything that does not go on with a number (`Json.Numeral.readMagnitude?_write`), and whatever it reads is the
number that a numeral denotes (`Json.exists_numeral_of_readMagnitude?`).

## Main definitions

* `Json.Numeral.number`: the number that a numeral denotes, computed.
-/

namespace ToolWeave

namespace Json

open Number

/-! ### The number that is denoted -/

namespace Numeral

/-- The number that is denoted, as the program rounds it. -/
def number (n : Numeral) : Number :=
  if n.isInteger then .int (integerOf n.negative n.whole.chars)
  else .double (Double.ofDecimal n.negative (natOfDigits (n.whole.chars ++ n.fractionDigits))
    (n.exponentValue - n.fractionDigits.length))

/-- The digits of both parts spell one number, which the exponent moves. -/
theorem magnitude_eq (n : Numeral) : n.magnitude =
    (natOfDigits (n.whole.chars ++ n.fractionDigits) : ℚ) *
      10 ^ (n.exponentValue - n.fractionDigits.length) := by
  have hpower : (10 : ℚ) ^ n.fractionDigits.length ≠ 0 := pow_ne_zero _ (by norm_num)
  have hdigits : natOfDigits (n.whole.chars ++ n.fractionDigits) =
      10 ^ n.fractionDigits.length * n.whole.value + Nat.ofDigitChars 10 n.fractionDigits 0 := by
    rw [natOfDigits_eq, Nat.ofDigitChars_append, Nat.ofDigitChars_eq_ofDigitChars_zero]
    rfl
  unfold magnitude
  rw [hdigits, zpow_sub₀ (by norm_num), zpow_natCast]
  push_cast
  field_simp

/-- A numeral denotes one number. -/
theorem denotes_iff {n : Numeral} {m : Number} : n.Denotes m ↔ m = n.number := by
  have hwhole : integerOf n.negative n.whole.chars =
      if n.negative then -(n.whole.value : Int) else n.whole.value := by
    unfold integerOf Digits.value
    rw [natOfDigits_eq]
  unfold number
  rw [hwhole]
  constructor
  · intro h
    cases h with
    | integer hinteger => rw [if_pos hinteger]
    | double hinteger hnearest =>
      rw [n.magnitude_eq, Double.nearest_decimal_iff] at hnearest
      rw [if_neg (by rw [hinteger]; decide), hnearest]
  · rintro rfl
    by_cases hinteger : n.isInteger = true
    · rw [if_pos hinteger]
      exact .integer hinteger
    · rw [if_neg hinteger]
      refine .double (Bool.eq_false_iff.mpr hinteger) ?_
      rw [n.magnitude_eq]
      exact Double.ofDecimal_nearest _ _ _

end Numeral

/-! ### Numerals are read -/

section Reading

variable {rest after : List Char}

theorem stopsDigits_writeExponent (e : Option Exponent) (hrest : StopsNumber rest) :
    StopsDigits (Numeral.writeExponent e rest) := by
  cases e with
  | none => exact hrest.stopsDigits
  | some e =>
    refine StopsDigits.cons ?_ _
    rcases e.isLetter with h | h <;> rw [h] <;> decide

theorem stopsDigits_writeFraction (fraction : Option Digits) (hafter : StopsDigits after) :
    StopsDigits (Numeral.writeFraction fraction after) := by
  cases fraction with
  | none => exact hafter
  | some digits => exact .cons rfl _

/-- Either letter starts an exponent. -/
theorem exponentPart?_letter {letter : Char} (hletter : letter = 'e' ∨ letter = 'E') (cs : List Char) :
    exponentPart? (letter :: cs) = exponentPart? ('e' :: cs) := by
  rcases hletter with rfl | rfl <;> rfl

/-- Digits behind the letter of an exponent need no sign. -/
theorem exponentPart?_unsigned {c : Char} (hc : c.isDigit = true) :
    exponentPart? ('e' :: c :: rest) = exponentDigits? false (c :: rest) := by
  rw [exponentPart?]
  · rintro _ ⟨⟩
    cases hc
  · rintro _ ⟨⟩
    cases hc

theorem exponentPart?_write (e : Exponent) (hrest : StopsNumber rest) :
    exponentPart? (Numeral.writeExponent (some e) rest) = some (e.value, rest) := by
  have hvalue : natOfDigits e.digits.chars = e.digits.value := natOfDigits_eq _
  have hdigits (negative : Bool) :=
    exponentDigits?_append negative e.digits.allDigits e.digits.ne_nil hrest.stopsDigits
  rw [hvalue] at hdigits
  obtain ⟨letter, sign, digits, hletter⟩ := e
  unfold Numeral.writeExponent Exponent.value
  dsimp only at hdigits ⊢
  rw [exponentPart?_letter hletter]
  cases sign with
  | none =>
    obtain ⟨c, more, hchars⟩ := List.exists_cons_of_ne_nil digits.ne_nil
    have hc : c.isDigit = true := digits.allDigits c (by rw [hchars]; exact List.mem_cons_self)
    have hread := hdigits false
    dsimp only [Sign.chars] at hread ⊢
    rw [hchars] at hread ⊢
    exact (exponentPart?_unsigned hc).trans hread
  | plus => exact hdigits false
  | minus => exact hdigits true

namespace Numeral

theorem wholePart?_write (n : Numeral) (hrest : StopsNumber rest) :
    wholePart? (n.writeMagnitude rest) =
      some (n.whole.chars, writeFraction n.fraction (writeExponent n.exponent rest)) :=
  wholePart?_append n.whole.allDigits n.whole.ne_nil n.zero_alone
    (stopsDigits_writeFraction _ (stopsDigits_writeExponent _ hrest))

/-- The fraction is read up to the exponent. -/
theorem fractionPart_write (n : Numeral) (hrest : StopsNumber rest) :
    fractionPart (writeFraction n.fraction (writeExponent n.exponent rest)) =
      (n.fractionDigits, writeExponent n.exponent rest) := by
  unfold fractionDigits
  cases n.fraction with
  | some digits => exact fractionPart_append digits.allDigits digits.ne_nil (stopsDigits_writeExponent _ hrest)
  | none =>
    cases n.exponent with
    | none => exact fractionPart_of_stops hrest
    | some e =>
      show fractionPart (e.letter :: _) = ([], e.letter :: _)
      rcases e.isLetter with h | h <;> rw [h] <;> rfl

/-- **Numerals are read.**  What comes after must not go on with the number, and it stays. -/
theorem readMagnitude?_write (n : Numeral) (hshort : n.isInteger = true → n.whole.chars.length ≤ digitLimit)
    (hrest : StopsNumber rest) :
    readMagnitude? n.negative (n.writeMagnitude rest) = some (.ok (n.number, rest)) := by
  have hwhole := n.wholePart?_write hrest
  have hfraction := n.fractionPart_write hrest
  unfold number
  -- an exponent or a fraction makes the numeral a double, and then its length does not matter
  cases hexponent : n.exponent with
  | some e =>
    have hdouble : ¬ n.isInteger = true := by
      rw [isInteger, hexponent, Option.isNone_some, Bool.and_false]
      decide
    have hread : exponentPart? (writeExponent n.exponent rest) = some (n.exponentValue, rest) := by
      unfold exponentValue
      rw [hexponent]
      exact exponentPart?_write e hrest
    rw [if_neg hdouble]
    exact readMagnitude?_of_exponent n.negative hwhole hfraction hread
  | none =>
    have hzero : n.exponentValue = 0 := by rw [exponentValue, hexponent]
    rw [hexponent] at hwhole hfraction
    cases hpart : n.fraction with
    | none =>
      have hinteger : n.isInteger = true := by rw [isInteger, hexponent, hpart]; rfl
      rw [hpart] at hwhole
      rw [if_pos hinteger]
      exact readMagnitude?_of_whole n.negative hwhole (hshort hinteger) hrest
    | some digits =>
      have hdouble : ¬ n.isInteger = true := by
        rw [isInteger, hpart, Option.isNone_some, Bool.false_and]
        decide
      have hdigits : n.fractionDigits = digits.chars := by rw [fractionDigits, hpart]
      have hne : n.fractionDigits ≠ [] := by
        rw [hdigits]
        exact digits.ne_nil
      rw [if_neg hdouble, hzero, Int.zero_sub]
      exact readMagnitude?_of_fraction n.negative hwhole hfraction hne hrest

/-- The text of a numeral is read as the number it denotes. -/
theorem readWith_write {dialect : Dialect} {turns : Nat} {inner : Option (List Char → Reading Value)}
    (n : Numeral) (hshort : n.isInteger = true → n.whole.chars.length ≤ digitLimit)
    (hrest : StopsNumber rest) :
    readWith dialect turns inner (n.write rest) = .ok (.number n.number, rest) := by
  have hread := n.readMagnitude?_write hshort hrest
  unfold write
  split
  · next hnegative =>
    rw [hnegative] at hread
    exact readWith_of_negative hread
  · next hnegative =>
    rw [Bool.eq_false_iff.mpr hnegative] at hread
    exact readWith_of_magnitude hread

end Numeral

end Reading

/-! ### What is read is a numeral -/

section Found

variable {negative : Bool} {cs digits rest : List Char}

theorem append_spanDigits (cs : List Char) : (spanDigits cs).1 ++ (spanDigits cs).2 = cs :=
  List.takeWhile_append_dropWhile

theorem allDigits_spanDigits (cs : List Char) : AllDigits (spanDigits cs).1 :=
  fun c hc => List.all_eq_true.mp List.all_takeWhile c hc

/-- The whole part consists of digits, and it starts with zero only if it is zero. -/
theorem exists_whole_of_wholePart? (h : wholePart? cs = some (digits, rest)) :
    ∃ whole : Digits, whole.chars = digits ∧ whole.chars ++ rest = cs ∧
      (whole.chars.head? = some '0' → whole.chars = ['0']) := by
  unfold wholePart? at h
  split at h
  · cases h
    exact ⟨⟨['0'], allDigits_zeros 1, List.cons_ne_nil _ _⟩, rfl, rfl, fun _ => rfl⟩
  · next c more hzero =>
    split at h
    · next hc =>
      have hspan : spanDigits (c :: more) = (c :: more.takeWhile Char.isDigit, more.dropWhile Char.isDigit) := by
        unfold spanDigits
        rw [List.takeWhile_cons_of_pos hc, List.dropWhile_cons_of_pos hc]
      have happend := append_spanDigits (c :: more)
      have hdigits := allDigits_spanDigits (c :: more)
      rw [hspan] at h happend hdigits
      cases h
      refine ⟨⟨_, hdigits, List.cons_ne_nil _ _⟩, rfl, happend, fun hhead => ?_⟩
      exact absurd (Option.some.inj hhead) hzero
    · cases h
  · cases h

theorem exists_fraction (cs : List Char) : ∃ fraction : Option Digits,
    Numeral.writeFraction fraction (fractionPart cs).2 = cs ∧
      (fractionPart cs).1 = (fraction.map Digits.chars).getD [] := by
  unfold fractionPart
  split
  · next after =>
    split
    · exact ⟨none, rfl, rfl⟩
    · next hne =>
      rw [List.isEmpty_iff] at hne
      exact ⟨some ⟨_, allDigits_spanDigits after, hne⟩, congrArg (List.cons '.') (append_spanDigits after), rfl⟩
  · exact ⟨none, rfl, rfl⟩

theorem exists_digits_of_exponentDigits? {value : Int} (h : exponentDigits? negative cs = some (value, rest)) :
    ∃ digits : Digits, digits.chars ++ rest = cs ∧
      value = if negative then -(digits.value : Int) else digits.value := by
  unfold exponentDigits? at h
  dsimp only at h
  split at h
  · cases h
  · next hne =>
    rw [List.isEmpty_iff] at hne
    rw [natOfDigits_eq] at h
    cases h
    exact ⟨⟨_, allDigits_spanDigits cs, hne⟩, append_spanDigits cs, rfl⟩

theorem exists_exponent_of_exponentPart? {value : Int} (h : exponentPart? cs = some (value, rest)) :
    ∃ e : Exponent, Numeral.writeExponent (some e) rest = cs ∧ e.value = value := by
  have hread {letter : Char} {after : List Char} (hletter : letter = 'e' ∨ letter = 'E') (sign : Sign)
      (hafter : exponentDigits? (sign = .minus) after = some (value, rest)) :
      ∃ e : Exponent, Numeral.writeExponent (some e) rest = letter :: (sign.chars ++ after) ∧ e.value = value := by
    obtain ⟨digits, rfl, hvalue⟩ := exists_digits_of_exponentDigits? hafter
    refine ⟨⟨letter, sign, digits, hletter⟩, rfl, ?_⟩
    rw [hvalue]
    cases sign <;> rfl
  revert h
  fun_cases exponentPart? cs with
  | case1 after => exact hread (.inl rfl) .minus
  | case2 after => exact hread (.inl rfl) .plus
  | case3 after => exact hread (.inl rfl) .none
  | case4 after => exact hread (.inr rfl) .minus
  | case5 after => exact hread (.inr rfl) .plus
  | case6 after => exact hread (.inr rfl) .none
  | case7 => nofun

/-- **What is read as a number is what a numeral denotes.** -/
theorem exists_numeral_of_readMagnitude? {m : Number}
    (h : readMagnitude? negative cs = some (.ok (m, rest))) :
    ∃ n : Numeral, n.negative = negative ∧ n.writeMagnitude rest = cs ∧ m = n.number := by
  obtain ⟨⟨digits, afterWhole⟩, hwhole, hread⟩ := Option.map_eq_some_iff.mp h
  obtain ⟨whole, rfl, rfl, hzero⟩ := exists_whole_of_wholePart? hwhole
  obtain ⟨fraction, hfraction, hdigits⟩ := exists_fraction afterWhole
  dsimp only at hread
  generalize fractionPart afterWhole = parts at hread hfraction hdigits
  obtain ⟨fractionDigits, afterFraction⟩ := parts
  subst hfraction hdigits
  dsimp only at hread
  split at hread
  · next exponent after hexponent =>
    obtain ⟨e, rfl, rfl⟩ := exists_exponent_of_exponentPart? hexponent
    cases hread
    refine ⟨⟨negative, whole, fraction, some e, hzero⟩, rfl, rfl, ?_⟩
    cases fraction <;> rfl
  · split at hread
    · next hempty =>
      split at hread
      · cases hread
      · cases hread
        obtain rfl : fraction = none := by
          cases fraction with
          | none => rfl
          | some digits => exact absurd (List.isEmpty_iff.mp hempty) digits.ne_nil
        exact ⟨⟨negative, whole, none, none, hzero⟩, rfl, rfl, rfl⟩
    · next hempty =>
      cases hread
      obtain ⟨digits, rfl⟩ : ∃ digits, fraction = some digits := by
        cases fraction with
        | none => exact absurd rfl hempty
        | some digits => exact ⟨digits, rfl⟩
      have hdouble : ¬ (Numeral.mk negative whole (some digits) none hzero).isInteger = true := Bool.false_ne_true
      refine ⟨⟨negative, whole, some digits, none, hzero⟩, rfl, rfl, ?_⟩
      rw [Numeral.number, if_neg hdouble, Numeral.exponentValue, Int.zero_sub]
      rfl

theorem exists_numeral_of_readNumber {v : Value} (h : readNumber cs = .ok (v, rest)) :
    ∃ n : Numeral, n.write rest = cs ∧ v = .number n.number := by
  unfold readNumber at h
  dsimp only at h
  split at h
  · next m after hfound =>
    cases h
    split at hfound
    · obtain ⟨n, hnegative, rfl, rfl⟩ := exists_numeral_of_readMagnitude? hfound
      exact ⟨n, by rw [Numeral.write, if_pos hnegative], rfl⟩
    · obtain ⟨n, hnegative, rfl, rfl⟩ := exists_numeral_of_readMagnitude? hfound
      exact ⟨n, by rw [Numeral.write, if_neg (by rw [hnegative]; decide)], rfl⟩
  · cases h
  · cases h

end Found

end Json

end ToolWeave
