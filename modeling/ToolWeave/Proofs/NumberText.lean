import ToolWeave.Json.Read
import ToolWeave.Json.Write
import ToolWeave.Proofs.Rounding

/-!
# Numbers read from their text

The text of a number is the longest number at the front of it and whatever follows, as long as that
does not go on with a digit, a point or the letter of an exponent.  Read back, an integer is itself, and
a finite double is the one whose shortest decimal was written (`Json.readWith_numberChars`).
-/

namespace ToolWeave

/-! ### Digits -/

namespace Number

theorem natOfDigits_eq (digits : List Char) : natOfDigits digits = Nat.ofDigitChars 10 digits 0 := by
  unfold natOfDigits Nat.ofDigitChars
  congr 1
  funext value c
  rw [Nat.mul_comm]
  rfl

theorem natOfDigits_toDigits (n : Nat) : natOfDigits (Nat.toDigits 10 n) = n := by
  rw [natOfDigits_eq, Nat.ofDigitChars_ten_toDigits]

/-- Zeros in front make no difference. -/
theorem natOfDigits_zeros (count : Nat) (digits : List Char) :
    natOfDigits (List.replicate count '0' ++ digits) = natOfDigits digits := by
  rw [natOfDigits_eq, natOfDigits_eq, Nat.ofDigitChars_append, Nat.ofDigitChars_replicate_zero,
    Nat.mul_zero]

/-- Zeros at the end multiply by powers of ten. -/
theorem natOfDigits_append_zeros (digits : List Char) (count : Nat) :
    natOfDigits (digits ++ List.replicate count '0') = natOfDigits digits * 10 ^ count := by
  rw [natOfDigits_eq, natOfDigits_eq, Nat.ofDigitChars_append, Nat.ofDigitChars_replicate_zero,
    Nat.mul_comm]

/-- All of some characters are decimal digits. -/
def AllDigits (cs : List Char) : Prop := ∀ c ∈ cs, c.isDigit = true

theorem allDigits_toDigits (n : Nat) : AllDigits (Nat.toDigits 10 n) :=
  fun _ hc => Nat.isDigit_of_mem_toDigits (by decide) (by decide) hc

theorem allDigits_zeros (count : Nat) : AllDigits (List.replicate count '0') := by
  intro c hc
  rw [List.eq_of_mem_replicate hc]
  decide

theorem AllDigits.append {first second : List Char} (hfirst : AllDigits first)
    (hsecond : AllDigits second) : AllDigits (first ++ second) := by
  intro c hc
  rcases List.mem_append.mp hc with hc | hc
  · exact hfirst c hc
  · exact hsecond c hc

theorem length_toDigits_le {n limit : Nat} (hlimit : 0 < limit) (h : n < Nat.pow 10 limit) :
    (Nat.toDigits 10 n).length ≤ limit :=
  (Nat.length_toDigits_le_iff (by decide) hlimit).mpr h

/-- The digits of a positive number do not start with zero. -/
theorem head?_toDigits_ne_zero {n : Nat} (h : n ≠ 0) : (Nat.toDigits 10 n).head? ≠ some '0' := by
  induction n using Nat.strongRecOn with
  | ind n ih =>
    rw [Nat.toDigits_eq_if (by decide)]
    split
    · rw [List.head?_cons, ne_eq, Option.some.injEq, Nat.digitChar_eq_zero]
      exact h
    · obtain ⟨c, rest, hdigits⟩ : ∃ c rest, Nat.toDigits 10 (n / 10) = c :: rest :=
        List.exists_cons_of_ne_nil Nat.toDigits_ne_nil
      have hhead := ih (n / 10) (by omega) (by omega)
      rw [hdigits] at hhead ⊢
      exact hhead

end Number

namespace Json

open Number

/-- Some characters do not go on with a digit. -/
def StopsDigits (rest : List Char) : Prop := ∀ c, rest.head? = some c → c.isDigit = false

/-- Some characters do not go on with a number. -/
def StopsNumber (rest : List Char) : Prop :=
  ∀ c, rest.head? = some c → c.isDigit = false ∧ c ≠ '.' ∧ c ≠ 'e' ∧ c ≠ 'E'

theorem StopsNumber.stopsDigits {rest : List Char} (h : StopsNumber rest) : StopsDigits rest :=
  fun c hc => (h c hc).1

theorem StopsDigits.cons {c : Char} (h : c.isDigit = false) (rest : List Char) :
    StopsDigits (c :: rest) := by
  intro first hfirst
  cases hfirst
  exact h

/-! ### Parts of numbers -/

section Parts

variable {digits fraction rest : List Char}

theorem spanDigits_append (hdigits : AllDigits digits) (hrest : StopsDigits rest) :
    spanDigits (digits ++ rest) = (digits, rest) := by
  have hnone : rest.takeWhile Char.isDigit = [] ∧ rest.dropWhile Char.isDigit = rest := by
    cases rest with
    | nil => exact ⟨rfl, rfl⟩
    | cons c rest =>
      have hc := hrest c rfl
      exact ⟨List.takeWhile_cons_of_neg (by rw [hc]; decide),
        List.dropWhile_cons_of_neg (by rw [hc]; decide)⟩
  unfold spanDigits
  rw [List.takeWhile_append_of_pos hdigits, List.dropWhile_append_of_pos hdigits, hnone.1, hnone.2,
    List.append_nil]

/-- Digits that do not start with zero are a whole part, and so is a zero alone. -/
theorem wholePart?_append (hdigits : AllDigits digits) (hne : digits ≠ [])
    (hzero : digits.head? = some '0' → digits = ['0']) (hrest : StopsDigits rest) :
    wholePart? (digits ++ rest) = some (digits, rest) := by
  cases digits with
  | nil => exact absurd rfl hne
  | cons c digits =>
    by_cases hc : c = '0'
    · subst hc
      obtain ⟨-, rfl⟩ := List.cons.inj (hzero rfl)
      rfl
    · rw [List.cons_append, wholePart?]
      · rw [if_pos (hdigits c List.mem_cons_self), ← List.cons_append,
          spanDigits_append hdigits hrest]
      · exact hc

theorem fractionPart_of_stops (hrest : StopsNumber rest) : fractionPart rest = ([], rest) := by
  unfold fractionPart
  split
  · exact absurd rfl (hrest _ rfl).2.1
  · rfl

theorem fractionPart_append (hfraction : AllDigits fraction) (hne : fraction ≠ [])
    (hrest : StopsDigits rest) : fractionPart ('.' :: (fraction ++ rest)) = (fraction, rest) := by
  rw [fractionPart, spanDigits_append hfraction hrest, if_neg]
  rw [List.isEmpty_iff]
  exact hne

theorem exponentPart?_of_stops (hrest : StopsNumber rest) : exponentPart? rest = none := by
  unfold exponentPart?
  split
  · exact absurd rfl (hrest _ rfl).2.2.1
  · exact absurd rfl (hrest _ rfl).2.2.2
  · rfl

theorem exponentDigits?_append (negative : Bool) (hdigits : AllDigits digits) (hne : digits ≠ [])
    (hrest : StopsDigits rest) :
    exponentDigits? negative (digits ++ rest) =
      some (if negative then -(natOfDigits digits : Int) else natOfDigits digits, rest) := by
  unfold exponentDigits?
  rw [spanDigits_append hdigits hrest]
  dsimp only
  rw [if_neg]
  rw [List.isEmpty_iff]
  exact hne

end Parts

/-! ### Magnitudes -/

section Magnitudes

variable (negative : Bool) {whole fraction cs afterWhole afterFraction rest : List Char}

theorem readMagnitude?_of_whole (hwhole : wholePart? cs = some (whole, rest))
    (hlength : whole.length ≤ 4300) (hrest : StopsNumber rest) :
    readMagnitude? negative cs = some (.ok (.int (integerOf negative whole), rest)) := by
  simp only [readMagnitude?, hwhole, Option.map_some, fractionPart_of_stops hrest,
    exponentPart?_of_stops hrest, List.isEmpty_nil, if_true, if_neg (Nat.not_lt.mpr hlength)]

theorem readMagnitude?_of_fraction (hwhole : wholePart? cs = some (whole, afterWhole))
    (hfraction : fractionPart afterWhole = (fraction, rest)) (hne : fraction ≠ [])
    (hrest : StopsNumber rest) :
    readMagnitude? negative cs = some (.ok (.double (Double.ofDecimal negative
      (natOfDigits (whole ++ fraction)) (-fraction.length)), rest)) := by
  have hempty : ¬ fraction.isEmpty = true := by
    rw [List.isEmpty_iff]
    exact hne
  simp only [readMagnitude?, hwhole, Option.map_some, hfraction, exponentPart?_of_stops hrest,
    if_neg hempty]

theorem readMagnitude?_of_exponent {exponent : Int}
    (hwhole : wholePart? cs = some (whole, afterWhole))
    (hfraction : fractionPart afterWhole = (fraction, afterFraction))
    (hexponent : exponentPart? afterFraction = some (exponent, rest)) :
    readMagnitude? negative cs = some (.ok (.double (Double.ofDecimal negative
      (natOfDigits (whole ++ fraction)) (exponent - fraction.length)), rest)) := by
  simp only [readMagnitude?, hwhole, Option.map_some, hfraction, hexponent]

end Magnitudes

/-! ### The text of a decimal -/

section Decimals

variable {negative : Bool} {digits : Nat} {exponent : Int} {rest : List Char}

/-- The digits of a number start with zero only if the number is zero. -/
theorem toDigits_eq_zero (h : (Nat.toDigits 10 digits).head? = some '0') : digits = 0 := by
  by_contra hne
  exact head?_toDigits_ne_zero hne h

/-- A number that is written as a whole one has a zero behind its point. -/
theorem readMagnitude?_positional (hdigits : digits ≠ 0 ∨ exponent = 0) (hexponent : 0 ≤ exponent)
    (hrest : StopsNumber rest) :
    readMagnitude? negative (Nat.toDigits 10 digits ++ List.replicate exponent.toNat '0' ++ ['.', '0'] ++ rest) =
      some (.ok (.double (Double.ofDecimal negative (digits * 10 ^ (exponent.toNat + 1))
        (exponent - ↑(exponent.toNat + 1))), rest)) := by
  have hwhole : wholePart? (Nat.toDigits 10 digits ++ List.replicate exponent.toNat '0'
      ++ '.' :: '0' :: rest) =
      some (Nat.toDigits 10 digits ++ List.replicate exponent.toNat '0', '.' :: '0' :: rest) := by
    refine wholePart?_append ((allDigits_toDigits digits).append (allDigits_zeros _)) ?_ ?_ ?_
    · exact List.append_ne_nil_of_left_ne_nil Nat.toDigits_ne_nil _
    · intro hhead
      rw [List.head?_append, Option.or_of_isSome (by rw [List.isSome_head?]; exact Nat.toDigits_ne_nil)]
        at hhead
      have hzero := toDigits_eq_zero hhead
      have hexponentZero : exponent = 0 := hdigits.resolve_left (fun hne => hne hzero)
      subst hzero hexponentZero
      rfl
    · exact .cons rfl _
  have hfraction : fractionPart ('.' :: (['0'] ++ rest)) = (['0'], rest) :=
    fractionPart_append (allDigits_zeros 1) (List.cons_ne_nil _ _) hrest.stopsDigits
  rw [List.append_assoc, show ['.', '0'] ++ rest = '.' :: '0' :: rest from rfl,
    readMagnitude?_of_fraction negative hwhole hfraction (List.cons_ne_nil _ _) hrest, List.append_assoc,
    ← List.replicate_succ' , natOfDigits_append_zeros, natOfDigits_toDigits]
  congr 6
  rw [List.length_singleton]
  omega

/-- A point among the digits. -/
theorem readMagnitude?_pointInside (hdigits : digits ≠ 0) {place : Nat}
    (hpositive : 0 < place) (hplace : place < (Nat.toDigits 10 digits).length)
    (hexponent : exponent = place - (Nat.toDigits 10 digits).length) (hrest : StopsNumber rest) :
    readMagnitude? negative ((Nat.toDigits 10 digits).take place ++
        '.' :: (Nat.toDigits 10 digits).drop place ++ rest) =
      some (.ok (.double (Double.ofDecimal negative digits exponent), rest)) := by
  have hall := allDigits_toDigits digits
  have hzero := mt toDigits_eq_zero hdigits
  have hwhole : wholePart? ((Nat.toDigits 10 digits).take place ++
      '.' :: ((Nat.toDigits 10 digits).drop place ++ rest)) =
      some ((Nat.toDigits 10 digits).take place, '.' :: ((Nat.toDigits 10 digits).drop place ++ rest)) := by
    refine wholePart?_append (fun c hc => hall c (List.mem_of_mem_take hc)) ?_ ?_ ?_
    · rw [ne_eq, List.take_eq_nil_iff]
      rintro (h | h)
      · omega
      · exact Nat.toDigits_ne_nil h
    · intro hhead
      rw [List.head?_take, if_neg (by omega)] at hhead
      exact absurd hhead hzero
    · exact .cons rfl _
  have hdrop : (Nat.toDigits 10 digits).drop place ≠ [] := by
    rw [ne_eq, List.drop_eq_nil_iff]
    omega
  have hfraction := fractionPart_append (fun c hc => hall c (List.mem_of_mem_drop hc)) hdrop
    hrest.stopsDigits
  rw [List.append_assoc, List.cons_append, readMagnitude?_of_fraction negative hwhole hfraction hdrop hrest,
    List.take_append_drop, natOfDigits_toDigits, List.length_drop, hexponent]
  congr 5
  omega

/-- A point in front of the digits, with zeros between. -/
theorem readMagnitude?_pointBefore {zeros : Nat}
    (hexponent : exponent = -((zeros + (Nat.toDigits 10 digits).length : Nat) : Int))
    (hrest : StopsNumber rest) :
    readMagnitude? negative ('0' :: '.' :: List.replicate zeros '0' ++ Nat.toDigits 10 digits ++ rest) =
      some (.ok (.double (Double.ofDecimal negative digits exponent), rest)) := by
  have hwhole : wholePart? ('0' :: '.' :: (List.replicate zeros '0' ++ Nat.toDigits 10 digits ++ rest))
      = some (['0'], '.' :: (List.replicate zeros '0' ++ Nat.toDigits 10 digits ++ rest)) := rfl
  have hne : List.replicate zeros '0' ++ Nat.toDigits 10 digits ≠ [] :=
    List.append_ne_nil_of_right_ne_nil _ Nat.toDigits_ne_nil
  have hfraction := fractionPart_append ((allDigits_zeros zeros).append (allDigits_toDigits digits)) hne
    hrest.stopsDigits
  have hread := readMagnitude?_of_fraction negative hwhole hfraction hne hrest
  rw [← List.append_assoc, List.singleton_append, ← List.replicate_succ, natOfDigits_zeros, natOfDigits_toDigits,
    List.length_append, List.length_replicate, ← hexponent] at hread
  exact hread

/-- The exponent after its letter: a sign and digits, with zeros in front. -/
theorem exponentPart?_signed (order : Int) (width : Nat) (hrest : StopsDigits rest) :
    exponentPart? ('e' :: (if order < 0 then '-' else '+') ::
      (Double.paddedDigits width order.natAbs ++ rest)) = some (order, rest) := by
  have hdigits : AllDigits (Double.paddedDigits width order.natAbs) :=
    (allDigits_zeros _).append (allDigits_toDigits _)
  have hne : Double.paddedDigits width order.natAbs ≠ [] :=
    List.append_ne_nil_of_right_ne_nil _ Nat.toDigits_ne_nil
  have hvalue : natOfDigits (Double.paddedDigits width order.natAbs) = order.natAbs :=
    (natOfDigits_zeros _ _).trans (natOfDigits_toDigits _)
  split
  · rw [exponentPart?, exponentDigits?_append true hdigits hne hrest, hvalue, if_pos rfl]
    congr 2
    omega
  · rw [exponentPart?, exponentDigits?_append false hdigits hne hrest, hvalue, if_neg (by decide)]
    congr 2
    omega

/-- One digit before the point, and an exponent. -/
theorem readMagnitude?_scientific (width : Nat) {order : Int}
    (horder : order = exponent + (Nat.toDigits 10 digits).length - 1) (hrest : StopsNumber rest) :
    readMagnitude? negative ((Nat.toDigits 10 digits).take 1 ++
        (if (Nat.toDigits 10 digits).length ≤ 1 then [] else '.' :: (Nat.toDigits 10 digits).drop 1) ++
        'e' :: (if order < 0 then '-' else '+') :: Double.paddedDigits width order.natAbs ++ rest) =
      some (.ok (.double (Double.ofDecimal negative digits exponent), rest)) := by
  have hall := allDigits_toDigits digits
  have hvalue := natOfDigits_toDigits digits
  have hexponent := exponentPart?_signed order width hrest.stopsDigits
  obtain ⟨first, more, hshown⟩ := List.exists_cons_of_ne_nil (Nat.toDigits_ne_nil (n := digits) (b := 10))
  generalize Nat.toDigits 10 digits = shown at *
  subst hshown
  have hwhole (after : List Char) (hafter : StopsDigits after) :
      wholePart? (first :: after) = some ([first], after) := by
    show wholePart? ([first] ++ after) = _
    refine wholePart?_append (fun c hc => ?_) (List.cons_ne_nil _ _) (fun hhead => ?_) hafter
    · rw [List.mem_singleton.mp hc]
      exact hall first List.mem_cons_self
    · rw [List.head?_cons, Option.some.injEq] at hhead
      rw [hhead]
  cases more with
  | nil =>
    have hfraction (after : List Char) : fractionPart ('e' :: after) = ([], 'e' :: after) := rfl
    have hread := readMagnitude?_of_exponent negative (hwhole _ (.cons rfl _)) (hfraction _)
      hexponent
    rw [List.append_nil, hvalue] at hread
    rw [show order - (([] : List Char).length : Int) = exponent by rw [horder]; simp] at hread
    exact hread
  | cons second more =>
    have hread := readMagnitude?_of_exponent negative
      (hwhole _ (.cons rfl _))
      (fractionPart_append (fun c hc => hall c (List.mem_cons_of_mem _ hc)) (List.cons_ne_nil second more)
        (.cons rfl _)) hexponent
    rw [List.singleton_append, hvalue] at hread
    rw [show order - ((second :: more).length : Int) = exponent by
      rw [horder, List.length_cons, List.length_cons]; omega] at hread
    rw [← hread]
    simp

/-- A decimal written out is read as a double, namely the one that the same decimal gives, with zeros
at the end of its digits or without. -/
theorem readMagnitude?_chars (layout : Double.Layout) (negative : Bool)
    (hdigits : digits ≠ 0 ∨ exponent = 0) (hrest : StopsNumber rest) :
    ∃ k : Nat, readMagnitude? negative (layout.chars digits exponent ++ rest) =
      some (.ok (.double (Double.ofDecimal negative (digits * 10 ^ k) (exponent - k)), rest)) := by
  have hplain : digits * 10 ^ 0 = digits ∧ exponent - (0 : Nat) = exponent :=
    ⟨Nat.mul_one digits, Int.sub_zero exponent⟩
  have hlength : 0 < (Nat.toDigits 10 digits).length := List.length_pos_iff.mpr Nat.toDigits_ne_nil
  unfold Double.Layout.chars
  dsimp only
  split
  · split
    · next hexponent => exact ⟨_, readMagnitude?_positional hdigits hexponent hrest⟩
    · next hexponent =>
      refine ⟨0, ?_⟩
      rw [hplain.1, hplain.2]
      split
      · next horder =>
        have hne : digits ≠ 0 := hdigits.resolve_right (by omega)
        exact readMagnitude?_pointInside hne (by omega) (by omega) (by omega) hrest
      · exact readMagnitude?_pointBefore (by omega) hrest
  · refine ⟨0, ?_⟩
    rw [hplain.1, hplain.2]
    exact readMagnitude?_scientific layout.width rfl hrest

end Decimals

/-! ### Numbers as values -/

section Values

variable {dialect : Dialect} {turns : Nat} {inner : Option (List Char → Reading Value)} {n : Number}
  {cs rest : List Char}

/-- A number starts with a digit. -/
theorem exists_digit_of_readMagnitude? {negative : Bool} {found : Reading Number}
    (h : readMagnitude? negative cs = some found) : ∃ c more, cs = c :: more ∧ c.isDigit = true := by
  obtain ⟨parts, hparts, -⟩ := Option.map_eq_some_iff.mp h
  unfold wholePart? at hparts
  split at hparts
  · exact ⟨_, _, rfl, rfl⟩
  · next c more _ =>
    refine ⟨c, more, rfl, ?_⟩
    by_contra hc
    rw [if_neg hc] at hparts
    cases hparts
  · cases hparts

/-- Digits at the front are a number. -/
theorem readWith_of_magnitude (h : readMagnitude? false cs = some (.ok (n, rest))) :
    readWith dialect turns inner cs = .ok (.number n, rest) := by
  obtain ⟨c, more, rfl, hc⟩ := exists_digit_of_readMagnitude? h
  have hnumber : readWith dialect turns inner (c :: more) = readNumber (c :: more) := by
    unfold readWith
    split
    all_goals first | rfl | (next heq => cases heq; exact absurd hc (by decide))
  rw [hnumber]
  unfold readNumber
  split
  · next heq =>
    cases heq
    exact absurd hc (by decide)
  · rw [h]

/-- A minus and digits at the front are a number. -/
theorem readWith_of_negative (h : readMagnitude? true cs = some (.ok (n, rest))) :
    readWith dialect turns inner ('-' :: cs) = .ok (.number n, rest) := by
  obtain ⟨c, more, rfl, hc⟩ := exists_digit_of_readMagnitude? h
  have hnumber : readWith dialect turns inner ('-' :: c :: more) = readNumber ('-' :: c :: more) := by
    unfold readWith
    split
    all_goals first | rfl | (next heq => cases heq; exact absurd hc (by decide)) | (next heq => cases heq)
  rw [hnumber]
  unfold readNumber
  split
  · next heq =>
    cases heq
    rw [h]
  · next hne => exact absurd rfl (hne _)

/-- The digits of an integer are a magnitude, if they are not too many. -/
theorem readMagnitude?_integer (negative : Bool) {m : Nat} (hm : m < Nat.pow 10 digitLimit)
    (hrest : StopsNumber rest) :
    readMagnitude? negative (Nat.toDigits 10 m ++ rest) =
      some (.ok (.int (if negative then -(m : Int) else m), rest)) := by
  have hwhole : wholePart? (Nat.toDigits 10 m ++ rest) = some (Nat.toDigits 10 m, rest) := by
    refine wholePart?_append (allDigits_toDigits m) Nat.toDigits_ne_nil (fun hhead => ?_) hrest.stopsDigits
    rw [toDigits_eq_zero hhead]
    rfl
  have hlength : (Nat.toDigits 10 m).length ≤ digitLimit := length_toDigits_le (by decide) hm
  rw [readMagnitude?_of_whole negative hwhole hlength hrest, integerOf, natOfDigits_toDigits]

/-- The text of a double is read as the double. -/
theorem readMagnitude?_shortest (negative : Bool) (code : Fin Double.codes) (hrest : StopsNumber rest) :
    readMagnitude? negative (Double.Layout.standard.chars (Double.shortest code).1 (Double.shortest code).2
      ++ rest) = some (.ok (.double (.finite negative code), rest)) := by
  obtain ⟨k, hread⟩ := readMagnitude?_chars .standard negative (Double.shortest_ne_zero code) hrest
  have hcontains := Double.contains_shortest code
  rw [← Double.Interval.containsDecimal_shift _ _ k] at hcontains
  rw [hread, Double.ofDecimal_of_contains negative code.isLt hcontains]

/-- **Numbers are read from their text.**  What comes after the text must not go on with the number,
and it stays. -/
theorem readWith_numberChars (hwritable : unwritableNumber? n = none) (hrest : StopsNumber rest) :
    readWith dialect turns inner (numberChars n ++ rest) = .ok (.number n, rest) := by
  cases n with
  | int i =>
    have hlimit : i.natAbs < Nat.pow 10 digitLimit := by
      by_contra hlong
      rw [unwritableNumber?, if_neg hlong] at hwritable
      cases hwritable
    unfold numberChars integerChars
    dsimp only
    split
    · next hnegative =>
      have hread := readMagnitude?_integer true hlimit hrest
      rw [show (if true then -(i.natAbs : Int) else i.natAbs) = i by rw [if_pos rfl]; omega] at hread
      exact readWith_of_negative hread
    · next hnegative =>
      have hread := readMagnitude?_integer false hlimit hrest
      rw [show (if false then -(i.natAbs : Int) else i.natAbs) = i by rw [if_neg (by decide)]; omega] at hread
      exact readWith_of_magnitude hread
  | double d =>
    cases d with
    | finite negative code =>
      have hread := readMagnitude?_shortest negative code hrest
      cases negative with
      | false => exact readWith_of_magnitude hread
      | true => exact readWith_of_negative hread
    | infinite negative => cases hwritable
    | nan => cases hwritable

end Values

end Json

end ToolWeave
