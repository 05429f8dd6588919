import Mathlib.Data.List.Basic
import ToolWeave.Proofs.Lines

/-!
# Bytes that are decoded

Bytes that are decoded are the bytes of the characters that come out (`Utf8.encode_of_decode`), so bytes
cannot be decoded exactly if they are no characters' bytes (`Utf8.decode_eq_ok_iff`).
-/

namespace ToolWeave

namespace Utf8

section Widths

variable {first second third fourth : UInt8}

/-- A number that is neither half of a surrogate pair nor too large is a code point. -/
theorem toNat_char {n : Nat} (h : n < 0xD800 ∨ 0xDFFF < n ∧ n < 0x110000) : (Char.ofNat n).toNat = n := by
  have hvalid : n.isValidChar := h
  rw [Char.ofNat, dif_pos hvalid]
  exact UInt32.toNat_ofNatLT ..

theorem ofNat_eq {n : Nat} (b : UInt8) (h : n = b.toNat) : UInt8.ofNat n = b := by
  rw [h]
  exact UInt8.ofNat_toNat

/-- The bytes of a character from its code point. -/
theorem encodeChar_eq (c : Char) : encodeChar c =
    if c.toNat < 0x80 then [UInt8.ofNat c.toNat]
    else if c.toNat < 0x800 then [UInt8.ofNat (0xC0 + c.toNat / 64), UInt8.ofNat (0x80 + c.toNat % 64)]
    else if c.toNat < 0x10000 then
      [UInt8.ofNat (0xE0 + c.toNat / 4096), UInt8.ofNat (0x80 + c.toNat / 64 % 64), UInt8.ofNat (0x80 + c.toNat % 64)]
    else [UInt8.ofNat (0xF0 + c.toNat / 262144), UInt8.ofNat (0x80 + c.toNat / 4096 % 64),
      UInt8.ofNat (0x80 + c.toNat / 64 % 64), UInt8.ofNat (0x80 + c.toNat % 64)] := by
  have hpow : Nat.pow 2 6 = 64 ∧ Nat.pow 2 0 = 1 ∧ Nat.pow 2 12 = 4096 := by decide
  unfold encodeChar
  dsimp only
  rw [hpow.1, hpow.2.1, hpow.2.2, Nat.div_one]

theorem encodeChar_one (h : first.toNat < 0x80) : encodeChar (Char.ofNat first.toNat) = [first] := by
  rw [encodeChar_eq, toNat_char (by omega), if_pos h, ofNat_eq first rfl]

theorem encodeChar_two (hfirst : 0xC2 ≤ first.toNat ∧ first.toNat < 0xE0) (hsecond : second.toNat / 64 = 2) :
    encodeChar (Char.ofNat (first.toNat % 32 * 64 + second.toNat % 64)) = [first, second] := by
  rw [encodeChar_eq, toNat_char (by omega), if_neg (by omega), if_pos (by omega), ofNat_eq first (by omega),
    ofNat_eq second (by omega)]

theorem encodeChar_three (hfirst : 0xE0 ≤ first.toNat ∧ first.toNat < 0xF0) (hsecond : second.toNat / 64 = 2)
    (hlow : first.toNat = 0xE0 → 0xA0 ≤ second.toNat) (hhalf : first.toNat = 0xED → second.toNat ≤ 0x9F)
    (hthird : third.toNat / 64 = 2) :
    encodeChar (Char.ofNat ((first.toNat % 16 * 64 + second.toNat % 64) * 64 + third.toNat % 64)) =
      [first, second, third] := by
  rw [encodeChar_eq, toNat_char (by omega), if_neg (by omega), if_neg (by omega), if_pos (by omega),
    ofNat_eq first (by omega), ofNat_eq second (by omega), ofNat_eq third (by omega)]

theorem encodeChar_four (hfirst : 0xF0 ≤ first.toNat ∧ first.toNat < 0xF5) (hsecond : second.toNat / 64 = 2)
    (hlow : first.toNat = 0xF0 → 0x90 ≤ second.toNat) (hhigh : first.toNat = 0xF4 → second.toNat ≤ 0x8F)
    (hthird : third.toNat / 64 = 2) (hfourth : fourth.toNat / 64 = 2) :
    encodeChar (Char.ofNat (((first.toNat % 8 * 64 + second.toNat % 64) * 64 + third.toNat % 64) * 64 +
      fourth.toNat % 64)) = [first, second, third, fourth] := by
  rw [encodeChar_eq, toNat_char (by omega), if_neg (by omega), if_neg (by omega), if_neg (by omega),
    ofNat_eq first (by omega), ofNat_eq second (by omega), ofNat_eq third (by omega), ofNat_eq fourth (by omega)]

end Widths

section Steps

variable {first : UInt8} {rest : List UInt8} {c : Char}

/-- If the bytes after the first one are right, then there are as many, the second one is in its range and
all others continue. -/
theorem exists_of_goodTail {count : Nat} (h : goodTail first (count + 1) rest = count + 1) :
    ∃ second more after, rest = second :: (more ++ after) ∧ more.length = count ∧
      ((secondRange first).1 ≤ second.toNat ∧ second.toNat ≤ (secondRange first).2) ∧
      ∀ b ∈ more, b.toNat / 64 = 2 := by
  unfold goodTail at h
  cases rest with
  | nil => cases h
  | cons second rest =>
    rw [List.take_succ_cons] at h
    dsimp only at h
    split at h
    · next hrange =>
      have hprefix : (rest.take count).takeWhile isContinuation <+: rest.take count := List.takeWhile_prefix _
      have hlength : (rest.take count).length ≤ count := List.length_take_le _ _
      have hall : (rest.take count).takeWhile isContinuation = rest.take count :=
        hprefix.eq_of_length_le (by omega)
      refine ⟨second, rest.take count, rest.drop count, ?_, ?_, hrange, fun b hb => ?_⟩
      · rw [List.take_append_drop]
      · rw [hall] at h
        omega
      · exact beq_iff_eq.mp (List.takeWhile_eq_self_iff.mp hall b hb)
    · cases h

/-- What the range of a second byte says. -/
theorem second_of_range {second : UInt8}
    (h : (secondRange first).1 ≤ second.toNat ∧ second.toNat ≤ (secondRange first).2) :
    second.toNat / 64 = 2 ∧ (first.toNat = 0xE0 → 0xA0 ≤ second.toNat) ∧
      (first.toNat = 0xED → second.toNat ≤ 0x9F) ∧ (first.toNat = 0xF0 → 0x90 ≤ second.toNat) ∧
      (first.toNat = 0xF4 → second.toNat ≤ 0x8F) := by
  rw [secondRange_eq] at h
  split_ifs at h <;> dsimp only at h <;> omega

/-- **A character that is decoded has the bytes it was decoded from.** -/
theorem encodeChar_of_step {width : Nat} (h : step first rest = .ok (c, width)) :
    ∃ tail after, encodeChar c = first :: tail ∧ rest = tail ++ after ∧ width = tail.length + 1 := by
  unfold step at h
  split at h
  · cases h
  next w hwidth =>
  dsimp only at h
  split at h
  · next hgood =>
    cases h
    -- for each width the ranges of the bytes are those in which the code point has that width
    unfold width? at hwidth
    dsimp only at hwidth
    split_ifs at hwidth with hone _ htwo hthree hfour
    · cases hwidth
      exact ⟨[], rest, encodeChar_one hone, rfl, rfl⟩
    · cases hwidth
      obtain ⟨second, more, after, rfl, hmore, hrange, -⟩ := exists_of_goodTail hgood
      obtain rfl := List.length_eq_zero_iff.mp hmore
      obtain ⟨hsecond, -⟩ := second_of_range hrange
      rw [hgood]
      exact ⟨[second], after, encodeChar_two (by omega) hsecond, rfl, rfl⟩
    · cases hwidth
      obtain ⟨second, more, after, rfl, hmore, hrange, hcontinue⟩ := exists_of_goodTail hgood
      obtain ⟨third, rfl⟩ := List.length_eq_one_iff.mp hmore
      obtain ⟨hsecond, hlow, hhalf, -⟩ := second_of_range hrange
      have hthird := hcontinue third List.mem_cons_self
      rw [hgood]
      exact ⟨[second, third], after, encodeChar_three (by omega) hsecond hlow hhalf hthird, rfl, rfl⟩
    · cases hwidth
      obtain ⟨second, more, after, rfl, hmore, hrange, hcontinue⟩ := exists_of_goodTail hgood
      obtain ⟨third, fourth, rfl⟩ := List.length_eq_two.mp hmore
      obtain ⟨hsecond, -, -, hlow, hhigh⟩ := second_of_range hrange
      have hthird := hcontinue third List.mem_cons_self
      have hfourth := hcontinue fourth (List.mem_cons_of_mem _ List.mem_cons_self)
      rw [hgood]
      exact ⟨[second, third, fourth], after, encodeChar_four (by omega) hsecond hlow hhigh hthird hfourth, rfl, rfl⟩
  · split at h <;> cases h

theorem encode_of_decodeFrom {turns position : Nat} {bytes : List UInt8} {read cs : List Char}
    (hturns : bytes.length ≤ turns) (h : decodeFrom position turns read bytes = .ok cs) :
    ∃ more, cs = read.reverse ++ more ∧ encode more = bytes := by
  induction turns generalizing position bytes read with
  | zero =>
    obtain rfl := List.length_eq_zero_iff.mp (Nat.le_zero.mp hturns)
    cases h
    exact ⟨[], (List.append_nil _).symm, rfl⟩
  | succ turns ih =>
    cases bytes with
    | nil =>
      cases h
      exact ⟨[], (List.append_nil _).symm, rfl⟩
    | cons first rest =>
      rw [decodeFrom] at h
      split at h
      · next c width hstep =>
        obtain ⟨tail, after, hchar, rfl, rfl⟩ := encodeChar_of_step hstep
        rw [Nat.add_sub_cancel, List.drop_left] at h
        rw [List.length_cons, List.length_append] at hturns
        obtain ⟨more, rfl, hmore⟩ := ih (by omega) h
        refine ⟨c :: more, by rw [List.reverse_cons, List.append_assoc]; rfl, ?_⟩
        unfold encode at hmore ⊢
        rw [List.flatMap_cons, hmore, hchar]
        rfl
      · cases h

end Steps

/-- What has been decoded is encoded. -/
theorem encode_of_decode {bytes : List UInt8} {cs : List Char} (h : decode bytes = .ok cs) : encode cs = bytes := by
  obtain ⟨more, rfl, hmore⟩ := encode_of_decodeFrom (Nat.le_refl _) h
  exact hmore

/-- **Bytes are decoded if they are the bytes of characters, and only then.** -/
theorem decode_eq_ok_iff {bytes : List UInt8} {cs : List Char} : decode bytes = .ok cs ↔ bytes = encode cs := by
  constructor
  · exact fun h => (encode_of_decode h).symm
  · rintro rfl
    exact decode_encode cs

end Utf8

end ToolWeave
