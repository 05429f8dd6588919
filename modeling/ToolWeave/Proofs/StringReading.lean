import ToolWeave.Proofs.Grammar
import ToolWeave.Proofs.StringText

/-!
# Pieces are what is read as strings

A string is read up to the quote after its pieces (`Json.readString_pieces`), and whatever is read as a
string consists of pieces (`Json.exists_pieces_of_readString`).  What is read are the characters that the
pieces spell.  The reader also takes halves of surrogate pairs that stand alone, which spell nothing; these
are read as the replacement character.

## Main definitions

* `Json.spelled`: the characters that are read from pieces.
-/

namespace ToolWeave

namespace Json

/-! ### Escapes -/

theorem hexDigit?_char (h : HexDigit) : hexDigit? h.char = some h.value := by
  obtain ⟨value, capital⟩ := h
  revert value capital
  decide

theorem exists_hexDigit {c : Char} {n : Nat} (h : hexDigit? c = some n) : ∃ digit : HexDigit, digit.char = c := by
  -- no hexadecimal digit has a code point from 103 on, so it is enough to go through the others
  have hspelled : ∀ code < 103, (hexDigit? (Char.ofNat code)).isSome = true →
      ∃ value capital, HexDigit.char ⟨value, capital⟩ = Char.ofNat code := by decide
  have hcode : c.toNat < 103 := by
    by_contra hlarge
    have habove {top : Char} (htop : top.toNat < 103) : ¬ c ≤ top := by
      have hle : c ≤ top ↔ c.toNat ≤ top.toNat := UInt32.le_iff_toNat_le
      rw [hle]
      omega
    rw [hexDigit?, if_neg fun hc => habove (by decide) hc.2, if_neg fun hc => habove (by decide) hc.2,
      if_neg fun hc => habove (by decide) hc.2] at h
    cases h
  obtain ⟨value, capital, hchar⟩ := hspelled c.toNat hcode (by rw [Char.ofNat_toNat, h]; rfl)
  exact ⟨⟨value, capital⟩, hchar.trans (Char.ofNat_toNat c)⟩

theorem codeUnit?_char (a b c d : HexDigit) :
    codeUnit? a.char b.char c.char d.char = some (unitOf a b c d) := by
  unfold codeUnit?
  rw [hexDigit?_char, hexDigit?_char, hexDigit?_char, hexDigit?_char]
  rfl

/-- Four characters that spell a code unit are a piece of a string. -/
theorem exists_unit {a b c d : Char} {n : Nat} (h : codeUnit? a b c d = some n) :
    ∃ piece : Piece, ∀ rest, piece.write rest = '\\' :: 'u' :: a :: b :: c :: d :: rest := by
  obtain ⟨_, ha, h⟩ := Option.bind_eq_some_iff.mp h
  obtain ⟨_, hb, h⟩ := Option.bind_eq_some_iff.mp h
  obtain ⟨_, hc, h⟩ := Option.bind_eq_some_iff.mp h
  obtain ⟨_, hd, -⟩ := Option.bind_eq_some_iff.mp h
  obtain ⟨a, rfl⟩ := exists_hexDigit ha
  obtain ⟨b, rfl⟩ := exists_hexDigit hb
  obtain ⟨c, rfl⟩ := exists_hexDigit hc
  obtain ⟨d, rfl⟩ := exists_hexDigit hd
  exact ⟨.unit a b c d, fun _ => rfl⟩

theorem unescape?_letter (e : Escape) : unescape? e.letter = some e.char := by
  cases e <;> rfl

theorem letter_ne_unit (e : Escape) : e.letter ≠ 'u' := by
  cases e <;> decide

theorem exists_escape {letter c : Char} (h : unescape? letter = some c) : ∃ e : Escape, e.letter = letter := by
  unfold unescape? at h
  split at h
  · exact ⟨.quote, rfl⟩
  · exact ⟨.backslash, rfl⟩
  · exact ⟨.slash, rfl⟩
  · exact ⟨.backspace, rfl⟩
  · exact ⟨.formFeed, rfl⟩
  · exact ⟨.lineFeed, rfl⟩
  · exact ⟨.carriageReturn, rfl⟩
  · exact ⟨.tab, rfl⟩
  · cases h

/-! ### Code units -/

section Units

variable {char : Char} {unit high low : Nat}

/-- No character has half of a surrogate pair as its code point. -/
theorem not_half_of_toNat (h : char.toNat = unit) : isHighHalf unit = false ∧ isLowHalf unit = false := by
  have hvalid : char.toNat < 0xD800 ∨ 0xDFFF < char.toNat ∧ char.toNat < 0x110000 := char.valid
  unfold isHighHalf isLowHalf
  simp only [Bool.and_eq_false_iff, decide_eq_false_iff_not]
  omega

theorem ofCodeUnit_eq (h : char.toNat = unit) : ofCodeUnit unit = char := by
  obtain ⟨hhigh, hlow⟩ := not_half_of_toNat h
  unfold ofCodeUnit
  rw [hhigh, hlow, if_neg (by decide), ← h, Char.ofNat_toNat]

theorem joinHalves_eq (h : char.toNat = 0x10000 + (high - 0xD800) * 0x400 + (low - 0xDC00)) :
    joinHalves high low = char := by
  unfold joinHalves
  rw [← h, Char.ofNat_toNat]

end Units

/-! ### What pieces spell -/

/-- The characters that are read from pieces.  Half of a surrogate pair that stands alone gives the
replacement character. -/
def spelled : List Piece → List Char
  | [] => []
  | .plain c _ :: pieces => c :: spelled pieces
  | .escape e :: pieces => e.char :: spelled pieces
  | .unit a b c d :: .unit e f g h :: pieces =>
    if isHighHalf (unitOf a b c d) && isLowHalf (unitOf e f g h) then
      joinHalves (unitOf a b c d) (unitOf e f g h) :: spelled pieces
    else ofCodeUnit (unitOf a b c d) :: spelled (.unit e f g h :: pieces)
  | .unit a b c d :: pieces => ofCodeUnit (unitOf a b c d) :: spelled pieces

theorem spelled_unit {a b c d : HexDigit} (h : isHighHalf (unitOf a b c d) = false) (pieces : List Piece) :
    spelled (.unit a b c d :: pieces) = ofCodeUnit (unitOf a b c d) :: spelled pieces := by
  have hpair : ∀ low : Bool, ¬ (isHighHalf (unitOf a b c d) && low) = true := by
    rw [h]
    decide
  cases pieces with
  | nil => simp [spelled]
  | cons piece pieces =>
    cases piece with
    | plain c hplain => simp [spelled]
    | escape e => simp [spelled]
    | unit e f g h => rw [spelled, if_neg (hpair _)]

/-- Where pieces spell characters these are the ones that are read. -/
theorem Spells.eq_spelled {pieces : List Piece} {cs : List Char} (h : Spells pieces cs) : cs = spelled pieces := by
  induction h with
  | nil => rfl
  | plain _ ih => rw [spelled, ih]
  | escape _ ih => rw [spelled, ih]
  | unit hchar _ ih => rw [spelled_unit (not_half_of_toNat hchar).1, ofCodeUnit_eq hchar, ih]
  | @pair a b c d e f g h char pieces cs hhigh₁ hhigh₂ hlow₁ hlow₂ hchar _ ih =>
    have hpair : (isHighHalf (unitOf a b c d) && isLowHalf (unitOf e f g h)) = true := by
      simp only [isHighHalf, isLowHalf, Bool.and_eq_true, decide_eq_true_iff]
      exact ⟨⟨hhigh₁, hhigh₂⟩, hlow₁, hlow₂⟩
    rw [spelled, if_pos hpair, joinHalves_eq hchar, ih]

/-! ### Pieces are read -/

section Reading

variable {start read rest : List Char}

/-- Two halves of a pair that follow each other give one character. -/
theorem readString_pair {a b c d e f g h next : Char} {high low : Nat} (hfirst : codeUnit? a b c d = some high)
    (hhigh : isHighHalf high = true) (hsecond : codeUnit? e f g h = some low) (hlow : isLowHalf low = true) :
    readString start read
        ('\\' :: 'u' :: a :: b :: c :: d :: '\\' :: 'u' :: e :: f :: g :: h :: next :: rest) =
      readString start (joinHalves high low :: read) (next :: rest) := by
  rw [readString, hfirst]
  dsimp only
  rw [if_pos hhigh, hsecond]
  exact if_pos hlow

/-- A code unit that does not start a pair gives a character of its own.  If it could start one, then an escape
by code point that follows must be no second half. -/
theorem readString_alone {a b c d next : Char} {unit : Nat} (h : codeUnit? a b c d = some unit)
    (halone : isHighHalf unit = true → ∀ e f g h more, next :: rest = '\\' :: 'u' :: e :: f :: g :: h :: more →
      ∃ low, codeUnit? e f g h = some low ∧ isLowHalf low = false) :
    readString start read ('\\' :: 'u' :: a :: b :: c :: d :: next :: rest) =
      readString start (ofCodeUnit unit :: read) (next :: rest) := by
  rw [readString.eq_def]
  split
  all_goals try (next heq => cases heq <;> contradiction)
  · next heq =>
    cases heq
    rw [h]
    dsimp only
    split
    · next hhigh =>
      obtain ⟨low, hlow, hnot⟩ := halone hhigh _ _ _ _ _ rfl
      rw [hlow]
      dsimp only
      rw [if_neg (by rw [hnot]; decide)]
    · rfl
  · next heq =>
    cases heq
    rw [h]
  · next hunit heq =>
    cases heq
    exact absurd rfl (hunit _ _ _ _ _ _)
  · next hescape heq =>
    cases heq
    exact absurd rfl (hescape _ _ rfl)

/-- Behind pieces there is a quote, so after each of them something follows. -/
theorem exists_cons_of_pieces (pieces : List Piece) (rest : List Char) :
    ∃ next more, pieces.foldr Piece.write ('"' :: rest) = next :: more := by
  cases pieces with
  | nil => exact ⟨_, _, rfl⟩
  | cons piece pieces => cases piece <;> exact ⟨_, _, rfl⟩

/-- **Pieces are read as the characters that they spell.** -/
theorem readString_pieces (pieces : List Piece) :
    readString start read (pieces.foldr Piece.write ('"' :: rest)) = .ok (read.reverse ++ spelled pieces, rest) := by
  fun_induction spelled pieces generalizing read with
  | case1 => rw [List.foldr_nil, readString, List.append_nil]
  | case2 c hplain pieces ih =>
    obtain ⟨hquote, hbackslash, hcontrol⟩ := hplain
    rw [List.foldr_cons, Piece.write, readString_plain hquote hbackslash (Nat.not_lt.mpr hcontrol), ih,
      List.reverse_cons, List.append_assoc, List.singleton_append]
  | case3 e pieces ih =>
    rw [List.foldr_cons, Piece.write, readString_unescape (letter_ne_unit e) (unescape?_letter e), ih,
      List.reverse_cons, List.append_assoc, List.singleton_append]
  | case4 a b c d e f g h pieces hpair ih =>
    obtain ⟨hhigh, hlow⟩ := Bool.and_eq_true_iff.mp hpair
    obtain ⟨next, more, hnext⟩ := exists_cons_of_pieces pieces rest
    rw [List.foldr_cons, List.foldr_cons, Piece.write, Piece.write, hnext,
      readString_pair (codeUnit?_char a b c d) hhigh (codeUnit?_char e f g h) hlow, ← hnext, ih,
      List.reverse_cons, List.append_assoc, List.singleton_append]
  | case5 a b c d e f g h pieces hpair ih =>
    rw [List.foldr_cons, Piece.write, List.foldr_cons, Piece.write, readString_alone (codeUnit?_char a b c d)]
    · rw [List.foldr_cons, Piece.write] at ih
      rw [ih, List.reverse_cons, List.append_assoc, List.singleton_append]
    · intro hhigh e' f' g' h' more heq
      cases heq
      refine ⟨_, codeUnit?_char e f g h, ?_⟩
      rw [hhigh, Bool.true_and] at hpair
      exact Bool.eq_false_iff.mpr hpair
  | case6 a b c d pieces hlast ih =>
    obtain ⟨next, more, hnext⟩ := exists_cons_of_pieces pieces rest
    rw [List.foldr_cons, Piece.write, hnext, readString_alone (codeUnit?_char a b c d)]
    · rw [← hnext, ih, List.reverse_cons, List.append_assoc, List.singleton_append]
    · -- what comes next is not written as a code unit
      intro _ e f g h more' heq
      rw [← hnext] at heq
      cases pieces with
      | nil => cases heq
      | cons piece pieces =>
        cases piece with
        | plain c hplain =>
          rw [List.foldr_cons, Piece.write] at heq
          exact absurd (List.cons.inj heq).1 hplain.2.1
        | escape escape =>
          rw [List.foldr_cons, Piece.write] at heq
          exact absurd (List.cons.inj (List.cons.inj heq).2).1 (letter_ne_unit escape)
        | unit e f g h => exact (hlast _ _ _ _ _ rfl).elim

end Reading

/-! ### What is read are pieces -/

/-- A string that is read ends in a quote behind pieces. -/
theorem exists_text_of_readString {start read cs chars rest : List Char}
    (h : readString start read cs = .ok (chars, rest)) :
    ∃ pieces : List Piece, pieces.foldr Piece.write ('"' :: rest) = cs := by
  have hcons (piece : Piece) {after before : List Char}
      (hafter : ∃ pieces : List Piece, pieces.foldr Piece.write ('"' :: rest) = after)
      (hwrite : piece.write after = before) :
      ∃ pieces : List Piece, pieces.foldr Piece.write ('"' :: rest) = before := by
    obtain ⟨pieces, rfl⟩ := hafter
    exact ⟨piece :: pieces, hwrite⟩
  fun_induction readString start read cs with
  | case1 | case3 | case4 | case5 | case9 | case11 | case13 | case14 => cases h
  | case2 =>
    cases h
    exact ⟨[], rfl⟩
  | case6 _ _ _ _ _ _ _ _ _ _ _ _ hhigh _ _ hlow _ ih =>
    obtain ⟨first, hfirst⟩ := exists_unit hhigh
    obtain ⟨second, hsecond⟩ := exists_unit hlow
    exact hcons first (hcons second (ih h) (hsecond _)) (hfirst _)
  | case7 _ _ _ _ _ _ _ _ _ _ _ _ hhigh _ _ _ _ ih =>
    obtain ⟨first, hfirst⟩ := exists_unit hhigh
    exact hcons first (ih h) (hfirst _)
  | case8 _ _ _ _ _ _ _ _ _ _ _ _ hunit _ ih =>
    obtain ⟨piece, hwrite⟩ := exists_unit hunit
    exact hcons piece (ih h) (hwrite _)
  | case10 _ _ _ _ _ _ _ _ _ hunit ih =>
    obtain ⟨piece, hwrite⟩ := exists_unit hunit
    exact hcons piece (ih h) (hwrite _)
  | case12 _ _ _ _ _ _ _ hplain ih =>
    obtain ⟨e, rfl⟩ := exists_escape hplain
    exact hcons (.escape e) (ih h) rfl
  | case15 _ c more hquote hlone _ _ _ hescape hcontrol ih =>
    have hbackslash : c ≠ '\\' := by
      intro hc
      cases more with
      | nil => exact hlone hc rfl
      | cons next more => exact hescape next more hc rfl
    exact hcons (.plain c ⟨hquote, hbackslash, Nat.not_lt.mp hcontrol⟩) (ih h) rfl

/-- **What is read as a string are the characters of pieces.** -/
theorem exists_pieces_of_readString {start cs chars rest : List Char}
    (h : readString start [] cs = .ok (chars, rest)) :
    ∃ pieces : List Piece, pieces.foldr Piece.write ('"' :: rest) = cs ∧ chars = spelled pieces := by
  obtain ⟨pieces, rfl⟩ := exists_text_of_readString h
  rw [readString_pieces] at h
  cases h
  exact ⟨pieces, rfl, rfl⟩

end Json

end ToolWeave
