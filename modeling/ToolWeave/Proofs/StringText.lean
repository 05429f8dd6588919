import ToolWeave.Json.Read
import ToolWeave.Json.Write

/-!
# Strings read from their text

A string is written with escapes for the quote, the backslash and everything below the space, and each
escape stands for the character again (`Json.readString_escape`).  So a string read from its text is
itself (`Json.readString_flatMap_escape`).

The reader tells apart what comes after `\u` by looking at up to ten characters, so an escape by code
point has an equation of its own that holds whatever comes next.
-/

namespace ToolWeave

namespace Json

variable {start read rest : List Char}

/-! ### One step of the reader -/

section Steps

variable {c letter : Char}

theorem readString_plain (hquote : c ≠ '"') (hbackslash : c ≠ '\\') (hcontrol : ¬ c.toNat < 32) :
    readString start read (c :: rest) = readString start (c :: read) rest := by
  rw [readString.eq_def]
  split
  all_goals try (next heq => cases heq <;> contradiction)
  next heq =>
    cases heq
    rw [if_neg hcontrol]

theorem readString_unescape (hletter : letter ≠ 'u') (h : unescape? letter = some c) :
    readString start read ('\\' :: letter :: rest) = readString start (c :: read) rest := by
  rw [readString.eq_def]
  split
  all_goals try (next heq => cases heq <;> contradiction)
  · next heq =>
    cases heq
    rw [h]
  · next hescape heq =>
    cases heq
    exact absurd rfl (hescape _ _ rfl)

/-- An escape by code point, unless it is the first half of a pair. -/
theorem readString_codeUnit {a b c d next : Char} {unit : Nat} (h : codeUnit? a b c d = some unit)
    (hhigh : isHighHalf unit = false) :
    readString start read ('\\' :: 'u' :: a :: b :: c :: d :: next :: rest) =
      readString start (ofCodeUnit unit :: read) (next :: rest) := by
  have hhigh : ¬ isHighHalf unit = true := by
    rw [hhigh]
    decide
  rw [readString.eq_def]
  split
  all_goals try (next heq => cases heq <;> contradiction)
  · next heq =>
    cases heq
    rw [h]
    exact if_neg hhigh
  · next heq =>
    cases heq
    rw [h]
  · next hunit heq =>
    cases heq
    exact absurd rfl (hunit _ _ _ _ _ _)
  · next hescape heq =>
    cases heq
    exact absurd rfl (hescape _ _ rfl)

end Steps

/-! ### Escapes -/

/-- The code points below the space are spelled by four digits. -/
theorem hex_of_control : ∀ n < 32,
    Text.hex 4 n = ['0', '0', Nat.digitChar (n / 16), Nat.digitChar (n % 16)] ∧
      codeUnit? '0' '0' (Nat.digitChar (n / 16)) (Nat.digitChar (n % 16)) = some n := by
  decide

/-- An escape stands for its character, whatever comes next. -/
theorem readString_escape (c next : Char) :
    readString start read (escape c ++ next :: rest) = readString start (c :: read) (next :: rest) := by
  unfold escape
  split
  · next h => subst h; exact readString_unescape (by decide) rfl
  split
  · next h => subst h; exact readString_unescape (by decide) rfl
  split
  · next h => subst h; exact readString_unescape (by decide) rfl
  split
  · next h => subst h; exact readString_unescape (by decide) rfl
  split
  · next h => subst h; exact readString_unescape (by decide) rfl
  split
  · next h => subst h; exact readString_unescape (by decide) rfl
  split
  · next h => subst h; exact readString_unescape (by decide) rfl
  split
  · next hcontrol =>
    obtain ⟨hhex, hunit⟩ := hex_of_control c.toNat hcontrol
    have hhigh : isHighHalf c.toNat = false := by
      unfold isHighHalf
      rw [decide_eq_false (by omega), Bool.false_and]
    have hlow : isLowHalf c.toNat = false := by
      unfold isLowHalf
      rw [decide_eq_false (by omega), Bool.false_and]
    have hchar : ofCodeUnit c.toNat = c := by
      unfold ofCodeUnit
      rw [hhigh, hlow, Bool.or_false, if_neg (by decide), Char.ofNat_toNat]
    calc readString start read ('\\' :: 'u' :: Text.hex 4 c.toNat ++ next :: rest)
        = readString start (ofCodeUnit c.toNat :: read) (next :: rest) := by
          rw [hhex]
          exact readString_codeUnit hunit hhigh
      _ = readString start (c :: read) (next :: rest) := by rw [hchar]
  · next hcontrol => exact readString_plain ‹_› ‹_› hcontrol

/-- A string is read up to the quote after it. -/
theorem readString_flatMap_escape (cs : List Char) :
    readString start read (cs.flatMap escape ++ '"' :: rest) = .ok (read.reverse ++ cs, rest) := by
  induction cs generalizing read with
  | nil =>
    rw [List.flatMap_nil, List.nil_append, List.append_nil]
    rfl
  | cons c cs ih =>
    obtain ⟨next, more, hnext⟩ : ∃ next more, cs.flatMap escape ++ '"' :: rest = next :: more :=
      List.exists_cons_of_ne_nil (List.append_ne_nil_of_right_ne_nil _ (List.cons_ne_nil _ _))
    rw [List.flatMap_cons, List.append_assoc, hnext, readString_escape, ← hnext, ih, List.reverse_cons,
      List.append_assoc, List.singleton_append]

/-- **Strings are read from their text.** -/
theorem readWith_writeString (dialect : Dialect) (turns : Nat) (inner : Option (List Char → Reading Value))
    (s : String) (rest : List Char) :
    readWith dialect turns inner (writeString s rest) = .ok (.string s, rest) := by
  unfold writeString
  rw [readWith, readString_flatMap_escape, List.reverse_nil, List.nil_append]
  dsimp only
  rw [String.ofList_toList]

end Json

end ToolWeave
