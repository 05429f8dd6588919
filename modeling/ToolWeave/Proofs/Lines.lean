import Mathlib.Data.List.TakeWhile
import ToolWeave.Proofs.RoundTrip
import ToolWeave.Remote.Server

/-!
# Texts on lines

A message travels as the bytes of one line.  What has been encoded is decoded (`Utf8.decode_encode`).  The
text of a value has no line break inside, since those of its strings are written as escapes
(`Json.putsOneLine_write`), and so lines that are sent one after the other come apart again
(`Server.lines_unlines`).  A message is read from the line it is written on (`Json.line_of_message`).

## Main definitions

* `Text.OneLine`: a text has no line feed and no carriage return.
* `Text.unlines`: some lines, each ended by a line feed.
* `Json.PutsOneLine`: a writer puts a text in front of the rest that stays on one line.

## Design notes

**Two readers of lines.**  A server splits what it is sent at line feeds.  A client first makes line feeds of
carriage returns.  Neither character is inside of a message, so both find the same lines.

**Blanks around a line.**  Both readers strip a line.  A message is an object, so its text starts and ends
with a brace and nothing is stripped.
-/

namespace ToolWeave

/-! ### Bytes of characters -/

namespace Utf8

theorem toNat_ofNat {n : Nat} (h : n < 256) : (UInt8.ofNat n).toNat = n := by
  rw [UInt8.toNat_ofNat']
  exact Nat.mod_eq_of_lt h

theorem secondRange_eq (first : UInt8) :
    secondRange first =
      if first.toNat = 0xE0 then (0xA0, 0xBF)
      else if first.toNat = 0xED then (0x80, 0x9F)
      else if first.toNat = 0xF0 then (0x90, 0xBF)
      else if first.toNat = 0xF4 then (0x80, 0x8F)
      else (0x80, 0xBF) := by
  simp only [secondRange, ← UInt8.toNat_inj]
  rfl

/-- A continuation byte. -/
theorem isContinuation_ofNat (n : Nat) : isContinuation (UInt8.ofNat (0x80 + n % 64)) = true := by
  unfold isContinuation
  rw [toNat_ofNat (by omega), beq_iff_eq]
  omega

/-- The bytes after the first one are right if the second one is in its range and all others continue. -/
theorem goodTail_append {first second : UInt8} {more : List UInt8} (rest : List UInt8)
    (hsecond : (secondRange first).1 ≤ second.toNat ∧ second.toNat ≤ (secondRange first).2)
    (hmore : ∀ b ∈ more, isContinuation b = true) :
    goodTail first (more.length + 1) (second :: more ++ rest) = more.length + 1 := by
  unfold goodTail
  rw [show more.length + 1 = (second :: more).length from rfl, List.take_left]
  dsimp only
  rw [if_pos hsecond, List.takeWhile_eq_self_iff.mpr hmore, Nat.add_comm]
  rfl

/-- A character of several bytes is decoded. -/
theorem step_of_tail {first second : UInt8} {more : List UInt8} {c : Char} (rest : List UInt8)
    (hwidth : width? first = some (more.length + 2))
    (hsecond : (secondRange first).1 ≤ second.toNat ∧ second.toNat ≤ (secondRange first).2)
    (hmore : ∀ b ∈ more, isContinuation b = true)
    (hcode : codePoint (more.length + 2) first (second :: more) = c.toNat) :
    step first (second :: more ++ rest) = .ok (c, more.length + 2) := by
  have hgood := goodTail_append rest hsecond hmore
  have htake : (second :: more ++ rest).take (second :: more).length = second :: more := List.take_left
  unfold step
  rw [hwidth]
  dsimp only
  rw [show more.length + 2 - 1 = more.length + 1 from rfl, hgood, if_pos rfl,
    show more.length + 1 = (second :: more).length from rfl, htake, hcode, Char.ofNat_toNat]

section Widths

variable {c : Char} (rest : List UInt8)

theorem step_one (h : c.toNat < 0x80) : step (UInt8.ofNat c.toNat) rest = .ok (c, 1) := by
  have hfirst : (UInt8.ofNat c.toNat).toNat = c.toNat := toNat_ofNat (by omega)
  have hwidth : width? (UInt8.ofNat c.toNat) = some 1 := by
    simp (disch := omega) only [width?, hfirst, if_pos]
  have hcode : codePoint 1 (UInt8.ofNat c.toNat) [] = c.toNat := hfirst
  unfold step
  rw [hwidth]
  show Except.ok (Char.ofNat (codePoint 1 (UInt8.ofNat c.toNat) []), 1) = _
  rw [hcode, Char.ofNat_toNat]

theorem step_two (hlow : 0x80 ≤ c.toNat) (hhigh : c.toNat < 0x800) :
    step (UInt8.ofNat (0xC0 + c.toNat / 64)) ([UInt8.ofNat (0x80 + c.toNat % 64)] ++ rest) = .ok (c, 2) := by
  have hfirst : (UInt8.ofNat (0xC0 + c.toNat / 64)).toNat = 0xC0 + c.toNat / 64 := toNat_ofNat (by omega)
  have hsecond : (UInt8.ofNat (0x80 + c.toNat % 64)).toNat = 0x80 + c.toNat % 64 := toNat_ofNat (by omega)
  refine step_of_tail rest ?_ ?_ (List.forall_mem_nil _) ?_
  · simp (disch := omega) only [width?, hfirst, if_pos, if_neg]
    rfl
  · rw [secondRange_eq, hfirst, hsecond]
    simp (disch := omega) only [if_neg]
    omega
  · simp only [codePoint, List.length_nil, List.foldl_cons, List.foldl_nil, hfirst, hsecond]
    rw [if_neg (by decide), show Nat.pow 2 (7 - (0 + 2)) = 32 by decide]
    omega

theorem step_three (hlow : 0x800 ≤ c.toNat) (hhigh : c.toNat < 0x10000) :
    step (UInt8.ofNat (0xE0 + c.toNat / 4096))
        ([UInt8.ofNat (0x80 + c.toNat / 64 % 64), UInt8.ofNat (0x80 + c.toNat % 64)] ++ rest) = .ok (c, 3) := by
  -- a character is no surrogate, which is what the range of the second byte is about
  have hvalid : c.toNat < 0xD800 ∨ 0xDFFF < c.toNat ∧ c.toNat < 0x110000 := c.valid
  have hfirst : (UInt8.ofNat (0xE0 + c.toNat / 4096)).toNat = 0xE0 + c.toNat / 4096 := toNat_ofNat (by omega)
  have hsecond : (UInt8.ofNat (0x80 + c.toNat / 64 % 64)).toNat = 0x80 + c.toNat / 64 % 64 :=
    toNat_ofNat (by omega)
  have hthird : (UInt8.ofNat (0x80 + c.toNat % 64)).toNat = 0x80 + c.toNat % 64 := toNat_ofNat (by omega)
  refine step_of_tail rest ?_ ?_ (List.forall_mem_singleton.mpr (isContinuation_ofNat _)) ?_
  · simp (disch := omega) only [width?, hfirst, if_pos, if_neg]
    rfl
  · rw [secondRange_eq, hfirst, hsecond]
    split
    · omega
    split
    · omega
    · simp (disch := omega) only [if_neg]
      omega
  · simp only [codePoint, List.length_cons, List.length_nil, List.foldl_cons, List.foldl_nil, hfirst, hsecond, hthird]
    rw [if_neg (by decide), show Nat.pow 2 (7 - (0 + 1 + 2)) = 16 by decide]
    omega

theorem step_four (hlow : 0x10000 ≤ c.toNat) :
    step (UInt8.ofNat (0xF0 + c.toNat / 262144))
        ([UInt8.ofNat (0x80 + c.toNat / 4096 % 64), UInt8.ofNat (0x80 + c.toNat / 64 % 64),
          UInt8.ofNat (0x80 + c.toNat % 64)] ++ rest) = .ok (c, 4) := by
  have hvalid : c.toNat < 0xD800 ∨ 0xDFFF < c.toNat ∧ c.toNat < 0x110000 := c.valid
  have hfirst : (UInt8.ofNat (0xF0 + c.toNat / 262144)).toNat = 0xF0 + c.toNat / 262144 := toNat_ofNat (by omega)
  have hsecond : (UInt8.ofNat (0x80 + c.toNat / 4096 % 64)).toNat = 0x80 + c.toNat / 4096 % 64 :=
    toNat_ofNat (by omega)
  have hthird : (UInt8.ofNat (0x80 + c.toNat / 64 % 64)).toNat = 0x80 + c.toNat / 64 % 64 :=
    toNat_ofNat (by omega)
  have hfourth : (UInt8.ofNat (0x80 + c.toNat % 64)).toNat = 0x80 + c.toNat % 64 := toNat_ofNat (by omega)
  refine step_of_tail rest ?_ ?_ ?_ ?_
  · simp (disch := omega) only [width?, hfirst, if_pos, if_neg]
    rfl
  · rw [secondRange_eq, hfirst, hsecond]
    simp (disch := omega) only [if_neg]
    split
    · omega
    split
    · omega
    · omega
  · exact List.forall_mem_cons.mpr
      ⟨isContinuation_ofNat _, List.forall_mem_singleton.mpr (isContinuation_ofNat _)⟩
  · simp only [codePoint, List.length_cons, List.length_nil, List.foldl_cons, List.foldl_nil, hfirst, hsecond, hthird,
      hfourth]
    rw [if_neg (by decide), show Nat.pow 2 (7 - (0 + 1 + 1 + 2)) = 8 by decide]
    omega

/-- The bytes of a character are decoded to it. -/
theorem step_encodeChar (c : Char) :
    ∃ first tail, encodeChar c = first :: tail ∧ step first (tail ++ rest) = .ok (c, tail.length + 1) := by
  have hpow : Nat.pow 2 6 = 64 ∧ Nat.pow 2 0 = 1 ∧ Nat.pow 2 12 = 4096 := by decide
  unfold encodeChar
  dsimp only
  rw [hpow.1, hpow.2.1, hpow.2.2, Nat.div_one]
  split
  · next hone => exact ⟨_, [], rfl, step_one rest hone⟩
  split
  · next hlow hhigh => exact ⟨_, [_], rfl, step_two rest (Nat.not_lt.mp hlow) hhigh⟩
  split
  · next hlow hhigh => exact ⟨_, [_, _], rfl, step_three rest (Nat.not_lt.mp hlow) hhigh⟩
  · next hlow => exact ⟨_, [_, _, _], rfl, step_four rest (Nat.not_lt.mp hlow)⟩

end Widths

theorem decodeFrom_encode (cs : List Char) {turns : Nat} (hturns : (encode cs).length ≤ turns) (position : Nat)
    (read : List Char) : decodeFrom position turns read (encode cs) = .ok (read.reverse ++ cs) := by
  induction cs generalizing turns position read with
  | nil =>
    rw [List.append_nil]
    cases turns <;> rfl
  | cons c cs ih =>
    obtain ⟨first, tail, hchar, hstep⟩ := step_encodeChar (encode cs) c
    have hencode : encode (c :: cs) = first :: (tail ++ encode cs) := by
      unfold encode
      rw [List.flatMap_cons, hchar]
      rfl
    rw [hencode, List.length_cons, List.length_append] at hturns
    rw [hencode]
    -- a turn is used up for a character, which has one byte at least
    cases turns with
    | zero => omega
    | succ turns =>
      rw [decodeFrom, hstep]
      dsimp only
      rw [Nat.add_sub_cancel, List.drop_left, ih (by omega), List.reverse_cons, List.append_assoc]
      rfl

/-- What has been encoded is decoded. -/
theorem decode_encode (cs : List Char) : decode (encode cs) = .ok cs :=
  decodeFrom_encode cs (Nat.le_refl _) 0 []

/-- Different texts have different bytes. -/
theorem encode_injective : Function.Injective encode := by
  intro first second h
  have hdecode := decode_encode first
  rw [h, decode_encode] at hdecode
  exact (Except.ok.inj hdecode).symm

theorem encode_append (first second : List Char) : encode (first ++ second) = encode first ++ encode second :=
  List.flatMap_append

end Utf8

/-! ### Lines -/

namespace Text

/-- A text that stays on one line. -/
def OneLine (cs : List Char) : Prop := cs.all (fun c => c != '\n' && c != '\r') = true

instance (cs : List Char) : Decidable (OneLine cs) := inferInstanceAs (Decidable (_ = true))

theorem oneLine_iff {cs : List Char} : OneLine cs ↔ ∀ c ∈ cs, c ≠ '\n' ∧ c ≠ '\r' := by
  simp [OneLine]

theorem OneLine.append {first second : List Char} (hfirst : OneLine first) (hsecond : OneLine second) :
    OneLine (first ++ second) := by
  rw [oneLine_iff] at *
  exact fun c hc => (List.mem_append.mp hc).elim (hfirst c) (hsecond c)

theorem OneLine.cons {c : Char} (hnewline : c ≠ '\n') (hreturn : c ≠ '\r') {cs : List Char} (h : OneLine cs) :
    OneLine (c :: cs) := by
  rw [oneLine_iff] at *
  exact List.forall_mem_cons.mpr ⟨⟨hnewline, hreturn⟩, h⟩

theorem OneLine.sublist {first second : List Char} (h : OneLine second) (hsub : first.Sublist second) :
    OneLine first := by
  rw [oneLine_iff] at *
  exact fun c hc => h c (hsub.mem hc)

theorem oneLine_nil : OneLine [] := rfl

/-- Some lines, each ended by a line feed. -/
def unlines (lines : List (List Char)) : List Char := lines.flatMap fun line => line ++ ['\n']

theorem unlines_append (first second : List (List Char)) :
    unlines (first ++ second) = unlines first ++ unlines second := List.flatMap_append

theorem unlines_singleton (line : List Char) : unlines [line] = line ++ ['\n'] := List.flatMap_singleton ..

theorem splitOn_unlines {lines : List (List Char)} (h : ∀ line ∈ lines, OneLine line) :
    (unlines lines).splitOn '\n' = lines ++ [[]] := by
  -- the last line feed has something after it as well, which is empty
  have hjoined : unlines lines = ['\n'].intercalate (lines ++ [[]]) := by
    induction lines with
    | nil => rfl
    | cons line rest ih =>
      have hrest := ih (List.forall_mem_cons.mp h).2
      cases rest with
      | nil => simp [unlines]
      | cons next rest =>
        rw [List.cons_append, List.cons_append, List.intercalate_cons_cons, ← List.cons_append, ← hrest]
        rfl
  rw [hjoined]
  refine List.splitOn_intercalate '\n' (fun line hline hmem => ?_) (by simp)
  rcases List.mem_append.mp hline with hline | hline
  · exact (oneLine_iff.mp (h line hline) _ hmem).1 rfl
  · rw [List.mem_singleton.mp hline] at hmem
    cases hmem

/-- What has no carriage return is taken over. -/
theorem unifyLinesAfter_append {cs : List Char} (h : ∀ c ∈ cs, c ≠ '\r') (read rest : List Char) :
    unifyLinesAfter read (cs ++ rest) = unifyLinesAfter (cs.reverse ++ read) rest := by
  induction cs generalizing read with
  | nil => rfl
  | cons c cs ih =>
    obtain ⟨hc, hcs⟩ := List.forall_mem_cons.mp h
    rw [List.cons_append, unifyLinesAfter, ih hcs, List.reverse_cons, List.append_assoc]
    · rfl
    · exact fun _ heq _ => hc heq
    · exact hc

theorem unifyLinesAfter_of_not_mem {cs : List Char} (h : ∀ c ∈ cs, c ≠ '\r') (read : List Char) :
    unifyLinesAfter read cs = read.reverse ++ cs := by
  have hall := unifyLinesAfter_append h read []
  rw [List.append_nil] at hall
  rw [hall, unifyLinesAfter, List.reverse_append, List.reverse_reverse]

theorem unifyLines_unlines {lines : List (List Char)} (h : ∀ line ∈ lines, OneLine line) :
    unifyLines (unlines lines) = unlines lines := by
  refine unifyLinesAfter_of_not_mem (fun c hc => ?_) []
  obtain ⟨line, hline, hc⟩ := List.mem_flatMap.mp hc
  rcases List.mem_append.mp hc with hc | hc
  · exact (oneLine_iff.mp (h line hline) c hc).2
  · rw [List.mem_singleton.mp hc]
    decide

/-- Blanks around a text that does not start or end with one are stripped. -/
theorem stripChars_between {before inner after : List Char} {first last : Char}
    (hbefore : ∀ c ∈ before, isBlank c = true) (hafter : ∀ c ∈ after, isBlank c = true)
    (hfirst : isBlank first = false) (hlast : isBlank last = false) :
    stripChars (before ++ (first :: inner ++ [last]) ++ after) = first :: inner ++ [last] := by
  have hreverse : ∀ c ∈ after.reverse, isBlank c = true := fun c hc => hafter c (List.mem_reverse.mp hc)
  unfold stripChars dropEnd
  rw [List.append_assoc, List.dropWhile_append_of_pos hbefore, List.cons_append, List.cons_append,
    List.dropWhile_cons_of_neg (by rw [hfirst]; decide), ← List.cons_append, ← List.cons_append,
    List.reverse_append, List.dropWhile_append_of_pos hreverse, List.reverse_append, List.reverse_singleton,
    List.singleton_append, List.dropWhile_cons_of_neg (by rw [hlast]; decide), List.reverse_cons,
    List.reverse_reverse]

/-- A text that does not start or end with a blank is not stripped. -/
theorem stripChars_of_ends {first last : Char} (inner : List Char) (hfirst : isBlank first = false)
    (hlast : isBlank last = false) : stripChars (first :: inner ++ [last]) = first :: inner ++ [last] := by
  have hstrip : stripChars ([] ++ (first :: inner ++ [last]) ++ []) = first :: inner ++ [last] :=
    stripChars_between (List.forall_mem_nil _) (List.forall_mem_nil _) hfirst hlast
  rwa [List.nil_append, List.append_nil] at hstrip

end Text

/-- The lines of a text that consists of lines. -/
theorem Server.lines_unlines {lines : List (List Char)} (h : ∀ line ∈ lines, Text.OneLine line) :
    Server.lines (Text.unlines lines) = lines := by
  unfold Server.lines
  rw [Text.splitOn_unlines h]
  dsimp only
  rw [List.getLast?_concat, if_pos (by decide), List.dropLast_concat]

/-! ### Texts of values -/

namespace Json

open Number Text

theorem oneLine_of_allDigits {cs : List Char} (h : AllDigits cs) : OneLine cs := by
  rw [oneLine_iff]
  intro c hc
  have hdigit := h c hc
  constructor
  · rintro rfl
    exact absurd hdigit (by decide)
  · rintro rfl
    exact absurd hdigit (by decide)

theorem oneLine_layoutChars (layout : Double.Layout) (digits : Nat) (exponent : Int) :
    OneLine (layout.chars digits exponent) := by
  have hshown := oneLine_of_allDigits (allDigits_toDigits digits)
  have hzeros (count : Nat) := oneLine_of_allDigits (allDigits_zeros count)
  unfold Double.Layout.chars
  dsimp only
  split
  · split
    · exact (hshown.append (hzeros _)).append rfl
    split
    · exact (hshown.sublist (List.take_sublist _ _)).append
        (.cons (by decide) (by decide) (hshown.sublist (List.drop_sublist _ _)))
    · exact .cons (by decide) (by decide) (.cons (by decide) (by decide) ((hzeros _).append hshown))
  · have hfraction : OneLine (if (Nat.toDigits 10 digits).length ≤ 1 then []
        else '.' :: (Nat.toDigits 10 digits).drop 1) := by
      split
      · exact oneLine_nil
      · exact .cons (by decide) (by decide) (hshown.sublist (List.drop_sublist _ _))
    refine ((hshown.sublist (List.take_sublist _ _)).append hfraction).append (.cons (by decide) (by decide) ?_)
    refine .cons ?_ ?_ ((hzeros _).append (oneLine_of_allDigits (allDigits_toDigits _)))
    · split <;> decide
    · split <;> decide

theorem oneLine_numberChars (n : Number) : OneLine (numberChars n) := by
  cases n with
  | int i =>
    have hdigits := oneLine_of_allDigits (allDigits_toDigits i.natAbs)
    show OneLine (integerChars i)
    unfold integerChars
    split
    · exact .cons (by decide) (by decide) hdigits
    · exact hdigits
  | double d =>
    cases d with
    | finite negative code =>
      have hbody := oneLine_layoutChars .standard (Double.shortest code).1 (Double.shortest code).2
      cases negative with
      | true => exact .cons (by decide) (by decide) hbody
      | false => exact hbody
    | infinite negative => cases negative <;> rfl
    | nan => rfl

theorem oneLine_escape (c : Char) : OneLine (escape c) := by
  unfold escape
  split
  · rfl
  split
  · rfl
  split
  · rfl
  split
  · rfl
  split
  · rfl
  split
  · rfl
  split
  · rfl
  split
  · next hcontrol =>
    have hhex : ∀ n < 32, OneLine ('\\' :: 'u' :: Text.hex 4 n) := by decide
    exact hhex c.toNat hcontrol
  · next hnewline hreturn _ _ _ _ => exact .cons hnewline hreturn oneLine_nil

/-- What a writer puts in front of the rest is the same for any rest, and stays on one line. -/
def PutsOneLine (writer : List Char → List Char) : Prop := ∃ text, OneLine text ∧ ∀ rest, writer rest = text ++ rest

namespace PutsOneLine

theorem ofText {text : List Char} (h : OneLine text) : PutsOneLine (text ++ ·) := ⟨text, h, fun _ => rfl⟩

theorem comp {first second : List Char → List Char} (hfirst : PutsOneLine first) (hsecond : PutsOneLine second) :
    PutsOneLine fun rest => first (second rest) := by
  obtain ⟨text, htext, hputs⟩ := hfirst
  obtain ⟨more, hmore, hputsMore⟩ := hsecond
  refine ⟨text ++ more, htext.append hmore, fun rest => ?_⟩
  show first (second rest) = _
  rw [hputs, hputsMore, List.append_assoc]

end PutsOneLine

theorem putsOneLine_string (s : String) : PutsOneLine (writeString s) := by
  have hbody : OneLine (s.toList.flatMap escape) := by
    rw [oneLine_iff]
    intro c hc
    obtain ⟨d, -, hd⟩ := List.mem_flatMap.mp hc
    exact oneLine_iff.mp (oneLine_escape d) c hd
  refine ⟨'"' :: (s.toList.flatMap escape ++ ['"']), .cons (by decide) (by decide) (hbody.append rfl), ?_⟩
  intro rest
  unfold writeString
  rw [List.cons_append, List.append_assoc]
  rfl

theorem putsOneLine_items {items : List Value} (h : ∀ item ∈ items, ∀ depth, PutsOneLine (write compact depth item))
    (depth : Nat) : PutsOneLine (writeItems compact depth items) := by
  induction items with
  | nil => exact .ofText (show OneLine [']'] from rfl)
  | cons item rest ih =>
    obtain ⟨hitem, hrest⟩ := List.forall_mem_cons.mp h
    have hcomma : PutsOneLine ([',', ' '] ++ ·) := .ofText rfl
    exact hcomma.comp ((hitem (depth + 1)).comp (ih hrest))

theorem putsOneLine_field (name : String) {writer : List Char → List Char} (h : PutsOneLine writer) :
    PutsOneLine fun rest => writeString name (':' :: ' ' :: writer rest) :=
  (putsOneLine_string name).comp ((PutsOneLine.ofText (show OneLine [':', ' '] from rfl)).comp h)

theorem putsOneLine_fields {fields : Fields}
    (h : ∀ entry ∈ fields, ∀ depth, PutsOneLine (write compact depth entry.2)) (depth : Nat) :
    PutsOneLine (writeFields compact depth fields) := by
  induction fields with
  | nil => exact .ofText (show OneLine ['\x7d'] from rfl)
  | cons entry rest ih =>
    obtain ⟨name, content⟩ := entry
    obtain ⟨hcontent, hrest⟩ := List.forall_mem_cons.mp h
    have hcomma : PutsOneLine ([',', ' '] ++ ·) := .ofText rfl
    exact hcomma.comp (putsOneLine_field name ((hcontent (depth + 1)).comp (ih hrest)))

/-- The compact text of a value stays on one line. -/
theorem putsOneLine_write (v : Value) : ∀ depth, PutsOneLine (write compact depth v) := by
  induction v using Value.induction with
  | null => exact fun _ => .ofText (show OneLine ['n', 'u', 'l', 'l'] from rfl)
  | bool b =>
    cases b with
    | true => exact fun _ => .ofText (show OneLine ['t', 'r', 'u', 'e'] from rfl)
    | false => exact fun _ => .ofText (show OneLine ['f', 'a', 'l', 's', 'e'] from rfl)
  | number n => exact fun _ => .ofText (oneLine_numberChars n)
  | string s => exact fun _ => putsOneLine_string s
  | array items ih =>
    intro depth
    cases items with
    | nil => exact .ofText (show OneLine ['[', ']'] from rfl)
    | cons item rest =>
      obtain ⟨hitem, hrest⟩ := List.forall_mem_cons.mp ih
      have hopen : PutsOneLine (['['] ++ ·) := .ofText rfl
      exact hopen.comp ((hitem (depth + 1)).comp (putsOneLine_items hrest depth))
  | object fields ih =>
    intro depth
    cases fields with
    | nil => exact .ofText (show OneLine ['\x7b', '\x7d'] from rfl)
    | cons entry rest =>
      obtain ⟨name, content⟩ := entry
      obtain ⟨hcontent, hrest⟩ := List.forall_mem_cons.mp ih
      have hopen : PutsOneLine (['\x7b'] ++ ·) := .ofText rfl
      exact hopen.comp (putsOneLine_field name ((hcontent (depth + 1)).comp (putsOneLine_fields hrest depth)))

theorem exists_end_of_fields (fields : Fields) (depth : Nat) :
    ∃ text, ∀ rest, writeFields compact depth fields rest = text ++ '\x7d' :: rest := by
  induction fields with
  | nil => exact ⟨[], fun _ => rfl⟩
  | cons entry fields ih =>
    obtain ⟨name, content⟩ := entry
    obtain ⟨more, hmore⟩ := ih
    obtain ⟨text, -, htext⟩ := putsOneLine_field name (putsOneLine_write content (depth + 1))
    dsimp only at htext
    refine ⟨[',', ' '] ++ (text ++ more), fun rest => ?_⟩
    show [',', ' '] ++ writeString name (':' :: ' ' :: write compact (depth + 1) content
      (writeFields compact depth fields rest)) = _
    rw [htext, hmore, List.append_assoc, List.append_assoc]

/-- The compact text of an object stands between braces. -/
theorem exists_braces (fields : Fields) :
    ∃ text, write compact 0 (.object fields) [] = '\x7b' :: text ++ ['\x7d'] := by
  cases fields with
  | nil => exact ⟨[], rfl⟩
  | cons entry fields =>
    obtain ⟨name, content⟩ := entry
    obtain ⟨more, hmore⟩ := exists_end_of_fields fields 0
    obtain ⟨text, -, htext⟩ := putsOneLine_field name (putsOneLine_write content 1)
    dsimp only at htext
    refine ⟨text ++ more, ?_⟩
    show '\x7b' :: writeString name (':' :: ' ' :: write compact 1 content (writeFields compact 0 fields [])) = _
    rw [htext, hmore, List.cons_append, List.append_assoc]

/-- What is written as a line is one. -/
theorem oneLine_of_line {v : Value} {text : String} (h : line v = .ok text) : OneLine text.toList := by
  obtain ⟨chars, hone, hputs⟩ := putsOneLine_write v 0
  unfold line print at h
  split at h
  · cases h
  · cases h
    unfold render
    rw [String.toList_ofList, hputs, List.append_nil]
    exact hone

/-- A message is on one line and is read from it. -/
theorem line_of_message {fields : Fields} (hwritable : unwritable? (.object fields) = none)
    (hnames : (Value.object fields).distinctNames = true)
    (hlevels : (Value.object fields).nestedWithin nestingLimit = true) :
    ∃ text, line (.object fields) = .ok text ∧ OneLine text.toList ∧ stripChars text.toList ≠ [] ∧
      readChars .lenient (stripChars text.toList) = .ok (.object fields) := by
  have hread := readChars_write blank_compact .lenient hwritable hnames hlevels
  have hline : line (.object fields) = .ok (render compact (.object fields)) := by
    unfold line print
    rw [hwritable]
  obtain ⟨inner, hbraces⟩ := exists_braces fields
  have hstrip : stripChars (write compact 0 (.object fields) []) = write compact 0 (.object fields) [] := by
    rw [hbraces]
    exact stripChars_of_ends inner (by decide) (by decide)
  refine ⟨render compact (.object fields), hline, oneLine_of_line hline, ?_, ?_⟩
  all_goals unfold render; rw [String.toList_ofList]
  · rw [hstrip, hbraces]
    exact List.cons_ne_nil _ _
  · rw [hstrip]
    exact hread

end Json

end ToolWeave
