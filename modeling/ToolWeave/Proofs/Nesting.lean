import ToolWeave.Proofs.TreeReading

/-!
# How deep a text is nested

Brackets and braces nest a text, JSON or not, where they stand outside quotes.  A tree has no more levels
than its text is nested (`Json.Tree.levels_le_deepest`), and a text is refused as nested too deeply only if
it is nested deeper than the reader goes (`Json.lt_nesting_of_tooDeep`).

## Main definitions

* `Json.Quotation`: whether a place of a text is inside a string.
* `Json.nesting`: the most brackets and braces that are open at one place.
-/

namespace ToolWeave

namespace Json

/-- Where a place of a text is: outside strings, inside one, or inside behind a backslash. -/
inductive Quotation where
  | outside
  | inside
  | escaped
  deriving DecidableEq

namespace Quotation

/-- Where the place behind a character is. -/
def next : Quotation → Char → Quotation
  | outside, c => if c = '"' then inside else outside
  | inside, c => if c = '"' then outside else if c = '\\' then escaped else inside
  | escaped, _ => inside

/-- How many brackets and braces are open behind a character, if `depth` are open in front of it. -/
def depthBehind : Quotation → (depth : Nat) → Char → Nat
  | outside, depth, c =>
    if c = '[' ∨ c = '\x7b' then depth + 1 else if c = ']' ∨ c = '\x7d' then depth - 1 else depth
  | _, depth, _ => depth

end Quotation

/-- The most brackets and braces that are open at one place, if `depth` are open at the start. -/
def deepest : Quotation → (depth : Nat) → List Char → Nat
  | _, depth, [] => depth
  | q, depth, c :: cs => max depth (deepest (q.next c) (q.depthBehind depth c) cs)

/-- How deep a text is nested. -/
def nesting (cs : List Char) : Nat := deepest .outside 0 cs

/-! ### Characters that nest nothing -/

section Characters

variable {q : Quotation} {depth : Nat} {c : Char} {cs rest : List Char}

theorem le_deepest (q : Quotation) (depth : Nat) (cs : List Char) : depth ≤ deepest q depth cs := by
  cases cs with
  | nil => exact Nat.le_refl _
  | cons c cs => exact Nat.le_max_left _ _

/-- A character that opens and closes nothing can be passed over. -/
theorem deepest_cons (h : q.depthBehind depth c = depth) :
    deepest q depth (c :: cs) = deepest (q.next c) depth cs := by
  rw [deepest, h]
  exact Nat.max_eq_right (le_deepest _ _ _)

/-- A character neither opens nor closes anything outside strings, not even a string. -/
def IsFlat (c : Char) : Prop := c ≠ '"' ∧ c ≠ '[' ∧ c ≠ '\x7b' ∧ c ≠ ']' ∧ c ≠ '\x7d'

instance isFlatDecidable : DecidablePred IsFlat :=
  fun c => inferInstanceAs (Decidable (c ≠ '"' ∧ c ≠ '[' ∧ c ≠ '\x7b' ∧ c ≠ ']' ∧ c ≠ '\x7d'))

theorem isFlat_of_isDigit (h : c.isDigit = true) : IsFlat c := by
  refine ⟨?_, ?_, ?_, ?_, ?_⟩ <;> rintro rfl <;> cases h

theorem deepest_cons_flat (h : IsFlat c) : deepest .outside depth (c :: rest) = deepest .outside depth rest := by
  obtain ⟨hquote, hbracket, hbrace, hclose, hclose'⟩ := h
  rw [deepest_cons, Quotation.next, if_neg hquote]
  rw [Quotation.depthBehind, if_neg (by tauto), if_neg (by tauto)]

theorem deepest_append_flat (h : ∀ c ∈ cs, IsFlat c) :
    deepest .outside depth (cs ++ rest) = deepest .outside depth rest := by
  induction cs with
  | nil => rfl
  | cons c cs ih =>
    obtain ⟨hc, hcs⟩ := List.forall_mem_cons.mp h
    rw [List.cons_append, deepest_cons_flat hc, ih hcs]

theorem deepest_gap (gap : Gap) : deepest .outside depth (gap.chars ++ rest) = deepest .outside depth rest := by
  refine deepest_append_flat fun c hc => ?_
  rcases gap.blank c hc with rfl | rfl | rfl | rfl <;> decide

theorem deepest_skip (cs : List Char) : deepest .outside depth (skip cs) = deepest .outside depth cs := by
  obtain ⟨gap, hgap⟩ := exists_gap cs
  rw [← deepest_gap gap, hgap]

theorem deepest_digits (digits : Digits) :
    deepest .outside depth (digits.chars ++ rest) = deepest .outside depth rest :=
  deepest_append_flat fun c hc => isFlat_of_isDigit (digits.allDigits c hc)

theorem deepest_exponent (e : Option Exponent) :
    deepest .outside depth (Numeral.writeExponent e rest) = deepest .outside depth rest := by
  cases e with
  | none => rfl
  | some e =>
    have hsign : ∀ c ∈ e.sign.chars, IsFlat c := by cases e.sign <;> simp [Sign.chars, IsFlat]
    have hletter : IsFlat e.letter := by rcases e.isLetter with h | h <;> rw [h] <;> decide
    rw [Numeral.writeExponent, deepest_cons_flat hletter, deepest_append_flat hsign, deepest_digits]

theorem deepest_fraction (fraction : Option Digits) :
    deepest .outside depth (Numeral.writeFraction fraction rest) = deepest .outside depth rest := by
  cases fraction with
  | none => rfl
  | some digits => rw [Numeral.writeFraction, deepest_cons_flat (by decide), deepest_digits]

theorem deepest_numeral (n : Numeral) :
    deepest .outside depth (n.write rest) = deepest .outside depth rest := by
  have hmagnitude : deepest .outside depth (n.writeMagnitude rest) = deepest .outside depth rest := by
    rw [Numeral.writeMagnitude, deepest_digits, deepest_fraction, deepest_exponent]
  unfold Numeral.write
  split
  · rw [deepest_cons_flat (by decide), hmagnitude]
  · exact hmagnitude

/-- What is inside a string nests nothing. -/
theorem deepest_inside (h : q ≠ .outside) : deepest q depth (c :: rest) = deepest (q.next c) depth rest := by
  refine deepest_cons ?_
  cases q with
  | outside => exact absurd rfl h
  | inside => rfl
  | escaped => rfl

theorem char_ne_delimiter (digit : HexDigit) : digit.char ≠ '"' ∧ digit.char ≠ '\\' := by
  obtain ⟨value, capital⟩ := digit
  revert value capital
  decide

theorem deepest_plain (hquote : c ≠ '"') (hbackslash : c ≠ '\\') :
    deepest .inside depth (c :: rest) = deepest .inside depth rest := by
  rw [deepest_inside (by decide), Quotation.next, if_neg hquote, if_neg hbackslash]

theorem deepest_piece (piece : Piece) : deepest .inside depth (piece.write rest) = deepest .inside depth rest := by
  have hbackslash (c : Char) (after : List Char) :
      deepest .inside depth ('\\' :: c :: after) = deepest .inside depth after := by
    rw [deepest_inside (by decide), deepest_inside (by decide)]
    rfl
  cases piece with
  | plain c hplain => exact deepest_plain hplain.1 hplain.2.1
  | escape e => exact hbackslash _ _
  | unit a b c d =>
    have hdigit (digit : HexDigit) (after : List Char) :
        deepest .inside depth (digit.char :: after) = deepest .inside depth after :=
      deepest_plain (char_ne_delimiter digit).1 (char_ne_delimiter digit).2
    rw [Piece.write, hbackslash, hdigit, hdigit, hdigit, hdigit]

theorem deepest_pieces (pieces : List Piece) :
    deepest .outside depth (writePieces pieces rest) = deepest .outside depth rest := by
  have hinside : deepest .inside depth (pieces.foldr Piece.write ('"' :: rest)) =
      deepest .inside depth ('"' :: rest) := by
    induction pieces with
    | nil => rfl
    | cons piece pieces ih => rw [List.foldr_cons, deepest_piece, ih]
  have hopen : deepest .outside depth (writePieces pieces rest) =
      deepest .inside depth (pieces.foldr Piece.write ('"' :: rest)) := deepest_cons rfl
  have hclose : deepest .inside depth ('"' :: rest) = deepest .outside depth rest := deepest_cons rfl
  rw [hopen, hinside, hclose]

theorem deepest_label (label : Label) :
    deepest .outside depth (label.write rest) = deepest .outside depth rest := by
  rw [Label.write, deepest_gap, deepest_pieces, deepest_gap, deepest_cons_flat (by decide)]

end Characters

/-! ### Trees -/

section Brackets

variable {depth k : Nat} {c : Char} {rest : List Char}

/-- What opens goes one deeper. -/
theorem deepest_open (hc : c = '[' ∨ c = '\x7b') (h : k ≤ deepest .outside (depth + 1) rest) :
    k ≤ deepest .outside depth (c :: rest) := by
  rcases hc with rfl | rfl <;> exact le_max_of_le_right h

/-- What closes goes back. -/
theorem deepest_close (hc : c = ']' ∨ c = '\x7d') (h : k ≤ deepest .outside depth rest) :
    k ≤ deepest .outside (depth + 1) (c :: rest) := by
  rcases hc with rfl | rfl <;> exact le_max_of_le_right h

end Brackets

mutual

/-- The text of a tree goes as deep as the tree and comes back to what follows. -/
theorem Tree.max_le_deepest (t : Tree) (depth : Nat) (rest : List Char) :
    max (depth + t.levels) (deepest .outside depth rest) ≤ deepest .outside depth (t.write rest) := by
  have hleaf {cs : List Char} (h : deepest .outside depth cs = deepest .outside depth rest) :
      max (depth + 0) (deepest .outside depth rest) ≤ deepest .outside depth cs := by
    rw [h]
    exact max_le (le_deepest _ _ _) (Nat.le_refl _)
  cases t with
  | null => exact hleaf (deepest_append_flat (by simp [IsFlat] : ∀ c ∈ ['n', 'u', 'l', 'l'], IsFlat c))
  | bool b =>
    cases b with
    | true => exact hleaf (deepest_append_flat (by simp [IsFlat] : ∀ c ∈ ['t', 'r', 'u', 'e'], IsFlat c))
    | false => exact hleaf (deepest_append_flat (by simp [IsFlat] : ∀ c ∈ ['f', 'a', 'l', 's', 'e'], IsFlat c))
  | number n => exact hleaf (deepest_numeral n)
  | string pieces => exact hleaf (deepest_pieces pieces)
  | emptyArray inside =>
    refine deepest_open (.inl rfl) ?_
    rw [deepest_gap]
    exact max_le (le_deepest _ _ _) (deepest_close (.inl rfl) (Nat.le_refl _))
  | emptyObject inside =>
    refine deepest_open (.inr rfl) ?_
    rw [deepest_gap]
    exact max_le (le_deepest _ _ _) (deepest_close (.inr rfl) (Nat.le_refl _))
  | array items =>
    have h := items.max_le_deepest (depth + 1) (']' :: rest)
    have hback := deepest_close (.inl (Eq.refl ']')) (Nat.le_refl (deepest .outside depth rest))
    have hdeep : depth + (items.levels + 1) = depth + 1 + items.levels := by omega
    refine deepest_open (.inl rfl) (le_trans ?_ h)
    rw [Tree.levels, hdeep]
    exact max_le_max_left _ hback
  | object members =>
    have h := members.max_le_deepest (depth + 1) ('\x7d' :: rest)
    have hback := deepest_close (.inr (Eq.refl '\x7d')) (Nat.le_refl (deepest .outside depth rest))
    have hdeep : depth + (members.levels + 1) = depth + 1 + members.levels := by omega
    refine deepest_open (.inr rfl) (le_trans ?_ h)
    rw [Tree.levels, hdeep]
    exact max_le_max_left _ hback

theorem Items.max_le_deepest (items : Items) (depth : Nat) (rest : List Char) :
    max (depth + items.levels) (deepest .outside depth rest) ≤ deepest .outside depth (items.write rest) := by
  cases items with
  | last before item after =>
    have h := item.max_le_deepest depth (after.chars ++ rest)
    rw [deepest_gap] at h
    rw [Items.write, deepest_gap]
    exact h
  | more before item after more =>
    have hmore := more.max_le_deepest depth rest
    have h := item.max_le_deepest depth (after.chars ++ ',' :: more.write rest)
    rw [deepest_gap, deepest_cons_flat (by decide)] at h
    rw [Items.write, deepest_gap, Items.levels]
    omega

theorem Members.max_le_deepest (members : Members) (depth : Nat) (rest : List Char) :
    max (depth + members.levels) (deepest .outside depth rest) ≤
      deepest .outside depth (members.write rest) := by
  cases members with
  | last label before content after =>
    have h := content.max_le_deepest depth (after.chars ++ rest)
    rw [deepest_gap] at h
    rw [Members.write, deepest_label, deepest_gap]
    exact h
  | more label before content after more =>
    have hmore := more.max_le_deepest depth rest
    have h := content.max_le_deepest depth (after.chars ++ ',' :: more.write rest)
    rw [deepest_gap, deepest_cons_flat (by decide)] at h
    rw [Members.write, deepest_label, deepest_gap, Members.levels]
    omega

end

/-! ### Texts that are nested too deeply -/

section TooDeep

variable {reader : List Char → Reading Value} {turns k : Nat} {cs : List Char}

theorem readString_ne_tooDeep (start read cs : List Char) : readString start read cs ≠ .error .tooDeep := by
  fun_induction readString start read cs <;> simp_all

theorem readNumber_ne_tooDeep (cs : List Char) : readNumber cs ≠ .error .tooDeep := by
  have hmagnitude {negative : Bool} {cs : List Char} : readMagnitude? negative cs ≠ some (.error .tooDeep) := by
    intro h
    obtain ⟨⟨whole, after⟩, -, hread⟩ := Option.map_eq_some_iff.mp h
    dsimp only at hread
    split at hread
    · cases hread
    · split at hread
      · split at hread <;> cases hread
      · cases hread
  intro h
  unfold readNumber at h
  dsimp only at h
  split at h
  · cases h
  · next fault hfound =>
    cases h
    split at hfound
    · exact hmagnitude hfound
    · exact hmagnitude hfound
  · cases h

/-- A reader that gives up on the depth of a text has gone `k` levels down in it. -/
def GivesUpAt (reader : List Char → Reading Value) (k : Nat) : Prop :=
  ∀ {cs}, reader cs = .error .tooDeep → ∀ depth, depth + k ≤ deepest .outside depth cs

/-- Behind a value that has been read the text is as deep as in front of it, and deeper places come later. -/
theorem deepest_le_of_read (hreader : ReadsTrees reader) {v : Value} {rest : List Char}
    (h : reader cs = .ok (v, rest)) (depth : Nat) :
    deepest .outside depth (skip rest) ≤ deepest .outside depth cs := by
  obtain ⟨t, rfl, -⟩ := hreader h
  rw [deepest_skip]
  exact le_trans (le_max_right _ _) (t.max_le_deepest depth rest)

theorem le_deepest_of_readItems (hreader : ReadsTrees reader) (hdeep : GivesUpAt reader k) {read : List Value}
    (h : readItems reader turns read cs = .error .tooDeep) (depth : Nat) :
    depth + k ≤ deepest .outside depth cs := by
  induction turns generalizing read cs with
  | zero => cases h
  | succ turns ih =>
    unfold readItems at h
    split at h
    · next fault hitem =>
      cases h
      exact hdeep hitem depth
    · next v after hitem =>
      have hle := deepest_le_of_read hreader hitem depth
      split at h
      · next more hskip =>
        rw [hskip, deepest_cons_flat (by decide), ← deepest_skip] at hle
        exact le_trans (ih h) hle
      · cases h
      · cases h

theorem le_deepest_of_readFields (hreader : ReadsTrees reader) (hdeep : GivesUpAt reader k) {read : Fields}
    (h : readFields reader turns read cs = .error .tooDeep) (depth : Nat) :
    depth + k ≤ deepest .outside depth cs := by
  induction turns generalizing read cs with
  | zero => cases h
  | succ turns ih =>
    unfold readFields at h
    split at h
    · next more hturns =>
      obtain rfl := Nat.succ.inj hturns
      split at h
      · next fault hname =>
        cases h
        exact absurd hname (readString_ne_tooDeep _ _ _)
      · next name afterName hname =>
        obtain ⟨pieces, hpieces, -⟩ := exists_pieces_of_readString hname
        split at h
        · next text hcolon =>
          -- the name and the colon nest nothing, so the content is as deep as the whole
          have hlabel : deepest .outside depth (skip text) = deepest .outside depth ('"' :: more) := by
            have hopen : deepest .outside depth (writePieces pieces afterName) = deepest .outside depth afterName :=
              deepest_pieces pieces
            rw [writePieces, hpieces] at hopen
            rw [hopen, ← deepest_skip afterName, hcolon, deepest_cons_flat (by decide), deepest_skip]
          rw [← hlabel]
          split at h
          · next fault hcontent =>
            cases h
            exact hdeep hcontent depth
          · next v afterContent hcontent =>
            have hle := deepest_le_of_read hreader hcontent depth
            dsimp only at h
            split at h
            · next rest hskip =>
              rw [hskip, deepest_cons_flat (by decide), ← deepest_skip] at hle
              exact le_trans (ih h) hle
            · cases h
            · cases h
        · cases h
    · cases h

theorem givesUpAt_readWith {inner : Option (List Char → Reading Value)}
    (hreader : ∀ reader, inner = some reader → ReadsTrees reader)
    (hdeep : ∀ reader, inner = some reader → GivesUpAt reader k) (hnone : inner = none → k = 0) :
    GivesUpAt (readWith .strict turns inner) (k + 1) := by
  intro cs h depth
  -- at the last level the bracket is what is too deep; before that it is something inside
  have hlast (c : Char) (hc : c = '[' ∨ c = '\x7b') (hinner : inner = none) (rest : List Char) :
      depth + (k + 1) ≤ deepest .outside depth (c :: rest) := by
    rw [hnone hinner]
    exact deepest_open hc (le_deepest _ _ _)
  have hmore (c : Char) (hc : c = '[' ∨ c = '\x7b') {rest : List Char}
      (hrest : depth + 1 + k ≤ deepest .outside (depth + 1) (skip rest)) :
      depth + (k + 1) ≤ deepest .outside depth (c :: rest) := by
    rw [deepest_skip] at hrest
    exact deepest_open hc (by omega)
  unfold readWith at h
  split at h
  · split at h
    · next fault hstring =>
      cases h
      exact absurd hstring (readString_ne_tooDeep _ _ _)
    · cases h
  · split at h
    · exact hlast '[' (.inl rfl) rfl _
    · next item =>
      unfold readArray at h
      split at h
      · cases h
      · split at h
        · next fault hitems =>
          cases h
          exact hmore '[' (.inl rfl) (le_deepest_of_readItems (hreader _ rfl) (hdeep _ rfl) hitems (depth + 1))
        · cases h
  · split at h
    · exact hlast '\x7b' (.inr rfl) rfl _
    · next content =>
      unfold readObject at h
      split at h
      · cases h
      · split at h
        · next fault hfields =>
          cases h
          exact hmore '\x7b' (.inr rfl) (le_deepest_of_readFields (hreader _ rfl) (hdeep _ rfl) hfields (depth + 1))
        · cases h
  · cases h
  · cases h
  · cases h
  · cases h
  · cases h
  · cases h
  · exact absurd h (readNumber_ne_tooDeep _)

theorem givesUpAt_readValue (levels : Nat) : GivesUpAt (readValue .strict turns levels) (levels + 1) := by
  induction levels with
  | zero =>
    refine givesUpAt_readWith ?_ ?_ fun _ => rfl
    · exact fun _ hnone => by cases hnone
    · exact fun _ hnone => by cases hnone
  | succ levels ih =>
    refine givesUpAt_readWith ?_ ?_ fun hnone => by cases hnone
    · rintro _ hsome
      cases hsome
      exact exists_tree_of_readValue
    · rintro _ hsome
      cases hsome
      exact ih

end TooDeep

/-- **A text is refused as nested too deeply only if it is.** -/
theorem lt_nesting_of_tooDeep {cs : List Char} (h : readChars .strict cs = .error .tooDeep) :
    nestingLimit < nesting cs := by
  unfold readChars at h
  split at h
  · cases h
  · split at h
    · next fault hvalue =>
      cases h
      have hdeep := givesUpAt_readValue nestingLimit hvalue 0
      rw [deepest_skip, Nat.zero_add] at hdeep
      exact hdeep
    · split at h <;> cases h

end Json

end ToolWeave
