import ToolWeave.Failure
import ToolWeave.Proofs.Flaws

/-!
# Documents are what is read

A text from outside is read if it is a document, and it is refused as invalid input otherwise
(`Json.parse_iff_document`).  What is read is the value that the document denotes.
-/

namespace ToolWeave

namespace Json

/-! ### Trees denote values -/

theorem Paired.append {first second : List (List Piece)} (h : Paired (first ++ second)) :
    Paired first ∧ Paired second :=
  ⟨fun pieces hmem => h pieces (List.mem_append_left _ hmem),
    fun pieces hmem => h pieces (List.mem_append_right _ hmem)⟩

mutual

/-- A tree denotes a value if its strings spell characters. -/
theorem Tree.exists_denotes (t : Tree) (h : Paired t.strings) : ∃ v, t.Denotes v := by
  cases t with
  | null => exact ⟨_, .null⟩
  | bool b => exact ⟨_, .bool b⟩
  | number n => exact ⟨_, .number (Numeral.denotes_iff.mpr rfl)⟩
  | string pieces =>
    obtain ⟨cs, hcs⟩ := h pieces List.mem_cons_self
    exact ⟨_, .string hcs⟩
  | emptyArray inside => exact ⟨_, .emptyArray inside⟩
  | emptyObject inside => exact ⟨_, .emptyObject inside⟩
  | array items =>
    obtain ⟨values, hvalues⟩ := items.exists_denotes h
    exact ⟨_, .array hvalues⟩
  | object members =>
    obtain ⟨given, hgiven⟩ := members.exists_denotes h
    exact ⟨_, .object hgiven⟩

theorem Items.exists_denotes (items : Items) (h : Paired items.strings) : ∃ values, items.Denotes values := by
  cases items with
  | last before item after =>
    obtain ⟨v, hv⟩ := item.exists_denotes h
    exact ⟨_, .last hv⟩
  | more before item after more =>
    obtain ⟨hitem, hmore⟩ := Paired.append h
    obtain ⟨v, hv⟩ := item.exists_denotes hitem
    obtain ⟨values, hvalues⟩ := more.exists_denotes hmore
    exact ⟨_, .more hv hvalues⟩

theorem Members.exists_denotes (members : Members) (h : Paired members.strings) :
    ∃ given, members.Denotes given := by
  cases members with
  | last label before content after =>
    obtain ⟨⟨cs, hcs⟩, hcontent⟩ := List.forall_mem_cons.mp h
    obtain ⟨v, hv⟩ := content.exists_denotes hcontent
    exact ⟨_, .last hcs hv⟩
  | more label before content after more =>
    obtain ⟨⟨cs, hcs⟩, hrest⟩ := List.forall_mem_cons.mp h
    obtain ⟨hcontent, hmore⟩ := Paired.append hrest
    obtain ⟨v, hv⟩ := content.exists_denotes hcontent
    obtain ⟨given, hgiven⟩ := more.exists_denotes hmore
    exact ⟨_, .more hcs hv hgiven⟩

end

/-! ### Whole texts -/

theorem stopsNumber_chars (gap : Gap) : StopsNumber gap.chars := by
  rw [← List.append_nil gap.chars]
  exact StopsNumber.append gap.allSpace nofun

/-- A document has no more levels than its text is nested. -/
theorem Document.levels_le_nesting (d : Document) : d.tree.levels ≤ nesting d.text := by
  have h := d.tree.max_le_deepest 0 d.after.chars
  rw [Nat.zero_add] at h
  unfold nesting Document.text
  rw [deepest_gap]
  exact le_trans (le_max_left _ _) h

/-- **A document is read as the value of its tree.** -/
theorem Document.readChars_text (d : Document) (hshort : d.ShortIntegers)
    (hdepth : nesting d.text ≤ nestingLimit) : readChars .strict d.text = .ok d.tree.value := by
  have hlength : (d.tree.write d.after.chars).length ≤ d.text.length := by
    rw [Document.text, List.length_append]
    exact Nat.le_add_left _ _
  have hread : readValue .strict d.text.length nestingLimit (d.tree.write d.after.chars) =
      .ok (d.tree.value, d.after.chars) :=
    d.tree.readValue_write hshort (le_trans d.levels_le_nesting hdepth) (stopsNumber_chars d.after) hlength
  have hskip : skip d.text = d.tree.write d.after.chars := by
    rw [Document.text, skip_append d.before.allSpace, skip_of_readValue hread]
  have hend : skip d.after.chars = [] := by
    rw [← List.append_nil d.after.chars, skip_append d.after.allSpace]
    rfl
  unfold readChars
  split
  · next rest heq => exact absurd heq ((Flawed.byteOrderMark rest).text_ne d)
  · rw [hskip, hread]
    dsimp only
    rw [hend]

/-- **What is read is the value of a document.** -/
theorem exists_document_of_readChars {cs : List Char} {v : Value} (h : readChars .strict cs = .ok v) :
    ∃ d : Document, d.text = cs ∧ v = d.tree.value := by
  obtain ⟨before, hbefore⟩ := exists_gap cs
  unfold readChars at h
  split at h
  · cases h
  · split at h
    · cases h
    · next w rest hvalue =>
      obtain ⟨tree, htree, rfl⟩ := exists_tree_of_readValue hvalue
      obtain ⟨after, hafter⟩ := exists_gap rest
      split at h
      · next hskip =>
        rw [hskip, List.append_nil] at hafter
        subst hafter
        cases h
        refine ⟨⟨before, tree, after⟩, ?_, rfl⟩
        rw [Document.text, htree, hbefore]
      · cases h

/-! ### Texts from outside -/

/-- A text is refused as invalid input, with a description. -/
def Refused (text : String) : Prop :=
  ∃ description, Value.parse text =
    .error (.invalidInput "invalid JSON" [("description", .string description)])

theorem parse_of_readText {text : String} {v : Value} (h : readText .strict text = .ok v) :
    Value.parse text = .ok v := by
  unfold Value.parse
  rw [h]

theorem readText_of_parse {text : String} {v : Value} (h : Value.parse text = .ok v) :
    readText .strict text = .ok v := by
  unfold Value.parse at h
  split at h
  · next w hread =>
    cases h
    exact hread
  · cases h
  · cases h

/-- What is no document is refused, unless it is nested too deeply. -/
theorem refused_of_not_document {text : String} (hdepth : nesting text.toList ≤ nestingLimit)
    (h : ¬ ∃ d : Document, d.text = text.toList) : Refused text := by
  unfold Refused Value.parse
  split
  · next v hread =>
    obtain ⟨d, hd, -⟩ := exists_document_of_readChars hread
    exact absurd ⟨d, hd⟩ h
  · next hread => exact absurd (lt_nesting_of_tooDeep hread) (Nat.not_lt.mpr hdepth)
  · exact ⟨_, rfl⟩

/-- **Documents are read, and nothing else is.**  A text that is nested at most a thousand levels deep is read
if it is a document without too long integers and without halves of surrogate pairs, as the value that the
document denotes; it is read only if it is a document.  What is no document is refused as invalid input, in
particular everything with a flaw.  The fields of what is read have different names. -/
theorem parse_iff_document (text : String) (hdepth : nesting text.toList ≤ 1000) :
    (∀ d : Document, d.text = text.toList → d.ShortIntegers → d.Paired →
      (∃ v, Value.parse text = .ok v) ∧ ∀ v, Value.parse text = .ok v ↔ d.tree.Denotes v) ∧
    (∀ v, Value.parse text = .ok v → v.distinctNames = true ∧ ∃ d : Document, d.text = text.toList) ∧
    ((¬ ∃ d : Document, d.text = text.toList) → Refused text) ∧
    (Flawed text.toList → Refused text) := by
  have hlimit : nesting text.toList ≤ nestingLimit := le_trans hdepth (by decide)
  refine ⟨?_, ?_, refused_of_not_document hlimit, ?_⟩
  · intro d htext hshort hpaired
    rw [← htext] at hlimit
    have hread : Value.parse text = .ok d.tree.value := by
      refine parse_of_readText ?_
      unfold readText
      rw [← htext]
      exact d.readChars_text hshort hlimit
    obtain ⟨v, hv⟩ := d.tree.exists_denotes hpaired
    refine ⟨⟨_, hread⟩, fun w => ⟨fun hw => ?_, fun hw => ?_⟩⟩
    · obtain rfl : d.tree.value = w := Except.ok.inj (hread.symm.trans hw)
      rw [← hv.eq_value]
      exact hv
    · rw [hw.eq_value]
      exact hread
  · intro v hv
    have hread := readText_of_parse hv
    obtain ⟨d, hd, -⟩ := exists_document_of_readChars hread
    exact ⟨(legible_of_readChars hread).distinctNames, d, hd⟩
  · intro hflaw
    refine refused_of_not_document hlimit ?_
    rintro ⟨d, hd⟩
    exact hflaw.text_ne d hd

/-- Minus zero as an integer, and a double with a fraction and an exponent. -/
def sampleItems : Items :=
  .more .none (.number ⟨true, ⟨['0'], by simp, by simp⟩, none, none, by decide⟩) .none
    (.last .none (.number ⟨false, ⟨['1'], by simp, by simp⟩, some ⟨['5'], by simp, by simp⟩,
      some ⟨'e', .plus, ⟨['3'], by simp, by simp⟩, .inl rfl⟩, by decide⟩) .none)

/-- A pair of escapes and an escape of one letter. -/
def samplePieces : List Piece :=
  [.unit ⟨13, false⟩ ⟨8, false⟩ ⟨3, false⟩ ⟨13, true⟩, .unit ⟨13, false⟩ ⟨14, false⟩ ⟨0, false⟩ ⟨0, false⟩,
    .escape .lineFeed]

/-- A name that is given twice. -/
def sampleLabel : Label := ⟨.none, [.plain 'k' (by decide)], .none⟩

/-- An object with the items and then the pieces under one name, and space around it. -/
def sampleDocument : Document where
  before := ⟨['\t'], by simp⟩
  tree := .object (.more sampleLabel ⟨[' '], by simp⟩ (.array sampleItems) .none
    (.last sampleLabel .none (.string samplePieces) .none))
  after := ⟨[' '], by simp⟩

/-- The text of the sample document. -/
def sampleText : String := "\t\x7b\"k\": [-0,1.5e+3],\"k\":\"\\ud83D\\ude00\\n\"\x7d "

theorem text_sampleDocument : sampleDocument.text = sampleText.toList := by decide +kernel

theorem spells_sampleLabel : Spells sampleLabel.name ['k'] := .plain .nil

theorem spells_samplePieces : Spells samplePieces ['😀', '\n'] :=
  .pair (by decide) (by decide) (by decide) (by decide) (by decide) (.escape .nil)

theorem paired_sampleDocument : sampleDocument.Paired := by
  intro pieces hpieces
  have hstrings : sampleDocument.tree.strings =
      [sampleLabel.name, sampleLabel.name, samplePieces] := rfl
  rw [hstrings] at hpieces
  simp only [List.mem_cons, List.not_mem_nil, or_false] at hpieces
  rcases hpieces with rfl | rfl | rfl
  · exact ⟨_, spells_sampleLabel⟩
  · exact ⟨_, spells_sampleLabel⟩
  · exact ⟨_, spells_samplePieces⟩

theorem shortIntegers_sampleDocument : sampleDocument.ShortIntegers := by
  have hnumerals : ∀ n ∈ sampleDocument.tree.numerals, n.whole.chars.length ≤ 4300 := by decide
  exact fun n hn _ => hnumerals n hn

theorem denotes_sampleDocument : sampleDocument.tree.Denotes (.object [("k", .string "😀\n")]) := by
  have hitems : Items.Denotes sampleItems _ := .more (.number (Numeral.denotes_iff.mpr rfl))
    (.last (.number (Numeral.denotes_iff.mpr rfl)))
  exact .object (.more spells_sampleLabel (.array hitems)
    (.last spells_sampleLabel (.string spells_samplePieces)))

/-- The theorem at a text with space, both kinds of numbers, a name that comes twice and a surrogate pair. -/
theorem parse_iff_document_sample :
    nesting sampleText.toList ≤ 1000 ∧ sampleDocument.text = sampleText.toList ∧
      sampleDocument.ShortIntegers ∧ sampleDocument.Paired ∧
      Value.parse sampleText = .ok (.object [("k", .string "😀\n")]) := by
  have hdepth : nesting sampleText.toList ≤ 1000 := by decide +kernel
  refine ⟨hdepth, text_sampleDocument, shortIntegers_sampleDocument, paired_sampleDocument, ?_⟩
  exact (((parse_iff_document sampleText hdepth).1 sampleDocument text_sampleDocument shortIntegers_sampleDocument
    paired_sampleDocument).2 _).mpr denotes_sampleDocument

end Json

end ToolWeave
