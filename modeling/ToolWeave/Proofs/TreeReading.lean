import Mathlib.Data.List.Induction
import ToolWeave.Proofs.NumeralReading
import ToolWeave.Proofs.RoundTrip
import ToolWeave.Proofs.StringReading

/-!
# Syntax trees are what is read as values

The text of a tree is read as the value of the tree, whatever comes after it (`Json.Tree.readValue_write`),
and whatever is read is the value of a tree that was there (`Json.exists_tree_of_readValue`).  The first half
is by recursion on the tree; the second is by induction on the levels that are left, with a loop for the
items of an array and one for the members of an object.

## Main definitions

* `Json.Tree.value`: the value of a tree.

## Design notes

**Two kinds of values.**  What a tree denotes is a relation, which leaves out the trees that denote nothing.
What it is read as is a function on all trees, and the two agree (`Json.Tree.Denotes.eq_value`).
-/

namespace ToolWeave

/-! ### Repeated names -/

namespace Entries

variable {α : Type} {given : Entries α}

/-- Entries with different names are what their names lead to. -/
theorem eq_filterMap_names {entries : Entries α} (h : (names entries).Nodup) :
    entries = (names entries).filterMap fun name => (get? name entries).map fun content => (name, content) := by
  induction entries with
  | nil => rfl
  | cons entry rest ih =>
    obtain ⟨key, content⟩ := entry
    obtain ⟨hkey, hrest⟩ := List.nodup_cons.mp h
    have hfirst : (get? key ((key, content) :: rest)).map (fun content => (key, content)) = some (key, content) := by
      rw [get?_cons, if_pos rfl]
      rfl
    have hsame : ∀ name ∈ names rest, (get? name ((key, content) :: rest)).map (fun content => (name, content)) =
        (get? name rest).map fun content => (name, content) := by
      intro name hname
      have hne : key ≠ name := fun heq => hkey (heq ▸ hname)
      rw [get?_cons, if_neg hne]
    show (key, content) :: rest = (key :: names rest).filterMap _
    rw [List.filterMap_cons, hfirst, List.filterMap_congr hsame, ← ih hrest]

theorem ofList_concat (given : Entries α) (entry : String × α) :
    ofList (given ++ [entry]) = put entry.1 entry.2 (ofList given) := by
  unfold ofList
  rw [List.foldl_append]
  rfl

/-- A name has the place where it came first. -/
theorem names_ofList (given : Entries α) : names (ofList given) = (names given).eraseDups := by
  induction given using List.reverseRecOn with
  | nil => rfl
  | append_singleton given entry ih =>
    have happend : names (given ++ [entry]) = names given ++ [entry.1] := List.map_append
    rw [ofList_concat, happend, List.eraseDups_append, ← ih]
    by_cases hname : entry.1 ∈ names (ofList given)
    · have hbefore : entry.1 ∈ names given := by
        rw [ih, List.mem_eraseDups] at hname
        exact hname
      rw [names_put_of_mem hname]
      simp [List.removeAll, hbefore]
    · have hbefore : entry.1 ∉ names given := by
        rw [ih, List.mem_eraseDups] at hname
        exact hname
      have hlast : names (ofList given ++ [(entry.1, entry.2)]) = names (ofList given) ++ [entry.1] := List.map_append
      rw [put_of_not_mem hname, hlast]
      simp [List.removeAll, hbefore, List.eraseDups_cons]

/-- A name has the content that came last. -/
theorem get?_ofList (name : String) (given : Entries α) : get? name (ofList given) = get? name given.reverse := by
  induction given using List.reverseRecOn with
  | nil => rfl
  | append_singleton given entry ih =>
    obtain ⟨key, content⟩ := entry
    rw [ofList_concat, List.reverse_append, List.reverse_singleton, List.singleton_append, get?_cons]
    by_cases hkey : key = name
    · rw [if_pos hkey, hkey, get?_put_self]
    · rw [if_neg hkey, get?_put_of_ne hkey, ih]

theorem nodup_ofList (given : Entries α) : (names (ofList given)).Nodup := by
  induction given using List.reverseRecOn with
  | nil => exact List.nodup_nil
  | append_singleton given entry ih =>
    rw [ofList_concat]
    exact nodup_put entry.1 entry.2 ih

/-- Putting entries one after the other settles them. -/
theorem ofList_eq_settled (given : Entries α) : ofList given = settled given := by
  rw [eq_filterMap_names (nodup_ofList given), names_ofList]
  unfold settled
  simp only [get?_ofList]

end Entries

namespace Json

/-! ### Values of trees -/

mutual

/-- The value of a tree. -/
def Tree.value : Tree → Value
  | .null => .null
  | .bool b => .bool b
  | .number n => .number n.number
  | .string pieces => .string (String.ofList (spelled pieces))
  | .emptyArray _ => .array []
  | .array items => .array items.values
  | .emptyObject _ => .object []
  | .object members => .object (Entries.settled members.given)

/-- The values of items. -/
def Items.values : Items → List Value
  | .last _ item _ => [item.value]
  | .more _ item _ rest => item.value :: rest.values

/-- The names and values of members, with those that come again. -/
def Members.given : Members → Fields
  | .last label _ content _ => [(String.ofList (spelled label.name), content.value)]
  | .more label _ content _ rest => (String.ofList (spelled label.name), content.value) :: rest.given

end

mutual

/-- A tree that denotes a value is read as this value. -/
theorem Tree.Denotes.eq_value (t : Tree) {v : Value} (h : t.Denotes v) : v = t.value := by
  cases t with
  | null =>
    cases h
    rfl
  | bool b =>
    cases h
    rfl
  | number n =>
    cases h with
    | number hn => rw [Tree.value, Numeral.denotes_iff.mp hn]
  | string pieces =>
    cases h with
    | string hcs => rw [Tree.value, hcs.eq_spelled]
  | emptyArray inside =>
    cases h
    rfl
  | emptyObject inside =>
    cases h
    rfl
  | array items =>
    cases h with
    | array hitems => rw [Tree.value, hitems.eq_values items]
  | object members =>
    cases h with
    | object hmembers => rw [Tree.value, hmembers.eq_given members]

theorem Items.Denotes.eq_values (items : Items) {values : List Value} (h : items.Denotes values) :
    values = items.values := by
  cases items with
  | last before item after =>
    cases h with
    | last hitem => rw [Items.values, hitem.eq_value item]
  | more before item after more =>
    cases h with
    | more hitem hmore => rw [Items.values, hitem.eq_value item, hmore.eq_values more]

theorem Members.Denotes.eq_given (members : Members) {given : Fields} (h : members.Denotes given) :
    given = members.given := by
  cases members with
  | last label before content after =>
    cases h with
    | last hname hcontent => rw [Members.given, hname.eq_spelled, hcontent.eq_value content]
  | more label before content after more =>
    cases h with
    | more hname hcontent hmore =>
      rw [Members.given, hname.eq_spelled, hcontent.eq_value content, hmore.eq_given more]

end

/-! ### What follows a value -/

theorem Gap.allSpace (gap : Gap) : AllSpace gap.chars := by
  intro c hc
  rw [isSpace_iff]
  have hblank := gap.blank c hc
  tauto

theorem stopsNumber_gap (gap : Gap) {c : Char} {rest : List Char} (hc : c = ',' ∨ c = ']' ∨ c = '\x7d') :
    StopsNumber (gap.chars ++ c :: rest) := by
  refine StopsNumber.append gap.allSpace fun first hfirst => ?_
  cases hfirst
  rcases hc with rfl | rfl | rfl <;> decide

theorem skip_gap (gap : Gap) {c : Char} {rest : List Char} (hc : isSpace c = false) :
    skip (gap.chars ++ c :: rest) = c :: rest := by
  rw [skip_append gap.allSpace, skip_of_not_space hc]

theorem length_le_pieces (pieces : List Piece) (rest : List Char) :
    rest.length ≤ (pieces.foldr Piece.write rest).length := by
  induction pieces with
  | nil => exact Nat.le_refl _
  | cons piece pieces ih =>
    cases piece <;> simp only [List.foldr_cons, Piece.write, List.length_cons] <;> omega

theorem Numeral.length_le_write (n : Numeral) (rest : List Char) : rest.length ≤ (n.write rest).length := by
  unfold Numeral.write Numeral.writeMagnitude Numeral.writeFraction Numeral.writeExponent
  cases n.fraction <;> cases n.exponent <;> cases n.negative <;> simp <;> omega

theorem Label.length_lt_write (label : Label) (rest : List Char) : rest.length < (label.write rest).length := by
  have h := length_le_pieces label.name ('"' :: (label.after.chars ++ ':' :: rest))
  simp only [Label.write, writePieces, List.length_append, List.length_cons] at h ⊢
  omega

/-- Behind the space in front of it a label starts with a quote. -/
theorem Label.skip_write (label : Label) (rest : List Char) : ∃ text, skip (label.write rest) = '"' :: text :=
  ⟨_, skip_gap label.before rfl⟩

mutual

/-- The text of a value is put in front of what follows. -/
theorem Tree.length_le_write : ∀ (t : Tree) (rest : List Char), rest.length ≤ (t.write rest).length
  | .null, rest | .bool true, rest | .bool false, rest => by
    simp only [Tree.write, List.length_cons]
    omega
  | .number n, rest => n.length_le_write rest
  | .string pieces, rest => by
    have h := length_le_pieces pieces ('"' :: rest)
    simp only [Tree.write, writePieces, List.length_cons] at h ⊢
    omega
  | .emptyArray inside, rest | .emptyObject inside, rest => by
    simp only [Tree.write, List.length_cons, List.length_append]
    omega
  | .array items, rest => by
    have h := items.length_le_write (']' :: rest)
    simp only [Tree.write, List.length_cons] at h ⊢
    omega
  | .object members, rest => by
    have h := members.length_le_write ('\x7d' :: rest)
    simp only [Tree.write, List.length_cons] at h ⊢
    omega

theorem Items.length_le_write : ∀ (items : Items) (rest : List Char), rest.length ≤ (items.write rest).length
  | .last before item after, rest => by
    have h := item.length_le_write (after.chars ++ rest)
    simp only [Items.write, List.length_append] at h ⊢
    omega
  | .more before item after more, rest => by
    have hmore := more.length_le_write rest
    have h := item.length_le_write (after.chars ++ ',' :: more.write rest)
    simp only [Items.write, List.length_append, List.length_cons] at h ⊢
    omega

theorem Members.length_le_write : ∀ (members : Members) (rest : List Char),
    rest.length ≤ (members.write rest).length
  | .last label before content after, rest => by
    have h := content.length_le_write (after.chars ++ rest)
    have hlabel := label.length_lt_write (before.chars ++ content.write (after.chars ++ rest))
    simp only [Members.write, List.length_append] at h hlabel ⊢
    omega
  | .more label before content after more, rest => by
    have hmore := more.length_le_write rest
    have h := content.length_le_write (after.chars ++ ',' :: more.write rest)
    have hlabel := label.length_lt_write (before.chars ++ content.write (after.chars ++ ',' :: more.write rest))
    simp only [Members.write, List.length_append, List.length_cons] at h hlabel ⊢
    omega

end

/-! ### Trees are read -/

/-- No value starts with space. -/
theorem skip_of_readValue {dialect : Dialect} {turns levels : Nat} {cs rest : List Char} {v : Value}
    (h : readValue dialect turns levels cs = .ok (v, rest)) : skip cs = cs := by
  obtain ⟨inner, hreader⟩ := readValue_eq dialect turns levels
  rw [hreader] at h
  exact (start_of_readWith h).1

theorem ShortIntegers.append {first second : List Numeral} (h : ShortIntegers (first ++ second)) :
    ShortIntegers first ∧ ShortIntegers second :=
  ⟨fun n hn => h n (List.mem_append_left _ hn), fun n hn => h n (List.mem_append_right _ hn)⟩

section Reading

variable {dialect : Dialect}

/-- A label and the content behind it are read in one turn. -/
theorem readFields_label {reader : List Char → Reading Value} {label : Label} {text after : List Char}
    {read : Fields} {v : Value} {left : Nat} (hread : reader (skip text) = .ok (v, after)) :
    readFields reader (left + 1) read (skip (label.write text)) =
      match skip after with
      | ',' :: rest =>
        readFields reader left (Entries.put (String.ofList (spelled label.name)) v read) (skip rest)
      | '\x7d' :: rest => .ok (Entries.put (String.ofList (spelled label.name)) v read, rest)
      | rest => .error (.at .comma rest.length) := by
  have hcolon : skip (label.after.chars ++ ':' :: text) = ':' :: text := skip_gap label.after rfl
  have hturn := readFields.eq_1 reader read left
    (label.name.foldr Piece.write ('"' :: (label.after.chars ++ ':' :: text)))
  simp only [readString_pieces, hcolon, List.reverse_nil, List.nil_append, hread] at hturn
  unfold Label.write writePieces
  rw [skip_gap label.before rfl]
  exact hturn

mutual

/-- **The text of a tree is read as the value of the tree.** -/
theorem Tree.readValue_write (t : Tree) (hshort : ShortIntegers t.numerals) {turns levels : Nat}
    (hlevels : t.levels ≤ levels) {rest : List Char} (hrest : StopsNumber rest)
    (hturns : (t.write rest).length ≤ turns) :
    readValue dialect turns levels (t.write rest) = .ok (t.value, rest) := by
  -- with as many turns as characters every loop has one turn left for each item and member
  obtain ⟨inner, hreader⟩ := readValue_eq dialect turns levels
  cases t with
  | null =>
    rw [hreader]
    rfl
  | bool b =>
    rw [hreader]
    cases b <;> rfl
  | number n =>
    rw [hreader]
    exact n.readWith_write (hshort n List.mem_cons_self) hrest
  | string pieces =>
    rw [hreader, Tree.write, writePieces, readWith, readString_pieces]
    rfl
  | emptyArray inside =>
    cases levels with
    | zero => exact absurd hlevels (Nat.not_succ_le_zero _)
    | succ levels =>
      rw [Tree.write, readValue, readWith, readArray, skip_gap inside rfl]
      rfl
  | emptyObject inside =>
    cases levels with
    | zero => exact absurd hlevels (Nat.not_succ_le_zero _)
    | succ levels =>
      rw [Tree.write, readValue, readWith, readObject, skip_gap inside rfl]
      rfl
  | array items =>
    simp only [Tree.write, List.length_cons] at hturns
    cases levels with
    | zero => exact absurd hlevels (Nat.not_succ_le_zero _)
    | succ levels =>
      obtain ⟨hend, hread⟩ := items.readItems_write hshort (Nat.le_of_succ_le_succ hlevels)
        (Nat.le_of_succ_le hturns) (Nat.le_of_succ_le hturns) []
      exact readArray_of_items rfl hend hread
  | object members =>
    simp only [Tree.write, List.length_cons] at hturns
    cases levels with
    | zero => exact absurd hlevels (Nat.not_succ_le_zero _)
    | succ levels =>
      -- the fields are put into a map one by one, which settles those that come again
      obtain ⟨⟨text, htext⟩, hread⟩ := members.readFields_write hshort (Nat.le_of_succ_le_succ hlevels)
        (Nat.le_of_succ_le hturns) (Nat.le_of_succ_le hturns) []
      rw [htext] at hread
      rw [Tree.value, ← Entries.ofList_eq_settled]
      exact readObject_of_fields htext hread

theorem Items.readItems_write (items : Items) (hshort : ShortIntegers items.numerals) {turns levels : Nat}
    (hlevels : items.levels ≤ levels) {left : Nat} {rest : List Char}
    (hturns : (items.write (']' :: rest)).length ≤ turns)
    (hleft : (items.write (']' :: rest)).length ≤ left) (read : List Value) :
    (∀ more, skip (items.write (']' :: rest)) ≠ ']' :: more) ∧
      readItems (readValue dialect turns levels) left read (skip (items.write (']' :: rest))) =
        .ok (read.reverse ++ items.values, rest) := by
  cases items with
  | last before item after =>
    have hlength := item.length_le_write (after.chars ++ ']' :: rest)
    simp only [Items.write, List.length_append, List.length_cons] at hturns hleft hlength ⊢
    have hread := item.readValue_write hshort hlevels (stopsNumber_gap after (.inr (.inl (Eq.refl ']'))))
      (le_of_add_le_right hturns)
    have hskip : skip (before.chars ++ item.write (after.chars ++ ']' :: rest)) =
        item.write (after.chars ++ ']' :: rest) := by
      rw [skip_append before.allSpace, skip_of_readValue hread]
    have hend : skip (after.chars ++ ']' :: rest) = ']' :: rest := skip_gap after rfl
    rw [hskip]
    refine ⟨not_end_of_readValue hread, ?_⟩
    cases left with
    | zero => omega
    | succ left => simp only [readItems, hread, hend, List.reverse_cons, Items.values]
  | more before item after more =>
    obtain ⟨hshortItem, hshortMore⟩ := ShortIntegers.append hshort
    obtain ⟨hlevelsItem, hlevelsMore⟩ := Nat.max_le.mp hlevels
    have hlength := item.length_le_write (after.chars ++ ',' :: more.write (']' :: rest))
    simp only [Items.write, List.length_append, List.length_cons] at hturns hleft hlength ⊢
    have hread := item.readValue_write hshortItem hlevelsItem (stopsNumber_gap after (.inl (Eq.refl ',')))
      (le_of_add_le_right hturns)
    have hskip : skip (before.chars ++ item.write (after.chars ++ ',' :: more.write (']' :: rest))) =
        item.write (after.chars ++ ',' :: more.write (']' :: rest)) := by
      rw [skip_append before.allSpace, skip_of_readValue hread]
    have hcomma : skip (after.chars ++ ',' :: more.write (']' :: rest)) = ',' :: more.write (']' :: rest) :=
      skip_gap after rfl
    rw [hskip]
    refine ⟨not_end_of_readValue hread, ?_⟩
    cases left with
    | zero => omega
    | succ left =>
      have hfits : (more.write (']' :: rest)).length ≤ turns ∧ (more.write (']' :: rest)).length ≤ left := by
        omega
      have hrest := (more.readItems_write hshortMore hlevelsMore hfits.1 hfits.2 (item.value :: read)).2
      rw [List.reverse_cons, List.append_assoc, List.singleton_append] at hrest
      simp only [readItems, hread, hcomma, hrest, Items.values]

theorem Members.readFields_write (members : Members) (hshort : ShortIntegers members.numerals) {turns levels : Nat}
    (hlevels : members.levels ≤ levels) {left : Nat} {rest : List Char}
    (hturns : (members.write ('\x7d' :: rest)).length ≤ turns)
    (hleft : (members.write ('\x7d' :: rest)).length ≤ left) (read : Fields) :
    (∃ text, skip (members.write ('\x7d' :: rest)) = '"' :: text) ∧
      readFields (readValue dialect turns levels) left read (skip (members.write ('\x7d' :: rest))) =
        .ok (members.given.foldl (fun map entry => Entries.put entry.1 entry.2 map) read, rest) := by
  cases members with
  | last label before content after =>
    have hlength := content.length_le_write (after.chars ++ '\x7d' :: rest)
    have hlabel := label.length_lt_write (before.chars ++ content.write (after.chars ++ '\x7d' :: rest))
    simp only [Members.write, List.length_append, List.length_cons] at hturns hleft hlength hlabel ⊢
    have hfits : (content.write (after.chars ++ '\x7d' :: rest)).length ≤ turns := by omega
    have hread := content.readValue_write hshort hlevels (stopsNumber_gap after (.inr (.inr (Eq.refl '\x7d')))) hfits
    have hskip : skip (before.chars ++ content.write (after.chars ++ '\x7d' :: rest)) =
        content.write (after.chars ++ '\x7d' :: rest) := by
      rw [skip_append before.allSpace, skip_of_readValue hread]
    have hend : skip (after.chars ++ '\x7d' :: rest) = '\x7d' :: rest := skip_gap after rfl
    refine ⟨label.skip_write _, ?_⟩
    cases left with
    | zero => omega
    | succ left =>
      rw [← hskip] at hread
      rw [readFields_label hread, hend]
      rfl
  | more label before content after more =>
    obtain ⟨hshortContent, hshortMore⟩ := ShortIntegers.append hshort
    obtain ⟨hlevelsContent, hlevelsMore⟩ := Nat.max_le.mp hlevels
    have hlength := content.length_le_write (after.chars ++ ',' :: more.write ('\x7d' :: rest))
    have hlabel := label.length_lt_write
      (before.chars ++ content.write (after.chars ++ ',' :: more.write ('\x7d' :: rest)))
    simp only [Members.write, List.length_append, List.length_cons] at hturns hleft hlength hlabel ⊢
    have hfits : (content.write (after.chars ++ ',' :: more.write ('\x7d' :: rest))).length ≤ turns := by omega
    have hread := content.readValue_write hshortContent hlevelsContent
      (stopsNumber_gap after (.inl (Eq.refl ','))) hfits
    have hskip : skip (before.chars ++ content.write (after.chars ++ ',' :: more.write ('\x7d' :: rest))) =
        content.write (after.chars ++ ',' :: more.write ('\x7d' :: rest)) := by
      rw [skip_append before.allSpace, skip_of_readValue hread]
    have hcomma : skip (after.chars ++ ',' :: more.write ('\x7d' :: rest)) = ',' :: more.write ('\x7d' :: rest) :=
      skip_gap after rfl
    refine ⟨label.skip_write _, ?_⟩
    cases left with
    | zero => omega
    | succ left =>
      rw [← hskip] at hread
      rw [readFields_label hread, hcomma]
      exact (more.readFields_write hshortMore hlevelsMore (by omega) (by omega) _).2

end

end Reading

/-! ### What is read is a tree -/

/-- What is in front of the first part of a text is a gap. -/
theorem exists_gap (cs : List Char) : ∃ gap : Gap, gap.chars ++ skip cs = cs := by
  refine ⟨⟨cs.takeWhile isSpace, fun c hc => ?_⟩, List.takeWhile_append_dropWhile⟩
  have hspace : isSpace c = true := List.all_eq_true.mp List.all_takeWhile c hc
  rw [isSpace_iff] at hspace
  tauto

/-- Whatever a reader gives is the value of a tree whose text was there. -/
def ReadsTrees (reader : List Char → Reading Value) : Prop :=
  ∀ {cs v rest}, reader cs = .ok (v, rest) → ∃ t : Tree, t.write rest = cs ∧ v = t.value

section Found

variable {reader : List Char → Reading Value} {turns : Nat} {cs rest : List Char} {v : Value}

theorem exists_items_of_readItems (hreader : ReadsTrees reader) {read values : List Value}
    (h : readItems reader turns read cs = .ok (values, rest)) (before : Gap) :
    ∃ items : Items, items.write (']' :: rest) = before.chars ++ cs ∧ values = read.reverse ++ items.values := by
  -- the gap in front of an item has been passed over when the loop comes to it
  induction turns generalizing read cs before with
  | zero => cases h
  | succ turns ih =>
    unfold readItems at h
    split at h
    · cases h
    · next v afterItem hitem =>
      obtain ⟨item, rfl, rfl⟩ := hreader hitem
      obtain ⟨after, hafter⟩ := exists_gap afterItem
      split at h
      · next more hskip =>
        obtain ⟨next, hnext⟩ := exists_gap more
        obtain ⟨items, hitems, rfl⟩ := ih h next
        rw [hskip] at hafter
        refine ⟨.more before item after items, ?_, ?_⟩
        · rw [Items.write, hitems, hnext, hafter]
        · rw [Items.values, List.reverse_cons, List.append_assoc, List.singleton_append]
      · next more hskip =>
        cases h
        rw [hskip] at hafter
        refine ⟨.last before item after, ?_, List.reverse_cons⟩
        rw [Items.write, hafter]
      · cases h

theorem exists_members_of_readFields (hreader : ReadsTrees reader) {read fields : Fields}
    (h : readFields reader turns read cs = .ok (fields, rest)) (before : Gap) :
    ∃ members : Members, members.write ('\x7d' :: rest) = before.chars ++ cs ∧
      fields = members.given.foldl (fun map entry => Entries.put entry.1 entry.2 map) read := by
  induction turns generalizing read cs before with
  | zero => cases h
  | succ turns ih =>
    unfold readFields at h
    split at h
    · next more hturns =>
      obtain rfl := Nat.succ.inj hturns
      split at h
      · cases h
      · next name afterName hname =>
        obtain ⟨pieces, rfl, rfl⟩ := exists_pieces_of_readString hname
        obtain ⟨gap, hgap⟩ := exists_gap afterName
        split at h
        · next text hcolon =>
          obtain ⟨inner, hinner⟩ := exists_gap text
          rw [hcolon] at hgap
          -- up to here the label has been read, and its content comes next
          have hlabel (content : List Char) (hcontent : inner.chars ++ content = text) :
              (Label.mk before pieces gap).write (inner.chars ++ content) =
                before.chars ++ writePieces pieces afterName := by
            rw [Label.write, hcontent, hgap]
          split at h
          · cases h
          · next v afterContent hcontent =>
            obtain ⟨content, hwrite, rfl⟩ := hreader hcontent
            rw [← hwrite] at hinner
            obtain ⟨after, hafter⟩ := exists_gap afterContent
            dsimp only at h
            split at h
            · next more hskip =>
              obtain ⟨next, hnext⟩ := exists_gap more
              obtain ⟨members, hmembers, rfl⟩ := ih h next
              rw [hskip] at hafter
              refine ⟨.more ⟨before, pieces, gap⟩ inner content after members, ?_, rfl⟩
              rw [Members.write, hmembers, hnext, hafter]
              exact hlabel _ hinner
            · next more hskip =>
              cases h
              rw [hskip] at hafter
              refine ⟨.last ⟨before, pieces, gap⟩ inner content after, ?_, rfl⟩
              rw [Members.write, hafter]
              exact hlabel _ hinner
            · cases h
        · cases h
    · cases h

theorem exists_tree_of_readArray (hreader : ReadsTrees reader) (h : readArray reader turns cs = .ok (v, rest)) :
    ∃ t : Tree, t.write rest = '[' :: cs ∧ v = t.value := by
  obtain ⟨gap, hgap⟩ := exists_gap cs
  unfold readArray at h
  split at h
  · next hskip =>
    cases h
    rw [hskip] at hgap
    exact ⟨.emptyArray gap, congrArg (List.cons '[') hgap, rfl⟩
  · split at h
    · cases h
    · next items after hitems =>
      cases h
      obtain ⟨parts, hparts, rfl⟩ := exists_items_of_readItems hreader hitems gap
      exact ⟨.array parts, congrArg (List.cons '[') (hparts.trans hgap), rfl⟩

theorem exists_tree_of_readObject (hreader : ReadsTrees reader) (h : readObject reader turns cs = .ok (v, rest)) :
    ∃ t : Tree, t.write rest = '\x7b' :: cs ∧ v = t.value := by
  obtain ⟨gap, hgap⟩ := exists_gap cs
  unfold readObject at h
  split at h
  · next hskip =>
    cases h
    rw [hskip] at hgap
    exact ⟨.emptyObject gap, congrArg (List.cons '\x7b') hgap, rfl⟩
  · split at h
    · cases h
    · next fields after hfields =>
      cases h
      obtain ⟨members, hmembers, rfl⟩ := exists_members_of_readFields hreader hfields gap
      refine ⟨.object members, congrArg (List.cons '\x7b') (hmembers.trans hgap), ?_⟩
      rw [Tree.value, ← Entries.ofList_eq_settled]
      rfl

theorem exists_tree_of_readWith {inner : Option (List Char → Reading Value)}
    (hinner : ∀ reader, inner = some reader → ReadsTrees reader)
    (h : readWith .strict turns inner cs = .ok (v, rest)) : ∃ t : Tree, t.write rest = cs ∧ v = t.value := by
  unfold readWith at h
  split at h
  · split at h
    · cases h
    · next chars after hstring =>
      cases h
      obtain ⟨pieces, hpieces, rfl⟩ := exists_pieces_of_readString hstring
      exact ⟨.string pieces, congrArg (List.cons '"') hpieces, rfl⟩
  · split at h
    · cases h
    · exact exists_tree_of_readArray (hinner _ rfl) h
  · split at h
    · cases h
    · exact exists_tree_of_readObject (hinner _ rfl) h
  · cases h
    exact ⟨.null, rfl, rfl⟩
  · cases h
    exact ⟨.bool true, rfl, rfl⟩
  · cases h
    exact ⟨.bool false, rfl, rfl⟩
  · cases h
  · cases h
  · cases h
  · obtain ⟨n, hn, rfl⟩ := exists_numeral_of_readNumber h
    exact ⟨.number n, hn, rfl⟩

/-- **What is read is the value of a tree**, where names of numbers that are not finite are refused. -/
theorem exists_tree_of_readValue {levels : Nat} : ReadsTrees (readValue .strict turns levels) := by
  induction levels with
  | zero => exact fun h => exists_tree_of_readWith (fun _ hnone => by cases hnone) h
  | succ levels ih =>
    refine fun h => exists_tree_of_readWith (fun reader hreader => ?_) h
    cases hreader
    exact ih

end Found

end Json

end ToolWeave
