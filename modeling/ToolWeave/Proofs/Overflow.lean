import ToolWeave.Proofs.Actions
import ToolWeave.Proofs.Decoding
import ToolWeave.Proofs.Documents

/-!
# Numbers that are too large to be read

A number with a fraction or an exponent is read as the nearest double, and from a certain magnitude on this
is an infinity.  So a text from outside may be read as something that is no JSON value.  It is so exactly if
the document holds such a number in a place that counts (`Json.parse_finite_iff`).

## Main definitions

* `Json.Tree.Overflows`: a number of the tree that is not given up for a later one is too large.
-/

namespace ToolWeave

/-! ### Fields that are given -/

namespace Entries

variable {α : Type}

/-- Settled fields have the contents that came last. -/
theorem mem_settled_iff {given : Entries α} {entry : String × α} :
    entry ∈ settled given ↔ get? entry.1 given.reverse = some entry.2 := by
  rw [← ofList_eq_settled, ← get?_ofList]
  exact (get?_eq_some_iff (nodup_ofList given)).symm

/-- The content that is given first is settled if its name does not come again. -/
theorem forall_settled_cons (p : α → Prop) (key : String) (content : α) (rest : Entries α) :
    (∀ entry ∈ settled ((key, content) :: rest), p entry.2) ↔
      (key ∉ names rest → p content) ∧ ∀ entry ∈ settled rest, p entry.2 := by
  have hreverse (name : String) : get? name ((key, content) :: rest).reverse =
      (get? name rest.reverse).or (if key = name then some content else none) := by
    rw [List.reverse_cons, get?_append]
    rfl
  have hnames : names rest.reverse = (names rest).reverse := List.map_reverse
  -- from the end the first content is found last, so any later one of its name hides it
  simp only [mem_settled_iff, hreverse]
  constructor
  · intro h
    refine ⟨fun hkey => ?_, fun entry hentry => ?_⟩
    · have hnone : get? key rest.reverse = none := by
        rw [← List.mem_reverse, ← hnames, ← has_iff_mem_names] at hkey
        exact Option.not_isSome_iff_eq_none.mp hkey
      exact h (key, content) (by rw [hnone, if_pos rfl]; rfl)
    · exact h entry (by rw [hentry]; rfl)
  · rintro ⟨hfirst, hrest⟩ ⟨name, last⟩ hentry
    rcases Option.or_eq_some_iff.mp hentry with hlater | ⟨hnone, hhere⟩
    · exact hrest (name, last) hlater
    · split at hhere
      · next hkey =>
        cases hhere
        subst hkey
        refine hfirst ?_
        rw [← List.mem_reverse, ← hnames, ← has_iff_mem_names]
        exact Option.not_isSome_iff_eq_none.mpr hnone
      · cases hhere

end Entries

namespace Json

/-! ### Documents with an infinity -/

/-- A number is read as an infinity: it is no integer and too large for a double. -/
def Numeral.Overflows (n : Numeral) : Prop := n.isInteger = false ∧ Double.tooLarge ≤ n.magnitude

theorem Numeral.isFinite_number (n : Numeral) : n.number.isFinite = true ↔ ¬ n.Overflows := by
  have hdenotes : n.Denotes n.number := denotes_iff.mpr rfl
  generalize n.number = m at hdenotes ⊢
  unfold Overflows
  cases hdenotes with
  | integer hinteger => simp [hinteger, Number.isFinite]
  | @double d hinteger hnearest =>
    cases d with
    | finite negative code => simp [hinteger, Number.isFinite, Double.isFinite, not_le.mpr hnearest.2.1]
    | infinite negative => simp [hinteger, Number.isFinite, Double.isFinite, hnearest.2]
    | nan => exact hnearest.elim

/-- The names of members, with those that come again. -/
def Members.names : Members → List String
  | .last label _ _ _ => [String.ofList (spelled label.name)]
  | .more label _ _ _ rest => String.ofList (spelled label.name) :: rest.names

mutual

/-- Whether a number of the tree is too large, save in contents whose name comes again in the same object. -/
def Tree.Overflows : Tree → Prop
  | .number n => n.Overflows
  | .array items => items.Overflows
  | .object members => members.Overflows
  | _ => False

/-- Whether a number of the items is too large. -/
def Items.Overflows : Items → Prop
  | .last _ item _ => item.Overflows
  | .more _ item _ rest => item.Overflows ∨ rest.Overflows

/-- Whether a number of the contents is too large, if the name of the content does not come again. -/
def Members.Overflows : Members → Prop
  | .last _ _ content _ => content.Overflows
  | .more label _ content _ rest =>
    (String.ofList (spelled label.name) ∉ rest.names ∧ content.Overflows) ∨ rest.Overflows

end

theorem Members.names_given (members : Members) : Entries.names members.given = members.names := by
  cases members with
  | last label before content after => rfl
  | more label before content after rest => exact congrArg _ rest.names_given

mutual

/-- The value of a tree is a JSON value unless a number is too large. -/
theorem Tree.isFinite_value (t : Tree) : t.value.isFinite = true ↔ ¬ t.Overflows := by
  cases t with
  | null => exact iff_of_true rfl not_false
  | bool b => exact iff_of_true rfl not_false
  | string pieces => exact iff_of_true rfl not_false
  | emptyArray inside => exact iff_of_true rfl not_false
  | emptyObject inside => exact iff_of_true rfl not_false
  | number n => exact n.isFinite_number
  | array items => exact allFinite_iff.trans items.isFinite_values
  | object members => exact fieldsFinite_iff.trans members.isFinite_settled

theorem Items.isFinite_values (items : Items) :
    (∀ item ∈ items.values, item.isFinite = true) ↔ ¬ items.Overflows := by
  cases items with
  | last before item after => exact List.forall_mem_singleton.trans item.isFinite_value
  | more before item after rest =>
    rw [Items.values, List.forall_mem_cons, item.isFinite_value, rest.isFinite_values, Items.Overflows, not_or]

theorem Members.isFinite_settled (members : Members) :
    (∀ entry ∈ Entries.settled members.given, entry.2.isFinite = true) ↔ ¬ members.Overflows := by
  cases members with
  | last label before content after =>
    have hlast := Entries.forall_settled_cons (fun v : Value => v.isFinite = true)
      (String.ofList (spelled label.name)) content.value []
    rw [Members.given, hlast]
    simp [Entries.names, Entries.settled, Members.Overflows, content.isFinite_value]
  | more label before content after rest =>
    rw [Members.given, Entries.forall_settled_cons fun v : Value => v.isFinite = true, rest.names_given,
      content.isFinite_value, rest.isFinite_settled, Members.Overflows, not_or, not_and]

end

/-! ### Texts and bytes from outside -/

/-- Whatever is refused is an invalid input. -/
theorem kind_of_parse {text : String} {e : ToolError} (h : Value.parse text = .error e) : e.kind = .invalidInput := by
  unfold Value.parse at h
  split at h
  · cases h
  · cases h
    rfl
  · cases h
    exact ToolError.kind_make ..

/-- **What is read is a JSON value unless a number is too large.**  A text is refused as invalid input or read
as the value of a document, which is no JSON value exactly if a number in a place that counts is not an
integer and too large for a double.  Bytes are read as their text, and they crash the reader exactly if they
are the bytes of no text.  No tool passes on a result that is not a JSON value, however it got it. -/
theorem parse_finite_iff (text : String) (bytes : List UInt8) (starter : Starter) (reach : Reach) (tool : Tool)
    (input : Value) (world : World) :
    ((∃ e, Value.parse text = .error e ∧ e.kind = .invalidInput) ∨
      ∃ d : Document, d.text = text.toList ∧ Value.parse text = .ok d.tree.value ∧
        (d.tree.value.isFinite = true ↔ ¬ d.tree.Overflows)) ∧
    ((∀ chars, bytes = Utf8.encode chars →
        Value.parseBytes bytes = (Value.parse (String.ofList chars)).mapError .failure) ∧
      ((¬ ∃ chars, bytes = Utf8.encode chars) →
        ∃ cause, Value.parseBytes bytes = .error (.crash (.undecodable cause)))) ∧
    (∀ value, (tool.perform starter reach input world).1 = .ok value → value.isFinite = true) := by
  refine ⟨?_, ⟨?_, ?_⟩, fun _ => Tool.isFinite_of_perform⟩
  · cases hread : Value.parse text with
    | error e => exact .inl ⟨e, rfl, kind_of_parse hread⟩
    | ok v =>
      obtain ⟨d, hd, rfl⟩ := exists_document_of_readChars (readText_of_parse hread)
      exact .inr ⟨d, hd, rfl, d.tree.isFinite_value⟩
  · rintro chars rfl
    unfold Value.parseBytes
    rw [Utf8.decode_encode]
    dsimp only
    cases Value.parse (String.ofList chars) with
    | ok v => rfl
    | error e => rfl
  · intro hnone
    unfold Value.parseBytes
    split
    · next cause _ => exact ⟨cause, rfl⟩
    · next chars hdecode => exact absurd ⟨chars, Utf8.decode_eq_ok_iff.mp hdecode⟩ hnone

/-- The theorem at a text with an infinity, at a byte of no text and at a tool that gives its value. -/
theorem parse_finite_iff_samples :
    (∃ d : Document, d.text = "[1e400]".toList ∧ d.tree.Overflows) ∧
      (∃ cause, Value.parseBytes [0xFF] = .error (.crash (.undecodable cause))) ∧
      ∃ value, ((Tool.constant (.int 1)).perform .other (Run.top 1) .null World.plain).1 = .ok value ∧
        value.isFinite = true := by
  obtain ⟨htext, ⟨-, hbytes⟩, htool⟩ :=
    parse_finite_iff "[1e400]" [0xFF] .other (Run.top 1) (.constant (.int 1)) .null World.plain
  refine ⟨?_, ?_, ?_⟩
  · have hinfinite : (Value.parse "[1e400]").toOption.map Value.isFinite = some false := by decide +kernel
    rcases htext with ⟨e, he, -⟩ | ⟨d, hd, hread, hfinite⟩
    · rw [he] at hinfinite
      cases hinfinite
    · have hvalue : d.tree.value.isFinite = false := by
        rw [hread] at hinfinite
        exact Option.some.inj hinfinite
      refine ⟨d, hd, not_not.mp fun h => ?_⟩
      rw [hfinite.mpr h] at hvalue
      cases hvalue
  · refine hbytes ?_
    rintro ⟨chars, hchars⟩
    have hdecode := Utf8.decode_encode chars
    rw [← hchars] at hdecode
    cases hdecode
  · have hvalue : ((Tool.constant (.int 1)).perform .other (Run.top 1) .null World.plain).1 = .ok (.int 1) := rfl
    exact ⟨_, hvalue, htool _ hvalue⟩

/-- A number that is too large is read, and a byte that is no text is not refused as invalid input. -/
theorem parse_infinite :
    (Value.parse "1e400").toOption.map Value.isFinite = some false ∧
      ∃ cause, Value.parseBytes [0xFF] = .error (.crash (.undecodable cause)) := by
  refine ⟨?_, ⟨0, 0xFF, 1, .start⟩, rfl⟩
  decide +kernel

end Json

end ToolWeave
