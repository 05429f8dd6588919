import ToolWeave.Failure
import ToolWeave.Proofs.ReadValues
import ToolWeave.Proofs.StringText

/-!
# Values read from their text

Text is written in front of what follows, so reading it back is a statement about any rest: the value
comes out and the rest stays (`Json.readValue_write`).  It is shown by induction on values, with a loop
inside for the items of an array and one for the fields of an object.

## Main definitions

* `Json.Style.Blank`: a style puts nothing but space between the parts.
* `Json.ReadsBack`: a reader gives a value for the text of that value.

## Design notes

**The rest.**  A number in front of a digit would be read as a longer number.  What follows a value
inside a text is space, a comma or the end of an array or object, and none of these goes on with a
number; this is the only condition on the rest.

**The bound on turns.**  The readers of arrays and objects count down from the length of the whole text.
Each turn uses up a comma at least, so the text that is left never is longer than the turns that are.
-/

namespace ToolWeave

/-- Of different names one that comes later has not come before. -/
theorem Entries.not_mem_of_nodup {α : Type} {name : String} {content : α} {first rest : Entries α}
    (h : (Entries.names (first ++ (name, content) :: rest)).Nodup) : name ∉ Entries.names first := by
  rw [Entries.names, List.map_append] at h
  obtain ⟨-, -, hdisjoint⟩ := List.nodup_append.mp h
  exact fun hmem => hdisjoint name hmem name List.mem_cons_self rfl

namespace Json

/-! ### Space -/

/-- All of some characters may stand between the parts of a text. -/
def AllSpace (cs : List Char) : Prop := ∀ c ∈ cs, isSpace c = true

/-- A style puts nothing but space between the parts. -/
structure Style.Blank (style : Style) : Prop where
  opening : ∀ depth, AllSpace (style.opening depth)
  between : ∀ depth, AllSpace (style.between depth)
  closing : ∀ depth, AllSpace (style.closing depth)

theorem blank_compact : compact.Blank where
  opening _ := fun _ hc => absurd hc List.not_mem_nil
  between _ := by
    intro c hc
    rw [List.mem_singleton.mp hc]
    rfl
  closing _ := fun _ hc => absurd hc List.not_mem_nil

theorem allSpace_newLine (depth : Nat) : AllSpace (newLine depth) := by
  intro c hc
  rcases List.mem_cons.mp hc with rfl | hc
  · rfl
  · rw [List.eq_of_mem_replicate hc]
    rfl

theorem blank_indented : indented.Blank where
  opening depth := allSpace_newLine (depth + 1)
  between depth := allSpace_newLine (depth + 1)
  closing depth := allSpace_newLine depth

section Space

variable {space cs rest : List Char} {c : Char}

theorem skip_append (h : AllSpace space) : skip (space ++ cs) = skip cs :=
  List.dropWhile_append_of_pos h

theorem skip_of_not_space (h : isSpace c = false) : skip (c :: rest) = c :: rest :=
  List.dropWhile_cons_of_neg (by rw [h]; decide)

theorem isSpace_iff : isSpace c = true ↔ ((c = ' ' ∨ c = '\t') ∨ c = '\n') ∨ c = '\r' := by
  simp only [isSpace, Bool.or_eq_true, beq_iff_eq]

/-- Space and then something that is no part of a number is no part of a number. -/
theorem StopsNumber.append (hspace : AllSpace space) (hrest : StopsNumber rest) :
    StopsNumber (space ++ rest) := by
  cases space with
  | nil => exact hrest
  | cons c space =>
    intro first hfirst
    cases hfirst
    rcases isSpace_iff.mp (hspace c List.mem_cons_self) with ((rfl | rfl) | rfl) | rfl <;> decide

/-- No value starts with space, with the end of an array or with a byte order mark. -/
theorem start_of_readWith {dialect : Dialect} {turns : Nat} {inner : Option (List Char → Reading Value)}
    {v : Value} (h : readWith dialect turns inner cs = .ok (v, rest)) :
    skip cs = cs ∧ (∀ more, cs ≠ ']' :: more) ∧ ∀ more, cs ≠ '\uFEFF' :: more := by
  cases cs with
  | nil => cases h
  | cons c more =>
    refine ⟨?_, ?_, ?_⟩
    · refine skip_of_not_space ?_
      rw [← Bool.not_eq_true]
      intro hspace
      rcases isSpace_iff.mp hspace with ((rfl | rfl) | rfl) | rfl <;> cases h
    · rintro _ heq
      cases heq
      cases h
    · rintro _ heq
      cases heq
      cases h

end Space

/-! ### Writing puts text in front -/

theorem length_le_writeString (s : String) (rest : List Char) :
    rest.length ≤ (writeString s rest).length := by
  unfold writeString
  rw [List.length_cons, List.length_append, List.length_cons]
  omega

theorem length_le_writeItems {style : Style} {items : List Value} (depth : Nat) (rest : List Char)
    (h : ∀ item ∈ items, ∀ depth rest, rest.length ≤ (write style depth item rest).length) :
    rest.length ≤ (writeItems style depth items rest).length := by
  induction items with
  | nil =>
    rw [writeItems, List.length_append, List.length_cons]
    omega
  | cons item items ih =>
    have hitems := ih fun item hitem => h item (List.mem_cons_of_mem _ hitem)
    have hitem := h item List.mem_cons_self (depth + 1) (writeItems style depth items rest)
    rw [writeItems, List.cons_append, List.length_cons, List.length_append]
    omega

theorem length_le_writeFields {style : Style} {fields : Fields} (depth : Nat) (rest : List Char)
    (h : ∀ entry ∈ fields, ∀ depth rest, rest.length ≤ (write style depth entry.2 rest).length) :
    rest.length ≤ (writeFields style depth fields rest).length := by
  induction fields with
  | nil =>
    rw [writeFields, List.length_append, List.length_cons]
    omega
  | cons entry fields ih =>
    obtain ⟨name, content⟩ := entry
    have hfields := ih fun entry hentry => h entry (List.mem_cons_of_mem _ hentry)
    have hcontent : (writeFields style depth fields rest).length ≤
        (write style (depth + 1) content (writeFields style depth fields rest)).length :=
      h (name, content) List.mem_cons_self (depth + 1) (writeFields style depth fields rest)
    have hname := length_le_writeString name
      (':' :: ' ' :: write style (depth + 1) content (writeFields style depth fields rest))
    rw [writeFields, List.cons_append, List.length_cons, List.length_append]
    rw [List.length_cons, List.length_cons] at hname
    omega

/-- Writing makes what follows no shorter. -/
theorem length_le_write (style : Style) (v : Value) :
    ∀ (depth : Nat) (rest : List Char), rest.length ≤ (write style depth v rest).length := by
  induction v using Value.induction with
  | null => exact fun _ _ => by simp only [write, List.length_cons]; omega
  | bool b => exact fun _ _ => by cases b <;> simp only [write, List.length_cons] <;> omega
  | number n => exact fun _ _ => by simp only [write, List.length_append]; omega
  | string s => exact fun _ rest => by rw [write]; exact length_le_writeString s rest
  | array items ih =>
    intro depth rest
    cases items with
    | nil => simp only [write, List.length_cons]; omega
    | cons item items =>
      have hitems := length_le_writeItems depth rest fun item hitem =>
        ih item (List.mem_cons_of_mem _ hitem)
      have hitem := ih item List.mem_cons_self (depth + 1) (writeItems style depth items rest)
      rw [write, List.cons_append, List.length_cons, List.length_append]
      omega
  | object fields ih =>
    intro depth rest
    cases fields with
    | nil => simp only [write, List.length_cons]; omega
    | cons entry fields =>
      obtain ⟨name, content⟩ := entry
      have hfields := length_le_writeFields depth rest fun entry hentry =>
        ih entry (List.mem_cons_of_mem _ hentry)
      have hcontent : (writeFields style depth fields rest).length ≤
          (write style (depth + 1) content (writeFields style depth fields rest)).length :=
        ih (name, content) List.mem_cons_self (depth + 1) (writeFields style depth fields rest)
      have hname := length_le_writeString name
        (':' :: ' ' :: write style (depth + 1) content (writeFields style depth fields rest))
      rw [write, List.cons_append, List.length_cons, List.length_append]
      rw [List.length_cons, List.length_cons] at hname
      omega

/-- The text of a field and of the fields after it. -/
def writeField (style : Style) (depth : Nat) (name : String) (content : Value) (fields : Fields)
    (rest : List Char) : List Char :=
  writeString name (':' :: ' ' :: write style (depth + 1) content (writeFields style depth fields rest))

/-- The text of a field is longer than the text of the content and of the fields after it. -/
theorem length_lt_writeField (style : Style) (depth : Nat) (name : String) (content : Value)
    (fields : Fields) (rest : List Char) :
    (write style (depth + 1) content (writeFields style depth fields rest)).length <
      (writeField style depth name content fields rest).length := by
  have hname := length_le_writeString name
    (':' :: ' ' :: write style (depth + 1) content (writeFields style depth fields rest))
  rw [List.length_cons, List.length_cons] at hname
  unfold writeField
  omega

/-! ### Reading what is written -/

section Reading

variable {style : Style} {turns depth : Nat} {reader : List Char → Reading Value}

/-- A reader reads a value back from its text, if the text is no longer than a bound. -/
def ReadsBack (reader : List Char → Reading Value) (style : Style) (turns depth : Nat) (v : Value) :
    Prop :=
  ∀ rest, StopsNumber rest → (write style depth v rest).length ≤ turns →
    reader (write style depth v rest) = .ok (v, rest) ∧
      skip (write style depth v rest) = write style depth v rest

theorem stopsNumber_writeItems (hstyle : style.Blank) (depth : Nat) (items : List Value) (rest : List Char) :
    StopsNumber (writeItems style depth items rest) := by
  cases items with
  | nil =>
    rw [writeItems]
    refine StopsNumber.append (hstyle.closing depth) fun c hc => ?_
    cases hc
    decide
  | cons item items =>
    rw [writeItems]
    intro c hc
    cases hc
    decide

theorem stopsNumber_writeFields (hstyle : style.Blank) (depth : Nat) (fields : Fields) (rest : List Char) :
    StopsNumber (writeFields style depth fields rest) := by
  cases fields with
  | nil =>
    rw [writeFields]
    refine StopsNumber.append (hstyle.closing depth) fun c hc => ?_
    cases hc
    decide
  | cons entry fields =>
    rw [writeFields]
    intro c hc
    cases hc
    decide

theorem readItems_write (hstyle : style.Blank) {item : Value} {items : List Value}
    (hitem : ReadsBack reader style turns (depth + 1) item)
    (hitems : ∀ item ∈ items, ReadsBack reader style turns (depth + 1) item)
    {left : Nat} {rest : List Char} (read : List Value)
    (hturns : (write style (depth + 1) item (writeItems style depth items rest)).length ≤ turns)
    (hleft : (write style (depth + 1) item (writeItems style depth items rest)).length ≤ left) :
    readItems reader left read (write style (depth + 1) item (writeItems style depth items rest)) =
      .ok (read.reverse ++ item :: items, rest) := by
  induction items generalizing item left read with
  | nil =>
    obtain ⟨hread, -⟩ := hitem _ (stopsNumber_writeItems hstyle depth [] rest) hturns
    have hlength := length_le_write style item (depth + 1) (writeItems style depth [] rest)
    have hpos : 0 < (writeItems style depth [] rest).length := by
      rw [writeItems, List.length_append, List.length_cons]
      omega
    have hend : skip (writeItems style depth [] rest) = ']' :: rest := by
      rw [writeItems, skip_append (hstyle.closing depth), skip_of_not_space (by decide)]
    cases left with
    | zero => omega
    | succ left =>
      simp only [readItems, hread, hend, List.reverse_cons]
  | cons next items ih =>
    obtain ⟨hread, -⟩ := hitem _ (stopsNumber_writeItems hstyle depth (next :: items) rest) hturns
    have hlength := length_le_write style item (depth + 1)
      (writeItems style depth (next :: items) rest)
    have hshorter : (write style (depth + 1) next (writeItems style depth items rest)).length <
        (writeItems style depth (next :: items) rest).length := by
      rw [writeItems, List.cons_append, List.length_cons, List.length_append]
      omega
    have hnext := hitems next List.mem_cons_self
    obtain ⟨-, hskip⟩ := hnext _ (stopsNumber_writeItems hstyle depth items rest) (by omega)
    have hmore : skip (writeItems style depth (next :: items) rest) =
        ',' :: (style.between depth ++ write style (depth + 1) next (writeItems style depth items rest)) := by
      rw [writeItems, List.cons_append, skip_of_not_space (by decide)]
    cases left with
    | zero => omega
    | succ left =>
      have hrest : readItems reader left (item :: read)
          (write style (depth + 1) next (writeItems style depth items rest)) =
            .ok ((item :: read).reverse ++ next :: items, rest) :=
        ih hnext (fun item hitem => hitems item (List.mem_cons_of_mem _ hitem)) (item :: read) (by omega)
          (by omega)
      simp only [readItems, hread, hmore, skip_append (hstyle.between depth), hskip, hrest, List.reverse_cons,
        List.append_assoc, List.singleton_append]

section Fields

variable {name : String} {content : Value} {read fields : Fields} {left : Nat} {text after rest : List Char}

/-- A field is read and put after those read before, and more fields follow. -/
theorem readFields_next (hname : name ∉ Entries.names read) (hread : reader text = .ok (content, after))
    (hskip : skip text = text) (hafter : skip after = ',' :: rest) :
    readFields reader (left + 1) read (writeString name (':' :: ' ' :: text)) =
      readFields reader left (read ++ [(name, content)]) (skip rest) := by
  have hcolon : skip (':' :: ' ' :: text) = ':' :: ' ' :: text := skip_of_not_space (by decide)
  have hspace : skip (' ' :: text) = text := hskip
  simp only [writeString, readFields, readString_flatMap_escape, List.reverse_nil, List.nil_append, hcolon,
    hspace, hread, String.ofList_toList, Entries.put_of_not_mem hname, hafter]

/-- A field is read and put after those read before, and the object ends. -/
theorem readFields_last (hname : name ∉ Entries.names read) (hread : reader text = .ok (content, after))
    (hskip : skip text = text) (hafter : skip after = '\x7d' :: rest) :
    readFields reader (left + 1) read (writeString name (':' :: ' ' :: text)) =
      .ok (read ++ [(name, content)], rest) := by
  have hcolon : skip (':' :: ' ' :: text) = ':' :: ' ' :: text := skip_of_not_space (by decide)
  have hspace : skip (' ' :: text) = text := hskip
  simp only [writeString, readFields, readString_flatMap_escape, List.reverse_nil, List.nil_append, hcolon,
    hspace, hread, String.ofList_toList, Entries.put_of_not_mem hname, hafter]

theorem readFields_write (hstyle : style.Blank)
    (hcontent : ReadsBack reader style turns (depth + 1) content)
    (hfields : ∀ entry ∈ fields, ReadsBack reader style turns (depth + 1) entry.2)
    (hnames : (Entries.names (read ++ (name, content) :: fields)).Nodup)
    (hturns : (writeField style depth name content fields rest).length ≤ turns)
    (hleft : (writeField style depth name content fields rest).length ≤ left) :
    readFields reader left read (writeField style depth name content fields rest) =
      .ok (read ++ (name, content) :: fields, rest) := by
  induction fields generalizing name content left read with
  | nil =>
    have hlength := length_lt_writeField style depth name content [] rest
    obtain ⟨left, rfl⟩ : ∃ less, left = less + 1 := ⟨left - 1, by omega⟩
    obtain ⟨hread, hskip⟩ := hcontent _ (stopsNumber_writeFields hstyle depth [] rest) (by omega)
    have hend : skip (writeFields style depth [] rest) = '\x7d' :: rest := by
      rw [writeFields, skip_append (hstyle.closing depth), skip_of_not_space (by decide)]
    exact readFields_last (Entries.not_mem_of_nodup hnames) hread hskip hend
  | cons entry fields ih =>
    obtain ⟨next, second⟩ := entry
    have hlength := length_lt_writeField style depth name content ((next, second) :: fields) rest
    obtain ⟨left, rfl⟩ : ∃ less, left = less + 1 := ⟨left - 1, by omega⟩
    obtain ⟨hread, hskip⟩ := hcontent _ (stopsNumber_writeFields hstyle depth ((next, second) :: fields) rest)
      (by omega)
    have hwrite : writeFields style depth ((next, second) :: fields) rest =
        ',' :: (style.between depth ++ writeField style depth next second fields rest) := by
      rw [writeFields, List.cons_append]
      rfl
    have hshorter : (writeField style depth next second fields rest).length <
        (writeFields style depth ((next, second) :: fields) rest).length := by
      rw [hwrite, List.length_cons, List.length_append]
      omega
    have hle := length_le_write style content (depth + 1)
      (writeFields style depth ((next, second) :: fields) rest)
    have hmore : skip (writeFields style depth ((next, second) :: fields) rest) =
        ',' :: (style.between depth ++ writeField style depth next second fields rest) := by
      rw [hwrite, skip_of_not_space (by decide)]
    have hrest : readFields reader left (read ++ [(name, content)])
        (writeField style depth next second fields rest) =
          .ok (read ++ [(name, content)] ++ (next, second) :: fields, rest) := by
      refine ih (hfields _ List.mem_cons_self) (fun entry hentry => hfields entry (List.mem_cons_of_mem _ hentry))
        ?_ (by omega) (by omega)
      rw [List.append_assoc]
      exact hnames
    have hfield : skip (writeField style depth next second fields rest) =
        writeField style depth next second fields rest := skip_of_not_space (by decide)
    calc readFields reader (left + 1) read
          (writeField style depth name content ((next, second) :: fields) rest)
        = readFields reader left (read ++ [(name, content)])
            (skip (style.between depth ++ writeField style depth next second fields rest)) :=
          readFields_next (Entries.not_mem_of_nodup hnames) hread hskip hmore
      _ = .ok (read ++ (name, content) :: (next, second) :: fields, rest) := by
          rw [skip_append (hstyle.between depth), hfield, hrest, List.append_assoc, List.singleton_append]

end Fields

end Reading

/-! ### Writable values -/

theorem unwritableItem?_eq_none {items : List Value} :
    unwritableItem? items = none ↔ ∀ item ∈ items, unwritable? item = none := by
  induction items with
  | nil => simp [unwritableItem?]
  | cons item items ih => rw [unwritableItem?, Option.or_eq_none_iff, ih, List.forall_mem_cons]

theorem unwritableField?_eq_none {fields : Fields} :
    unwritableField? fields = none ↔ ∀ entry ∈ fields, unwritable? entry.2 = none := by
  induction fields with
  | nil => simp [unwritableField?]
  | cons entry fields ih => rw [unwritableField?, Option.or_eq_none_iff, ih, List.forall_mem_cons]

theorem unwritableNumber?_eq_none {n : Number} :
    unwritableNumber? n = none ↔ n.isFinite = true ∧ n.isShort = true := by
  cases n with
  | int i => simp [unwritableNumber?, Number.isFinite, Number.isShort]
  | double d => simp [unwritableNumber?, Number.isFinite, Number.isShort]

/-- What has a few digits has no more than the limit. -/
theorem isShort_int {i : Int} {digits limit : Nat} (hdigits : digits ≤ limit) (h : i.natAbs < 10 ^ digits) :
    i.natAbs < Nat.pow 10 limit :=
  h.trans_le (Nat.pow_le_pow_right (by decide) hdigits)

/-- An integer of a few digits has text. -/
theorem unwritable?_int {i : Int} {digits : Nat} (hdigits : digits ≤ digitLimit)
    (h : i.natAbs < 10 ^ digits) : unwritable? (.int i) = none := by
  rw [Value.int, unwritable?, unwritableNumber?, if_pos (isShort_int hdigits h)]

theorem unwritable?_array {items : List Value} :
    unwritable? (.array items) = none ↔ ∀ item ∈ items, unwritable? item = none := by
  rw [unwritable?, unwritableItem?_eq_none]

theorem unwritable?_object {fields : Fields} :
    unwritable? (.object fields) = none ↔ ∀ entry ∈ fields, unwritable? entry.2 = none := by
  rw [unwritable?, unwritableField?_eq_none]

theorem allFinite_iff {items : List Value} :
    Value.allFinite items = true ↔ ∀ item ∈ items, item.isFinite = true := by
  induction items with
  | nil => simp [Value.allFinite]
  | cons item items ih => rw [Value.allFinite, Bool.and_eq_true, ih, List.forall_mem_cons]

theorem fieldsFinite_iff {fields : Fields} :
    Value.fieldsFinite fields = true ↔ ∀ entry ∈ fields, entry.2.isFinite = true := by
  induction fields with
  | nil => simp [Value.fieldsFinite]
  | cons entry fields ih => rw [Value.fieldsFinite, Bool.and_eq_true, ih, List.forall_mem_cons]

/-- A value has JSON text if its numbers are finite and its integers are short, and only then. -/
theorem unwritable?_eq_none {v : Value} :
    unwritable? v = none ↔ v.isFinite = true ∧ v.shortIntegers = true := by
  induction v using Value.induction with
  | null => exact iff_of_true rfl ⟨rfl, rfl⟩
  | bool b => exact iff_of_true rfl ⟨rfl, rfl⟩
  | number n => exact unwritableNumber?_eq_none
  | string s => exact iff_of_true rfl ⟨rfl, rfl⟩
  | array items ih =>
    rw [unwritable?_array, Value.isFinite, allFinite_iff, Value.shortIntegers_array,
      ← forall₂_and]
    exact forall₂_congr ih
  | object fields ih =>
    rw [unwritable?_object, Value.isFinite, fieldsFinite_iff, Value.shortIntegers_object,
      ← forall₂_and]
    exact forall₂_congr ih

/-! ### Reading a value back -/

/-- A value is read back if it is read at all, for no value starts with space. -/
theorem readsBack_of_readWith {dialect : Dialect} {turns bound depth : Nat} {style : Style} {v : Value}
    {inner : Option (List Char → Reading Value)}
    (h : ∀ rest, StopsNumber rest → (write style depth v rest).length ≤ bound →
      readWith dialect turns inner (write style depth v rest) = .ok (v, rest)) :
    ReadsBack (readWith dialect turns inner) style bound depth v :=
  fun rest hrest hlength => ⟨h rest hrest hlength, (start_of_readWith (h rest hrest hlength)).1⟩

/-- The reader of values is the reader with some levels left, or with none. -/
theorem readValue_eq (dialect : Dialect) (turns levels : Nat) :
    ∃ inner, readValue dialect turns levels = readWith dialect turns inner := by
  cases levels with
  | zero => exact ⟨none, rfl⟩
  | succ levels => exact ⟨some (readValue dialect turns levels), rfl⟩

section Containers

variable {dialect : Dialect} {turns levels : Nat} {reader : List Char → Reading Value}
  {cs text rest : List Char}

/-- No value is the end of an array. -/
theorem not_end_of_readValue {v : Value} (h : readValue dialect turns levels cs = .ok (v, rest)) :
    ∀ more, cs ≠ ']' :: more := by
  obtain ⟨inner, hreader⟩ := readValue_eq dialect turns levels
  rw [hreader] at h
  exact (start_of_readWith h).2.1

theorem readArray_of_items {items : List Value} (hskip : skip cs = text) (hend : ∀ more, text ≠ ']' :: more)
    (hread : readItems reader turns [] text = .ok (items, rest)) :
    readArray reader turns cs = .ok (.array items, rest) := by
  unfold readArray
  rw [hskip]
  split
  · exact absurd rfl (hend _)
  · rw [hread]

theorem readObject_of_fields {fields : Fields} (hskip : skip cs = '"' :: text)
    (hread : readFields reader turns [] ('"' :: text) = .ok (fields, rest)) :
    readObject reader turns cs = .ok (.object fields, rest) := by
  unfold readObject
  rw [hskip]
  split
  · next heq => cases heq
  · rw [hread]

end Containers

section Levels

variable {dialect : Dialect} {style : Style} {turns levels depth : Nat}

/-- A value that every reader of values reads the same is read back at any level. -/
theorem readsBack_of_forall {v : Value}
    (h : ∀ inner rest, StopsNumber rest →
      readWith dialect turns inner (write style depth v rest) = .ok (v, rest)) :
    ReadsBack (readValue dialect turns levels) style turns depth v := by
  obtain ⟨inner, hreader⟩ := readValue_eq dialect turns levels
  rw [hreader]
  exact readsBack_of_readWith fun rest hrest _ => h inner rest hrest

theorem readsBack_array (hstyle : style.Blank) {items : List Value}
    (h : ∀ item ∈ items, ReadsBack (readValue dialect turns levels) style turns (depth + 1) item) :
    ReadsBack (readValue dialect turns (levels + 1)) style turns depth (.array items) := by
  refine readsBack_of_readWith fun rest hrest hlength => ?_
  cases items with
  | nil => rfl
  | cons item items =>
    obtain ⟨hitem, hitems⟩ := List.forall_mem_cons.mp h
    rw [write, List.cons_append, List.length_cons, List.length_append] at hlength
    have hshort : (write style (depth + 1) item (writeItems style depth items rest)).length ≤ turns := by
      omega
    have hread := readItems_write hstyle hitem hitems [] hshort hshort
    obtain ⟨hfirst, hskip⟩ := hitem _ (stopsNumber_writeItems hstyle depth items rest) hshort
    -- no item starts with the end of an array, so the array is not taken to be empty
    have hopen : skip (style.opening depth ++
        write style (depth + 1) item (writeItems style depth items rest)) =
          write style (depth + 1) item (writeItems style depth items rest) := by
      rw [skip_append (hstyle.opening depth), hskip]
    rw [write, List.cons_append, readWith]
    exact readArray_of_items hopen (not_end_of_readValue hfirst) hread

theorem readsBack_object (hstyle : style.Blank) {fields : Fields} (hnames : (Entries.names fields).Nodup)
    (h : ∀ entry ∈ fields, ReadsBack (readValue dialect turns levels) style turns (depth + 1) entry.2) :
    ReadsBack (readValue dialect turns (levels + 1)) style turns depth (.object fields) := by
  refine readsBack_of_readWith fun rest hrest hlength => ?_
  cases fields with
  | nil => rfl
  | cons entry fields =>
    obtain ⟨name, content⟩ := entry
    obtain ⟨hcontent, hfields⟩ := List.forall_mem_cons.mp h
    have hwrite : write style depth (.object ((name, content) :: fields)) rest =
        '\x7b' :: (style.opening depth ++ writeField style depth name content fields rest) := by
      rw [write, List.cons_append]
      rfl
    rw [hwrite, List.length_cons, List.length_append] at hlength
    have hshort : (writeField style depth name content fields rest).length ≤ turns := by omega
    have hread : readFields (readValue dialect turns levels) turns []
        (writeField style depth name content fields rest) = .ok ((name, content) :: fields, rest) :=
      readFields_write hstyle hcontent hfields hnames hshort hshort
    have hopen : skip (style.opening depth ++ writeField style depth name content fields rest) =
        writeField style depth name content fields rest := by
      rw [skip_append (hstyle.opening depth)]
      exact skip_of_not_space (by decide)
    rw [hwrite, readWith]
    exact readObject_of_fields hopen hread

end Levels

/-- **Values are read from their text.**  The dialect makes no difference, nor does the space that the
style puts between the parts. -/
theorem readValue_write {style : Style} (hstyle : style.Blank) (dialect : Dialect) (turns : Nat) (v : Value) :
    ∀ depth levels, unwritable? v = none → v.distinctNames = true → v.nestedWithin levels = true →
      ReadsBack (readValue dialect turns levels) style turns depth v := by
  induction v using Value.induction with
  | null => exact fun _ _ _ _ _ => readsBack_of_forall fun _ _ _ => rfl
  | bool b => exact fun _ _ _ _ _ => readsBack_of_forall fun _ _ _ => by cases b <;> rfl
  | number n =>
    exact fun _ _ hwritable _ _ => readsBack_of_forall fun _ _ hrest => readWith_numberChars hwritable hrest
  | string s =>
    exact fun _ _ _ _ _ => readsBack_of_forall fun inner rest _ => readWith_writeString dialect turns inner s rest
  | array items ih =>
    intro depth levels hwritable hnames hlevels
    cases levels with
    | zero => cases hlevels
    | succ levels =>
      rw [unwritable?_array] at hwritable
      rw [Value.distinctNames_array] at hnames
      rw [Value.nestedWithin, List.all_eq_true] at hlevels
      exact readsBack_array hstyle fun item hitem =>
        ih item hitem (depth + 1) levels (hwritable item hitem) (hnames item hitem) (hlevels item hitem)
  | object fields ih =>
    intro depth levels hwritable hnames hlevels
    cases levels with
    | zero => cases hlevels
    | succ levels =>
      rw [unwritable?_object] at hwritable
      obtain ⟨hdistinct, hnames⟩ := Value.distinctNames_object.mp hnames
      rw [Value.nestedWithin, List.all_eq_true] at hlevels
      exact readsBack_object hstyle hdistinct fun entry hentry =>
        ih entry hentry (depth + 1) levels (hwritable entry hentry) (hnames entry hentry) (hlevels entry hentry)

/-! ### Whole texts -/

theorem nestedWithin_mono {v : Value} {levels more : Nat} (h : v.nestedWithin levels = true)
    (hle : levels ≤ more) : v.nestedWithin more = true := by
  induction v using Value.induction generalizing levels more with
  | null => cases more <;> rfl
  | bool b => cases more <;> rfl
  | number n => cases more <;> rfl
  | string s => cases more <;> rfl
  | array items ih =>
    cases levels with
    | zero => cases h
    | succ levels =>
      obtain ⟨more, rfl⟩ : ∃ fewer, more = fewer + 1 := ⟨more - 1, by omega⟩
      rw [Value.nestedWithin, List.all_eq_true] at h ⊢
      exact fun item hitem => ih item hitem (h item hitem) (by omega)
  | object fields ih =>
    cases levels with
    | zero => cases h
    | succ levels =>
      obtain ⟨more, rfl⟩ : ∃ fewer, more = fewer + 1 := ⟨more - 1, by omega⟩
      rw [Value.nestedWithin, List.all_eq_true] at h ⊢
      exact fun entry hentry => ih entry hentry (h entry hentry) (by omega)

/-- A whole text is read if it is the text of a value. -/
theorem readChars_write {style : Style} (hstyle : style.Blank) (dialect : Dialect) {v : Value}
    (hwritable : unwritable? v = none) (hnames : v.distinctNames = true)
    (hlevels : v.nestedWithin nestingLimit = true) : readChars dialect (write style 0 v []) = .ok v := by
  have hback := readValue_write hstyle dialect (write style 0 v []).length v 0 nestingLimit hwritable hnames
    hlevels
  obtain ⟨hread, hskip⟩ := hback [] (fun c hc => by cases hc) (Nat.le_refl _)
  obtain ⟨inner, hreader⟩ := readValue_eq dialect (write style 0 v []).length nestingLimit
  unfold readChars
  split
  · next heq =>
    rw [hreader, heq] at hread
    exact absurd rfl ((start_of_readWith hread).2.2 _)
  · rw [hskip, hread]
    rfl

/-- What is written in one of the styles is read. -/
theorem parse_print_of_blank {style : Style} (hstyle : style.Blank) {v : Value} (hfinite : v.isFinite = true)
    (hlegible : v.Legible) (hlevels : v.nestedWithin 1000 = true) :
    ∃ text, print style v = .ok text ∧ Value.parse text = .ok v := by
  have hwritable : unwritable? v = none := unwritable?_eq_none.mpr ⟨hfinite, hlegible.shortIntegers⟩
  have hread : readText .strict (render style v) = .ok v := by
    unfold readText render
    rw [String.toList_ofList]
    exact readChars_write hstyle .strict hwritable hlegible.distinctNames
      (nestedWithin_mono hlevels (by decide))
  refine ⟨render style v, ?_, ?_⟩
  · unfold print
    rw [hwritable]
  · unfold Value.parse
    rw [hread]

theorem legible_of_parse {text : String} {v : Value} (h : Value.parse text = .ok v) : v.Legible := by
  unfold Value.parse at h
  split at h
  · next hread =>
    cases h
    exact legible_of_readChars hread
  · cases h
  · cases h

/-- **A value is the value of its text.**  Whatever has finite numbers, integers of at most 4300 digits
and objects without a name twice and is nested at most a thousand levels deep is written in either style,
and reading gives it back.  The text on one line is a normal form of all the texts of a value: it is
written for whatever one of them gives, and again for what it gives itself. -/
theorem parse_print :
    (∀ v : Value, v.isFinite = true → v.distinctNames = true → v.shortIntegers = true →
      v.nestedWithin 1000 = true → ∀ style ∈ [compact, indented],
        ∃ text, print style v = .ok text ∧ Value.parse text = .ok v) ∧
    (∀ (text : String) (v : Value), Value.parse text = .ok v → v.isFinite = true →
      v.nestedWithin 1000 = true →
        ∃ normal, print compact v = .ok normal ∧ Value.parse normal = .ok v ∧
          ∀ again, Value.parse normal = .ok again → print compact again = .ok normal) := by
  constructor
  · intro v hfinite hnames hshort hlevels style hstyle
    have hblank : style.Blank := by
      rcases List.mem_cons.mp hstyle with rfl | hstyle
      · exact blank_compact
      · rw [List.mem_singleton.mp hstyle]
        exact blank_indented
    exact parse_print_of_blank hblank hfinite ⟨hnames, hshort⟩ hlevels
  · intro text v htext hfinite hlevels
    have hlegible : v.Legible := legible_of_parse htext
    obtain ⟨normal, hprint, hparse⟩ := parse_print_of_blank blank_compact hfinite hlegible hlevels
    refine ⟨normal, hprint, hparse, fun again hagain => ?_⟩
    rw [Except.ok.inj (hagain.symm.trans hparse)]
    exact hprint

/-- A value with numbers of either kind, an escape and empty parts. -/
def sample : Value :=
  .object [("\"k\n", .array [.int (-12), .double (.finite true 0), .array []]),
    ("", .object [("k", .string "\x01\u2028")])]

/-- The theorem at a value with numbers of either kind, escapes and empty parts. -/
theorem parse_print_sample :
    ∃ text, print compact sample = .ok text ∧ Value.parse text = .ok sample ∧
      ∃ normal, print compact sample = .ok normal ∧ Value.parse normal = .ok sample ∧
        ∀ again, Value.parse normal = .ok again → print compact again = .ok normal := by
  obtain ⟨text, hprint, hparse⟩ := parse_print.1 sample (by decide) (by decide) (by decide +kernel) (by decide)
    compact List.mem_cons_self
  exact ⟨text, hprint, hparse, parse_print.2 text sample hparse (by decide) (by decide)⟩

end Json

end ToolWeave
