import ToolWeave.Proofs.NumberText

/-!
# What readers give

A value is read from text or made by tools, and two things are the same of all of these: no two fields
of an object share a name, for the one that comes second takes the place of the first, and an integer in
text has no more digits than the limit.  Here it is shown of the readers
(`Json.legible_of_readChars`).  They differ only in names of numbers that are not finite
(`Json.stricter_readChars`).

## Main definitions

* `Value.everywhere`: a check passes on a value and on everything inside.
* `Value.distinctNames`, `Value.shortIntegers`: the two checks.
* `Json.Stricter`: one reading is another one, or stops at such a name.
-/

namespace ToolWeave

/-- Whether a number is no integer with more digits than JSON text may have. -/
def Number.isShort : Number → Bool
  | int i => decide (i.natAbs < Nat.pow 10 Json.digitLimit)
  | double _ => true

namespace Value

/-! ### Checks on everything inside -/

mutual

/-- Whether a check passes on a value and on everything inside. -/
def everywhere (check : Value → Bool) : Value → Bool
  | array items => check (array items) && everywhereItems check items
  | object fields => check (object fields) && everywhereFields check fields
  | v => check v

/-- Whether a check passes on the items and on everything inside. -/
def everywhereItems (check : Value → Bool) : List Value → Bool
  | [] => true
  | item :: rest => everywhere check item && everywhereItems check rest

/-- Whether a check passes on the contents of fields and on everything inside. -/
def everywhereFields (check : Value → Bool) : List (String × Value) → Bool
  | [] => true
  | (_, content) :: rest => everywhere check content && everywhereFields check rest

end

section Everywhere

variable {check : Value → Bool}

theorem everywhereItems_iff {items : List Value} :
    everywhereItems check items = true ↔ ∀ item ∈ items, everywhere check item = true := by
  induction items with
  | nil => simp [everywhereItems]
  | cons item rest ih => rw [everywhereItems, Bool.and_eq_true, ih, List.forall_mem_cons]

theorem everywhereFields_iff {fields : Fields} :
    everywhereFields check fields = true ↔ ∀ entry ∈ fields, everywhere check entry.2 = true := by
  induction fields with
  | nil => simp [everywhereFields]
  | cons entry rest ih => rw [everywhereFields, Bool.and_eq_true, ih, List.forall_mem_cons]

theorem everywhere_array {items : List Value} : everywhere check (array items) = true ↔
    check (array items) = true ∧ ∀ item ∈ items, everywhere check item = true := by
  rw [everywhere, Bool.and_eq_true, everywhereItems_iff]

theorem everywhere_object {fields : Fields} : everywhere check (object fields) = true ↔
    check (object fields) = true ∧ ∀ entry ∈ fields, everywhere check entry.2 = true := by
  rw [everywhere, Bool.and_eq_true, everywhereFields_iff]

end Everywhere

/-- Whether the fields of every object have different names. -/
def distinctNames : Value → Bool :=
  everywhere fun
    | object fields => decide (Entries.names fields).Nodup
    | _ => true

theorem distinctNames_array {items : List Value} :
    (array items).distinctNames = true ↔ ∀ item ∈ items, item.distinctNames = true := by
  unfold distinctNames
  rw [everywhere_array]
  exact and_iff_right rfl

theorem distinctNames_object {fields : Fields} : (object fields).distinctNames = true ↔
    (Entries.names fields).Nodup ∧ ∀ entry ∈ fields, entry.2.distinctNames = true := by
  unfold distinctNames
  rw [everywhere_object, decide_eq_true_iff]

/-- Whether every integer has at most as many digits as JSON text may have. -/
def shortIntegers : Value → Bool :=
  everywhere fun
    | number n => n.isShort
    | _ => true

theorem shortIntegers_number {n : Number} : (number n).shortIntegers = n.isShort := rfl

theorem shortIntegers_array {items : List Value} :
    (array items).shortIntegers = true ↔ ∀ item ∈ items, item.shortIntegers = true := by
  unfold shortIntegers
  rw [everywhere_array]
  exact and_iff_right rfl

theorem shortIntegers_object {fields : Fields} :
    (object fields).shortIntegers = true ↔ ∀ entry ∈ fields, entry.2.shortIntegers = true := by
  unfold shortIntegers
  rw [everywhere_object]
  exact and_iff_right rfl

/-- What holds of every value that is read. -/
structure Legible (v : Value) : Prop where
  distinctNames : v.distinctNames = true
  shortIntegers : v.shortIntegers = true

end Value

/-! ### Names -/

namespace Entries

variable {α : Type} {name : String} {content : α} {entries : Entries α}

/-- A name that is new goes last. -/
theorem put_of_not_mem (h : name ∉ names entries) :
    put name content entries = entries ++ [(name, content)] := by
  induction entries with
  | nil => rfl
  | cons entry rest ih =>
    obtain ⟨key, old⟩ := entry
    have hne : key ≠ name ∧ name ∉ names rest := by
      simpa [names, eq_comm] using h
    rw [put, if_neg hne.1, ih hne.2, List.cons_append]

/-- A name that is there keeps its place. -/
theorem names_put_of_mem (h : name ∈ names entries) : names (put name content entries) = names entries := by
  induction entries with
  | nil => cases h
  | cons entry rest ih =>
    obtain ⟨key, old⟩ := entry
    rw [put]
    split
    · rfl
    · next hne =>
      have hrest : name ∈ names rest := (List.mem_cons.mp h).resolve_left (Ne.symm hne)
      exact congrArg (key :: ·) (ih hrest)

/-- Putting keeps the names different. -/
theorem nodup_put (name : String) (content : α) (h : (names entries).Nodup) : (names (put name content entries)).Nodup := by
  by_cases hmem : name ∈ names entries
  · rw [names_put_of_mem hmem]
    exact h
  · rw [put_of_not_mem hmem, names, List.map_append]
    refine List.nodup_append.mpr ⟨h, List.pairwise_singleton _ _, fun key hkey other hother heq => hmem ?_⟩
    rw [show name = key from (heq.trans (List.mem_singleton.mp hother)).symm]
    exact hkey

end Entries

namespace Number

/-- Digits after a number below a bound spell a number below the bound moved up by their count. -/
theorem ofDigitChars_lt {digits : List Char} (h : AllDigits digits) {before bound : Nat}
    (hbefore : before < bound) :
    Nat.ofDigitChars 10 digits before < bound * 10 ^ digits.length := by
  induction digits generalizing before bound with
  | nil => simpa using hbefore
  | cons c digits ih =>
    have hdigit : c.toNat ≤ 57 := by
      have hc := h c List.mem_cons_self
      rw [Char.isDigit_iff_toNat] at hc
      exact hc.2
    rw [Nat.ofDigitChars_cons, List.length_cons, Nat.pow_succ', ← Nat.mul_assoc]
    refine ih (fun c hc => h c (List.mem_cons_of_mem _ hc)) ?_
    have hzero : '0'.toNat = 48 := rfl
    omega

theorem natOfDigits_lt {digits : List Char} (h : AllDigits digits) {limit : Nat}
    (hlength : digits.length ≤ limit) : natOfDigits digits < Nat.pow 10 limit := by
  rw [natOfDigits_eq]
  have hlt := ofDigitChars_lt h Nat.zero_lt_one
  rw [Nat.one_mul] at hlt
  exact hlt.trans_le (Nat.pow_le_pow_right (by decide) hlength)

end Number

namespace Json

open Number

/-! ### Readers -/

section Readers

variable {dialect : Dialect} {turns : Nat} {cs rest : List Char} {v : Value}

/-- A reader gives legible values. -/
def GivesLegible (reader : List Char → Reading Value) : Prop :=
  ∀ {cs v rest}, reader cs = .ok (v, rest) → v.Legible

/-- The whole part of a number consists of digits. -/
theorem allDigits_of_wholePart? {whole : List Char} (h : wholePart? cs = some (whole, rest)) :
    AllDigits whole := by
  unfold wholePart? at h
  split at h
  · cases h
    exact allDigits_zeros 1
  · split at h
    · cases h
      intro c hc
      exact List.all_eq_true.mp List.all_takeWhile c hc
    · cases h
  · cases h

theorem natAbs_integerOf (negative : Bool) (digits : List Char) :
    (integerOf negative digits).natAbs = natOfDigits digits := by
  unfold integerOf
  dsimp only
  split
  · rw [Int.natAbs_neg, Int.natAbs_natCast]
  · rw [Int.natAbs_natCast]

/-- An integer that is read is short. -/
theorem natAbs_lt_of_readMagnitude? {negative : Bool} {i : Int}
    (h : readMagnitude? negative cs = some (.ok (.int i, rest))) : i.natAbs < Nat.pow 10 digitLimit := by
  obtain ⟨⟨whole, after⟩, hwhole, hread⟩ := Option.map_eq_some_iff.mp h
  dsimp only at hread
  split at hread
  · cases hread
  · split at hread
    · split at hread
      · cases hread
      · next hlength =>
        cases hread
        rw [natAbs_integerOf]
        exact natOfDigits_lt (allDigits_of_wholePart? hwhole) (Nat.not_lt.mp hlength)
    · cases hread

theorem isShort_of_readMagnitude? {negative : Bool} {n : Number}
    (h : readMagnitude? negative cs = some (.ok (n, rest))) : n.isShort = true := by
  cases n with
  | int i =>
    unfold Number.isShort
    exact decide_eq_true (natAbs_lt_of_readMagnitude? h)
  | double d => rfl

theorem legible_of_readNumber (h : readNumber cs = .ok (v, rest)) : v.Legible := by
  unfold readNumber at h
  dsimp only at h
  split at h
  · next n after hfound =>
    cases h
    refine ⟨rfl, ?_⟩
    rw [Value.shortIntegers_number]
    split at hfound
    · exact isShort_of_readMagnitude? hfound
    · exact isShort_of_readMagnitude? hfound
  · cases h
  · cases h

theorem legible_of_readItems {item : List Char → Reading Value} (hitem : GivesLegible item)
    {read items : List Value} (hread : ∀ v ∈ read, v.Legible)
    (h : readItems item turns read cs = .ok (items, rest)) : ∀ v ∈ items, v.Legible := by
  induction turns generalizing read cs with
  | zero => cases h
  | succ turns ih =>
    unfold readItems at h
    split at h
    · cases h
    · next v after hv =>
      have hmore : ∀ w ∈ v :: read, w.Legible := List.forall_mem_cons.mpr ⟨hitem hv, hread⟩
      split at h
      · exact ih hmore h
      · cases h
        exact fun w hw => hmore w (List.mem_reverse.mp hw)
      · cases h

/-- Reading fields puts one field and goes on, or puts the last one. -/
theorem readFields_cases {content : List Char → Reading Value} {read fields : Fields}
    (h : readFields content (turns + 1) read cs = .ok (fields, rest)) :
    ∃ name v before after, content before = .ok (v, after) ∧
      (fields = Entries.put name v read ∨
        ∃ next, readFields content turns (Entries.put name v read) next = .ok (fields, rest)) := by
  rcases cs with _ | ⟨c, cs⟩
  · cases h
  by_cases hc : c = '"'
  · subst hc
    rw [readFields] at h
    split at h
    · cases h
    · next name _ _ =>
      split at h
      · split at h
        · cases h
        · next v after hv =>
          refine ⟨String.ofList name, v, _, after, hv, ?_⟩
          dsimp only at h
          split at h
          · exact .inr ⟨_, h⟩
          · cases h
            exact .inl rfl
          · cases h
      · cases h
  · rw [readFields] at h
    · cases h
    · exact fun _ _ _ heq => hc (List.cons.inj heq).1

theorem legible_of_readFields {content : List Char → Reading Value} (hcontent : GivesLegible content)
    {read fields : Fields} (hnames : (Entries.names read).Nodup) (hread : ∀ entry ∈ read, entry.2.Legible)
    (h : readFields content turns read cs = .ok (fields, rest)) :
    (Entries.names fields).Nodup ∧ ∀ entry ∈ fields, entry.2.Legible := by
  induction turns generalizing read cs with
  | zero => cases h
  | succ turns ih =>
    -- a field that is read again takes the place of the former one, so names stay distinct
    obtain ⟨name, v, before, after, hv, hmore⟩ := readFields_cases h
    have hnames' := Entries.nodup_put name v hnames
    have hread' : ∀ entry ∈ Entries.put name v read, entry.2.Legible := by
      intro entry hentry
      rcases Entries.mem_of_mem_put hentry with hentry | rfl
      · exact hread entry hentry
      · exact hcontent hv
    rcases hmore with rfl | ⟨next, hnext⟩
    · exact ⟨hnames', hread'⟩
    · exact ih hnames' hread' hnext

theorem legible_of_readArray {item : List Char → Reading Value} (hitem : GivesLegible item)
    (h : readArray item turns cs = .ok (v, rest)) : v.Legible := by
  unfold readArray at h
  split at h
  · cases h
    exact ⟨rfl, rfl⟩
  · split at h
    · cases h
    · next items _ hitems =>
      cases h
      have hlegible := legible_of_readItems hitem (fun _ hv => absurd hv List.not_mem_nil) hitems
      exact ⟨Value.distinctNames_array.mpr fun v hv => (hlegible v hv).distinctNames,
        Value.shortIntegers_array.mpr fun v hv => (hlegible v hv).shortIntegers⟩

theorem legible_of_readObject {content : List Char → Reading Value} (hcontent : GivesLegible content)
    (h : readObject content turns cs = .ok (v, rest)) : v.Legible := by
  unfold readObject at h
  split at h
  · cases h
    exact ⟨rfl, rfl⟩
  · split at h
    · cases h
    · next fields _ hfields =>
      cases h
      have hnone : (Entries.names ([] : Fields)).Nodup := List.Pairwise.nil
      obtain ⟨hnames, hlegible⟩ := legible_of_readFields hcontent hnone
        (fun _ hentry => absurd hentry List.not_mem_nil) hfields
      exact ⟨Value.distinctNames_object.mpr ⟨hnames, fun entry hentry =>
          (hlegible entry hentry).distinctNames⟩,
        Value.shortIntegers_object.mpr fun entry hentry => (hlegible entry hentry).shortIntegers⟩

theorem legible_constant {name : String} {d : Double} (h : dialect.constant name d cs = .ok (v, rest)) :
    v.Legible := by
  cases dialect with
  | strict => cases h
  | lenient =>
    cases h
    exact ⟨rfl, rfl⟩

theorem legible_of_readWith {inner : Option (List Char → Reading Value)}
    (hinner : ∀ reader, inner = some reader → GivesLegible reader)
    (h : readWith dialect turns inner cs = .ok (v, rest)) : v.Legible := by
  unfold readWith at h
  split at h
  · split at h
    · cases h
    · cases h
      exact ⟨rfl, rfl⟩
  · split at h
    · cases h
    · exact legible_of_readArray (hinner _ rfl) h
  · split at h
    · cases h
    · exact legible_of_readObject (hinner _ rfl) h
  · cases h
    exact ⟨rfl, rfl⟩
  · cases h
    exact ⟨rfl, rfl⟩
  · cases h
    exact ⟨rfl, rfl⟩
  · exact legible_constant h
  · exact legible_constant h
  · exact legible_constant h
  · exact legible_of_readNumber h

theorem legible_of_readValue {levels : Nat} : GivesLegible (readValue dialect turns levels) := by
  induction levels with
  | zero => exact fun h => legible_of_readWith (fun _ hnone => by cases hnone) h
  | succ levels ih =>
    refine fun h => legible_of_readWith (fun reader hreader => ?_) h
    cases hreader
    exact ih

end Readers

/-- **Values that are read are legible.**  This holds in either dialect. -/
theorem legible_of_readChars {dialect : Dialect} {cs : List Char} {v : Value}
    (h : readChars dialect cs = .ok v) : v.Legible := by
  unfold readChars at h
  split at h
  · cases h
  · split at h
    · cases h
    · next hv =>
      split at h
      · cases h
        exact legible_of_readValue hv
      · cases h

/-! ### The dialects -/

/-- Of two ways to read a text the first one gives what the second one gives, unless it stops at the name of a number
that is not finite. -/
def Stricter {α : Type} (strict lenient : Except Fault α) : Prop :=
  strict = lenient ∨ ∃ name, strict = .error (.constant name)

theorem Stricter.refl {α : Type} (x : Except Fault α) : Stricter x x := .inl rfl

section Dialects

variable {item other : List Char → Reading Value} (h : ∀ cs, Stricter (item cs) (other cs))

include h

theorem stricter_readItems (turns : Nat) (read : List Value) (cs : List Char) :
    Stricter (readItems item turns read cs) (readItems other turns read cs) := by
  induction turns generalizing read cs with
  | zero => exact .refl _
  | succ turns ih =>
    rw [readItems, readItems]
    rcases h cs with heq | ⟨name, hname⟩
    · rw [heq]
      cases other cs with
      | error fault => exact .refl _
      | ok found =>
        obtain ⟨v, rest⟩ := found
        dsimp only
        split
        · exact ih _ _
        · exact .refl _
        · exact .refl _
    · rw [hname]
      exact .inr ⟨name, rfl⟩

theorem stricter_readArray (turns : Nat) (cs : List Char) :
    Stricter (readArray item turns cs) (readArray other turns cs) := by
  unfold readArray
  split
  · exact .refl _
  · rcases stricter_readItems h turns [] (skip cs) with heq | ⟨name, hname⟩
    · rw [heq]
      exact .refl _
    · rw [hname]
      exact .inr ⟨name, rfl⟩

theorem stricter_readFields (turns : Nat) (read : Fields) (cs : List Char) :
    Stricter (readFields item turns read cs) (readFields other turns read cs) := by
  induction turns generalizing read cs with
  | zero => exact .refl _
  | succ turns ih =>
    by_cases hcs : ∃ more, cs = '"' :: more
    · obtain ⟨more, rfl⟩ := hcs
      rw [readFields, readFields]
      split
      · exact .refl _
      · split
        · next rest _ =>
          rcases h (skip rest) with heq | ⟨name, hname⟩
          · rw [heq]
            cases other (skip rest) with
            | error fault => exact .refl _
            | ok found =>
              obtain ⟨v, rest⟩ := found
              dsimp only
              split
              · exact ih _ _
              · exact .refl _
              · exact .refl _
          · rw [hname]
            exact .inr ⟨name, rfl⟩
        · exact .refl _
    · rw [readFields, readFields]
      · exact .refl _
      · exact fun _ more _ heq => hcs ⟨more, heq⟩
      · exact fun _ more _ heq => hcs ⟨more, heq⟩

theorem stricter_readObject (turns : Nat) (cs : List Char) :
    Stricter (readObject item turns cs) (readObject other turns cs) := by
  unfold readObject
  split
  · exact .refl _
  · rcases stricter_readFields h turns [] (skip cs) with heq | ⟨name, hname⟩
    · rw [heq]
      exact .refl _
    · rw [hname]
      exact .inr ⟨name, rfl⟩

end Dialects

theorem stricter_constant (name : String) (d : Double) (rest : List Char) :
    Stricter (Dialect.strict.constant name d rest) (Dialect.lenient.constant name d rest) := .inr ⟨name, rfl⟩

theorem stricter_readWith {inner : Option (List Char → Reading Value)} {outer : Option (List Char → Reading Value)}
    (h : inner = none ∧ outer = none ∨
      ∃ item other, inner = some item ∧ outer = some other ∧ ∀ cs, Stricter (item cs) (other cs))
    (turns : Nat) (cs : List Char) : Stricter (readWith .strict turns inner cs) (readWith .lenient turns outer cs) := by
  unfold readWith
  split
  · exact .refl _
  · rcases h with ⟨rfl, rfl⟩ | ⟨item, other, rfl, rfl, h⟩
    · exact .refl _
    · exact stricter_readArray h turns _
  · rcases h with ⟨rfl, rfl⟩ | ⟨item, other, rfl, rfl, h⟩
    · exact .refl _
    · exact stricter_readObject h turns _
  · exact .refl _
  · exact .refl _
  · exact .refl _
  · exact stricter_constant ..
  · exact stricter_constant ..
  · exact stricter_constant ..
  · exact .refl _

theorem stricter_readValue (turns levels : Nat) (cs : List Char) :
    Stricter (readValue .strict turns levels cs) (readValue .lenient turns levels cs) := by
  induction levels generalizing cs with
  | zero => exact stricter_readWith (.inl ⟨rfl, rfl⟩) turns cs
  | succ levels ih => exact stricter_readWith (.inr ⟨_, _, rfl, rfl, ih⟩) turns cs

/-- **The dialects differ in names of numbers only.** -/
theorem stricter_readChars (cs : List Char) : Stricter (readChars .strict cs) (readChars .lenient cs) := by
  unfold readChars
  split
  · exact .refl _
  · rcases stricter_readValue cs.length nestingLimit (skip cs) with heq | ⟨name, hname⟩
    · rw [heq]
      exact .refl _
    · rw [hname]
      exact .inr ⟨name, rfl⟩

end Json

end ToolWeave
