import ToolWeave.Proofs.DirectSemantics

/-!
# Data without forms evaluates to itself

The parser calls a value literal if nothing in it was read as anything but itself.  What that means for the
JSON is said here without the parser: a value is free of forms if no object anywhere inside says a phrase.
Literal are exactly the values free of forms that are no arrays (`Value.isLiteral_iff`), since an array is a
sequence where a program is expected.  In data position an array may be free of forms too, and stands for
itself like everything else that is (`Form.run_parseData_of_formFree`).

A literal evaluates to itself: no tool is invoked and the state is the same afterwards.  Only one that is nested
more deeply than programs may be is refused, as all such programs are (`Value.literals_stand`).

## Main definitions

* `Value.Within`: a value stands somewhere inside another one.
* `Value.FormFree`: no object inside a value says a phrase.
-/

namespace ToolWeave

namespace Value

/-- A value stands inside another one: it is that value, or stands inside of an item or of the content of a
field. -/
inductive Within (v : Value) : Value → Prop
  | self : Within v v
  | item {item : Value} {items : List Value} (hitem : item ∈ items) (h : Within v item) :
      Within v (array items)
  | content {entry : String × Value} {fields : Fields} (hentry : entry ∈ fields) (h : Within v entry.2) :
      Within v (object fields)

/-- No object inside a value has the fields and contents of a form. -/
def FormFree (v : Value) : Prop := ∀ fields, Within (object fields) v → ∀ phrase, ¬ Phrase.Says fields phrase

theorem Scalar.formFree {v : Value} (h : v.Scalar) : v.FormFree := by
  intro fields hwithin
  cases h <;> cases hwithin

theorem formFree_array {items : List Value} : (array items).FormFree ↔ ∀ item ∈ items, item.FormFree := by
  constructor
  · intro h item hitem fields hwithin
    exact h fields (.item hitem hwithin)
  · intro h fields hwithin
    cases hwithin with
    | item hitem hwithin => exact h _ hitem fields hwithin

theorem formFree_object {fields : Fields} :
    (object fields).FormFree ↔
      (∀ phrase, ¬ Phrase.Says fields phrase) ∧ ∀ entry ∈ fields, entry.2.FormFree := by
  constructor
  · intro h
    refine ⟨h fields .self, ?_⟩
    intro entry hentry inner hwithin
    exact h inner (.content hentry hwithin)
  · rintro ⟨hsilent, hcontents⟩ inner hwithin
    cases hwithin with
    | self => exact hsilent
    | content hentry hwithin => exact hcontents _ hentry inner hwithin

end Value

/-! ### What the parser keeps -/

namespace Form

theorem isLiteral_ofItems (items : List Value) (rs : List Readings) :
    (ofItems items rs).isLiteral = rs.all fun reading => reading.data.isLiteral := by
  unfold ofItems
  split
  · next hall => exact hall.symm
  · next hall => exact (Bool.not_eq_true _ ▸ hall).symm

theorem isLiteral_ofContents (fields : Fields) (rs : Entries Readings) :
    (ofContents fields rs).isLiteral = rs.all fun entry => entry.2.data.isLiteral := by
  unfold ofContents
  split
  · next hall => exact hall.symm
  · next hall => exact (Bool.not_eq_true _ ▸ hall).symm

/-- In data position a value is kept as a literal exactly if it is free of forms. -/
theorem isLiteral_parseData_iff (v : Value) : (parseData v).isLiteral = true ↔ v.FormFree := by
  induction v using Value.induction with
  | array items ih =>
    have hparse : parseData (.array items) = ofItems items (itemReadings items) := rfl
    rw [hparse, isLiteral_ofItems, itemReadings_eq_map, Value.formFree_array]
    simp only [List.all_map, List.all_eq_true]
    exact forall₂_congr ih
  | object fields ih =>
    rw [Value.formFree_object]
    by_cases hsaid : ∃ phrase, Phrase.Says fields phrase
    · -- an object with a form is read as that form, which is never a literal
      obtain ⟨phrase, said⟩ := hsaid
      have hparse : parseData (.object fields) = phrase.form := congrArg Readings.data said.readings
      rw [hparse]
      have hform : phrase.form.isLiteral = false := by cases phrase <;> rfl
      simp only [hform, Bool.false_eq_true, false_iff, not_and]
      intro hsilent
      exact absurd said (hsilent phrase)
    · have hsilent := not_exists.mp hsaid
      have hparse : parseData (.object fields) = ofContents fields (fieldReadings fields) :=
        congrArg Readings.data (Phrase.readings_of_silent hsilent)
      rw [hparse, isLiteral_ofContents, fieldReadings_eq_map]
      simp only [List.all_map, List.all_eq_true, hsilent, not_false_eq_true, implies_true, true_and]
      exact forall₂_congr ih
  | null => exact iff_of_true rfl Value.Scalar.null.formFree
  | bool b => exact iff_of_true rfl (Value.Scalar.bool b).formFree
  | number n => exact iff_of_true rfl (Value.Scalar.number n).formFree
  | string s => exact iff_of_true rfl (Value.Scalar.string s).formFree

/-- A value that is no array is read alike in both positions. -/
theorem parse_eq_parseData {v : Value} (h : ∀ items, v ≠ .array items) : parse v = parseData v := by
  cases v with
  | array items => exact absurd rfl (h items)
  | object fields =>
    by_cases hsaid : ∃ phrase, Phrase.Says fields phrase
    · obtain ⟨phrase, said⟩ := hsaid
      unfold parse parseData
      rw [said.readings]
      rfl
    · unfold parse parseData
      rw [Phrase.readings_of_silent (not_exists.mp hsaid)]
      rfl
  | _ => rfl

/-- Data free of forms stands for itself. -/
theorem run_parseData_of_formFree (reach : Reach) {v : Value} (h : v.FormFree) (world : World) :
    (parseData v).run reach world = (.ok v, world) := by
  rw [eq_literal_of_isLiteral ((isLiteral_parseData_iff v).mpr h), run]
  rfl

end Form

namespace Value

/-- **Literal are the values free of forms that are no arrays.** -/
theorem isLiteral_iff (p : Value) : p.isLiteral = true ↔ (∀ items, p ≠ array items) ∧ p.FormFree := by
  unfold isLiteral
  constructor
  · intro h
    have hnone : ∀ items, p ≠ array items := by
      rintro items rfl
      rw [Form.parse_array] at h
      exact absurd h Bool.false_ne_true
    refine ⟨hnone, ?_⟩
    rwa [Form.parse_eq_parseData hnone, Form.isLiteral_parseData_iff] at h
  · rintro ⟨hnone, hfree⟩
    rwa [Form.parse_eq_parseData hnone, Form.isLiteral_parseData_iff]

/-- A literal is a program that gives the literal, in any state and however it may invoke tools. -/
theorem run_of_isLiteral (reach : Reach) {p : Value} (h : p.isLiteral = true) (world : World) :
    (Form.parse p).run reach world = (.ok p, world) := by
  obtain ⟨hnone, hfree⟩ := (isLiteral_iff p).mp h
  rw [Form.parse_eq_parseData hnone]
  exact Form.run_parseData_of_formFree reach hfree world

/-- **Literals stand for themselves.**  A value is literal exactly if it is no array and no object inside has
the shape of a form.  Then its evaluation gives the value itself, invokes no tool and changes nothing, in
whatever environment, at whatever depth and under whatever scopes; only a literal with more levels than programs
may have is refused.  In data position arrays without forms stand for themselves as well. -/
theorem literals_stand :
    (∀ p : Value, p.isLiteral = true ↔ (∀ items, p ≠ array items) ∧ p.FormFree) ∧
    (∀ (p : Value) (reach : Reach) (world : World), p.isLiteral = true →
      Run.evaluate reach p world =
        if p.nestedWithin programLevels then (.ok p, world)
        else (.error (.toolFailure "program nested too deeply"), world)) ∧
    ∀ (v : Value) (reach : Reach) (world : World), v.FormFree →
      (Form.parseData v).run reach world = (.ok v, world) := by
  refine ⟨isLiteral_iff, ?_, fun v reach world hfree => Form.run_parseData_of_formFree reach hfree world⟩
  intro p reach world hliteral
  unfold Run.evaluate
  split
  · exact run_of_isLiteral reach hliteral world
  · rfl

/-- Data that comes close to forms: a name that is empty, a field too many, a sequence that is none. -/
def nearlyForms : Value :=
  object
    [("a", object [("$", string "")]), ("b", array [object [("call", string "add"), ("then", null)]]),
      ("c", object [("do", null)])]

/-- The theorem at data that comes close to forms, and at a part of it that is an array. -/
theorem literals_stand_nearly :
    nearlyForms.isLiteral = true ∧
      Run.program Run.defaultLimit nearlyForms World.plain = (.ok nearlyForms, World.plain) ∧
      (Form.parseData (array [nearlyForms])).run (Run.top Run.defaultLimit) World.plain =
        (.ok (array [nearlyForms]), World.plain) := by
  obtain ⟨hiff, hevaluate, hdata⟩ := literals_stand
  have hliteral : nearlyForms.isLiteral = true := by decide +kernel
  have hlevels : nearlyForms.nestedWithin programLevels = true := by decide +kernel
  have hrun := hevaluate nearlyForms (Run.top Run.defaultLimit) World.plain hliteral
  rw [if_pos hlevels] at hrun
  refine ⟨hliteral, hrun, hdata _ _ _ (formFree_array.mpr ?_)⟩
  intro item hitem
  rw [List.mem_singleton.mp hitem]
  exact ((hiff nearlyForms).mp hliteral).2

/-- One in so many objects around one another, each the only field of the next. -/
def boxed : Nat → Value
  | 0 => int 1
  | levels + 1 => object [("a", boxed levels)]

theorem nestedWithin_boxed (levels limit : Nat) : (boxed levels).nestedWithin limit = decide (levels ≤ limit) := by
  induction levels generalizing limit with
  | zero => cases limit <;> simp [boxed, nestedWithin, int]
  | succ levels ih =>
    cases limit with
    | zero => simp [boxed, nestedWithin]
    | succ limit => simp [boxed, nestedWithin, ih]

theorem isLiteral_boxed (levels : Nat) : (boxed levels).isLiteral = true := by
  rw [isLiteral_iff]
  constructor
  · intro items
    cases levels <;> simp [boxed, int]
  · induction levels with
    | zero => exact (Scalar.number _).formFree
    | succ levels ih =>
      refine formFree_object.mpr ⟨?_, by simpa using ih⟩
      -- none of the shapes has a field of this name
      have hnone : Shape.ofFields? [("a", boxed levels)] = none := rfl
      intro phrase said
      have hshape := said.ofFields?
      rw [hnone] at hshape
      cases hshape

/-- A literal with more levels than programs may have is refused. -/
theorem literal_refused :
    (boxed 60000).isLiteral = true ∧
      Run.program Run.defaultLimit (boxed 60000) World.plain =
        (.error (.toolFailure "program nested too deeply"), World.plain) := by
  refine ⟨isLiteral_boxed 60000, ?_⟩
  unfold Run.program Run.evaluate
  rw [nestedWithin_boxed, decide_eq_false (by decide), if_neg Bool.false_ne_true]
  rfl

end Value

end ToolWeave
