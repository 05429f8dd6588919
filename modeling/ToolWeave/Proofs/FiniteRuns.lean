import ToolWeave.Proofs.RoundTrip
import ToolWeave.Proofs.Service
import ToolWeave.Proofs.Shapes

/-!
# Programs with finite numbers

What a tool gives is a JSON value, whatever it has been given.  So a number that is not finite can be in the
value of a program only if it is written in the program (`Run.isFinite_of_program`).

## Main definitions

* `Run.Gives`: all values of a run have a property.
-/

namespace ToolWeave

/-! ### Runs -/

/-- Whatever a run gives has a property. -/
def Run.Gives {α : Type} (P : α → Prop) (run : Run α) : Prop :=
  ∀ world a, (run world).1 = .ok a → P a

namespace Run.Gives

variable {α β : Type} {P : α → Prop} {Q : β → Prop}

theorem pure {a : α} (h : P a) : Gives P (Pure.pure a) := by
  rintro world _ ⟨⟩
  exact h

theorem fail (e : ToolError) : Gives P (throw e) := nofun

theorem bind {x : Run α} {f : α → Run β} (hx : Gives P x) (hf : ∀ a, P a → Gives Q (f a)) :
    Gives Q (x >>= f) := by
  intro world b hb
  rw [bind_apply] at hb
  rcases hrun : x world with ⟨e | a, between⟩
  · rw [hrun] at hb
    cases hb
  · rw [hrun] at hb
    exact hf a (hx world a (congrArg Prod.fst hrun)) between b hb

/-- The value of a second part does not depend on what the first part gives. -/
theorem after {x : Run α} {f : α → Run β} (hf : ∀ a, Gives Q (f a)) : Gives Q (x >>= f) :=
  bind (P := fun _ => True) (fun _ _ _ => trivial) fun a _ => hf a

theorem inside (outer : Environment) (constants : Fields) {x : Run α} (hx : Gives P x) :
    Gives P (Run.inside outer constants x) := fun world => hx (world.enter outer constants)

end Run.Gives

/-! ### Forms -/

/-- All invocations give JSON values. -/
structure Reach.Finite (reach : Reach) : Prop where
  call : ∀ tool input, Run.Gives (·.isFinite = true) (reach.call tool input)
  again : ∀ starter tool input, Run.Gives (·.isFinite = true) (reach.again starter tool input)

namespace Form

open Run

variable {reach : Reach}

theorem runSequence_finite {items : List Form} (h : ∀ item ∈ items, Gives (·.isFinite = true) (item.run reach))
    {before : Value} (hbefore : before.isFinite = true) :
    Gives (·.isFinite = true) (runSequence reach before items) := by
  induction items generalizing before with
  | nil => exact .pure hbefore
  | cons item rest ih =>
    obtain ⟨hitem, hrest⟩ := List.forall_mem_cons.mp h
    exact hitem.bind fun value hvalue => ih hrest hvalue

theorem runItems_finite {items : List Form} (h : ∀ item ∈ items, Gives (·.isFinite = true) (item.run reach)) :
    Gives (Value.allFinite · = true) (runItems reach items) := by
  induction items with
  | nil => exact .pure rfl
  | cons item rest ih =>
    obtain ⟨hitem, hrest⟩ := List.forall_mem_cons.mp h
    exact hitem.bind fun value hvalue => (ih hrest).bind fun values hvalues =>
      .pure (Bool.and_eq_true_iff.mpr ⟨hvalue, hvalues⟩)

theorem runFields_finite {fields : List (String × Form)}
    (h : ∀ entry ∈ fields, Gives (·.isFinite = true) (entry.2.run reach)) :
    Gives (Value.fieldsFinite · = true) (runFields reach fields) := by
  induction fields with
  | nil => exact .pure rfl
  | cons entry rest ih =>
    obtain ⟨hitem, hrest⟩ := List.forall_mem_cons.mp h
    exact hitem.bind fun value hvalue => (ih hrest).bind fun values hvalues =>
      .pure (Bool.and_eq_true_iff.mpr ⟨hvalue, hvalues⟩)

variable (hreach : reach.Finite)

include hreach

theorem calling_finite (name : String) (unbound : ToolError) (input : Value) :
    Gives (·.isFinite = true) (do
      match ← Run.lookup name with
      | none => throw unbound
      | some tool =>
        Run.checkScopes
        reach.call tool input) := by
  refine .after fun found => ?_
  cases found with
  | none => exact .fail unbound
  | some tool => exact .after fun _ => hreach.call tool input

/-- An object that has a shape, both readings of whose fields are fine. -/
theorem ofShape_finite (shape : Shape) {fields : Fields} (hfields : ∀ entry ∈ fields, entry.2.isFinite = true)
    (hparts : ∀ entry ∈ fields, Gives (·.isFinite = true) ((readings entry.2).program.run reach)) :
    Gives (·.isFinite = true) ((ofShape shape fields (fieldReadings fields)).run reach) := by
  have hprogram (name : String) : Gives (·.isFinite = true) ((programIn name (fieldReadings fields)).run reach) := by
    unfold programIn
    rw [get?_fieldReadings]
    cases hfound : Entries.get? name fields with
    | none => exact .pure rfl
    | some content => exact hparts _ (Entries.mem_of_get? hfound)
  -- what is invoked gives JSON values anyway, so only what the program spells out needs its hypothesis
  cases shape with
  | reference => exact calling_finite hreach _ _ _
  | call => exact .after fun input => calling_finite hreach _ _ input
  | sequence => exact hprogram "do"
  | binding => exact .after fun value => .after fun env => .inside env _ (hprogram "in")
  | definition =>
    refine .after fun found => ?_
    cases found with
    | none => exact .fail _
    | some tool => exact .after fun _ => hreach.again .definition tool _
  | quote =>
    refine .pure ?_
    cases hfound : Entries.get? "quote" fields with
    | none => rfl
    | some content => exact hfields _ (Entries.mem_of_get? hfound)

/-- A JSON value gives a JSON value in both positions. -/
theorem readings_finite {v : Value} (hv : v.isFinite = true) :
    Gives (·.isFinite = true) ((readings v).program.run reach) ∧
      Gives (·.isFinite = true) ((readings v).data.run reach) := by
  induction v using Value.induction with
  | array items ih =>
    have hitems : ∀ item ∈ items, item.isFinite = true := Json.allFinite_iff.mp hv
    rw [readings, itemReadings_eq_map]
    dsimp only
    constructor
    · refine runSequence_finite (fun form hform => ?_) rfl
      rw [List.map_map] at hform
      obtain ⟨item, hitem, rfl⟩ := List.mem_map.mp hform
      exact (ih item hitem (hitems item hitem)).1
    · unfold ofItems
      split
      · exact .pure hv
      · refine (runItems_finite fun form hform => ?_).bind fun values hvalues => .pure hvalues
        rw [List.map_map] at hform
        obtain ⟨item, hitem, rfl⟩ := List.mem_map.mp hform
        exact (ih item hitem (hitems item hitem)).2
  | object fields ih =>
    have hfields : ∀ entry ∈ fields, entry.2.isFinite = true := Json.fieldsFinite_iff.mp hv
    have hparts := fun entry hentry => ih entry hentry (hfields entry hentry)
    rw [readings]
    split
    · next shape _ =>
      have hshape := ofShape_finite hreach shape hfields fun entry hentry => (hparts entry hentry).1
      exact ⟨hshape, hshape⟩
    · -- without a shape an object is read alike in both positions
      have hcontents : Gives (·.isFinite = true) ((ofContents fields (fieldReadings fields)).run reach) := by
        unfold ofContents
        split
        · exact .pure hv
        · rw [fieldReadings_eq_map, List.map_map]
          refine (runFields_finite fun entry hentry => ?_).bind fun values hvalues => .pure hvalues
          obtain ⟨field, hfield, rfl⟩ := List.mem_map.mp hentry
          exact (hparts field hfield).2
      exact ⟨hcontents, hcontents⟩
  | _ => exact ⟨.pure hv, .pure hv⟩

end Form

namespace Run

theorem reach_finite (room limit left : Nat) : (Run.reach room limit left).Finite where
  call tool input world value h := by
    cases left with
    | zero => cases h
    | succ left => exact isFinite_of_invokeAt h
  again starter tool input world value h := isFinite_of_invokeAt h

/-- **A program with finite numbers gives finite numbers.** -/
theorem isFinite_of_program {limit : Nat} {program value : Value} {world : World} (hprogram : program.isFinite = true)
    (h : (Run.program limit program world).1 = .ok value) : value.isFinite = true := by
  have hgives : Gives (·.isFinite = true) (Run.program limit program) := by
    unfold Run.program evaluate
    split
    · exact (Form.readings_finite (reach_finite reentries limit limit) hprogram).1
    · exact .fail _
  exact hgives world value h

end Run

end ToolWeave
