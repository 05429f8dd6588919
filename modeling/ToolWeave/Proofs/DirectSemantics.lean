import ToolWeave.Evaluation.Invocation
import ToolWeave.Proofs.Runs
import ToolWeave.Proofs.Shapes

/-!
# Programs run like the JSON they are written in

The evaluator parses a program into forms, keeps data without forms as literals, and then runs the
forms.  `Evaluates` says what a program does without any of this: it goes over the raw JSON by
position, one rule for every phrase and every way in which a part may fail.  An array is a sequence
in program position and builds an array in data position; an object that says no phrase is rebuilt
member by member in either position.

`Run.evaluate_iff` shows that the evaluator does exactly what the rules allow.  The state before and
after is compared as a whole: the frames, what was printed and read, and the trace of invocations
with their inputs.

## Design notes

**One relation for every reach.**  The rules do not say what an invoked tool does; they hand it to
the `Reach` that the evaluator is given as well.  Nothing is assumed of it, so the equivalence holds
at every depth of calls.  It holds again for each program that an invoked tool runs in its turn: those
of `eval` and `if` are evaluated with the reach of the tool, and the body of a defined tool is run with
it (`Tool.act_defined_iff`).

**Failures as outcomes.**  A rule for a part that fails ends with the state in which the part failed,
so what was done before the failure stays done.
-/

namespace ToolWeave

/-- Where a value stands in a program. -/
inductive Position where
  /-- An array is a sequence. -/
  | program
  /-- An array builds an array. -/
  | data

/-- How a computation ends. -/
abbrev Outcome (α : Type) : Type := Except ToolError α

/-- The values without members. -/
inductive Value.Scalar : Value → Prop
  | null : Scalar .null
  | bool (b : Bool) : Scalar (.bool b)
  | number (n : Number) : Scalar (.number n)
  | string (s : String) : Scalar (.string s)

/-- An invocation begins once no scope has stopped. -/
inductive Starts (invocation : Run Value) (world : World) : Outcome Value → World → Prop
  | cancelled {e : ToolError} (hcheck : Scope.check world.now world.scopes = .error e) :
      Starts invocation world (.error e) world
  | invoked {outcome : Outcome Value} {after : World}
      (hcheck : Scope.check world.now world.scopes = .ok ())
      (hrun : invocation world = (outcome, after)) :
      Starts invocation world outcome after

mutual

/-- What a raw value does in a position: how it ends in which state. -/
inductive Evaluates (reach : Reach) : Position → Value → World → Outcome Value → World → Prop
  /-- Null, booleans, numbers and strings stand for themselves. -/
  | scalar {position : Position} {v : Value} {world : World} (hv : v.Scalar) :
      Evaluates reach position v world (.ok v) world
  /-- An array in program position is a sequence. -/
  | program {items : List Value} {world after : World} {outcome : Outcome Value}
      (hitems : EvaluatesInTurn reach .null items world outcome after) :
      Evaluates reach .program (.array items) world outcome after
  /-- An array in data position is built. -/
  | array {items : List Value} {world after : World} {outcome : Outcome (List Value)}
      (hitems : EvaluatesItems reach items world outcome after) :
      Evaluates reach .data (.array items) world (outcome.map .array) after
  /-- An object without a shape is rebuilt, its names in the order they have. -/
  | object {position : Position} {fields : Fields} {world after : World}
      {outcome : Outcome Fields} (silent : ∀ phrase, ¬ Phrase.Says fields phrase)
      (hfields : EvaluatesFields reach fields world outcome after) :
      Evaluates reach position (.object fields) world (outcome.map .object) after
  /-- An object that has a shape is what it says, in either position. -/
  | phrase {position : Position} {fields : Fields} {phrase : Phrase} {world after : World}
      {outcome : Outcome Value} (said : Phrase.Says fields phrase)
      (hphrase : EvaluatesPhrase reach phrase world outcome after) :
      Evaluates reach position (.object fields) world outcome after

/-- What a phrase does. -/
inductive EvaluatesPhrase (reach : Reach) : Phrase → World → Outcome Value → World → Prop
  | quote (value : Value) (world : World) :
      EvaluatesPhrase reach (.quote value) world (.ok value) world
  | unbound {name : String} {world : World} (hlookup : world.lookup name = none) :
      EvaluatesPhrase reach (.reference name) world (.error (.unboundName name)) world
  /-- A reference invokes its tool with null. -/
  | reference {name : String} {tool : Tool} {world after : World} {outcome : Outcome Value}
      (hlookup : world.lookup name = some tool)
      (hstarts : Starts (reach.call tool .null) world outcome after) :
      EvaluatesPhrase reach (.reference name) world outcome after
  | inputFails {name : String} {input : Value} {world after : World} {e : ToolError}
      (hinput : Evaluates reach .data input world (.error e) after) :
      EvaluatesPhrase reach (.call name input) world (.error e) after
  /-- The input of a call is evaluated before the name is looked up. -/
  | unknown {name : String} {input value : Value} {world after : World}
      (hinput : Evaluates reach .data input world (.ok value) after)
      (hlookup : after.lookup name = none) :
      EvaluatesPhrase reach (.call name input) world (.error (.unknownTool name)) after
  | call {name : String} {input value : Value} {tool : Tool} {world between after : World}
      {outcome : Outcome Value} (hinput : Evaluates reach .data input world (.ok value) between)
      (hlookup : between.lookup name = some tool)
      (hstarts : Starts (reach.call tool value) between outcome after) :
      EvaluatesPhrase reach (.call name input) world outcome after
  | sequence {items : List Value} {world after : World} {outcome : Outcome Value}
      (hitems : EvaluatesInTurn reach .null items world outcome after) :
      EvaluatesPhrase reach (.sequence items) world outcome after
  | valueFails {name : String} {bound body : Value} {world after : World} {e : ToolError}
      (hbound : Evaluates reach .data bound world (.error e) after) :
      EvaluatesPhrase reach (.binding name bound body) world (.error e) after
  /-- The body runs in a new frame that binds the name to the value, which is left afterwards. -/
  | binding {name : String} {bound body value : Value} {world between after : World}
      {outcome : Outcome Value} (hbound : Evaluates reach .data bound world (.ok value) between)
      (hbody : Evaluates reach .program body (between.enter between.environment [(name, value)])
        outcome after) :
      EvaluatesPhrase reach (.binding name bound body) world outcome
        { after with environment := between.environment }
  | undefinable {name : String} {parameters : List String} {body : Value} {world : World}
      (hlookup : world.lookup "define" = none) :
      EvaluatesPhrase reach (.definition name parameters body) world
        (.error (.unknownTool "define")) world
  /-- A definition is handed, its body as it is, to the tool bound to `define`. -/
  | definition {name : String} {parameters : List String} {body : Value} {tool : Tool}
      {world after : World} {outcome : Outcome Value}
      (hlookup : world.lookup "define" = some tool)
      (hstarts : Starts (reach.again .definition tool
          (.object [("name", .string name), ("parameters", .strings parameters), ("body", body)]))
        world outcome after) :
      EvaluatesPhrase reach (.definition name parameters body) world outcome after

/-- What the items of a sequence do one after the other.  The value is that of the last item, or of
what came before if there is none. -/
inductive EvaluatesInTurn (reach : Reach) :
    Value → List Value → World → Outcome Value → World → Prop
  | nil (before : Value) (world : World) :
      EvaluatesInTurn reach before [] world (.ok before) world
  | fails {before item : Value} {rest : List Value} {world after : World} {e : ToolError}
      (hitem : Evaluates reach .program item world (.error e) after) :
      EvaluatesInTurn reach before (item :: rest) world (.error e) after
  | cons {before item value : Value} {rest : List Value} {world between after : World}
      {outcome : Outcome Value} (hitem : Evaluates reach .program item world (.ok value) between)
      (hrest : EvaluatesInTurn reach value rest between outcome after) :
      EvaluatesInTurn reach before (item :: rest) world outcome after

/-- What the items of an array do from left to right, and the values they give. -/
inductive EvaluatesItems (reach : Reach) :
    List Value → World → Outcome (List Value) → World → Prop
  | nil (world : World) : EvaluatesItems reach [] world (.ok []) world
  | fails {item : Value} {rest : List Value} {world after : World} {e : ToolError}
      (hitem : Evaluates reach .data item world (.error e) after) :
      EvaluatesItems reach (item :: rest) world (.error e) after
  | cons {item value : Value} {rest : List Value} {world between after : World}
      {outcome : Outcome (List Value)}
      (hitem : Evaluates reach .data item world (.ok value) between)
      (hrest : EvaluatesItems reach rest between outcome after) :
      EvaluatesItems reach (item :: rest) world (outcome.map (value :: ·)) after

/-- What the fields of an object do from left to right, and the fields they give. -/
inductive EvaluatesFields (reach : Reach) : Fields → World → Outcome Fields → World → Prop
  | nil (world : World) : EvaluatesFields reach [] world (.ok []) world
  | fails {name : String} {content : Value} {rest : Fields} {world after : World} {e : ToolError}
      (hcontent : Evaluates reach .data content world (.error e) after) :
      EvaluatesFields reach ((name, content) :: rest) world (.error e) after
  | cons {name : String} {content value : Value} {rest : Fields} {world between after : World}
      {outcome : Outcome Fields}
      (hcontent : Evaluates reach .data content world (.ok value) between)
      (hrest : EvaluatesFields reach rest between outcome after) :
      EvaluatesFields reach ((name, content) :: rest) world (outcome.map ((name, value) :: ·)) after

end

/-! ### How forms run -/

namespace Form

/-- Building an array runs its items, also where the parser has kept it as a literal. -/
theorem run_ofItems (reach : Reach) (items : List Value) :
    (ofItems items (items.map readings)).run reach =
      runItems reach (items.map parseData) >>= fun values => pure (.array values) := by
  have hmap : (items.map readings).map Readings.data = items.map parseData := by
    rw [List.map_map]
    rfl
  unfold ofItems
  split
  · next hall =>
    -- every item was kept as a literal, which gives the item itself when it is run
    have hitems : runItems reach (items.map parseData) = pure items := by
      clear hmap
      induction items with
      | nil => rfl
      | cons item rest ih =>
        rw [List.map_cons, List.all_cons, Bool.and_eq_true] at hall
        rw [List.map_cons, eq_literal_of_isLiteral hall.1, runItems, ih hall.2]
        rfl
    rw [hitems]
    rfl
  · rw [hmap]
    rfl

/-- Building an object runs the contents of its fields, also where the parser has kept it as a
literal. -/
theorem run_ofContents (reach : Reach) (fields : Fields) :
    (ofContents fields (fieldReadings fields)).run reach =
      runFields reach (fields.map fun entry => (entry.1, parseData entry.2)) >>=
        fun values => pure (.object values) := by
  have hmap : (fieldReadings fields).map (fun entry => (entry.1, entry.2.data)) =
      fields.map fun entry => (entry.1, parseData entry.2) := by
    rw [fieldReadings_eq_map, List.map_map]
    rfl
  unfold ofContents
  split
  · next hall =>
    have hfields :
        runFields reach (fields.map fun entry => (entry.1, parseData entry.2)) = pure fields := by
      clear hmap
      induction fields with
      | nil => rfl
      | cons entry rest ih =>
        rw [fieldReadings, List.all_cons, Bool.and_eq_true] at hall
        rw [List.map_cons, eq_literal_of_isLiteral hall.1, runFields, ih hall.2]
        rfl
    rw [hfields]
    rfl
  · rw [hmap]
    rfl

end Form

namespace Position

/-- The form of a value in a position. -/
def form : Position → Value → Form
  | program, v => Form.parse v
  | data, v => Form.parseData v

/-- A phrase is the same form in both positions. -/
theorem form_of_says {fields : Fields} {phrase : Phrase} (said : Phrase.Says fields phrase)
    (position : Position) : position.form (.object fields) = phrase.form := by
  cases position with
  | program => exact congrArg Form.Readings.program said.readings
  | data => exact congrArg Form.Readings.data said.readings

/-- An object without a shape is built in both positions. -/
theorem form_of_silent {fields : Fields} (silent : ∀ phrase, ¬ Phrase.Says fields phrase)
    (position : Position) :
    position.form (.object fields) = Form.ofContents fields (Form.fieldReadings fields) := by
  cases position with
  | program => exact congrArg Form.Readings.program (Phrase.readings_of_silent silent)
  | data => exact congrArg Form.Readings.data (Phrase.readings_of_silent silent)

/-- A value without members is a literal in both positions. -/
theorem form_of_scalar {v : Value} (hv : v.Scalar) (position : Position) :
    position.form v = .literal v := by
  cases hv <;> cases position <;> rfl

end Position

theorem Form.run_parseData_array (reach : Reach) (items : List Value) :
    (parseData (.array items)).run reach =
      runItems reach (items.map parseData) >>= fun values => pure (.array values) := by
  rw [← run_ofItems, ← itemReadings_eq_map]
  rfl

/-! ### The rules and the evaluator -/

/-- A begun invocation, as the evaluator runs it. -/
theorem Starts.iff {invocation : Run Value} {world after : World} {outcome : Outcome Value} :
    Starts invocation world outcome after ↔
      (Run.checkScopes >>= fun _ => invocation) world = (outcome, after) := by
  rw [Run.bind_apply, Run.checkScopes_apply]
  constructor
  · intro hstarts
    cases hstarts with
    | cancelled hcheck => rw [hcheck]
    | invoked hcheck hrun => rw [hcheck]; exact hrun
  · intro hrun
    cases hcheck : Scope.check world.now world.scopes with
    | error e =>
      rw [hcheck] at hrun
      cases hrun
      exact .cancelled hcheck
    | ok =>
      rw [hcheck] at hrun
      exact .invoked hcheck hrun

/-- The rules allow for a value, in both positions, what the evaluator does with its form. -/
def Value.Agrees (reach : Reach) (v : Value) : Prop :=
  ∀ (position : Position) (world : World) (outcome : Outcome Value) (after : World),
    Evaluates reach position v world outcome after ↔
      (position.form v).run reach world = (outcome, after)

section Lists

variable {reach : Reach}

theorem evaluatesInTurn_iff {items : List Value} (hitems : ∀ item ∈ items, item.Agrees reach)
    (before : Value) (world : World) (outcome : Outcome Value) (after : World) :
    EvaluatesInTurn reach before items world outcome after ↔
      Form.runSequence reach before (items.map Form.parse) world = (outcome, after) := by
  induction items generalizing before world with
  | nil =>
    constructor
    · intro h
      cases h
      rfl
    · intro h
      cases h
      exact .nil _ _
  | cons item rest ih =>
    obtain ⟨hitem, hrest⟩ := List.forall_mem_cons.mp hitems
    rw [List.map_cons, Form.runSequence, Run.bind_eq_iff]
    constructor
    · intro h
      cases h with
      | fails h => exact .inl ⟨_, (hitem .program _ _ _).mp h, rfl⟩
      | cons h hafter =>
        exact .inr ⟨_, _, (hitem .program _ _ _).mp h, (ih hrest _ _).mp hafter⟩
    · rintro (⟨e, h, rfl⟩ | ⟨value, between, h, hafter⟩)
      · exact .fails ((hitem .program _ _ _).mpr h)
      · exact .cons ((hitem .program _ _ _).mpr h) ((ih hrest _ _).mpr hafter)

theorem evaluatesItems_iff {items : List Value} (hitems : ∀ item ∈ items, item.Agrees reach)
    (world : World) (outcome : Outcome (List Value)) (after : World) :
    EvaluatesItems reach items world outcome after ↔
      Form.runItems reach (items.map Form.parseData) world = (outcome, after) := by
  induction items generalizing world outcome with
  | nil =>
    constructor
    · intro h
      cases h
      rfl
    · intro h
      cases h
      exact .nil _
  | cons item rest ih =>
    obtain ⟨hitem, hrest⟩ := List.forall_mem_cons.mp hitems
    rw [List.map_cons, Form.runItems, Run.bind_eq_iff]
    constructor
    · intro h
      cases h with
      | fails h => exact .inl ⟨_, (hitem .data _ _ _).mp h, rfl⟩
      | cons h hafter =>
        refine .inr ⟨_, _, (hitem .data _ _ _).mp h, ?_⟩
        rw [Run.map_apply, (ih hrest _ _).mp hafter]
    · rintro (⟨e, h, rfl⟩ | ⟨value, between, h, hafter⟩)
      · exact .fails ((hitem .data _ _ _).mpr h)
      · rw [Run.map_apply, Prod.mk.injEq] at hafter
        obtain ⟨rfl, rfl⟩ := hafter
        exact .cons ((hitem .data _ _ _).mpr h) ((ih hrest _ _).mpr rfl)

theorem evaluatesFields_iff {fields : Fields} (hfields : ∀ entry ∈ fields, entry.2.Agrees reach)
    (world : World) (outcome : Outcome Fields) (after : World) :
    EvaluatesFields reach fields world outcome after ↔
      Form.runFields reach (fields.map fun entry => (entry.1, Form.parseData entry.2)) world =
        (outcome, after) := by
  induction fields generalizing world outcome with
  | nil =>
    constructor
    · intro h
      cases h
      rfl
    · intro h
      cases h
      exact .nil _
  | cons entry rest ih =>
    obtain ⟨name, content⟩ := entry
    obtain ⟨hcontent, hrest⟩ := List.forall_mem_cons.mp hfields
    rw [List.map_cons, Form.runFields, Run.bind_eq_iff]
    constructor
    · intro h
      cases h with
      | fails h => exact .inl ⟨_, (hcontent .data _ _ _).mp h, rfl⟩
      | cons h hafter =>
        refine .inr ⟨_, _, (hcontent .data _ _ _).mp h, ?_⟩
        rw [Run.map_apply, (ih hrest _ _).mp hafter]
    · rintro (⟨e, h, rfl⟩ | ⟨value, between, h, hafter⟩)
      · exact .fails ((hcontent .data _ _ _).mpr h)
      · rw [Run.map_apply, Prod.mk.injEq] at hafter
        obtain ⟨rfl, rfl⟩ := hafter
        exact .cons ((hcontent .data _ _ _).mpr h) ((ih hrest _ _).mpr rfl)

end Lists

/-! ### Phrases -/

namespace Phrase

variable {reach : Reach}

theorem evaluates_reference_iff (name : String) (world : World) (outcome : Outcome Value)
    (after : World) :
    EvaluatesPhrase reach (.reference name) world outcome after ↔
      (Form.reference name).run reach world = (outcome, after) := by
  rw [Form.run]
  constructor
  · intro h
    cases h with
    | unbound hlookup => exact Run.lookup_bind_of_none hlookup _
    | reference hlookup hstarts =>
      exact (Run.lookup_bind_of_some hlookup _).trans (Starts.iff.mp hstarts)
  · intro h
    cases hlookup : world.lookup name with
    | none =>
      rw [Run.lookup_bind_of_none hlookup] at h
      cases h
      exact .unbound hlookup
    | some tool =>
      rw [Run.lookup_bind_of_some hlookup] at h
      exact .reference hlookup (Starts.iff.mpr h)

theorem evaluates_call_iff (name : String) {input : Value} (hinput : input.Agrees reach)
    (world : World) (outcome : Outcome Value) (after : World) :
    EvaluatesPhrase reach (.call name input) world outcome after ↔
      (Form.call name (Form.parseData input)).run reach world = (outcome, after) := by
  rw [Form.run, Run.bind_eq_iff]
  constructor
  · intro h
    cases h with
    | inputFails h => exact .inl ⟨_, (hinput .data _ _ _).mp h, rfl⟩
    | unknown h hlookup =>
      exact .inr ⟨_, _, (hinput .data _ _ _).mp h, Run.lookup_bind_of_none hlookup _⟩
    | call h hlookup hstarts =>
      exact .inr ⟨_, _, (hinput .data _ _ _).mp h,
        (Run.lookup_bind_of_some hlookup _).trans (Starts.iff.mp hstarts)⟩
  · rintro (⟨e, h, rfl⟩ | ⟨value, between, h, hrest⟩)
    · exact .inputFails ((hinput .data _ _ _).mpr h)
    · have hvalue := (hinput .data _ _ _).mpr h
      cases hlookup : between.lookup name with
      | none =>
        rw [Run.lookup_bind_of_none hlookup] at hrest
        cases hrest
        exact .unknown hvalue hlookup
      | some tool =>
        rw [Run.lookup_bind_of_some hlookup] at hrest
        exact .call hvalue hlookup (Starts.iff.mpr hrest)

theorem evaluates_sequence_iff {items : List Value} (hitems : (Value.array items).Agrees reach)
    (world : World) (outcome : Outcome Value) (after : World) :
    EvaluatesPhrase reach (.sequence items) world outcome after ↔
      (Form.sequence (items.map Form.parse)).run reach world = (outcome, after) := by
  -- the items are a sequence as they are in the array in program position
  rw [← Form.parse_array]
  refine Iff.trans ⟨fun h => ?_, fun h => ?_⟩ (hitems .program world outcome after)
  · cases h with
    | sequence h => exact .program h
  · cases h with
    | scalar hv => cases hv
    | program h => exact .sequence h

theorem evaluates_binding_iff (name : String) {bound body : Value}
    (hbound : bound.Agrees reach) (hbody : body.Agrees reach)
    (world : World) (outcome : Outcome Value) (after : World) :
    EvaluatesPhrase reach (.binding name bound body) world outcome after ↔
      (Form.binding name (Form.parseData bound) (Form.parse body)).run reach world =
        (outcome, after) := by
  rw [Form.run, Run.bind_eq_iff]
  constructor
  · intro h
    cases h with
    | valueFails h => exact .inl ⟨_, (hbound .data _ _ _).mp h, rfl⟩
    | binding h hrest =>
      refine .inr ⟨_, _, (hbound .data _ _ _).mp h, ?_⟩
      have hrun := (hbody .program _ _ _).mp hrest
      rw [Position.form] at hrun
      rw [Run.bind_of_ok (Run.environment_apply _), Run.inside_apply, hrun]
  · rintro (⟨e, h, rfl⟩ | ⟨value, between, h, hrest⟩)
    · exact .valueFails ((hbound .data _ _ _).mpr h)
    · rw [Run.bind_of_ok (Run.environment_apply _), Run.inside_apply, Prod.mk.injEq] at hrest
      obtain ⟨rfl, rfl⟩ := hrest
      exact .binding ((hbound .data _ _ _).mpr h) ((hbody .program _ _ _).mpr rfl)

theorem evaluates_definition_iff (name : String) (parameters : List String) (body : Value)
    (world : World) (outcome : Outcome Value) (after : World) :
    EvaluatesPhrase reach (.definition name parameters body) world outcome after ↔
      (Form.definition name parameters body).run reach world = (outcome, after) := by
  rw [Form.run]
  constructor
  · intro h
    cases h with
    | undefinable hlookup => exact Run.lookup_bind_of_none hlookup _
    | definition hlookup hstarts =>
      exact (Run.lookup_bind_of_some hlookup _).trans (Starts.iff.mp hstarts)
  · intro h
    cases hlookup : world.lookup Builtin.define.name with
    | none =>
      rw [Run.lookup_bind_of_none hlookup] at h
      cases h
      exact .undefinable hlookup
    | some tool =>
      rw [Run.lookup_bind_of_some hlookup] at h
      exact .definition hlookup (Starts.iff.mpr h)

/-- If the rules and the evaluator agree on the parts of a phrase, they agree on the phrase. -/
theorem evaluates_iff {phrase : Phrase} (hparts : phrase.Parts (Value.Agrees reach))
    (world : World) (outcome : Outcome Value) (after : World) :
    EvaluatesPhrase reach phrase world outcome after ↔
      phrase.form.run reach world = (outcome, after) := by
  cases phrase with
  | reference name => exact evaluates_reference_iff name world outcome after
  | call name input => exact evaluates_call_iff name hparts world outcome after
  | sequence items => exact evaluates_sequence_iff hparts world outcome after
  | binding name bound body =>
    exact evaluates_binding_iff name hparts.1 hparts.2 world outcome after
  | definition name parameters body =>
    exact evaluates_definition_iff name parameters body world outcome after
  | quote value =>
    constructor
    · intro h
      cases h
      rfl
    · intro h
      cases h
      exact .quote value _

end Phrase

/-! ### Values -/

theorem Value.Scalar.agrees {v : Value} (hv : v.Scalar) (reach : Reach) : v.Agrees reach := by
  intro position world outcome after
  rw [Position.form_of_scalar hv, Form.run]
  constructor
  · intro h
    cases h with
    | scalar => rfl
    | _ => cases hv
  · intro h
    cases h
    exact .scalar hv

/-- The rules and the evaluator agree on every value. -/
theorem Value.agrees (reach : Reach) (v : Value) : v.Agrees reach := by
  induction v using Value.induction with
  | array items hitems =>
    intro position world outcome after
    cases position with
    | program =>
      rw [Position.form, Form.parse_array, Form.run, ← evaluatesInTurn_iff hitems]
      constructor
      · intro h
        cases h with
        | scalar hv => cases hv
        | program h => exact h
      · exact .program
    | data =>
      rw [Position.form, Form.run_parseData_array, Run.map_apply]
      constructor
      · intro h
        cases h with
        | scalar hv => cases hv
        | array h => rw [(evaluatesItems_iff hitems _ _ _).mp h]
      · intro h
        rw [Prod.mk.injEq] at h
        obtain ⟨rfl, rfl⟩ := h
        exact .array ((evaluatesItems_iff hitems _ _ _).mpr rfl)
  | object fields hfields =>
    intro position world outcome after
    -- an input that is left out is null, which is no member of the object
    have hparts {phrase : Phrase} (said : Phrase.Says fields phrase) :
        phrase.Parts (Value.Agrees reach) := said.parts (Scalar.null.agrees reach) hfields
    constructor
    · intro h
      cases h with
      | scalar hv => cases hv
      | object silent h =>
        rw [Position.form_of_silent silent, Form.run_ofContents, Run.map_apply,
          (evaluatesFields_iff hfields _ _ _).mp h]
      | phrase said h =>
        rw [Position.form_of_says said]
        exact (Phrase.evaluates_iff (hparts said) _ _ _).mp h
    · intro h
      by_cases hsaid : ∃ phrase, Phrase.Says fields phrase
      · obtain ⟨phrase, said⟩ := hsaid
        rw [Position.form_of_says said] at h
        exact .phrase said ((Phrase.evaluates_iff (hparts said) _ _ _).mpr h)
      · have silent := not_exists.mp hsaid
        rw [Position.form_of_silent silent, Form.run_ofContents, Run.map_apply,
          Prod.mk.injEq] at h
        obtain ⟨rfl, rfl⟩ := h
        exact .object silent ((evaluatesFields_iff hfields _ _ _).mpr rfl)
  | null => exact Scalar.null.agrees reach
  | bool b => exact (Scalar.bool b).agrees reach
  | number n => exact (Scalar.number n).agrees reach
  | string s => exact (Scalar.string s).agrees reach

/-! ### Programs -/

/-- The body of a defined tool follows the rules too, in a new frame inside the frames the tool was
defined in, which is left afterwards. -/
theorem Tool.act_defined_iff (reach : Reach) (parameters : List String) (description : String)
    (body : Value) (closure : Environment) (input : Value) (world : World)
    (outcome : Outcome Value) (after : World) :
    (Tool.defined parameters description body closure).act reach input world = (outcome, after) ↔
      match inputFields parameters input with
      | .error e => outcome = .error e ∧ after = world
      | .ok constants =>
        ∃ last, Evaluates reach .program body (world.enter closure constants) outcome last ∧
          after = { last with environment := world.environment } := by
  simp only [Tool.act, Run.bind_apply, Run.ofExcept_apply]
  cases inputFields parameters input with
  | error e =>
    constructor
    · intro h
      cases h
      exact ⟨rfl, rfl⟩
    · rintro ⟨rfl, rfl⟩
      rfl
  | ok constants =>
    show Run.inside closure constants ((Form.parse body).run reach) world = (outcome, after) ↔ _
    rw [Run.inside_apply, Prod.mk.injEq]
    constructor
    · rintro ⟨rfl, rfl⟩
      exact ⟨_, (Value.agrees reach body .program _ _ _).mpr rfl, rfl⟩
    · rintro ⟨last, h, rfl⟩
      have hrun := (Value.agrees reach body .program _ _ _).mp h
      rw [Position.form] at hrun
      rw [hrun]
      exact ⟨rfl, rfl⟩

end ToolWeave
