import ToolWeave.Proofs.Resolution

/-!
# Definitions

The define tool reads its input, makes the tool that is asked for and binds it in the calling frame.  What inputs it
takes is said without its checks (`Bindings.Asks`); on any other input it complains and does nothing
(`Bindings.define_settles`).

## Main definitions

* `Bindings.Asks`: an input that asks for a definition, given which values count as left out.
* `Bindings.Defined`: what a definition does to the state.
* `BlamesInput`: a check that fails only because of its input.

## Design notes

**What is left out.**  Parameters and a description may be left out, and so they may be null.  But the tool also takes
`false`, zero and anything empty for left out, of whatever kind it is.  So the condition on the input has a parameter, and
the theorem compares the two.
-/

namespace ToolWeave

/-- A check that, if it fails, finds its input invalid. -/
def BlamesInput {α : Type} (outcome : Except ToolError α) : Prop := ∀ e, outcome = .error e → e.kind = .invalidInput

namespace BlamesInput

variable {α β : Type}

theorem ok (a : α) : BlamesInput (.ok a) := nofun

theorem error (message : String) (details : Fields) :
    BlamesInput (.error (.invalidInput message details) : Except ToolError α) := by
  rintro e h
  cases h
  exact ToolError.kind_make _ _

theorem bind {outcome : Except ToolError α} {f : α → Except ToolError β} (h : BlamesInput outcome)
    (hf : ∀ a, BlamesInput (f a)) : BlamesInput (outcome >>= f) := by
  cases outcome with
  | error e =>
    intro e' he
    cases he
    exact h e rfl
  | ok a => exact hf a

theorem mapM {f : α → Except ToolError β} (hf : ∀ a, BlamesInput (f a)) (items : List α) :
    BlamesInput (items.mapM f) := by
  induction items with
  | nil => exact ok []
  | cons item rest ih =>
    rw [List.mapM_cons]
    exact (hf item).bind fun _ => ih.bind fun _ => ok _

end BlamesInput

namespace Expect

theorem object_blames (tool : String) (required : List String) (input : Value) :
    BlamesInput (object tool required input) := by
  unfold object
  split
  · split
    · exact .ok _
    · exact .error _ _
  · exact .error _ _

theorem string_blames (tool expected : String) (input : Value) : BlamesInput (string tool expected input) := by
  unfold string
  split
  · exact .ok _
  · exact .error _ _

theorem object_ok_iff {tool : String} {required : List String} {input : Value} {fields : Fields} :
    object tool required input = .ok fields ↔
      input = .object fields ∧ ∀ name ∈ required, Entries.has name fields = true := by
  have hmissing (fields : Fields) :
      missing required fields = [] ↔ ∀ name ∈ required, Entries.has name fields = true := by
    rw [missing, List.filter_eq_nil_iff]
    simp
  cases input with
  | object given =>
    rw [← hmissing, object]
    constructor
    · intro h
      split at h
      · next heq =>
        cases h
        exact ⟨rfl, heq⟩
      · cases h
    · rintro ⟨heq, hnone⟩
      cases heq
      rw [hnone]
  | _ =>
    refine iff_of_false (fun h => ?_) (fun h => ?_)
    · cases h
    · cases h.1

theorem string_ok_iff {tool expected : String} {input : Value} {text : String} :
    string tool expected input = .ok text ↔ input = .string text := by
  cases input with
  | string s => exact ⟨fun h => congrArg _ (Except.ok.inj h), fun h => congrArg _ (Value.string.inj h)⟩
  | _ => exact iff_of_false (nofun) (nofun)

end Expect

namespace Bindings

/-! ### What is asked for -/

/-- An input that asks for a definition, given which values count as left out.  It has a body and a name that is not
empty.  Its parameters are left out, or an array of different names none of which is empty or the name of the input; its
description is left out or a string. -/
structure Asks (omitted : Value → Prop) (input : Value) (asked : Request) : Prop where
  name : input.field? "name" = some (.string asked.name) ∧ asked.name ≠ ""
  body : input.field? "body" = some asked.body
  parameters : (asked.parameters = [] ∧ ∀ given, input.field? "parameters" = some given → omitted given) ∨
    input.field? "parameters" = some (.strings asked.parameters)
  distinct : asked.parameters.Nodup ∧ "" ∉ asked.parameters ∧ inputName ∉ asked.parameters
  description : (asked.description = "Defined tool." ∧
      ∀ given, input.field? "description" = some given → omitted given) ∨
    ∃ text, input.field? "description" = some (.string text) ∧
      asked.description = if text = "" then "Defined tool." else text

theorem mapM_names_iff {items : List Value} {names : List String} {refused : ToolError} :
    (items.mapM fun item =>
        match item with
        | .string name => if name = "" then .error refused else .ok name
        | _ => .error refused : Except ToolError (List String)) = .ok names ↔
      items = names.map .string ∧ "" ∉ names := by
  induction items generalizing names with
  | nil =>
    rw [List.mapM_nil]
    constructor
    · intro h
      cases h
      exact ⟨rfl, List.not_mem_nil⟩
    · rintro ⟨hnames, -⟩
      obtain rfl := List.map_eq_nil_iff.mp hnames.symm
      rfl
  | cons item rest ih =>
    rw [List.mapM_cons]
    constructor
    · intro h
      obtain ⟨name, hname, h⟩ := exists_of_bind h
      obtain ⟨others, hothers, h⟩ := exists_of_bind h
      cases h
      obtain ⟨rfl, hnonempty⟩ := ih.mp hothers
      cases item with
      | string text =>
        by_cases htext : text = ""
        · simp [htext] at hname
        · simp only [if_neg htext, Except.ok.injEq] at hname
          subst hname
          exact ⟨rfl, List.not_mem_cons_of_ne_of_not_mem (Ne.symm htext) hnonempty⟩
      | _ => cases hname
    · rintro ⟨hitems, hnonempty⟩
      cases names with
      | nil => cases hitems
      | cons name others =>
        obtain ⟨rfl, rfl⟩ := List.cons.inj hitems
        obtain ⟨hname, hothers⟩ := not_or.mp (fun h => hnonempty (List.mem_cons.mpr h))
        rw [ih.mpr ⟨rfl, hothers⟩]
        simp only [if_neg (Ne.symm hname)]
        rfl

theorem parameterNames_ok_iff {given : Value} {names : List String} :
    parameterNames given = .ok names ↔
      names = [] ∧ given.isGiven = false ∨ given = .strings names ∧ "" ∉ names := by
  unfold parameterNames
  by_cases hgiven : given.isGiven = true
  · rw [hgiven, if_neg (by decide)]
    have hright : (names = [] ∧ true = false ∨ given = .strings names ∧ "" ∉ names) ↔
        given = .strings names ∧ "" ∉ names := or_iff_right (fun h => nomatch h.2)
    rw [hright]
    cases given with
    | array items =>
      refine mapM_names_iff.trans (and_congr_left fun _ => ?_)
      exact ⟨congrArg _, Value.array.inj⟩
    | _ =>
      refine iff_of_false (fun h => ?_) (fun h => ?_)
      · cases h
      · cases h.1
  · rw [Bool.eq_false_of_not_eq_true hgiven, if_pos (by decide)]
    constructor
    · intro h
      cases h
      exact .inl ⟨rfl, rfl⟩
    · rintro (⟨rfl, -⟩ | ⟨rfl, -⟩)
      · rfl
      · -- an array counts as given unless it is empty
        cases names with
        | nil => rfl
        | cons name rest => exact absurd rfl hgiven

theorem descriptionText_ok_iff {given : Value} {text : String} :
    descriptionText given = .ok text ↔ text = "" ∧ given.isGiven = false ∨ given = .string text := by
  unfold descriptionText
  by_cases hgiven : given.isGiven = true
  · rw [hgiven, if_neg (by decide)]
    have hright : (text = "" ∧ true = false ∨ given = .string text) ↔ given = .string text :=
      or_iff_right (fun h => nomatch h.2)
    rw [hright]
    cases given with
    | string s => exact ⟨fun h => congrArg _ (Except.ok.inj h), fun h => congrArg _ (Value.string.inj h)⟩
    | _ => exact iff_of_false (nofun) (nofun)
  · rw [Bool.eq_false_of_not_eq_true hgiven, if_pos (by decide)]
    constructor
    · intro h
      cases h
      exact .inl ⟨rfl, rfl⟩
    · rintro (⟨rfl, -⟩ | rfl)
      · rfl
      · have htext : text = "" := by simpa [Value.isGiven] using hgiven
        rw [htext]

theorem parameterNames_blames (given : Value) : BlamesInput (parameterNames given) := by
  unfold parameterNames
  split
  · exact .ok _
  · split
    · refine .mapM (fun item => ?_) _
      split
      · split
        · exact .error _ _
        · exact .ok _
      · exact .error _ _
    · exact .error _ _

theorem descriptionText_blames (given : Value) : BlamesInput (descriptionText given) := by
  unfold descriptionText
  split
  · exact .ok _
  · split
    · exact .ok _
    · exact .error _ _

/-- An input that is not read is complained about. -/
theorem request_blames (input : Value) : BlamesInput (request input) := by
  unfold request
  refine (Expect.object_blames _ _ _).bind fun fields => (Expect.string_blames _ _ _).bind fun name => ?_
  dsimp only
  split
  · exact .error _ _
  refine (parameterNames_blames _).bind fun parameters => (descriptionText_blames _).bind fun description => ?_
  split
  · exact .error _ _
  split
  · exact .error _ _
  · exact .ok _

/-- What is asked of an optional field of an input may just as well be asked of null in its place. -/
theorem isGiven_getD_iff (field : Option Value) :
    (field.getD .null).isGiven = false ↔ ∀ given, field = some given → given.isGiven = false := by
  cases field with
  | none => exact iff_of_true rfl (nofun)
  | some given => exact ⟨fun h _ heq => Option.some.inj heq ▸ h, fun h => h _ rfl⟩

/-- What is asked for is not null, so a field that is left out is not it. -/
theorem getD_null_iff {field : Option Value} {v : Value} (h : v ≠ .null) : field.getD .null = v ↔ field = some v := by
  rw [Option.getD_eq_iff]
  exact or_iff_left fun hnone => h hnone.2.symm

theorem getD_string_iff {field : Option Value} {text : String} :
    field.getD .null = .string text ↔ field = some (.string text) := getD_null_iff Value.noConfusion

theorem getD_strings_iff {field : Option Value} {texts : List String} :
    field.getD .null = .strings texts ↔ field = some (.strings texts) := getD_null_iff Value.noConfusion

/-- The checks of an input, one after the other. -/
theorem request_steps {input : Value} {asked : Request} :
    request input = .ok asked ↔
      ∃ fields description, Expect.object "define" ["name", "body"] input = .ok fields ∧
        Expect.string "define" "a string name" ((Entries.get? "name" fields).getD .null) = .ok asked.name ∧
        asked.name ≠ "" ∧
        parameterNames ((Entries.get? "parameters" fields).getD .null) = .ok asked.parameters ∧
        descriptionText ((Entries.get? "description" fields).getD .null) = .ok description ∧
        inputName ∉ asked.parameters ∧ asked.parameters.Nodup ∧
        asked.description = (if description = "" then "Defined tool." else description) ∧
        asked.body = (Entries.get? "body" fields).getD .null := by
  constructor
  · intro h
    obtain ⟨hreserved, hdistinct⟩ := request_parameters h
    unfold request at h
    obtain ⟨fields, hfields, h⟩ := exists_of_bind h
    obtain ⟨name, hname, h⟩ := exists_of_bind h
    by_cases hempty : name = ""
    · rw [if_pos hempty] at h
      cases h
    rw [if_neg hempty] at h
    obtain ⟨parameters, hparameters, h⟩ := exists_of_bind h
    obtain ⟨description, hdescription, h⟩ := exists_of_bind h
    by_cases hno : parameters.contains inputName = true
    · rw [if_pos hno] at h
      cases h
    rw [if_neg hno] at h
    by_cases hrepeated : (!decide parameters.Nodup) = true
    · rw [if_pos hrepeated] at h
      cases h
    rw [if_neg hrepeated] at h
    cases h
    exact ⟨fields, description, hfields, hname, hempty, hparameters, hdescription, hreserved, hdistinct, rfl, rfl⟩
  · obtain ⟨name, parameters, text, body⟩ := asked
    rintro ⟨fields, description, hfields, hname, hempty, hparameters, hdescription, hreserved, hdistinct, rfl, rfl⟩
    have hno : ¬ parameters.contains inputName = true := by simpa using hreserved
    have hsingle : ¬ (!decide parameters.Nodup) = true := by simpa using hdistinct
    unfold request
    rw [hfields]
    show (Expect.string _ _ _ >>= _) = _
    rw [hname]
    show (if name = "" then _ else _) = _
    rw [if_neg hempty]
    show (parameterNames _ >>= _) = _
    rw [hparameters]
    show (descriptionText _ >>= _) = _
    rw [hdescription]
    show (if parameters.contains inputName = true then _ else _) = _
    rw [if_neg hno]
    show (if (!decide parameters.Nodup) = true then _ else _) = _
    rw [if_neg hsingle]
    rfl

/-- The input is read exactly if it asks for a definition, where what does not count as given is left out. -/
theorem request_ok_iff {input : Value} {asked : Request} :
    request input = .ok asked ↔ Asks (fun given => given.isGiven = false) input asked := by
  rw [request_steps]
  constructor
  · rintro ⟨fields, description, hfields, hname, hempty, hparameters, hdescription, hreserved, hdistinct, htext, hbody⟩
    obtain ⟨rfl, hrequired⟩ := Expect.object_ok_iff.mp hfields
    rw [Expect.string_ok_iff, getD_string_iff] at hname
    rw [parameterNames_ok_iff, isGiven_getD_iff, getD_strings_iff] at hparameters
    rw [descriptionText_ok_iff, isGiven_getD_iff, getD_string_iff] at hdescription
    refine ⟨⟨hname, hempty⟩, ?_, hparameters.imp id And.left, ⟨hdistinct, ?_, hreserved⟩, ?_⟩
    · rw [hbody]
      show Entries.get? "body" fields = _
      obtain ⟨body, hget⟩ := Option.isSome_iff_exists.mp (hrequired "body" (by decide))
      rw [hget]
      rfl
    · rcases hparameters with ⟨hnone, -⟩ | ⟨-, hnonempty⟩
      · rw [hnone]
        exact List.not_mem_nil
      · exact hnonempty
    · rcases hdescription with ⟨rfl, homitted⟩ | hgiven
      · exact .inl ⟨htext, homitted⟩
      · exact .inr ⟨description, hgiven, htext⟩
  · rintro ⟨⟨hname, hempty⟩, hbody, hparameters, ⟨hdistinct, hnonempty, hreserved⟩, hdescription⟩
    cases input with
    | object fields =>
      have hrequired : ∀ name ∈ ["name", "body"], Entries.has name fields = true := by
        rw [List.forall_mem_cons, List.forall_mem_singleton]
        exact ⟨Entries.has_of_get? hname, Entries.has_of_get? hbody⟩
      obtain ⟨text, htext, hgiven⟩ : ∃ text,
          asked.description = (if text = "" then "Defined tool." else text) ∧
            descriptionText ((Entries.get? "description" fields).getD .null) = .ok text := by
        simp only [descriptionText_ok_iff, isGiven_getD_iff, getD_string_iff]
        rcases hdescription with ⟨htext, homitted⟩ | ⟨text, hgiven, htext⟩
        · exact ⟨"", htext, .inl ⟨rfl, homitted⟩⟩
        · exact ⟨text, htext, .inr hgiven⟩
      refine ⟨fields, text, Expect.object_ok_iff.mpr ⟨rfl, hrequired⟩, ?_, hempty, ?_, hgiven, hreserved, hdistinct,
        htext, ?_⟩
      · exact Expect.string_ok_iff.mpr (getD_string_iff.mpr hname)
      · rw [parameterNames_ok_iff, isGiven_getD_iff, getD_strings_iff]
        exact hparameters.imp id fun h => ⟨h, hnonempty⟩
      · rw [show Entries.get? "body" fields = some asked.body from hbody]
        rfl
    | _ => cases hname

/-- A field of a kind that may be null, and that is left out, is null or empty. -/
theorem null_or_empty {field : Option Value} {kind : Value.Kind}
    (homitted : ∀ given, field = some given → given.isGiven = false)
    (hkind : ∀ given, field = some given → given = .null ∨ given.kind = kind) :
    (∀ given, field = some given → given = .null) ∨
      ∃ given, field = some given ∧ given.kind = kind ∧ given.isGiven = false := by
  cases field with
  | none => exact .inl (nofun)
  | some given =>
    rcases hkind given rfl with rfl | hkind
    · exact .inl fun _ h => (Option.some.inj h).symm
    · exact .inr ⟨given, rfl, hkind, homitted given rfl⟩

/-- What the input asks for, it asks for with null in place of what is left out, unless a value of another kind is there. -/
theorem asks_null_iff {input : Value} {asked : Request} (h : Asks (fun given => given.isGiven = false) input asked) :
    Asks (· = .null) input asked ↔
      (∀ given, input.field? "parameters" = some given → given = .null ∨ given.kind = .array) ∧
        ∀ given, input.field? "description" = some given → given = .null ∨ given.kind = .string := by
  constructor
  · intro h
    constructor
    · intro given hgiven
      rcases h.parameters with ⟨-, homitted⟩ | hnames
      · exact .inl (homitted given hgiven)
      · obtain rfl := Option.some.inj (hnames.symm.trans hgiven)
        exact .inr rfl
    · intro given hgiven
      rcases h.description with ⟨-, homitted⟩ | ⟨text, htext, -⟩
      · exact .inl (homitted given hgiven)
      · obtain rfl := Option.some.inj (htext.symm.trans hgiven)
        exact .inr rfl
  · rintro ⟨hparameters, hdescription⟩
    refine ⟨h.name, h.body, ?_, h.distinct, ?_⟩
    · rcases h.parameters with ⟨hnone, homitted⟩ | hnames
      · rw [hnone]
        rcases null_or_empty homitted hparameters with hnull | ⟨given, hgiven, hkind, hempty⟩
        · exact .inl ⟨rfl, hnull⟩
        · cases given with
          | array items =>
            obtain rfl : items = [] := by simpa [Value.isGiven] using hempty
            exact .inr hgiven
          | _ => cases hkind
      · exact .inr hnames
    · rcases h.description with ⟨htext, homitted⟩ | hdescribed
      · rcases null_or_empty homitted hdescription with hnull | ⟨given, hgiven, hkind, hempty⟩
        · exact .inl ⟨htext, hnull⟩
        · cases given with
          | string text =>
            obtain rfl : text = "" := by simpa [Value.isGiven] using hempty
            exact .inr ⟨"", hgiven, htext⟩
          | _ => cases hkind
      · exact .inr hdescribed

theorem isGiven_of_null {field : Option Value} (h : ∀ given, field = some given → given = .null) (given : Value)
    (hgiven : field = some given) : given.isGiven = false := by
  rw [h given hgiven]
  rfl

/-- Null is left out either way. -/
theorem Asks.of_null {input : Value} {asked : Request} (h : Asks (· = .null) input asked) :
    Asks (fun given => given.isGiven = false) input asked where
  name := h.name
  body := h.body
  parameters := h.parameters.imp_left (And.imp_right isGiven_of_null)
  distinct := h.distinct
  description := h.description.imp_left (And.imp_right isGiven_of_null)

/-! ### What is done -/

/-- A state after a definition: of the frames that there were only the calling one is another, and it only under the
name that was asked for, which is bound to a tool as it was asked for. -/
structure Defined (before : World) (asked : Request) (after : World) : Prop where
  rest : after = { before with store := after.store }
  bound : ∃ number closure, Entries.get? asked.name (after.store.frameAt before.environment.frame) =
    some (number, .defined asked.parameters asked.description asked.body closure)
  names : ∀ name ≠ asked.name, Entries.get? name (after.store.frameAt before.environment.frame) =
    Entries.get? name (before.store.frameAt before.environment.frame)
  frames : ∀ number < before.store.size, number ≠ before.environment.frame →
    after.store.frameAt number = before.store.frameAt number

theorem defined_create (asked : Request) {world : World} (hframe : world.environment.frame < world.store.size) :
    Defined world asked
      { world with
        store := world.store.create world.environment asked.name asked.parameters asked.description asked.body } := by
  obtain ⟨hgrows, -⟩ := @Store.snapshot_grows (fun _ => False) world.store world.environment
  have hsize := hgrows.size_le
  let made := world.store.made world.environment asked.parameters asked.description asked.body
  -- the frames of the tool come after those that there were
  have hpush : ∀ number < world.store.size,
      ((world.store.snapshot world.environment).1.push [(asked.name, made)]).frameAt number =
        world.store.frameAt number := by
    intro number hnumber
    rw [Store.frameAt_push, if_neg (Nat.ne_of_lt (Nat.lt_of_lt_of_le hnumber hsize))]
    exact hgrows.frameAt_eq number hnumber not_false
  have hcalling : (world.store.create world.environment asked.name asked.parameters asked.description
      asked.body).frameAt world.environment.frame =
        Entries.put asked.name made (world.store.frameAt world.environment.frame) := by
    rw [Store.frameAt_create, Store.frameAt_change_self, hpush _ hframe]
    rw [Store.size_push]
    omega
  refine ⟨rfl, ⟨made.1, world.store.closureOf world.environment, ?_⟩, fun name hname => ?_, fun number hnumber hother => ?_⟩
  · exact (congrArg (Entries.get? asked.name) hcalling).trans (Entries.get?_put_self _ _ _)
  · exact (congrArg (Entries.get? name) hcalling).trans (Entries.get?_put_of_ne hname.symm _ _)
  · show (world.store.create _ _ _ _ _).frameAt number = _
    rw [Store.frameAt_create, Store.frameAt_change_of_ne _ _ hother, hpush number hnumber]

theorem define_of_ok {input : Value} {asked : Request} (h : request input = .ok asked) (world : World) :
    define input world =
      (.ok (.string asked.name),
        { world with
          store := world.store.create world.environment asked.name asked.parameters asked.description asked.body }) := by
  unfold define
  rw [h]
  rfl

theorem define_of_error {input : Value} {e : ToolError} (h : request input = .error e) (world : World) :
    define input world = (.error e, world) := by
  unfold define
  rw [h]
  rfl

/-- **A definition is made exactly if the input asks for one.**  Then its name is the result, and only this name of the
calling frame is changed; it is bound to a tool with the parameters, the description and the body that were asked for.  On
any other input the tool finds its input invalid and changes nothing.  An input that asks for a definition with parameters
and a description that are null or left out, or else a list of names and a string, is among those; the others have a value
of another kind there that does not count as given. -/
theorem define_settles (reach : Reach) (input : Value) (world : World)
    (hframe : world.environment.frame < world.store.size) :
    (∀ asked, Asks (fun given => given.isGiven = false) input asked →
      ∃ after, (Tool.builtin .define).act reach input world = (.ok (.string asked.name), after) ∧
        Defined world asked after) ∧
    ((¬ ∃ asked, Asks (fun given => given.isGiven = false) input asked) →
      ∃ e, (Tool.builtin .define).act reach input world = (.error e, world) ∧ e.kind = .invalidInput) ∧
    (∀ asked, Asks (· = .null) input asked → Asks (fun given => given.isGiven = false) input asked) ∧
    ∀ asked, Asks (fun given => given.isGiven = false) input asked →
      (Asks (· = .null) input asked ↔
        (∀ given, input.field? "parameters" = some given → given = .null ∨ given.kind = .array) ∧
          ∀ given, input.field? "description" = some given → given = .null ∨ given.kind = .string) := by
  refine ⟨fun asked hasked => ?_, fun hnone => ?_, fun asked => Asks.of_null, fun asked => asks_null_iff⟩
  · exact ⟨_, define_of_ok (request_ok_iff.mpr hasked) world, defined_create asked hframe⟩
  · cases hrequest : request input with
    | ok asked => exact absurd ⟨asked, request_ok_iff.mp hrequest⟩ hnone
    | error e => exact ⟨e, define_of_error hrequest world, request_blames input e hrequest⟩

/-- A definition with a parameter, which is made. -/
theorem define_settles_doubling :
    ∃ after, (Tool.builtin .define).act (Run.top 64)
        (.object [("name", .string "id"), ("body", .object [("$", .string "x")]), ("parameters", .strings ["x"])])
        World.plain = (.ok (.string "id"), after) ∧
      Defined World.plain ⟨"id", ["x"], "Defined tool.", .object [("$", .string "x")]⟩ after := by
  refine (define_settles (Run.top 64) _ World.plain (by decide)).1
    ⟨"id", ["x"], "Defined tool.", .object [("$", .string "x")]⟩ ?_
  exact ⟨⟨rfl, by decide⟩, rfl, .inr rfl, by decide, .inl ⟨rfl, nofun⟩⟩

/-- A definition is made although its parameters are `false`, which is neither null nor a list of names. -/
theorem define_overlooks :
    (∃ after, (Tool.builtin .define).act (Run.top 64)
        (.object [("name", .string "f"), ("body", .int 1), ("parameters", .bool false)]) World.plain =
          (.ok (.string "f"), after)) ∧
      ¬ ∃ asked,
        Asks (· = .null) (.object [("name", .string "f"), ("body", .int 1), ("parameters", .bool false)]) asked := by
  refine ⟨⟨_, rfl⟩, ?_⟩
  rintro ⟨asked, h⟩
  rcases h.parameters with ⟨-, homitted⟩ | hnames
  · cases homitted _ rfl
  · cases hnames

end Bindings

end ToolWeave
