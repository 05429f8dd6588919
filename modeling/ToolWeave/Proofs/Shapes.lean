import ToolWeave.Form

/-!
# The shapes of forms, read off the fields of an object

An object is a form if its fields are exactly those of one shape and hold what the shape asks for.
Here that is said without a table: a `Phrase` is a form with its parts as they stand in the object,
and `Phrase.Says` tells which objects say which phrase.  The parser finds a shape exactly in the
objects that say a phrase, and the form it makes of one is the phrase with its parts parsed by
position.

Data that the parser keeps as one literal is the data itself.  So whatever is collapsed into a
literal runs like its members would.
-/

namespace ToolWeave

/-- The fields of an object are all of the needed names, possibly some of the allowed ones, and no
others. -/
structure Fields.Exactly (needed allowed : List String) (fields : Fields) : Prop where
  complete : ∀ name ∈ needed, name ∈ Entries.names fields
  exact : ∀ name ∈ Entries.names fields, name ∈ needed ++ allowed

/-- A form with its parts as they stand in the object. -/
inductive Phrase where
  | reference (name : String)
  | call (tool : String) (input : Value)
  | sequence (items : List Value)
  | binding (name : String) (value : Value) (body : Value)
  | definition (name : String) (parameters : List String) (body : Value)
  | quote (value : Value)

namespace Phrase

/-- The phrase that the fields of an object say. -/
inductive Says (fields : Fields) : Phrase → Prop
  | reference {name : String} (keys : Fields.Exactly ["$"] [] fields)
      (hname : Entries.get? "$" fields = some (.string name)) (named : name ≠ "") :
      Says fields (.reference name)
  | call {tool : String} (keys : Fields.Exactly ["call"] ["input"] fields)
      (htool : Entries.get? "call" fields = some (.string tool)) (named : tool ≠ "") :
      Says fields (.call tool ((Entries.get? "input" fields).getD .null))
  | sequence {items : List Value} (keys : Fields.Exactly ["do"] [] fields)
      (hitems : Entries.get? "do" fields = some (.array items)) :
      Says fields (.sequence items)
  | binding {name : String} {value body : Value}
      (keys : Fields.Exactly ["let", "value", "in"] [] fields)
      (hname : Entries.get? "let" fields = some (.string name)) (named : name ≠ "")
      (hvalue : Entries.get? "value" fields = some value)
      (hbody : Entries.get? "in" fields = some body) :
      Says fields (.binding name value body)
  /-- Without parameters. -/
  | constantly {name : String} {body : Value}
      (keys : Fields.Exactly ["define", "body"] [] fields)
      (hname : Entries.get? "define" fields = some (.string name)) (named : name ≠ "")
      (hbody : Entries.get? "body" fields = some body) :
      Says fields (.definition name [] body)
  | definition {name : String} {parameters : List String} {body : Value}
      (keys : Fields.Exactly ["define", "body", "parameters"] [] fields)
      (hname : Entries.get? "define" fields = some (.string name)) (named : name ≠ "")
      (hparameters : Entries.get? "parameters" fields = some (.strings parameters))
      (allNamed : ∀ parameter ∈ parameters, parameter ≠ "")
      (hbody : Entries.get? "body" fields = some body) :
      Says fields (.definition name parameters body)
  | quote {value : Value} (keys : Fields.Exactly ["quote"] [] fields)
      (hvalue : Entries.get? "quote" fields = some value) :
      Says fields (.quote value)

/-- The form of a phrase: its parts are parsed by the position they stand in. -/
def form : Phrase → Form
  | reference name => .reference name
  | call tool input => .call tool (Form.parseData input)
  | sequence items => .sequence (items.map Form.parse)
  | binding name value body => .binding name (Form.parseData value) (Form.parse body)
  | definition name parameters body => .definition name parameters body
  | quote value => .quote value

end Phrase

/-! ### The table of shapes -/

namespace Shape

theorem hasFields_iff {shape : Shape} {fields : Fields} :
    shape.hasFields fields = true ↔ Fields.Exactly shape.required shape.optional fields := by
  unfold hasFields
  rw [Bool.and_eq_true, List.all_eq_true, List.all_eq_true]
  constructor
  · rintro ⟨hneeded, hknown⟩
    refine ⟨fun name hname => Entries.has_iff_mem_names.mp (hneeded name hname), ?_⟩
    intro name hname
    obtain ⟨entry, hentry, rfl⟩ := List.mem_map.mp hname
    exact List.contains_iff_mem.mp (hknown entry hentry)
  · rintro ⟨hcomplete, hexact⟩
    refine ⟨fun name hname => Entries.has_iff_mem_names.mpr (hcomplete name hname), ?_⟩
    intro entry hentry
    exact List.contains_iff_mem.mpr (hexact entry.1 (List.mem_map_of_mem hentry))

theorem tag_mem_required (shape : Shape) : shape.tag ∈ shape.required := by
  cases shape <;> decide

/-- No shape may have the field that gives another one its name. -/
theorem eq_of_tag_mem {shape other : Shape}
    (h : shape.tag ∈ other.required ++ other.optional) : shape = other := by
  cases shape <;> cases other <;> first | rfl | (revert h; decide)

/-- An object has the shape whose fields it has, if they hold what the shape asks for. -/
theorem ofFields?_eq_some_iff {shape : Shape} {fields : Fields} :
    ofFields? fields = some shape ↔
      shape.hasFields fields = true ∧ shape.hasContents fields = true := by
  constructor
  · intro h
    have hfound := List.find?_some h
    rwa [Bool.and_eq_true] at hfound
  · rintro ⟨hfields, hcontents⟩
    cases hfind : ofFields? fields with
    | none =>
      have hrefused := List.find?_eq_none.mp hfind shape (by cases shape <;> decide)
      rw [hfields, hcontents] at hrefused
      exact absurd rfl hrefused
    | some other =>
      have hother := List.find?_some hfind
      rw [Bool.and_eq_true] at hother
      -- the tag of the shape is a field of the object, and so a field of the other shape
      have htag := (hasFields_iff.mp hfields).complete shape.tag shape.tag_mem_required
      rw [eq_of_tag_mem ((hasFields_iff.mp hother.1).exact _ htag)]

theorem isNameField_iff {name : String} {fields : Fields} :
    isNameField name fields = true ↔
      ∃ text, Entries.get? name fields = some (.string text) ∧ text ≠ "" := by
  unfold isNameField
  cases Entries.get? name fields with
  | none => simp
  | some content => cases content <;> simp [isName]

/-- An array of names is an array of strings that are not empty. -/
theorem all_isName_iff {items : List Value} :
    items.all isName = true ↔
      ∃ names : List String, items = names.map Value.string ∧ ∀ name ∈ names, name ≠ "" := by
  induction items with
  | nil => exact ⟨fun _ => ⟨[], rfl, by simp⟩, fun _ => rfl⟩
  | cons item rest ih =>
    rw [List.all_cons, Bool.and_eq_true, ih]
    constructor
    · rintro ⟨hitem, names, rfl, hnames⟩
      cases item with
      | string text =>
        have htext : text ≠ "" := by simpa [isName] using hitem
        refine ⟨text :: names, rfl, ?_⟩
        intro name hname
        rcases List.mem_cons.mp hname with rfl | hname
        · exact htext
        · exact hnames name hname
      | _ => exact absurd hitem (by simp [isName])
    · rintro ⟨names, hitems, hnames⟩
      cases names with
      | nil => cases hitems
      | cons name names =>
        rw [List.map_cons, List.cons.injEq] at hitems
        obtain ⟨rfl, rfl⟩ := hitems
        refine ⟨?_, names, rfl, fun other hother => hnames other (List.mem_cons_of_mem _ hother)⟩
        simpa [isName] using hnames name List.mem_cons_self

end Shape

/-! ### Readings of objects -/

namespace Form

theorem itemReadings_eq_map (items : List Value) : itemReadings items = items.map readings := by
  induction items with
  | nil => rfl
  | cons item rest ih => rw [itemReadings, ih, List.map_cons]

theorem fieldReadings_eq_map (fields : Fields) :
    fieldReadings fields = fields.map fun entry => (entry.1, readings entry.2) := by
  induction fields with
  | nil => rfl
  | cons entry rest ih =>
    obtain ⟨name, content⟩ := entry
    rw [fieldReadings, ih, List.map_cons]

theorem get?_fieldReadings (name : String) (fields : Fields) :
    Entries.get? name (fieldReadings fields) = (Entries.get? name fields).map readings := by
  induction fields with
  | nil => rfl
  | cons entry rest ih =>
    obtain ⟨key, content⟩ := entry
    rw [fieldReadings, Entries.get?_cons, Entries.get?_cons, ih]
    split <;> rfl

theorem programIn_fieldReadings {name : String} {fields : Fields} {content : Value}
    (h : Entries.get? name fields = some content) :
    programIn name (fieldReadings fields) = parse content := by
  unfold programIn
  rw [get?_fieldReadings, h]
  rfl

/-- A part that is left out is read as null. -/
theorem dataIn_fieldReadings (name : String) (fields : Fields) :
    dataIn name (fieldReadings fields) = parseData ((Entries.get? name fields).getD .null) := by
  unfold dataIn
  rw [get?_fieldReadings]
  cases Entries.get? name fields <;> rfl

theorem nameIn_eq {field name : String} {fields : Fields}
    (h : Entries.get? field fields = some (.string name)) : nameIn field fields = name := by
  unfold nameIn
  rw [h]
  rfl

theorem namesIn_eq {field : String} {names : List String} {fields : Fields}
    (h : Entries.get? field fields = some (.strings names)) : namesIn field fields = names := by
  have hstrings : (names.map Value.string).filterMap Value.string? = names := by
    rw [List.filterMap_map]
    exact List.filterMap_some
  unfold namesIn
  rw [h]
  exact hstrings

theorem parse_array (items : List Value) :
    parse (.array items) = sequence (items.map parse) := by
  show sequence ((itemReadings items).map Readings.program) = _
  rw [itemReadings_eq_map, List.map_map]
  rfl

theorem readings_of_shape {shape : Shape} {fields : Fields}
    (h : Shape.ofFields? fields = some shape) :
    readings (.object fields) = .both (ofShape shape fields (fieldReadings fields)) := by
  simp only [readings, h]

theorem readings_of_no_shape {fields : Fields} (h : Shape.ofFields? fields = none) :
    readings (.object fields) = .both (ofContents fields (fieldReadings fields)) := by
  simp only [readings, h]

end Form

namespace Phrase

/-- Something holds of the parts of a phrase that are evaluated. -/
def Parts (p : Value → Prop) : Phrase → Prop
  | call _ input => p input
  | sequence items => p (.array items)
  | binding _ value body => p value ∧ p body
  | _ => True

/-- The evaluated parts of a phrase are contents of fields, or null for an input that is left out. -/
theorem Says.parts {p : Value → Prop} {fields : Fields} {phrase : Phrase}
    (said : Says fields phrase) (hnull : p .null) (hfields : ∀ entry ∈ fields, p entry.2) :
    phrase.Parts p := by
  have hcontent {name : String} {content : Value} (h : Entries.get? name fields = some content) :
      p content := hfields _ (Entries.mem_of_get? h)
  cases said with
  | call keys htool named =>
    show p ((Entries.get? "input" fields).getD .null)
    cases h : Entries.get? "input" fields with
    | none => exact hnull
    | some input => exact hcontent h
  | sequence keys hitems => exact hcontent hitems
  | binding keys hname named hvalue hbody => exact ⟨hcontent hvalue, hcontent hbody⟩
  | _ => trivial

/-- The shape of a phrase. -/
def shape : Phrase → Shape
  | reference _ => .reference
  | call _ _ => .call
  | sequence _ => .sequence
  | binding _ _ _ => .binding
  | definition _ _ _ => .definition
  | quote _ => .quote

/-- An object that says a phrase has the shape of the phrase. -/
theorem Says.ofFields? {fields : Fields} {phrase : Phrase} (said : Says fields phrase) :
    Shape.ofFields? fields = some phrase.shape := by
  rw [Shape.ofFields?_eq_some_iff]
  cases said with
  | reference keys hname named =>
    exact ⟨Shape.hasFields_iff.mpr keys, Shape.isNameField_iff.mpr ⟨_, hname, named⟩⟩
  | call keys htool named =>
    exact ⟨Shape.hasFields_iff.mpr keys, Shape.isNameField_iff.mpr ⟨_, htool, named⟩⟩
  | sequence keys hitems =>
    refine ⟨Shape.hasFields_iff.mpr keys, ?_⟩
    simp only [shape, Shape.hasContents, hitems]
  | binding keys hname named hvalue hbody =>
    exact ⟨Shape.hasFields_iff.mpr keys, Shape.isNameField_iff.mpr ⟨_, hname, named⟩⟩
  | constantly keys hname named hbody =>
    have hfields : Fields.Exactly ["define", "body"] ["parameters"] fields :=
      ⟨keys.complete, fun name h => List.mem_append_left _ (keys.exact name h)⟩
    -- to the table parameters are a field that may be there; here it is not
    have hnone : Entries.get? "parameters" fields = none := by
      rw [← Option.not_isSome_iff_eq_none]
      intro hhas
      have hmem := keys.exact _ (Entries.has_iff_mem_names.mp hhas)
      exact absurd hmem (by decide)
    refine ⟨Shape.hasFields_iff.mpr hfields, ?_⟩
    simp only [shape, Shape.hasContents, hnone, Bool.and_true]
    exact Shape.isNameField_iff.mpr ⟨_, hname, named⟩
  | definition keys hname named hparameters allNamed hbody =>
    have hfields : Fields.Exactly ["define", "body"] ["parameters"] fields := by
      refine ⟨fun name h => keys.complete name (List.mem_append_left ["parameters"] h), ?_⟩
      intro name h
      exact keys.exact name h
    refine ⟨Shape.hasFields_iff.mpr hfields, ?_⟩
    simp only [shape, Shape.hasContents, hparameters, Value.strings, Bool.and_eq_true]
    exact ⟨Shape.isNameField_iff.mpr ⟨_, hname, named⟩,
      Shape.all_isName_iff.mpr ⟨_, rfl, allNamed⟩⟩
  | quote keys hvalue => exact ⟨Shape.hasFields_iff.mpr keys, rfl⟩

/-- Every object that has a shape says a phrase. -/
theorem exists_phrase {fields : Fields} {shape : Shape} (h : Shape.ofFields? fields = some shape) :
    ∃ phrase, Says fields phrase := by
  obtain ⟨hfields, hcontents⟩ := Shape.ofFields?_eq_some_iff.mp h
  have keys := Shape.hasFields_iff.mp hfields
  have content (name : String) (hname : name ∈ shape.required) :
      ∃ value, Entries.get? name fields = some value :=
    Option.isSome_iff_exists.mp (Entries.has_iff_mem_names.mpr (keys.complete name hname))
  cases shape with
  | reference =>
    obtain ⟨name, hname, named⟩ := Shape.isNameField_iff.mp hcontents
    exact ⟨_, .reference keys hname named⟩
  | call =>
    obtain ⟨tool, htool, named⟩ := Shape.isNameField_iff.mp hcontents
    exact ⟨_, .call keys htool named⟩
  | sequence =>
    obtain ⟨value, hvalue⟩ := content _ List.mem_cons_self
    simp only [Shape.hasContents, hvalue] at hcontents
    cases value with
    | array items => exact ⟨_, .sequence keys hvalue⟩
    | _ => exact absurd hcontents Bool.false_ne_true
  | binding =>
    obtain ⟨name, hname, named⟩ := Shape.isNameField_iff.mp hcontents
    obtain ⟨value, hvalue⟩ := content "value" (by decide)
    obtain ⟨body, hbody⟩ := content "in" (by decide)
    exact ⟨_, .binding keys hname named hvalue hbody⟩
  | definition =>
    obtain ⟨hname, hparameters⟩ := Bool.and_eq_true _ _ ▸ hcontents
    obtain ⟨name, hname, named⟩ := Shape.isNameField_iff.mp hname
    obtain ⟨body, hbody⟩ := content "body" (by decide)
    -- the shape is said by one phrase with parameters and by another without
    cases hgiven : Entries.get? "parameters" fields with
    | none =>
      refine ⟨_, .constantly ⟨keys.complete, ?_⟩ hname named hbody⟩
      intro key hkey
      rcases List.mem_append.mp (keys.exact key hkey) with hneeded | hallowed
      · exact hneeded
      · rw [List.mem_singleton.mp hallowed, ← Entries.has_iff_mem_names, Entries.has, hgiven] at hkey
        exact absurd hkey Bool.false_ne_true
    | some given =>
      rw [hgiven] at hparameters
      cases given with
      | array items =>
        obtain ⟨names, rfl, allNamed⟩ := Shape.all_isName_iff.mp hparameters
        refine ⟨_, .definition ⟨?_, keys.exact⟩ hname named hgiven allNamed hbody⟩
        intro key hkey
        rcases List.mem_append.mp (show key ∈ ["define", "body"] ++ ["parameters"] from hkey)
          with hneeded | hallowed
        · exact keys.complete key hneeded
        · rw [List.mem_singleton.mp hallowed]
          exact Entries.has_iff_mem_names.mp (Entries.has_of_get? hgiven)
      | _ => exact absurd hparameters Bool.false_ne_true
  | quote =>
    obtain ⟨value, hvalue⟩ := content _ List.mem_cons_self
    exact ⟨_, .quote keys hvalue⟩

/-- The parser makes of an object the phrase that it says. -/
theorem Says.readings {fields : Fields} {phrase : Phrase} (said : Says fields phrase) :
    Form.readings (.object fields) = .both phrase.form := by
  rw [Form.readings_of_shape said.ofFields?]
  congr 1
  cases said with
  | reference keys hname named =>
    exact congrArg Form.reference (Form.nameIn_eq hname)
  | call keys htool named =>
    show Form.call _ _ = Form.call _ _
    rw [Form.nameIn_eq htool, Form.dataIn_fieldReadings]
  | sequence keys hitems =>
    show Form.programIn "do" (Form.fieldReadings fields) = _
    rw [Form.programIn_fieldReadings hitems, Form.parse_array]
    rfl
  | binding keys hname named hvalue hbody =>
    show Form.binding _ _ _ = Form.binding _ _ _
    rw [Form.nameIn_eq hname, Form.dataIn_fieldReadings, Form.programIn_fieldReadings hbody, hvalue,
      Option.getD_some]
  | constantly keys hname named hbody =>
    have hnone : Form.namesIn "parameters" fields = [] := by
      unfold Form.namesIn
      split
      · next names hnames =>
        have hmem := keys.exact _ (Entries.has_iff_mem_names.mp (Entries.has_of_get? hnames))
        exact absurd hmem (by decide)
      · rfl
    show Form.definition _ _ _ = Form.definition _ _ _
    rw [Form.nameIn_eq hname, hnone, hbody, Option.getD_some]
  | definition keys hname named hparameters allNamed hbody =>
    show Form.definition _ _ _ = Form.definition _ _ _
    rw [Form.nameIn_eq hname, Form.namesIn_eq hparameters, hbody, Option.getD_some]
  | quote keys hvalue =>
    show Form.quote _ = Form.quote _
    rw [hvalue, Option.getD_some]

/-- An object that says no phrase is read as data, member by member. -/
theorem readings_of_silent {fields : Fields} (silent : ∀ phrase, ¬ Says fields phrase) :
    Form.readings (.object fields) =
      .both (Form.ofContents fields (Form.fieldReadings fields)) := by
  apply Form.readings_of_no_shape
  cases h : Shape.ofFields? fields with
  | none => rfl
  | some shape =>
    obtain ⟨phrase, said⟩ := exists_phrase h
    exact absurd said (silent phrase)

end Phrase

/-! ### Literals -/

namespace Form

/-- Data that is read as a literal is that literal itself. -/
theorem eq_literal_of_isLiteral {v : Value} (h : (parseData v).isLiteral = true) :
    parseData v = literal v := by
  cases v with
  | array items =>
    change (ofItems items _).isLiteral = true at h
    show ofItems items _ = _
    unfold ofItems at h ⊢
    split at h
    · next hall => rw [if_pos hall]
    · exact absurd h Bool.false_ne_true
  | object fields =>
    by_cases hsaid : ∃ phrase, Phrase.Says fields phrase
    · obtain ⟨phrase, said⟩ := hsaid
      unfold parseData at h
      rw [said.readings] at h
      cases phrase <;> exact absurd h Bool.false_ne_true
    · have hread := Phrase.readings_of_silent (not_exists.mp hsaid)
      unfold parseData at h ⊢
      rw [hread] at h ⊢
      change (ofContents fields _).isLiteral = true at h
      show ofContents fields _ = _
      unfold ofContents at h ⊢
      split at h
      · next hall => rw [if_pos hall]
      · exact absurd h Bool.false_ne_true
  | _ => rfl

end Form

end ToolWeave
