import ToolWeave.Proofs.LexicalCapture
import ToolWeave.Proofs.TreeReading

/-!
# What names mean in the body of a tool

A tool that was made by `define` keeps its meaning of names.  Whatever happens afterwards, a call of it
that lacks a parameter is refused before anything of the body runs, and in the body of any other call a
name means the input, or else a field of it, or else the tool itself, or else what it meant where and when
the tool was defined (`Scene.definition_resolves`).

## Main definitions

* `Scene.Move`, `Scene.Reaches`: what may happen, with tools from outside.
* `Store.closureOf`: the environment of a tool made in an environment.

## Design notes

**Four layers.**  A body runs in a frame of constants, inside a frame with the tool itself, inside copies of
the frames of the definition.  The copies are never changed (`Scene.Placed`), and looking a name up in the
layers one by one gives the four cases.
-/

namespace ToolWeave

/-! ### Frames of constants -/

namespace Entries

variable {α β : Type}

/-- Among different names it does not matter in which order they are put. -/
theorem get?_ofList_of_nodup {entries : Entries α} (h : (names entries).Nodup) (name : String) :
    get? name (ofList entries) = get? name entries := by
  have hreverse : (names entries.reverse).Nodup := by
    unfold names
    rw [List.map_reverse, (List.reverse_perm _).nodup_iff]
    exact h
  rw [get?_ofList]
  refine Option.ext fun content => ?_
  rw [get?_eq_some_iff hreverse, get?_eq_some_iff h, List.mem_reverse]

/-- Contents that depend on the name and the place alone. -/
theorem get?_mapIdx_snd (entries : Entries α) (made : Nat → α → Nat × α)
    (hmade : ∀ i content, (made i content).2 = content) (name : String) :
    (get? name (entries.mapIdx fun i entry => (entry.1, made i entry.2))).map Prod.snd = get? name entries := by
  induction entries generalizing made with
  | nil => rfl
  | cons entry rest ih =>
    obtain ⟨key, content⟩ := entry
    rw [List.mapIdx_cons, get?_cons, get?_cons]
    split
    · exact congrArg some (hmade 0 content)
    · exact ih (fun i => made (i + 1)) fun i => hmade (i + 1)

theorem get?_map (f : α → β) (entries : Entries α) (name : String) :
    get? name (entries.map fun entry => (entry.1, f entry.2)) = (get? name entries).map f := by
  induction entries with
  | nil => rfl
  | cons entry rest ih =>
    obtain ⟨key, content⟩ := entry
    rw [List.map_cons, get?_cons, get?_cons, ih]
    split <;> rfl

/-- Contents given by the names. -/
theorem get?_map_names (f : String → α) (given : List String) (name : String) :
    get? name (given.map fun key => (key, f key)) = if name ∈ given then some (f name) else none := by
  induction given with
  | nil => rfl
  | cons key rest ih =>
    rw [List.map_cons, get?_cons, ih]
    by_cases hkey : key = name
    · simp [hkey]
    · simp [hkey, Ne.symm hkey]

end Entries

/-- A frame of tools with different names binds each name to its tool. -/
theorem Frame.get?_ofTools {tools : Entries Tool} (h : (Entries.names tools).Nodup) (before : Nat)
    (name : String) :
    (Entries.get? name (Frame.ofTools before tools)).map Prod.snd = Entries.get? name tools := by
  have hnames : Entries.names (tools.mapIdx fun i entry => (entry.1, (before + i, entry.2))) =
      Entries.names tools := by
    refine List.ext_getElem (by simp [Entries.names]) fun i _ _ => ?_
    simp [Entries.names]
  unfold Frame.ofTools
  rw [Entries.get?_ofList_of_nodup (hnames ▸ h)]
  exact Entries.get?_mapIdx_snd tools (fun i tool => (before + i, tool)) (fun _ _ => rfl) name

/-! ### What a definition leaves -/

namespace Store

variable {store : Store} {env : Environment}

/-- The environment of a tool made in an environment: a frame of its own inside copies of the frames there. -/
def closureOf (store : Store) (env : Environment) : Environment :=
  ⟨(store.snapshot env).1.size, (store.snapshot env).2.path⟩

/-- The binding of a tool made in an environment. -/
def made (store : Store) (env : Environment) (parameters : List String) (description : String) (body : Value) :
    Binding :=
  (store.tools, .defined parameters description body (store.closureOf env))

variable {name : String} {parameters : List String} {description : String} {body : Value}

/-- Making a tool adds a frame with its own name, and then changes the frame that it is bound in. -/
theorem frameAt_create (number : Nat) :
    (store.create env name parameters description body).frameAt number =
      (((store.snapshot env).1.push [(name, store.made env parameters description body)]).change env.frame
        (Entries.put name (store.made env parameters description body))).frameAt number := rfl

/-- The name of a tool that was just made is bound to it. -/
theorem binding?_create (henv : env.frame < store.size) :
    (store.create env name parameters description body).binding? env name =
      some (store.made env parameters description body) := by
  have hsize : env.frame <
      ((store.snapshot env).1.push [(name, store.made env parameters description body)]).size := by
    have hgrows := (@snapshot_grows (fun _ => False) store env).1.size_le
    rw [size_push]
    omega
  show Frame.find? name (frameAt _ env.frame :: env.outer.map _) = _
  rw [Frame.find?_cons, frameAt_create, frameAt_change_self _ hsize, Entries.get?_put_self, Option.some_or]

/-- In the environment of a tool its own name comes first, and then what the frames bound when it was made. -/
theorem chain_closureOf (henv : env.frame < store.size) :
    (store.create env name parameters description body).chain (store.closureOf env) =
      [(name, store.made env parameters description body)] :: store.chain env := by
  obtain ⟨hgrows, hpath⟩ := @snapshot_grows (fun _ => False) store env
  have hsize := hgrows.size_le
  let own : Frame := [(name, store.made env parameters description body)]
  -- the frame that the name is bound in is none of those of the tool
  have hkept : ∀ number ∈ (store.closureOf env).path,
      (store.create env name parameters description body).frameAt number =
        ((store.snapshot env).1.push own).frameAt number := by
    intro number hnumber
    refine frameAt_change_of_ne _ _ ?_
    rcases List.mem_cons.mp hnumber with rfl | hnumber
    · show (store.snapshot env).1.size ≠ env.frame
      omega
    · have hlower := (hpath number hnumber).1
      omega
  unfold chain
  rw [List.map_congr_left hkept]
  show ((store.snapshot env).1.push own).frameAt (store.snapshot env).1.size ::
    (store.snapshot env).2.path.map ((store.snapshot env).1.push own).frameAt = _
  rw [frameAt_push, if_pos rfl, map_frameAt_push _ _ fun number hnumber => (hpath number hnumber).2]
  exact congrArg (own :: ·) (chain_snapshot store env)

end Store

/-! ### Whatever happens -/

namespace Scene

/-- One thing done, by a host that may also come to hold tools from outside. -/
inductive Move (scene : Scene) : Scene → Prop
  | step {next : Scene} (h : Step scene next) : Move scene next
  | lend {tool : Tool} (htool : tool.isForeign = true) : Move scene { scene with tools := tool :: scene.tools }

/-- What may have been done in any number of moves. -/
abbrev Reaches : Scene → Scene → Prop := Relation.ReflTransGen Move

variable {scene next later : Scene}

/-- Defined tools are not from outside. -/
theorem knows_of_lend {tool : Tool} (htool : tool.isForeign = true) {parameters : List String}
    {description : String} {body : Value} {closure : Environment}
    (h : Knows { scene with tools := tool :: scene.tools } (.defined parameters description body closure)) :
    scene.Knows (.defined parameters description body closure) := by
  rcases h with hheld | hkept
  · exact .inl hheld
  · rcases List.mem_cons.mp hkept with rfl | hkept
    · cases htool
    · exact .inr hkept

theorem Move.placed (h : Move scene next) (hscene : scene.Placed) : next.Placed := by
  cases h with
  | step h =>
    obtain ⟨first, hchanges⟩ := h.changes hscene
    exact hchanges.placed hscene
  | lend htool => exact ⟨hscene.opened, fun hknown => hscene.closures (knows_of_lend htool hknown)⟩

theorem Move.guards (h : Move scene next) (hscene : scene.Placed) {numbers : Nat → Prop} {earlier : Store}
    (hguards : scene.Guards numbers earlier) : next.Guards numbers earlier := by
  cases h with
  | step h =>
    obtain ⟨first, hchanges⟩ := h.changes hscene
    exact hchanges.guards hguards
  | lend htool => exact hguards

theorem Reaches.placed (h : Reaches scene later) (hscene : scene.Placed) : later.Placed := by
  induction h with
  | refl => exact hscene
  | tail _ hmove ih => exact hmove.placed ih

/-- The frames of known tools bind for good what they bind. -/
theorem Reaches.guards (h : Reaches scene later) (hscene : scene.Placed) :
    later.Guards scene.Captured scene.store := by
  induction h with
  | refl =>
    rintro number ⟨parameters, description, body, closure, htool, hnumber⟩
    obtain ⟨hlt, hopened⟩ := hscene.closures htool number hnumber
    exact ⟨hlt, rfl, hopened⟩
  | tail hbefore hmove ih => exact hmove.guards (Reaches.placed hbefore hscene) ih

end Scene

/-! ### Definitions and calls -/

namespace Bindings

/-- The parameters that are asked for have different names, none of which is the name of the input. -/
theorem request_parameters {input : Value} {asked : Request} (h : request input = .ok asked) :
    inputName ∉ asked.parameters ∧ asked.parameters.Nodup := by
  unfold request at h
  obtain ⟨fields, -, h⟩ := exists_of_bind h
  obtain ⟨name, -, h⟩ := exists_of_bind h
  by_cases hname : name = ""
  · rw [if_pos hname] at h
    cases h
  rw [if_neg hname] at h
  obtain ⟨parameters, -, h⟩ := exists_of_bind h
  obtain ⟨description, -, h⟩ := exists_of_bind h
  by_cases hreserved : parameters.contains inputName = true
  · rw [if_pos hreserved] at h
    cases h
  rw [if_neg hreserved] at h
  by_cases hrepeated : (!decide parameters.Nodup) = true
  · rw [if_pos hrepeated] at h
    cases h
  rw [if_neg hrepeated] at h
  cases h
  exact ⟨by simpa using hreserved, by simpa using hrepeated⟩

/-- A definition that succeeds has made the tool that its input asks for. -/
theorem define_ok {input : Value} {name : String} {world after : World}
    (h : define input world = (.ok (.string name), after)) :
    ∃ asked, request input = .ok asked ∧ asked.name = name ∧
      after = { world with
        store := world.store.create world.environment asked.name asked.parameters
          asked.description asked.body } := by
  unfold define at h
  cases hrequest : request input with
  | error e =>
    rw [hrequest] at h
    cases h
  | ok asked =>
    rw [hrequest] at h
    cases h
    exact ⟨asked, rfl, rfl, rfl⟩

end Bindings

namespace Tool

section Inputs

variable {parameters : List String} {v : Value}

theorem inputFields_of_other (hparameters : parameters ≠ []) (h : ∀ fields, v ≠ .object fields) :
    inputFields parameters v = .error (.invalidInput "defined tool expects an object input"
      [("parameters", .strings parameters), ("got", .string v.kind.name)]) := by
  unfold inputFields
  rw [if_neg (by simpa using hparameters)]
  cases v with
  | object fields => exact absurd rfl (h fields)
  | _ => rfl

/-- The parameters that are missing are those without a field. -/
theorem missingParameters_object (parameters : List String) (fields : Fields) :
    missingParameters parameters (.object fields) = parameters.filter fun name => !Entries.has name fields := by
  refine List.filter_congr fun name _ => ?_
  show (Entries.get? name fields).isNone = !(Entries.get? name fields).isSome
  rw [Option.not_isSome]

theorem inputFields_of_missing {fields : Fields} {missing : List String}
    (hmissing : parameters.filter (fun name => !Entries.has name fields) = missing) (h : missing ≠ []) :
    inputFields parameters (.object fields) =
      .error (.invalidInput ("input is missing parameter(s): " ++ String.intercalate ", " missing)
        [("parameters", .strings parameters), ("missing", .strings missing)]) := by
  have hparameters : parameters ≠ [] := by
    rintro rfl
    exact h hmissing.symm
  unfold inputFields
  rw [if_neg (by simpa using hparameters), missingParameters_object, hmissing]
  cases missing with
  | nil => exact absurd rfl h
  | cons first rest => rfl

/-- An input that lacks nothing has a field for each parameter. -/
theorem exists_field_of_complete
    (h : parameters = [] ∨ ∃ fields, v = .object fields ∧ ∀ name ∈ parameters, Entries.has name fields = true)
    {name : String} (hname : name ∈ parameters) : ∃ content, v.field? name = some content := by
  rcases h with rfl | ⟨fields, rfl, hfields⟩
  · cases hname
  · exact Option.isSome_iff_exists.mp (hfields name hname)

/-- The constants of a call that lacks nothing are the input and its fields. -/
theorem inputFields_of_complete
    (h : parameters = [] ∨ ∃ fields, v = .object fields ∧ ∀ name ∈ parameters, Entries.has name fields = true) :
    ∃ constants, inputFields parameters v = .ok constants ∧
      Entries.names constants = Bindings.inputName :: parameters ∧
      ∀ name, Entries.get? name constants =
        if name = Bindings.inputName then some v else if name ∈ parameters then v.field? name else none := by
  have hfirst (rest : Fields) (name : String) : Entries.get? name ((Bindings.inputName, v) :: rest) =
      if name = Bindings.inputName then some v else Entries.get? name rest := by
    simp only [Entries.get?_cons, eq_comm]
  by_cases hparameters : parameters = []
  · subst hparameters
    exact ⟨[(Bindings.inputName, v)], rfl, rfl, by simp [hfirst]⟩
  · obtain ⟨fields, rfl, hfields⟩ := h.resolve_left hparameters
    have hnone : missingParameters parameters (.object fields) = [] := by
      rw [missingParameters_object, List.filter_eq_nil_iff]
      intro name hname
      simp [hfields name hname]
    refine ⟨(Bindings.inputName, .object fields) ::
      parameters.map fun name => (name, (Entries.get? name fields).getD .null), ?_, ?_, fun name => ?_⟩
    · unfold inputFields
      rw [if_neg (by simpa using hparameters), hnone]
    · simp [Entries.names, Function.comp_def]
    · rw [hfirst, Entries.get?_map_names]
      by_cases hname : name ∈ parameters
      · obtain ⟨content, hcontent⟩ := Option.isSome_iff_exists.mp (hfields name hname)
        simp [hname, hcontent, Value.field?]
      · simp [hname]

end Inputs

section Calls

variable {parameters : List String} {description : String} {body : Value} {closure : Environment} {v : Value}

/-- A call whose input is refused does nothing. -/
theorem perform_of_refused {e : ToolError} (h : inputFields parameters v = .error e) (starter : Starter)
    (reach : Reach) (state : World) :
    let tool := Tool.defined parameters description body closure
    tool.perform starter reach v state =
      (.error e, { state with trace := .ended :: .began starter tool v :: state.trace }) := by
  intro tool
  have hact : tool.act reach v (begun starter tool v state) = (.error e, begun starter tool v state) := by
    dsimp only [tool, act]
    rw [Run.bind_apply, Run.ofExcept_apply, h]
  rw [perform_apply, hact]
  rfl

/-- A call whose input is not refused runs the body in a new frame. -/
theorem perform_of_accepted {constants : Fields} (h : inputFields parameters v = .ok constants) (starter : Starter)
    (reach : Reach) (state : World) :
    let tool := Tool.defined parameters description body closure
    let start := (begun starter tool v state).enter closure constants
    tool.perform starter reach v state = ((((Form.parse body).run reach start).1).bind verdict,
      { ((Form.parse body).run reach start).2 with
        environment := state.environment
        trace := .ended :: ((Form.parse body).run reach start).2.trace }) := by
  intro tool start
  have hact : tool.act reach v (begun starter tool v state) =
      (((Form.parse body).run reach start).1,
        { ((Form.parse body).run reach start).2 with environment := state.environment }) := by
    dsimp only [tool, act]
    rw [Run.bind_apply, Run.ofExcept_apply, h]
    rfl
  rw [perform_apply, hact]

end Calls

end Tool

namespace World

variable {world : World} {env : Environment} {constants : Fields}

/-- In a new frame of constants, names are looked up among these first. -/
theorem chain_enter (henv : ∀ number ∈ env.path, number < world.store.size) :
    (world.enter env constants).store.chain (world.enter env constants).environment =
      Frame.ofTools world.store.tools (constants.map fun entry => (entry.1, .constant entry.2)) ::
        world.store.chain env :=
  world.store.chain_add henv _

/-- A name means its constant, if there is one. -/
theorem lookup_enter (henv : ∀ number ∈ env.path, number < world.store.size)
    (hnames : (Entries.names constants).Nodup) (name : String) :
    (world.enter env constants).lookup name =
      ((Entries.get? name constants).map .constant).or (world.store.lookup env name) := by
  have htools : (Entries.names (constants.map fun entry => (entry.1, Tool.constant entry.2))).Nodup := by
    simpa [Entries.names, Function.comp_def] using hnames
  show (Frame.find? name (Store.chain _ _)).map Prod.snd = _
  rw [chain_enter henv, Frame.find?_cons, Option.map_or, Frame.get?_ofTools htools, Entries.get?_map]
  rfl

/-- Without a constant a name is bound to what it is bound to around. -/
theorem binding?_enter (henv : ∀ number ∈ env.path, number < world.store.size)
    (hnames : (Entries.names constants).Nodup) {name : String} (hname : Entries.get? name constants = none) :
    (world.enter env constants).store.binding? (world.enter env constants).environment name =
      world.store.binding? env name := by
  have htools : (Entries.names (constants.map fun entry => (entry.1, Tool.constant entry.2))).Nodup := by
    simpa [Entries.names, Function.comp_def] using hnames
  have hframe := Frame.get?_ofTools htools world.store.tools name
  rw [Entries.get?_map, hname, Option.map_none, Option.map_eq_none_iff] at hframe
  show Frame.find? name (Store.chain _ _) = _
  rw [chain_enter henv, Frame.find?_cons, hframe, Option.none_or]
  rfl

end World

namespace Scene

/-- After a definition in an open environment everything is in place still. -/
theorem placed_create {scene : Scene} (hscene : scene.Placed) {env : Environment} (henv : env ∈ scene.opened)
    (name : String) (parameters : List String) (description : String) (body : Value) :
    Placed { scene with store := scene.store.create env name parameters description body } := by
  have hgrows := @Store.create_grows (· = env.frame) scene.store env rfl name parameters description body
  exact (changes_of_grows hgrows fun number heq => ⟨env, henv, heq.symm⟩).placed hscene

/-- Whatever happens after a definition, in the environment of the tool its name is bound to it, and any other
name to what it was bound to in the environment of the definition. -/
theorem Reaches.binding?_closureOf {scene later : Scene} (hscene : scene.Placed) {env : Environment}
    (henv : env ∈ scene.opened) {name : String} {parameters : List String} {description : String} {body : Value}
    (h : Reaches { scene with store := scene.store.create env name parameters description body } later) :
    (∀ number ∈ (scene.store.closureOf env).path, number < later.store.size) ∧
      ∀ x, later.store.binding? (scene.store.closureOf env) x =
        if x = name then some (scene.store.made env parameters description body)
        else scene.store.binding? env x := by
  have hframe : env.frame < scene.store.size := hscene.opened _ henv _ List.mem_cons_self
  have hbinding := @Store.binding?_create scene.store env name parameters description body hframe
  -- the frames of the tool are as the definition left them
  have hguards := h.guards (placed_create hscene henv name parameters description body)
  have hkept : ∀ number ∈ (scene.store.closureOf env).path, number < later.store.size ∧
      later.store.frameAt number = (scene.store.create env name parameters description body).frameAt number := by
    intro number hnumber
    obtain ⟨hlt, heq, -⟩ := hguards number ⟨_, _, _, _, .inl (Store.holds_of_binding? hbinding), hnumber⟩
    exact ⟨hlt, heq⟩
  have hchain : later.store.chain (scene.store.closureOf env) =
      [(name, scene.store.made env parameters description body)] :: scene.store.chain env :=
    (List.map_congr_left fun number hnumber => (hkept number hnumber).2).trans (Store.chain_closureOf hframe)
  refine ⟨fun number hnumber => (hkept number hnumber).1, fun x => ?_⟩
  show Frame.find? x (Store.chain _ _) = _
  rw [hchain, Frame.find?_cons, Entries.get?_cons, Entries.get?_nil]
  by_cases hx : x = name
  · rw [if_pos hx, if_pos hx.symm, Option.some_or]
  · rw [if_neg hx, if_neg (Ne.symm hx), Option.none_or]
    rfl

/-- **What names mean in the body of a tool.**  A tool is made by a definition in an open environment, and then
anything may happen.  If it has parameters, a call with something else than an object is refused, and so is a
call with an object that lacks some of them, which are listed in the order of the definition; nothing else is
done then.  Any other call runs the body in a new frame.  There a name means the input, or else the field of
the input, or else the tool itself, or else what it meant in the environment of the definition before it, and
nothing if it meant nothing there. -/
theorem definition_resolves {origin later : Scene} (horigin : Reaches .initial origin) {world after : World}
    (hstore : world.store = origin.store) (henv : world.environment ∈ origin.opened)
    {input : Value} {name : String} (hdefine : Bindings.define input world = (.ok (.string name), after))
    (hlater : Reaches { origin with store := after.store } later) :
    ∃ asked number closure, Bindings.request input = .ok asked ∧ asked.name = name ∧
      let tool := Tool.defined asked.parameters asked.description asked.body closure
      after.store.binding? world.environment name = some (number, tool) ∧
      ∀ (starter : Starter) (reach : Reach) (v : Value) (state : World), state.store = later.store →
        (asked.parameters ≠ [] → (∀ fields, v ≠ .object fields) →
          tool.perform starter reach v state =
            (.error (.invalidInput "defined tool expects an object input"
              [("parameters", .strings asked.parameters), ("got", .string v.kind.name)]),
              { state with trace := .ended :: .began starter tool v :: state.trace })) ∧
        (∀ fields missing, v = .object fields →
          asked.parameters.filter (fun x => !Entries.has x fields) = missing → missing ≠ [] →
          tool.perform starter reach v state =
            (.error (.invalidInput ("input is missing parameter(s): " ++ String.intercalate ", " missing)
              [("parameters", .strings asked.parameters), ("missing", .strings missing)]),
              { state with trace := .ended :: .began starter tool v :: state.trace })) ∧
        ((asked.parameters = [] ∨
            ∃ fields, v = .object fields ∧ ∀ x ∈ asked.parameters, Entries.has x fields = true) →
          ∃ start : World,
            tool.perform starter reach v state = ((((Form.parse asked.body).run reach start).1).bind Tool.verdict,
              { ((Form.parse asked.body).run reach start).2 with
                environment := state.environment
                trace := .ended :: ((Form.parse asked.body).run reach start).2.trace }) ∧
            start = { state with
              store := start.store
              environment := start.environment
              trace := .began starter tool v :: state.trace } ∧
            start.environment.frame = state.store.size ∧
            (∀ frame < state.store.size, start.store.frameAt frame = state.store.frameAt frame) ∧
            (∀ x, start.lookup x =
              if x = Bindings.inputName then some (.constant v)
              else if x ∈ asked.parameters then (v.field? x).map .constant
              else if x = name then some tool
              else world.lookup x) ∧
            ∀ x, x ≠ Bindings.inputName → x ∉ asked.parameters →
              start.store.binding? start.environment x =
                if x = name then some (number, tool) else world.store.binding? world.environment x) := by
  have hplaced : origin.Placed := horigin.placed initial_sound.toPlaced
  obtain ⟨asked, hrequest, rfl, rfl⟩ := Bindings.define_ok hdefine
  obtain ⟨hreserved, hdistinct⟩ := Bindings.request_parameters hrequest
  obtain ⟨store, opened, tools⟩ := origin
  obtain rfl : world.store = store := hstore
  have hframe : world.environment.frame < world.store.size := hplaced.opened _ henv _ List.mem_cons_self
  obtain ⟨hpath, hsurroundings⟩ := hlater.binding?_closureOf hplaced henv
  refine ⟨asked, world.store.tools, world.store.closureOf world.environment, hrequest, rfl,
    Store.binding?_create hframe, ?_⟩
  intro starter reach v state hstate
  rw [← hstate] at hpath hsurroundings
  refine ⟨fun hparameters hother => ?_, fun fields missing hv hmissing hne => ?_, fun hcomplete => ?_⟩
  · exact Tool.perform_of_refused (Tool.inputFields_of_other hparameters hother) starter reach state
  · subst hv
    exact Tool.perform_of_refused (Tool.inputFields_of_missing hmissing hne) starter reach state
  · obtain ⟨constants, hconstants, hnames, hcontents⟩ := Tool.inputFields_of_complete hcomplete
    have hconstantNames : (Entries.names constants).Nodup := hnames ▸ List.nodup_cons.mpr ⟨hreserved, hdistinct⟩
    refine ⟨_, Tool.perform_of_accepted hconstants starter reach state, rfl, rfl, fun frame hlt => ?_, fun x => ?_,
      fun x hinput hparameter => ?_⟩
    · show (Store.push state.store _).frameAt frame = _
      rw [Store.frameAt_push, if_neg (Nat.ne_of_lt hlt)]
    · refine (World.lookup_enter hpath hconstantNames x).trans ?_
      have hlookup : state.store.lookup (world.store.closureOf world.environment) x =
          if x = asked.name then some (.defined asked.parameters asked.description asked.body
            (world.store.closureOf world.environment)) else world.lookup x := by
        unfold Store.lookup
        rw [hsurroundings]
        split <;> rfl
      show ((Entries.get? x constants).map Tool.constant).or (state.store.lookup _ x) = _
      rw [hcontents, hlookup]
      by_cases hinput : x = Bindings.inputName
      · simp [hinput]
      · by_cases hparameter : x ∈ asked.parameters
        · -- every parameter has a field, which hides what is around
          obtain ⟨content, hcontent⟩ := Tool.exists_field_of_complete hcomplete hparameter
          simp [hinput, hparameter, hcontent]
        · simp only [if_neg hinput, if_neg hparameter, Option.map_none, Option.none_or]
    · refine (World.binding?_enter hpath hconstantNames ?_).trans (hsurroundings x)
      rw [hcontents, if_neg hinput, if_neg hparameter]

/-- Defines a tool with a parameter that adds up what it is given. -/
def totalDefinition : Value :=
  .object [("name", .string "total"), ("parameters", .strings ["terms"]),
    ("body", .object [("call", .string "add"), ("input", .object [("ref", .string "terms")])])]

/-- A call of it. -/
def totalCall : Value := .object [("terms", .array [.int 1, .int 2])]

/-- The state after the definition, in which the tool that it calls is then no longer bound. -/
def afterTotal : World :=
  let world := (Bindings.define totalDefinition World.plain).2
  { world with store := world.store.undefine World.plain.environment "add" }

/-- The theorem at this definition: in the body of the tool names mean the input, its field, the tool, and the
tool that is no longer bound around it, and a call without the parameter is refused. -/
theorem definition_resolves_total :
    ∃ (asked : Bindings.Request) (closure : Environment) (start : World),
      let tool := Tool.defined asked.parameters asked.description asked.body closure
      Bindings.request totalDefinition = .ok asked ∧ afterTotal.lookup "total" = some tool ∧
        afterTotal.lookup "add" = none ∧
        start.lookup "input" = some (.constant totalCall) ∧
        start.lookup "terms" = some (.constant (.array [.int 1, .int 2])) ∧
        start.lookup "total" = some tool ∧ start.lookup "add" = some (.builtin .add) ∧
        (tool.perform .other (Run.top 1) (.object []) afterTotal).1 =
          .error (.invalidInput "input is missing parameter(s): terms"
            [("parameters", .strings ["terms"]), ("missing", .strings ["terms"])]) := by
  have hroot : Step initial plain := .root fun entry hentry => .inr <| by
    obtain ⟨tool, -, rfl⟩ := List.mem_map.mp hentry
    rfl
  have hdefine : Bindings.define totalDefinition World.plain =
    (.ok (.string "total"), (Bindings.define totalDefinition World.plain).2) := rfl
  have hopened : World.plain.environment ∈ plain.opened := List.mem_singleton.mpr rfl
  let defined : Scene := { plain with store := (Bindings.define totalDefinition World.plain).2.store }
  have hundefine : Step defined { defined with store := afterTotal.store } :=
    @Step.undefine defined _ hopened "add"
  obtain ⟨asked, number, closure, hrequest, -, hbound, hcalls⟩ := definition_resolves (.single (.step hroot)) rfl
    hopened hdefine (.single (.step hundefine))
  let body : Value := .object [("call", .string "add"), ("input", .object [("ref", .string "terms")])]
  obtain rfl : (⟨"total", ["terms"], "Defined tool.", body⟩ : Bindings.Request) = asked := Except.ok.inj hrequest
  obtain ⟨-, hmissing, -⟩ := hcalls .other (Run.top 1) (.object []) afterTotal rfl
  obtain ⟨-, -, hcomplete⟩ := hcalls .other (Run.top 1) totalCall afterTotal rfl
  have hterms : ∀ x ∈ ["terms"], Entries.has x [("terms", Value.array [.int 1, .int 2])] = true := by decide
  obtain ⟨start, -, -, -, -, hlookup, -⟩ := hcomplete (.inr ⟨_, rfl, hterms⟩)
  refine ⟨_, closure, start, hrequest, ?_, rfl, hlookup "input", hlookup "terms", hlookup "total", hlookup "add",
    ?_⟩
  · exact congrArg (Option.map Prod.snd) hbound
  · rw [hmissing [] ["terms"] rfl rfl (List.cons_ne_nil _ _)]
    rfl

end Scene

end ToolWeave
