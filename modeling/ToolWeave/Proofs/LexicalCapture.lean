import ToolWeave.Proofs.Scenes
import ToolWeave.Proofs.Twins

/-!
# Defined tools mean what they meant

A defined tool looks names up in the frames it was defined in, as these were.  So whatever is done
after its definition, and from wherever it is invoked, the tool does the same with the same input: it
ends with the same value or failure, prints the same text and reads the same lines.

Two facts make up the argument.  The frames of the tool bind for good what they bound
(`Scene.frames_kept`), so that at any two later times they are alike, each paired with itself.  And runs
from alike states go alike (`Law.twins`), although they make their own frames under different
numbers.

## Design notes

**The caller's environment.**  An invocation of a defined tool starts in a new frame inside the frames
of the tool.  Where it is called from matters for nothing but the environment that is current again at
the end, which is why the two callers may be any.
-/

namespace ToolWeave

/-! ### Independence of the caller -/

namespace Tool

/-- The environment a defined tool is called from is current again at the end, and matters for nothing
else. -/
theorem perform_defined_environment (starter : Starter) (reach : Reach)
    (parameters : List String) (description : String) (body : Value) (closure : Environment)
    (input : Value) (world : World) (env : Environment) :
    let tool := Tool.defined parameters description body closure
    tool.perform starter reach input { world with environment := env } =
      ((tool.perform starter reach input world).1,
        { (tool.perform starter reach input world).2 with environment := env }) := by
  intro tool
  rw [perform_apply, perform_apply]
  have hact : tool.act reach input (begun starter tool input { world with environment := env }) =
      ((tool.act reach input (begun starter tool input world)).1,
        { (tool.act reach input (begun starter tool input world)).2 with environment := env }) := by
    dsimp only [tool, act]
    rw [Run.bind_apply, Run.bind_apply, Run.ofExcept_apply, Run.ofExcept_apply]
    cases inputFields parameters input with
    | error e => rfl
    | ok constants => rfl
  rw [hact]

end Tool

theorem Run.invokeAt_defined_environment (deeper : Tool → Value → Run Value) (further : Nat)
    (starter : Starter) (parameters : List String) (description : String) (body : Value)
    (closure : Environment) (input : Value) (world : World) (env : Environment) :
    let invocation :=
      invokeAt deeper further starter (.defined parameters description body closure) input
    invocation { world with environment := env } =
      ((invocation world).1, { (invocation world).2 with environment := env }) := by
  cases further with
  | zero => rfl
  | succ further => exact Tool.perform_defined_environment starter _ _ _ _ _ input world env

/-- Two runs end alike, print the same text and leave the same input to be read. -/
structure Run.Agree (first second : Run Value) (world world' : World) : Prop where
  outcome : (first world).1 = (second world').1
  printed : ∃ text, (first world).2.console.printed = world.console.printed ++ text ∧
    (second world').2.console.printed = world'.console.printed ++ text
  input : (first world).2.console.input = (second world').2.console.input

/-! ### Frames that stand for themselves -/

/-- Some frames hold only tools of the language, whose frames are among them. -/
def Store.Closed (store : Store) (numbers : Nat → Prop) : Prop :=
  ∀ number, numbers number → ∀ entry ∈ store.frameAt number,
    entry.2.2.isForeign = false ∧
      ∀ parameters description body closure,
        entry.2.2 = .defined parameters description body closure →
          ∀ inner ∈ closure.path, numbers inner

/-- An environment whose frames stand for themselves is alike itself. -/
theorem Environment.alike_self {ρ : Pairing} {env : Environment}
    (henv : ∀ number ∈ env.path, ρ.paired number number) : env.Alike ρ env :=
  List.forall₂_same.mpr henv

/-- A frame of tools of the language is alike itself if the frames of its tools stand for themselves. -/
theorem Frame.alike_self {ρ : Pairing} {frame : Frame}
    (hframe : ∀ entry ∈ frame, entry.2.2.isForeign = false ∧
      ∀ parameters description body closure, entry.2.2 = .defined parameters description body closure →
        ∀ inner ∈ closure.path, ρ.paired inner inner) : Frame.Alike ρ frame frame := by
  refine List.forall₂_same.mpr fun entry hentry => ⟨rfl, ?_⟩
  obtain ⟨hplain, hinner⟩ := hframe entry hentry
  generalize entry.2.2 = tool at hplain hinner
  cases tool with
  | builtin tool => exact .builtin tool
  | constant value => exact .constant value
  | defined parameters description body closure =>
    exact .defined parameters description body
      (Environment.alike_self (hinner parameters description body closure rfl))
  | _ => cases hplain

/-- Two stores that have some closed frames in common are alike. -/
theorem Store.alike_same {store store' origin : Store} {numbers : Nat → Prop}
    (hclosed : origin.Closed numbers)
    (hstore : ∀ number, numbers number → number < store.size ∧
      store.frameAt number = origin.frameAt number)
    (hstore' : ∀ number, numbers number → number < store'.size ∧
      store'.frameAt number = origin.frameAt number) :
    store.Alike (Pairing.same numbers) store' := by
  rintro m n ⟨rfl, hnumber⟩
  obtain ⟨hlt, hframe⟩ := hstore m hnumber
  obtain ⟨hlt', hframe'⟩ := hstore' m hnumber
  rw [hframe, hframe']
  refine ⟨⟨hlt, hlt'⟩, Frame.alike_self fun entry hentry => ?_⟩
  obtain ⟨hplain, hinner⟩ := hclosed m hnumber entry hentry
  refine ⟨hplain, fun parameters description body closure htool inner hmem => ⟨rfl, ?_⟩⟩
  exact hinner parameters description body closure htool inner hmem

/-- The frames of the tools that a sound scene knows are closed. -/
theorem Scene.Sound.closed {scene : Scene} (hscene : scene.Sound) :
    scene.store.Closed scene.Captured := by
  intro number _ entry hentry
  have htool : scene.Knows entry.2.2 := .inl ⟨number, entry, hentry, rfl⟩
  refine ⟨hscene.plain _ htool, ?_⟩
  intro parameters description body closure heq inner hinner
  exact ⟨parameters, description, body, closure, heq ▸ htool, hinner⟩

/-! ### Capture -/

section Capture

variable {parameters : List String} {description : String} {body : Value} {closure : Environment}

/-- A defined tool whose frames are alike in two states does the same in both. -/
theorem Run.invokeAt_defined_agree {numbers : Nat → Prop} {world world' : World}
    (hstore : world.store.Alike (Pairing.same numbers) world'.store)
    (hclosure : ∀ number ∈ closure.path, numbers number)
    (hinput : world.console.input = world'.console.input)
    (hworking : world.console.working = world'.console.working)
    (hscopes : Scope.check world.now world.scopes = Scope.check world'.now world'.scopes)
    (room limit left further : Nat) (starter : Starter) (input : Value) :
    let tool := Tool.defined parameters description body closure
    let invocation := Run.invokeAt (Run.call room limit left) further starter tool input
    Run.Agree invocation invocation world world' := by
  intro tool invocation
  have halike : closure.Alike (Pairing.same numbers) closure :=
    Environment.alike_self fun number hnumber => ⟨rfl, hclosure number hnumber⟩
  -- both callers are replaced by the environment of the tool, which is alike itself
  let inner : World := { world with environment := closure }
  let inner' : World := { world' with environment := closure }
  have hinner : World.Alike (Pairing.same numbers) world.console.printed world'.console.printed
      inner inner' :=
    { environment := halike
      frame := Pairing.sole_same (hclosure _ List.mem_cons_self)
      store := hstore
      printed := ⟨"", String.append_empty.symm, String.append_empty.symm⟩
      input := hinput
      working := hworking
      scopes := hscopes }
  have huntraced := Law.twins_untraced world.console.printed world'.console.printed
  have htwins : Run.Twins world.console.printed world'.console.printed (Pairing.same numbers)
      fun _ => invocation :=
    (huntraced.invokes limit).again room left further _ (fun _ => tool)
      (Tool.Alike.defined parameters description body halike) starter input
  obtain ⟨τ, -, houtcome, hafter⟩ := htwins _ le_rfl inner inner' hinner
  have hrun : invocation inner = _ :=
    Run.invokeAt_defined_environment _ further starter _ _ _ closure input world closure
  have hrun' : invocation inner' = _ :=
    Run.invokeAt_defined_environment _ further starter _ _ _ closure input world' closure
  dsimp only at houtcome hafter
  rw [hrun, hrun'] at houtcome hafter
  exact ⟨houtcome, hafter.printed, hafter.input⟩

/-- A call that is refused is refused whatever the state. -/
theorem Run.call_defined_agree {numbers : Nat → Prop} {world world' : World}
    (hstore : world.store.Alike (Pairing.same numbers) world'.store)
    (hclosure : ∀ number ∈ closure.path, numbers number)
    (hinput : world.console.input = world'.console.input)
    (hworking : world.console.working = world'.console.working)
    (hscopes : Scope.check world.now world.scopes = Scope.check world'.now world'.scopes)
    (room limit left : Nat) (input : Value) :
    let invocation := Run.call room limit left (.defined parameters description body closure) input
    Run.Agree invocation invocation world world' := by
  cases left with
  | zero => exact ⟨rfl, ⟨"", String.append_empty.symm, String.append_empty.symm⟩, hinput⟩
  | succ left =>
    exact Run.invokeAt_defined_agree hstore hclosure hinput hworking hscopes room limit left room
      .call input

end Capture

/-- **Lexical capture.**  A defined tool is known at some time.  At any two later times, with the same
input left to be read on streams that work alike and under scopes that answer alike, an invocation at
the same depth does the same with the same input, whatever environments it is made from. -/
theorem lexical_capture {origin first second : Scene} (horigin : Scene.Leads .initial origin)
    (hfirst : Scene.Leads origin first) (hsecond : Scene.Leads origin second)
    {parameters : List String} {description : String} {body : Value} {closure : Environment}
    (htool : origin.Knows (.defined parameters description body closure)) {world world' : World}
    (hstore : world.store = first.store) (hstore' : world'.store = second.store)
    (hinput : world.console.input = world'.console.input)
    (hworking : world.console.working = world'.console.working)
    (hscopes : Scope.check world.now world.scopes = Scope.check world'.now world'.scopes)
    (room limit left : Nat) (input : Value) :
    let tool := Tool.defined parameters description body closure
    let call := (Run.reach room limit left).call tool input
    Run.Agree call call world world' ∧
      ∀ starter, let again := (Run.reach room limit left).again starter tool input
        Run.Agree again again world world' := by
  have hsound := Scene.Leads.sound horigin Scene.initial_sound
  have hkept := Scene.frames_kept hsound hfirst
  have hkept' := Scene.frames_kept hsound hsecond
  have hclosure : ∀ number ∈ closure.path, origin.Captured number := fun number hnumber =>
    ⟨parameters, description, body, closure, htool, hnumber⟩
  have halike : world.store.Alike (Pairing.same origin.Captured) world'.store := by
    rw [hstore, hstore']
    refine Store.alike_same hsound.closed ?_ ?_
    · exact fun number hnumber => ⟨(hkept number hnumber).1, (hkept number hnumber).2.1⟩
    · exact fun number hnumber => ⟨(hkept' number hnumber).1, (hkept' number hnumber).2.1⟩
  refine ⟨?_, fun starter => ?_⟩
  · exact Run.call_defined_agree halike hclosure hinput hworking hscopes room limit left input
  · exact Run.invokeAt_defined_agree halike hclosure hinput hworking hscopes room limit left room
      starter input

/-- Defines a tool that adds. -/
def sumDefinition : Value :=
  .object [("define", .string "sum"),
    ("body", .object [("call", .string "add"), ("input", .array [.int 1, .int 2])])]

namespace Scene

/-- The built-in tools are bound in an open environment. -/
def plain : Scene := initial.openWith (Store.empty.root ToolSet.builtins)

/-- Then the tool is defined there. -/
def withSum : Scene :=
  { plain with store := (Run.evaluate (Run.reach 2 1 1) sumDefinition World.plain).2.store }

/-- Then the tool that it calls is no longer bound there. -/
def withoutAdd : Scene :=
  { withSum with store := withSum.store.undefine World.plain.environment "add" }

theorem leads_withSum : Leads initial withSum := by
  have hroot : Step initial plain := .root fun entry hentry => .inr <| by
    obtain ⟨tool, -, rfl⟩ := List.mem_map.mp hentry
    rfl
  have hdefine : Step plain withSum :=
    .evaluate 2 1 1 sumDefinition World.plain rfl (List.mem_singleton.mpr rfl)
  exact .tail (.single hroot) hdefine

theorem leads_withoutAdd : Leads withSum withoutAdd :=
  .single (.undefine (List.mem_singleton.mpr rfl) "add")

end Scene

set_option maxRecDepth 4000 in
/-- The tool does the same afterwards. -/
theorem lexical_capture_sum :
    let tool := Tool.defined [] "Defined tool."
      (.object [("call", .string "add"), ("input", .array [.int 1, .int 2])]) ⟨2, [1]⟩
    let call := (Run.reach 2 2 2).call tool .null
    Run.Agree call call { World.plain with store := Scene.withSum.store }
      { World.plain with store := Scene.withoutAdd.store } := by
  have hbinding : Scene.withSum.store.binding? World.plain.environment "sum" =
    some (16, .defined [] "Defined tool."
      (.object [("call", .string "add"), ("input", .array [.int 1, .int 2])]) ⟨2, [1]⟩) := rfl
  have hstore : { World.plain with store := Scene.withSum.store }.store = Scene.withSum.store := rfl
  have hstore' : { World.plain with store := Scene.withoutAdd.store }.store =
    Scene.withoutAdd.store := rfl
  exact (lexical_capture Scene.leads_withSum .refl Scene.leads_withoutAdd
    (.inl (Store.holds_of_binding? hbinding)) hstore hstore' rfl rfl rfl 2 2 2 .null).1

end ToolWeave
