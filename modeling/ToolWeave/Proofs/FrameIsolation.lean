import ToolWeave.Proofs.Actions
import ToolWeave.Proofs.Laws
import ToolWeave.Proofs.Stores

/-!
# A run changes no frame but its own

Environments share frames, and three of the built-in tools change one: the innermost frame of the
environment they are called from.  Whatever a program does, that is the frame the program was run in
or one that was made while it ran.  So after an evaluation every other frame that existed before
binds what it bound: the frames around, snapshots, and the frames of defined tools.

A defined tool runs in a new frame, and so an invocation of it changes no existing frame at all.

## Design notes

**An invariant of runs.**  `World.Keeps` relates the state before and after a run.  It is shown of the
single actions and is closed under everything that runs are built by, most notably under
`Run.inside`, where the frame that may change is a new one.
-/

namespace ToolWeave

/-- After a run the environment is current that was so before, and of the frames that existed at most
its innermost one has changed. -/
structure World.Keeps (before after : World) : Prop where
  environment_eq : after.environment = before.environment
  grows : Store.Grows (· = before.environment.frame) before.store after.store

namespace World.Keeps

theorem refl (world : World) : world.Keeps world := ⟨rfl, Store.Grows.refl _ _⟩

theorem trans {before between after : World} (hfirst : before.Keeps between)
    (hsecond : between.Keeps after) : before.Keeps after := by
  refine ⟨hsecond.environment_eq.trans hfirst.environment_eq, hfirst.grows.trans ?_⟩
  rw [← hfirst.environment_eq]
  exact hsecond.grows

/-- A change that is not one of frames. -/
theorem of_eq {before after : World} (hstore : after.store = before.store)
    (henvironment : after.environment = before.environment) : before.Keeps after := by
  refine ⟨henvironment, ?_⟩
  rw [hstore]
  exact Store.Grows.refl _ _

end World.Keeps

/-! ### Single actions -/

theorem Run.Refuses.keeps {α : Type} {action : Run α} (h : Run.Refuses action) (world : World) :
    world.Keeps (action world).2 := by
  obtain ⟨e, h⟩ := h
  rw [h]
  exact .refl world

theorem Run.Own.keeps {α : Type} {action : Run α} (haction : Run.Own action) (world : World) :
    world.Keeps (action world).2 := by
  cases haction with
  | checkScopes =>
    rw [Run.checkScopes_apply]
    exact .refl world
  | define input =>
    rcases Bindings.define_cases input with h | ⟨request, h⟩
    · exact h.keeps world
    · rw [h]
      refine ⟨rfl, Store.create_grows ?_ _ _ _ _⟩
      rfl
  | undefine input =>
    rcases Bindings.undefine_cases input with h | ⟨name, h⟩
    · exact h.keeps world
    · rw [h]
      refine ⟨rfl, Store.undefine_grows ?_ name⟩
      rfl
  | rebind input =>
    rcases Bindings.rebind_cases input with h | ⟨name, source, h⟩
    · exact h.keeps world
    · rw [h]
      cases hbinding : world.store.binding? world.environment source with
      | none => exact .refl world
      | some binding =>
        refine ⟨rfl, Store.bind_grows ?_ name (Store.holds_of_binding? hbinding)⟩
        rfl
  | listTools => exact .refl world
  | print input =>
    rcases ConsoleTools.print_cases input with h | ⟨text, h⟩
    · exact h.keeps world
    · rw [h]
      split
      · exact .of_eq rfl rfl
      · exact .refl world
  | readLine =>
    rw [ConsoleTools.readLine_apply]
    split
    · exact .of_eq rfl rfl
    · exact .refl world

theorem Run.Foreign.keeps {α : Type} {action : Run α} (haction : Run.Foreign action)
    (world : World) : world.Keeps (action world).2 := by
  obtain ⟨hstore, henvironment, -⟩ := haction.leaves world
  exact .of_eq hstore henvironment

/-! ### Runs -/

/-- In a new frame any run may do as it likes: of the frames that existed none is changed. -/
theorem Run.inside_grows (changed : Nat → Prop) {α : Type} {action : Run α}
    (haction : ∀ world : World, world.Keeps (action world).2) (outer : Environment)
    (constants : Fields) (world : World) :
    Store.Grows changed world.store (Run.inside outer constants action world).2.store := by
  have hentered : Store.Grows (· = world.store.size) world.store
      (world.enter outer constants).store := by
    refine Store.add_grows outer.path fun entry hentry => ?_
    obtain ⟨constant, _, rfl⟩ := List.mem_map.mp hentry
    exact .inr (.constant constant.2)
  -- the one frame that the run may change did not exist before
  refine (hentered.trans (haction (world.enter outer constants)).grows).mono ?_
  intro number hnumber heq
  exact absurd heq (Nat.ne_of_lt hnumber)

theorem Run.Simple.keeps {α : Type} {action : Run α} (haction : Run.Simple action) (world : World) :
    world.Keeps (action world).2 := by
  cases haction with
  | own haction => exact haction.keeps world
  | foreign haction => exact haction.keeps world
  | _ => exact .refl world

/-- One after the other keep what both keep. -/
theorem Run.bind_keeps {α β : Type} {x : Run α} {f : α → Run β}
    (hx : ∀ world : World, world.Keeps (x world).2)
    (hf : ∀ a, ∀ world : World, world.Keeps (f a world).2) (world : World) :
    world.Keeps ((x >>= f) world).2 := by
  have hfirst := hx world
  rw [Run.bind_apply]
  rcases hrun : x world with ⟨e | a, between⟩
  · rw [hrun] at hfirst
    exact hfirst
  · rw [hrun] at hfirst
    exact hfirst.trans (hf a between)

/-- Runs keep all frames but their own. -/
def Law.keeps : Law Unit Law.Stage :=
  .uniform (fun x => ∀ world : World, world.Keeps (x () world).2)
    (fun haction => haction.keeps)
    (fun hx hf => Run.bind_keeps hx hf)
    (fun outer constants hx world => ⟨rfl, Run.inside_grows _ hx outer constants world⟩)

theorem Law.keeps_untraced : Law.keeps.Untraced where
  captures _ _ _ hx world := hx world
  record _ _ _ := .of_eq rfl rfl

/-! ### Evaluations and invocations -/

/-- Of the frames that exist, an evaluation changes at most the one it is made in. -/
theorem Run.evaluate_keeps (room limit left : Nat) (program : Value) (world : World) :
    world.Keeps (Run.evaluate (Run.reach room limit left) program world).2 :=
  (Law.keeps_untraced.invokes limit).evaluate room left () program world

/-- Of the frames that exist, a tool changes at most the one it is invoked from. -/
theorem Run.again_keeps (room limit left : Nat) (starter : Starter) (tool : Tool) (input : Value)
    (world : World) :
    world.Keeps ((Run.reach room limit left).again starter tool input world).2 := by
  have halike : Law.keeps.alike () fun _ => tool := ⟨tool, rfl⟩
  exact (Law.keeps_untraced.invokes limit).again room left room () _ halike starter input world

/-- A defined tool that is invoked changes no frame that exists. -/
theorem Run.invokeAt_defined_grows (changed : Nat → Prop) (room limit left : Nat) (further : Nat)
    (starter : Starter) (parameters : List String) (description : String) (body : Value)
    (closure : Environment) (input : Value) (world : World) :
    Store.Grows changed world.store
      (Run.invokeAt (Run.call room limit left) further starter
        (.defined parameters description body closure) input world).2.store := by
  cases further with
  | zero => exact Store.Grows.refl _ _
  | succ further =>
    have hserves := (Law.keeps_untraced.invokes limit).serves room left further () input
    have hbody := Law.form hserves.toReaches (Form.parse body)
    rw [Run.invokeAt, Tool.perform_apply]
    dsimp only [Tool.act]
    rw [Run.bind_apply, Run.ofExcept_apply]
    cases Tool.inputFields parameters input with
    | error e => exact Store.Grows.refl _ _
    | ok constants => exact Run.inside_grows changed hbody closure constants (Tool.begun _ _ _ world)

theorem Run.call_defined_grows (changed : Nat → Prop) (room limit left : Nat)
    (parameters : List String) (description : String) (body : Value) (closure : Environment)
    (input : Value) (world : World) :
    Store.Grows changed world.store
      (Run.call room limit left (.defined parameters description body closure) input
        world).2.store := by
  cases left with
  | zero => exact Store.Grows.refl _ _
  | succ left =>
    exact Run.invokeAt_defined_grows changed room limit left room _ _ _ _ _ _ world

/-- **Frames are isolated.**  An evaluation, at any depth and however it ends, leaves the bindings of
every frame that existed before as they were, except for the frame it was made in.  An invocation of a
defined tool, from wherever, leaves the bindings of all frames as they were. -/
theorem frames_isolated (room limit left : Nat) (world : World) :
    (∀ program : Value, ∀ number < world.store.size, number ≠ world.environment.frame →
      (Run.evaluate (Run.reach room limit left) program world).2.store.frameAt number =
        world.store.frameAt number) ∧
    (∀ parameters description body closure input, ∀ number < world.store.size,
      ((Run.reach room limit left).call (.defined parameters description body closure) input
        world).2.store.frameAt number = world.store.frameAt number) ∧
    (∀ starter parameters description body closure input, ∀ number < world.store.size,
      ((Run.reach room limit left).again starter (.defined parameters description body closure)
        input world).2.store.frameAt number = world.store.frameAt number) := by
  refine ⟨?_, ?_, ?_⟩
  · intro program number hnumber hother
    exact (Run.evaluate_keeps room limit left program world).grows.frameAt_eq number hnumber hother
  · intro parameters description body closure input number hnumber
    exact (Run.call_defined_grows (fun _ => False) room limit left parameters description body
      closure input world).frameAt_eq number hnumber id
  · intro starter parameters description body closure input number hnumber
    exact (Run.invokeAt_defined_grows (fun _ => False) room limit left room starter parameters
      description body closure input world).frameAt_eq number hnumber id

/-- A definition made in a frame inside the root frame leaves the root frame as it was. -/
theorem frames_isolated_root :
    let world := World.plain.enter World.plain.environment []
    0 < world.store.size ∧ 0 ≠ world.environment.frame ∧
      (Run.evaluate (Run.reach 2 1 1) (.object [("define", .string "x"), ("body", .null)])
        world).2.store.frameAt 0 = world.store.frameAt 0 := by
  have hexists : 0 < (World.plain.enter World.plain.environment []).store.size := by decide
  have hother : 0 ≠ (World.plain.enter World.plain.environment []).environment.frame := by decide
  exact ⟨hexists, hother, (frames_isolated 2 1 1 _).1 _ 0 hexists hother⟩

end ToolWeave
