import Mathlib.Logic.Relation
import ToolWeave.Proofs.FrameIsolation

/-!
# What a host may do with environments

A host opens environments, evaluates programs in them, invokes tools from them, binds names and
removes bindings, and keeps hold of tools it came across.  A `Scene` is what all this works on, and
`Scene.Step` is one such thing done, in any order and any number of times.

The frames of a defined tool stay out of reach.  They are copies made for it, so no environment that is
ever opened has one of them as its innermost frame, and nothing else is ever changed.
`Scene.frames_kept` draws the conclusion: whatever happens, the frames of a tool known at some time
bind for good what they bound then.

## Design notes

**Programs under way.**  A program works in environments that the host does not see: the frames of
bindings, and the frames in which defined tools run.  To stop anywhere in the middle of a run, a scene
may also open such a frame, as a child of an environment that is open or of one a known tool was
defined in.

**States without frames.**  The console, the scopes and the time are no part of a scene.  An
evaluation or invocation may find them in any condition.
-/

namespace ToolWeave

/-- The frames there are, the environments that are open, and the tools that are kept hold of. -/
structure Scene where
  store : Store
  opened : List Environment
  tools : List Tool

namespace Scene

/-- Before anything is done. -/
def initial : Scene := ⟨Store.empty, [], []⟩

/-- A tool is bound somewhere or kept hold of. -/
def Knows (scene : Scene) (tool : Tool) : Prop := scene.store.Holds tool ∨ tool ∈ scene.tools

/-- A tool can be bound: it is known, or it is a built-in tool or a constant. -/
def Offers (scene : Scene) (tool : Tool) : Prop := scene.Knows tool ∨ tool.isSimple = true

/-- The scene with a new environment open. -/
def openWith (scene : Scene) (added : Store × Environment) : Scene :=
  { scene with store := added.1, opened := added.2 :: scene.opened }

/-- One thing done by a host or by a program under way. -/
inductive Step (scene : Scene) : Scene → Prop
  /-- A program is evaluated in an open environment, at any depth and in any condition. -/
  | evaluate (room limit left : Nat) (program : Value) (world : World)
      (hstore : world.store = scene.store) (henv : world.environment ∈ scene.opened) :
      Step scene
        { scene with store := (Run.evaluate (Run.reach room limit left) program world).2.store }
  /-- A known tool is invoked from an open environment. -/
  | invoke (room limit left : Nat) (starter : Starter) {tool : Tool} (htool : scene.Knows tool)
      (input : Value) (world : World) (hstore : world.store = scene.store)
      (henv : world.environment ∈ scene.opened) :
      Step scene
        { scene with
          store := ((Run.reach room limit left).again starter tool input world).2.store }
  | root {tools : Entries Tool} (htools : ∀ entry ∈ tools, scene.Offers entry.2) :
      Step scene (scene.openWith (scene.store.root tools))
  | child {env : Environment} (henv : env ∈ scene.opened) {tools : Entries Tool}
      (htools : ∀ entry ∈ tools, scene.Offers entry.2) :
      Step scene (scene.openWith (scene.store.child env tools))
  /-- A frame is opened in which a known tool may run. -/
  | body {parameters : List String} {description : String} {body : Value} {closure : Environment}
      (htool : scene.Knows (.defined parameters description body closure)) {tools : Entries Tool}
      (htools : ∀ entry ∈ tools, scene.Offers entry.2) :
      Step scene (scene.openWith (scene.store.child closure tools))
  | snapshot {env : Environment} (henv : env ∈ scene.opened) :
      Step scene (scene.openWith (scene.store.snapshot env))
  | define {env : Environment} (henv : env ∈ scene.opened) (name : String) {tool : Tool}
      (htool : scene.Offers tool) :
      Step scene { scene with store := scene.store.define env name tool }
  /-- A name is bound to what some name is bound to. -/
  | bind {env : Environment} (henv : env ∈ scene.opened) (name : String) {binding : Binding}
      (hbinding : scene.Knows binding.2) :
      Step scene { scene with store := scene.store.bind env name binding }
  | undefine {env : Environment} (henv : env ∈ scene.opened) (name : String) :
      Step scene { scene with store := scene.store.undefine env name }
  | keep {tool : Tool} (htool : scene.Knows tool) :
      Step scene { scene with tools := tool :: scene.tools }

/-- What may have been done in any number of steps. -/
abbrev Leads : Scene → Scene → Prop := Relation.ReflTransGen Step

/-- Open environments and known tools have frames that exist, and no open environment has a frame of a
known tool as its innermost. -/
structure Placed (scene : Scene) : Prop where
  opened : ∀ env ∈ scene.opened, ∀ number ∈ env.path, number < scene.store.size
  closures : ∀ {parameters description body closure},
    scene.Knows (.defined parameters description body closure) → ∀ number ∈ closure.path,
      number < scene.store.size ∧ ∀ env ∈ scene.opened, env.frame ≠ number

/-- All frames are in place, and the known tools are of the language itself. -/
structure Sound (scene : Scene) : Prop extends scene.Placed where
  plain : ∀ tool, scene.Knows tool → tool.isForeign = false

/-- All that a step can do.  The frames that exist bind what they bound, unless they are the innermost
ones of open environments.  An environment newly open has a new innermost frame, and a tool newly
known has only frames that are newer still, from number `first` on. -/
structure Changes (scene next : Scene) (first : Nat) : Prop where
  size_le : scene.store.size ≤ first
  first_le : first ≤ next.store.size
  frameAt_eq : ∀ number < scene.store.size, (∀ env ∈ scene.opened, env.frame ≠ number) →
    next.store.frameAt number = scene.store.frameAt number
  opened : ∀ env ∈ next.opened, env ∈ scene.opened ∨
    (scene.store.size ≤ env.frame ∧ env.frame < first) ∧ ∀ number ∈ env.path,
      number < next.store.size
  known : ∀ tool, next.Knows tool → scene.Knows tool ∨ tool.Made first next.store.size

namespace Changes

variable {scene next : Scene} {first : Nat}

/-- A step keeps frames in place. -/
theorem placed (h : Changes scene next first) (hscene : scene.Placed) : next.Placed where
  opened env henv number hnumber := by
    rcases h.opened env henv with henv | ⟨-, hpath⟩
    · have hlt := hscene.opened env henv number hnumber
      have hsize := h.size_le
      have hfirst := h.first_le
      omega
    · exact hpath number hnumber
  closures htool number hnumber := by
    have hsize := h.size_le
    have hfirst := h.first_le
    rcases h.known _ htool with htool | hmade
    · obtain ⟨hlt, hkept⟩ := hscene.closures htool number hnumber
      -- the frame existed before, and whatever was newly opened has a new innermost frame
      refine ⟨by omega, fun env henv => ?_⟩
      rcases h.opened env henv with henv | ⟨hframe, -⟩
      · exact hkept env henv
      · omega
    · cases hmade with
      | defined hclosure =>
        obtain ⟨hlower, hupper⟩ := hclosure number hnumber
        -- the frame is newer than the innermost frame of any environment
        refine ⟨hupper, fun env henv => ?_⟩
        rcases h.opened env henv with henv | ⟨hframe, -⟩
        · have hlt := hscene.opened env henv env.frame List.mem_cons_self
          omega
        · omega

/-- A step keeps a scene sound. -/
theorem sound (h : Changes scene next first) (hscene : scene.Sound) : next.Sound where
  toPlaced := h.placed hscene.toPlaced
  plain tool htool := by
    rcases h.known tool htool with htool | hmade
    · exact hscene.plain tool htool
    · cases hmade <;> rfl

end Changes

/-- Frames that exist, that are no innermost frames of open environments, and that bind what they bound
in an earlier store. -/
def Guards (scene : Scene) (numbers : Nat → Prop) (earlier : Store) : Prop :=
  ∀ number, numbers number → number < scene.store.size ∧
    scene.store.frameAt number = earlier.frameAt number ∧
    ∀ env ∈ scene.opened, env.frame ≠ number

theorem Changes.guards {scene next : Scene} {first : Nat} (h : Changes scene next first)
    {numbers : Nat → Prop} {earlier : Store} (hscene : scene.Guards numbers earlier) :
    next.Guards numbers earlier := by
  intro number hnumber
  obtain ⟨hlt, hframe, hopened⟩ := hscene number hnumber
  have hsize := h.size_le
  have hfirst := h.first_le
  refine ⟨by omega, ?_, fun env henv => ?_⟩
  · rw [h.frameAt_eq number hlt hopened, hframe]
  · rcases h.opened env henv with henv | ⟨hnew, -⟩
    · exact hopened env henv
    · omega

/-! ### Steps -/

section Steps

variable {scene : Scene}

/-- What a run does that changes no existing frame but an innermost one of an open environment. -/
theorem changes_of_grows {after : Store} {changed : Nat → Prop}
    (h : Store.Grows changed scene.store after)
    (hchanged : ∀ number, changed number → ∃ env ∈ scene.opened, env.frame = number) :
    Changes scene { scene with store := after } scene.store.size where
  size_le := Nat.le_refl _
  first_le := h.size_le
  frameAt_eq number hnumber hopened := by
    refine h.frameAt_eq number hnumber fun hown => ?_
    obtain ⟨env, henv, heq⟩ := hchanged number hown
    exact hopened env henv heq
  opened _ henv := .inl henv
  known tool htool := by
    rcases htool with hheld | hkept
    · rcases h.made tool hheld with hheld | hmade
      · exact .inl (.inl hheld)
      · exact .inr hmade
    · exact .inl (.inr hkept)

theorem changes_of_keeps {world after : World} (h : world.Keeps after)
    (hstore : world.store = scene.store) (henv : world.environment ∈ scene.opened) :
    Changes scene { scene with store := after.store } scene.store.size := by
  have hgrows := h.grows
  rw [hstore] at hgrows
  exact changes_of_grows hgrows fun number heq => ⟨_, henv, heq.symm⟩

/-- A new frame inside frames that exist. -/
theorem changes_of_add {outer : List Nat} (houter : ∀ number ∈ outer, number < scene.store.size)
    {tools : Entries Tool} (htools : ∀ entry ∈ tools, scene.Offers entry.2) :
    Changes scene (scene.openWith (scene.store.add outer tools)) (scene.store.size + 1) := by
  have hsize : (scene.store.add outer tools).1.size = scene.store.size + 1 :=
    Store.size_push scene.store _
  refine ⟨Nat.le_succ _, Nat.le_of_eq hsize.symm, ?_, ?_, ?_⟩
  · intro number hnumber _
    show (scene.store.push _).frameAt number = _
    rw [Store.frameAt_push, if_neg (Nat.ne_of_lt hnumber)]
  · intro env henv
    rcases List.mem_cons.mp henv with rfl | henv
    · refine .inr ⟨⟨Nat.le_refl _, Nat.lt_succ_self _⟩, fun number hnumber => ?_⟩
      show number < (scene.store.add outer tools).1.size
      rw [hsize]
      rcases List.mem_cons.mp hnumber with rfl | hnumber
      · exact Nat.lt_succ_self _
      · exact Nat.lt_succ_of_lt (houter number hnumber)
    · exact .inl henv
  · intro tool htool
    rcases htool with hheld | hkept
    · rcases @Store.holds_of_add _ outer _ _ hheld with hheld | ⟨entry, hentry, rfl⟩
      · exact .inl (.inl hheld)
      · rcases htools entry hentry with hknown | hsimple
        · exact .inl hknown
        · exact .inr (.of_isSimple hsimple)
    · exact .inl (.inr hkept)

/-- Copies of the frames of an environment. -/
theorem changes_of_snapshot (env : Environment) :
    Changes scene (scene.openWith (scene.store.snapshot env)) (scene.store.snapshot env).1.size := by
  have hsnapshot := @Store.snapshot_grows (fun _ => False) scene.store env
  obtain ⟨hgrows, hpath⟩ := hsnapshot
  refine ⟨hgrows.size_le, Nat.le_refl _, fun number hnumber _ => ?_, fun other hother => ?_, ?_⟩
  · exact hgrows.frameAt_eq number hnumber id
  · rcases List.mem_cons.mp hother with rfl | hother
    · exact .inr ⟨hpath _ List.mem_cons_self, fun number hnumber => (hpath number hnumber).2⟩
    · exact .inl hother
  · intro tool htool
    rcases htool with hheld | hkept
    · exact .inl (.inl (Store.holds_of_pushAll (Store.holds_of_mem_chain scene.store env) hheld))
    · exact .inl (.inr hkept)

/-- A change of the innermost frame of an open environment. -/
theorem changes_of_change {env : Environment} (henv : env ∈ scene.opened) {f : Frame → Frame}
    (hknown : ∀ tool, (scene.store.change env.frame f).Holds tool → scene.Offers tool)
    (made : Nat) :
    Changes scene
      { scene with store := { scene.store.change env.frame f with tools := made } }
      scene.store.size where
  size_le := Nat.le_refl _
  first_le := Nat.le_of_eq (Store.size_change scene.store env.frame f).symm
  frameAt_eq number _ hopened :=
    Store.frameAt_change_of_ne scene.store f (hopened env henv).symm
  opened _ henv := .inl henv
  known tool htool := by
    rcases htool with hheld | hkept
    · rcases hknown tool hheld with hknown | hsimple
      · exact .inl hknown
      · exact .inr (.of_isSimple hsimple)
    · exact .inl (.inr hkept)

theorem changes_of_bind {env : Environment} (henv : env ∈ scene.opened) (name : String)
    {binding : Binding} (hbinding : scene.Offers binding.2) (made : Nat) :
    Changes scene
      { scene with store := { scene.store.bind env name binding with tools := made } }
      scene.store.size := by
  refine changes_of_change henv (fun tool htool => ?_) made
  rcases Store.holds_of_bind htool with hheld | rfl
  · exact .inl (.inl hheld)
  · exact hbinding

/-- Whatever step is taken where frames are in place, it changes no more than it may. -/
theorem Step.changes {next : Scene} (hstep : Step scene next) (hscene : scene.Placed) :
    ∃ first, Changes scene next first := by
  cases hstep with
  | evaluate room limit left program world hstore henv =>
    exact ⟨_, changes_of_keeps (Run.evaluate_keeps room limit left program world) hstore henv⟩
  | @invoke room limit left starter tool htool input world hstore henv =>
    exact ⟨_, changes_of_keeps (Run.again_keeps room limit left starter tool input world) hstore henv⟩
  | root htools => exact ⟨_, changes_of_add (List.forall_mem_nil _) htools⟩
  | child henv htools => exact ⟨_, changes_of_add (hscene.opened _ henv) htools⟩
  | body htool htools =>
    exact ⟨_, changes_of_add (fun number hnumber => (hscene.closures htool number hnumber).1) htools⟩
  | snapshot henv => exact ⟨_, changes_of_snapshot _⟩
  | define henv name htool => exact ⟨_, changes_of_bind henv name htool _⟩
  | bind henv name hbinding => exact ⟨_, changes_of_bind henv name (.inl hbinding) _⟩
  | undefine henv name =>
    refine ⟨_, changes_of_change henv (fun tool htool => ?_) scene.store.tools⟩
    exact .inl (.inl (Store.holds_of_undefine htool))
  | @keep tool htool =>
    refine ⟨scene.store.size, Nat.le_refl _, Nat.le_refl _, fun _ _ _ => rfl,
      fun _ henv => .inl henv, fun other hother => ?_⟩
    rcases hother with hheld | hkept
    · exact .inl (.inl hheld)
    · rcases List.mem_cons.mp hkept with rfl | hkept
      · exact .inl htool
      · exact .inl (.inr hkept)

end Steps

/-! ### Whatever happens -/

theorem initial_sound : initial.Sound where
  opened _ henv := nomatch henv
  plain tool htool := by
    rcases htool with ⟨number, entry, hentry, -⟩ | hkept
    · cases hentry
    · cases hkept
  closures htool := by
    rcases htool with ⟨number, entry, hentry, -⟩ | hkept
    · cases hentry
    · cases hkept

theorem Leads.sound {scene later : Scene} (h : Leads scene later) (hscene : scene.Sound) :
    later.Sound := by
  induction h with
  | refl => exact hscene
  | tail _ hstep ih =>
    obtain ⟨first, hchanges⟩ := hstep.changes ih.toPlaced
    exact hchanges.sound ih

theorem Leads.guards {scene later : Scene} (h : Leads scene later) (hscene : scene.Sound)
    {numbers : Nat → Prop} {earlier : Store} (hguards : scene.Guards numbers earlier) :
    later.Guards numbers earlier := by
  induction h with
  | refl => exact hguards
  | tail hbefore hstep ih =>
    obtain ⟨first, hchanges⟩ := hstep.changes (Leads.sound hbefore hscene).toPlaced
    exact hchanges.guards ih

/-- A frame that some known tool is defined in. -/
def Captured (scene : Scene) (number : Nat) : Prop :=
  ∃ parameters description body closure,
    scene.Knows (.defined parameters description body closure) ∧ number ∈ closure.path

/-- The frames of known tools bind for good what they bind. -/
theorem frames_kept {scene later : Scene} (hscene : scene.Sound) (h : Leads scene later) :
    later.Guards scene.Captured scene.store := by
  refine Leads.guards h hscene ?_
  rintro number ⟨parameters, description, body, closure, htool, hnumber⟩
  obtain ⟨hlt, hopened⟩ := hscene.closures htool number hnumber
  exact ⟨hlt, rfl, hopened⟩

end Scene

end ToolWeave
