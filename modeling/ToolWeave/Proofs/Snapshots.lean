import ToolWeave.Proofs.LexicalCapture

/-!
# Programs in snapshots

A snapshot of an environment stands in for it.  A program does in the snapshot what it does in the
environment: it ends alike, prints the same text and reads the same lines, and afterwards the frames of the
snapshot bind the names that those of the environment would bind.  The environment itself is left alone
(`snapshot_stands_in`).

The two runs go side by side (`Law.twins`).  To begin with, each frame of the environment is paired with its
copy, and each frame of a tool with itself, since both runs find the tool and look names up in its frames.

## Main definitions

* `World.inSnapshot`: the state in a snapshot of the environment.
* `Pairing.copying`: frames that stand for copies of them, next to frames that stand for themselves.
* `Environment.Descends`: the innermost frame of an environment is its newest.

## Design notes

**Frames with two partners.**  An environment may have frames around it that tools were defined in, where a
host stops in the middle of the body of a tool.  Such a frame stands for its copy and for itself.  Its
innermost frame is never one of these (`Scene.Sound`), nor is it around itself, and so it is paired with its
copy only.
-/

namespace ToolWeave

/-- The state in a snapshot of the environment. -/
def World.inSnapshot (world : World) : World :=
  { world with
    store := (world.store.snapshot world.environment).1
    environment := (world.store.snapshot world.environment).2 }

/-! ### New frames inside older ones -/

/-- The innermost frame of an environment is its newest, and so none of those around it. -/
def Environment.Descends (env : Environment) : Prop := ∀ number ∈ env.outer, number < env.frame

/-- The copy of the innermost frame is made last. -/
theorem Store.snapshot_descends (store : Store) (env : Environment) : (store.snapshot env).2.Descends :=
  fun _ h => (bounds_of_mem_pushAll h).2

namespace Scene

/-- Environments that are newly open descend. -/
theorem Step.descends {scene next : Scene} (hstep : Step scene next) (hscene : scene.Sound) :
    ∀ env ∈ next.opened, env ∈ scene.opened ∨ env.Descends := by
  cases hstep with
  | root htools =>
    refine List.forall_mem_cons.mpr ⟨.inr ?_, fun _ h => .inl h⟩
    exact List.forall_mem_nil _
  | child henv htools =>
    refine List.forall_mem_cons.mpr ⟨.inr ?_, fun _ h => .inl h⟩
    exact hscene.opened _ henv
  | body htool htools =>
    refine List.forall_mem_cons.mpr ⟨.inr ?_, fun _ h => .inl h⟩
    exact fun number hnumber => (hscene.closures htool number hnumber).1
  | snapshot henv =>
    refine List.forall_mem_cons.mpr ⟨.inr ?_, fun _ h => .inl h⟩
    exact Store.snapshot_descends _ _
  | _ => exact fun _ h => .inl h

theorem Leads.descends {scene : Scene} (h : Leads initial scene) : ∀ env ∈ scene.opened, env.Descends := by
  induction h with
  | refl => exact List.forall_mem_nil _
  | tail hbefore hstep ih =>
    intro env henv
    rcases hstep.descends (Leads.sound hbefore initial_sound) env henv with hopen | hnew
    · exact ih env hopen
    · exact hnew

end Scene

/-! ### Frames and their copies -/

/-- Some frames stand for themselves, and some for their copies. -/
def Pairing.copying (numbers : Nat → Prop) (originals copies : List Nat) : Pairing where
  paired m n := (m = n ∧ numbers m) ∨ (m, n) ∈ originals.zip copies

/-- The frame of any number is alike itself where the frames of known tools stand for themselves. -/
theorem Scene.Sound.alike_self {scene : Scene} (hscene : scene.Sound) {ρ : Pairing}
    (hself : ∀ number, scene.Captured number → ρ.paired number number) (number : Nat) :
    Frame.Alike ρ (scene.store.frameAt number) (scene.store.frameAt number) := by
  refine Frame.alike_self fun entry hentry => ?_
  have htool : scene.Knows entry.2.2 := .inl ⟨number, entry, hentry, rfl⟩
  refine ⟨hscene.plain _ htool, fun parameters description body closure heq inner hinner => ?_⟩
  exact hself inner ⟨parameters, description, body, closure, heq ▸ htool, hinner⟩

/-- Each frame of an environment is the same as its copy. -/
theorem Store.forall₂_snapshot (store : Store) (env : Environment) :
    List.Forall₂ (fun m n => store.frameAt m = (store.snapshot env).1.frameAt n)
      env.path (store.snapshot env).2.path := by
  rw [← List.forall₂_map_right_iff, ← List.forall₂_map_left_iff, List.forall₂_eq_eq_eq]
  exact (Store.chain_snapshot store env).symm

section Copies

variable {scene : Scene} (hscene : scene.Sound) {env : Environment} (henv : env ∈ scene.opened)

include hscene henv

/-- A store and the one with copies of the frames of an environment are alike. -/
theorem Store.alike_snapshot :
    scene.store.Alike (.copying scene.Captured env.path (scene.store.snapshot env).2.path)
      (scene.store.snapshot env).1 := by
  obtain ⟨hgrows, hnew⟩ := @Store.snapshot_grows (fun _ => False) scene.store env
  have hself (number : Nat) : Frame.Alike (.copying scene.Captured env.path (scene.store.snapshot env).2.path)
      (scene.store.frameAt number) (scene.store.frameAt number) :=
    hscene.alike_self (fun _ h => Or.inl ⟨rfl, h⟩) number
  rintro m n (⟨rfl, parameters, description, body, closure, htool, hm⟩ | hzip)
  · have hlt := (hscene.closures htool m hm).1
    rw [hgrows.frameAt_eq m hlt id]
    exact ⟨⟨hlt, Nat.lt_of_lt_of_le hlt hgrows.size_le⟩, hself m⟩
  · obtain ⟨hm, hn⟩ := List.of_mem_zip hzip
    rw [← List.forall₂_zip (Store.forall₂_snapshot scene.store env) hzip]
    exact ⟨⟨hscene.opened env henv m hm, (hnew n hn).2⟩, hself m⟩

/-- The innermost frame of an environment that descends is paired with its copy only. -/
theorem Environment.sole_snapshot (hdescends : env.Descends) :
    (Pairing.copying scene.Captured env.path (scene.store.snapshot env).2.path).Sole env.frame
      (scene.store.snapshot env).2.frame := by
  refine ⟨.inr List.mem_cons_self, ?_⟩
  rintro a b (⟨rfl, parameters, description, body, closure, htool, ha⟩ | hzip)
  · -- a frame of a known tool is not the innermost one, nor is it new
    obtain ⟨hlt, hopened⟩ := hscene.closures htool a ha
    have hnew := (@Store.snapshot_grows (fun _ => False) scene.store env).2 _ List.mem_cons_self
    refine iff_of_false (hopened env henv).symm ?_
    exact Nat.ne_of_lt (Nat.lt_of_lt_of_le hlt hnew.1)
  · rcases List.mem_cons.mp hzip with heq | hzip
    · cases heq
      exact iff_of_true rfl rfl
    · obtain ⟨ha, hb⟩ := List.of_mem_zip hzip
      exact iff_of_false (Nat.ne_of_lt (hdescends a ha))
        (Nat.ne_of_lt (Store.snapshot_descends scene.store env b hb))

end Copies

/-- A state and the one in a snapshot of its environment are alike. -/
theorem World.alike_inSnapshot {scene : Scene} (hscene : Scene.Leads .initial scene) {world : World}
    (hstore : world.store = scene.store) (henv : world.environment ∈ scene.opened) :
    ∃ ρ, World.Alike ρ world.console.printed world.console.printed world world.inSnapshot := by
  have hsound := hscene.sound Scene.initial_sound
  have hcopies := Store.alike_snapshot hsound henv
  have hsole := Environment.sole_snapshot hsound henv (hscene.descends _ henv)
  rw [← hstore] at hcopies hsole
  refine ⟨_, ?_, hsole, hcopies, ⟨"", String.append_empty.symm, String.append_empty.symm⟩, rfl, rfl, rfl⟩
  exact List.forall₂_iff_zip.mpr
    ⟨(Store.forall₂_snapshot world.store world.environment).length_eq, fun hzip => .inr hzip⟩

/-- **A snapshot stands in for an environment.**  A program is evaluated in an environment that a host has
open, and from the same state in a snapshot of it.  Both evaluations end alike, print the same text and leave
the same input to be read.  The one in the snapshot changes no frame that existed, and in particular none of
the environment.  Afterwards each frame of the snapshot binds the names that the frame it is a copy of binds
after the evaluation in the environment. -/
theorem snapshot_stands_in {scene : Scene} (hscene : Scene.Leads .initial scene) {world : World}
    (hstore : world.store = scene.store) (henv : world.environment ∈ scene.opened)
    (room limit left : Nat) (program : Value) :
    let run := Run.evaluate (Run.reach room limit left) program
    Run.Agree run run world world.inSnapshot ∧
      (∀ number < world.store.size,
        (run world.inSnapshot).2.store.frameAt number = world.store.frameAt number) ∧
      (run world.inSnapshot).2.store.chain world.environment = world.store.chain world.environment ∧
      List.Forall₂
        (fun number copy => Entries.names ((run world).2.store.frameAt number) =
          Entries.names ((run world.inSnapshot).2.store.frameAt copy))
        world.environment.path world.inSnapshot.environment.path := by
  intro run
  have hsound := hscene.sound Scene.initial_sound
  have hexists : ∀ number ∈ world.environment.path, number < world.store.size := by
    rw [hstore]
    exact hsound.opened _ henv
  have hcopied := (@Store.snapshot_grows (fun _ => False) world.store world.environment)
  have hkeeps := Run.evaluate_keeps room limit left program world
  have hkeepsCopy := Run.evaluate_keeps room limit left program world.inSnapshot
  -- the only frame that may change was made by the snapshot
  have hunchanged : ∀ number < world.store.size,
      (run world.inSnapshot).2.store.frameAt number = world.store.frameAt number := by
    intro number hnumber
    have hold : number ≠ world.inSnapshot.environment.frame :=
      Nat.ne_of_lt (Nat.lt_of_lt_of_le hnumber (hcopied.2 _ List.mem_cons_self).1)
    rw [hkeepsCopy.grows.frameAt_eq number (Nat.lt_of_lt_of_le hnumber hcopied.1.size_le) hold]
    exact hcopied.1.frameAt_eq number hnumber id
  obtain ⟨ρ, halike⟩ := World.alike_inSnapshot hscene hstore henv
  have htwins : Run.Twins world.console.printed world.console.printed ρ fun _ => run :=
    ((Law.twins_untraced world.console.printed world.console.printed).invokes limit).evaluate room left ρ program
  obtain ⟨τ, -, houtcome, hafter⟩ := htwins ρ le_rfl world world.inSnapshot halike
  refine ⟨⟨houtcome, hafter.printed, hafter.input⟩, hunchanged, ?_, ?_⟩
  · exact List.map_congr_left fun number hnumber => hunchanged number (hexists number hnumber)
  · have hpaired : world.environment.Alike τ world.inSnapshot.environment := by
      rw [← hkeeps.environment_eq, ← hkeepsCopy.environment_eq]
      exact hafter.environment
    exact hpaired.imp fun m n h => (hafter.store m n h).2.names

/-- Removes the binding of `sum` and then calls what is bound to it. -/
def forgottenSum : Value :=
  .object [("do", .array [
    .object [("call", .string "undefine"), ("input", .object [("name", .string "sum")])],
    .object [("call", .string "sum")]])]

/-- In a snapshot of an environment with a defined tool this goes as it does there, and the tool stays. -/
theorem snapshot_stands_in_sum :
    let world := { World.plain with store := Scene.withSum.store }
    let run := Run.evaluate (Run.reach 2 2 2) forgottenSum
    Scene.Leads .initial Scene.withSum ∧ world.store = Scene.withSum.store ∧
      world.environment ∈ Scene.withSum.opened ∧ Run.Agree run run world world.inSnapshot ∧
      (run world.inSnapshot).2.store.chain world.environment = world.store.chain world.environment := by
  intro world run
  have hstore : world.store = Scene.withSum.store := rfl
  have hopened : world.environment ∈ Scene.withSum.opened := List.mem_singleton.mpr rfl
  obtain ⟨hagree, -, hchain, -⟩ := snapshot_stands_in Scene.leads_withSum hstore hopened 2 2 2 forgottenSum
  exact ⟨Scene.leads_withSum, hstore, hopened, hagree, hchain⟩

end ToolWeave
