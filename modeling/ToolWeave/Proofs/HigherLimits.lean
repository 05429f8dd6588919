import ToolWeave.Proofs.Traces

/-!
# Limits that are not reached

The limit on the depth of calls is asked in one place only, when a call begins.  So as long as no call is
refused the limit has no part in a run: under a higher one the same tools are invoked with the same
inputs, the run ends in the same way, and it leaves the same state behind (`limit_immaterial`).

## Design notes

**Refusals in the trace.**  A refusal may be captured by `try` and then shows in no outcome.  It does show
in the trace, which is where the hypothesis looks for it.
-/

namespace ToolWeave

/-- Wherever the first of two runs refuses no call, the second one is the same run. -/
def Run.Persists {α : Type} (x : Bool → Run α) : Prop :=
  ∀ world, (∀ step ∈ (x false).steps world, step.refuses = false) → x true world = x false world

namespace Run.Persists

variable {α β : Type}

theorem same (action : Run α) : Persists fun _ => action := fun _ _ => rfl

theorem bind {x : Bool → Run α} {f : Bool → α → Run β} (hxNested : ∀ i, (x i).Nested)
    (hfNested : ∀ i a, (f i a).Nested) (hx : Persists x) (hf : ∀ a, Persists fun i => f i a) :
    Persists fun i => x i >>= f i := by
  intro world hsteps
  rcases hrun : x false world with ⟨e | a, between⟩
  · rw [steps_bind_of_error hrun] at hsteps
    have hrun' : x true world = (.error e, between) := (hx world hsteps).trans hrun
    dsimp only
    rw [bind_of_error hrun, bind_of_error hrun']
  · rw [steps_bind_of_ok (hxNested false) (hfNested false a) hrun] at hsteps
    obtain ⟨hfirst, hsecond⟩ := List.forall_mem_append.mp hsteps
    have hrun' : x true world = (.ok a, between) := (hx world hfirst).trans hrun
    dsimp only
    rw [bind_of_ok hrun, bind_of_ok hrun']
    exact hf a between hsecond

theorem inside {x : Bool → Run α} (outer : Environment) (constants : Fields) (hx : Persists x) :
    Persists fun i => Run.inside outer constants (x i) := by
  intro world hsteps
  dsimp only
  rw [inside_apply, inside_apply, hx (world.enter outer constants) hsteps]

theorem capture {x : Bool → Run α} (hx : Persists x) : Persists fun i => Run.capture (x i) := by
  intro world hsteps
  dsimp only
  rw [capture_apply, capture_apply, hx world hsteps]

theorem perform {reach : Bool → Reach} {tool : Tool} {input : Value} (starter : Starter)
    (hnested : ∀ i, (tool.act (reach i) input).Nested) (hact : Persists fun i => tool.act (reach i) input) :
    Persists fun i => tool.perform starter (reach i) input := by
  intro world hsteps
  rw [steps_perform (hnested false)] at hsteps
  have hinner := (List.forall_mem_append.mp (List.forall_mem_cons.mp hsteps).2).1
  have hsame := hact _ hinner
  dsimp only at hsame ⊢
  rw [Tool.perform_apply, Tool.perform_apply, hsame]

end Run.Persists

/-- Going on under another limit, as a law. -/
def Law.persists : Law Bool Law.Stage :=
  .traced (fun x => Run.Persists x) (fun _ => .same _)
    (fun hxNested hfNested hx hf => hx.bind hxNested hfNested hf)
    (fun outer constants hx => hx.inside outer constants)

theorem Law.persists_captures : Law.persists.Captures := by
  intro _ _ _ hx
  exact ⟨fun i => (hx.1 i).capture, hx.2.capture⟩

theorem Law.persists_performs : Law.persists.Performs fun _ => True := by
  rintro k reach _ input starter - ⟨tool, rfl⟩ hserves
  obtain ⟨hnested, hact⟩ := Law.act hserves ⟨tool, rfl⟩ fun _ => Law.persists_captures
  exact ⟨fun i => (hnested i).perform starter, hact.perform starter hnested⟩

namespace Run

variable (room : Nat)

/-- Invocations at a depth go on if the calls that lead one deeper do. -/
theorem invokeAt_persists {deeper : Bool → Tool → Value → Run Value}
    (hdeeper : ∀ tool input, Law.persists.holds () fun i => deeper i tool input) (starter : Starter)
    (tool : Tool) (input : Value) :
    Law.persists.holds () fun i => invokeAt (deeper i) room starter tool input := by
  induction room generalizing starter tool input with
  | zero => exact Law.persists.fail () _
  | succ room ih =>
    have hserves : Law.persists.Serves ()
        (fun i => ⟨deeper i, invokeAt (deeper i) room⟩) input := by
      refine ⟨⟨?_, ?_⟩, ?_⟩
      · rintro _ _ _ ⟨tool, rfl⟩ input
        exact hdeeper tool input
      · rintro _ _ _ ⟨tool, rfl⟩ input
        exact ih .definition tool input
      · rintro _ _ _ ⟨tool, rfl⟩ part _
        exact ih .other tool part
    exact Law.persists_performs () _ _ input starter trivial ⟨tool, rfl⟩ hserves

/-- Calls go on where at least as many further calls may nest, whatever the limits are. -/
theorem call_persists (limits left : Bool → Nat) (hle : left false ≤ left true)
    (tool : Tool) (input : Value) :
    Law.persists.holds () fun i => call room (limits i) (left i) tool input := by
  induction hleft : left false generalizing left tool input with
  | zero =>
    have hnested (i : Bool) : (call room (limits i) (left i) tool input).Nested :=
      (Law.nested_invokes Unit (limits i)).call room (left i) () (fun _ => tool) ⟨tool, rfl⟩ input ()
    refine ⟨hnested, fun world hsteps => ?_⟩
    -- where no further call may nest the first run refuses this one
    dsimp only at hsteps
    rw [hleft, steps_call_zero] at hsteps
    cases hsteps _ List.mem_cons_self
  | succ further ih =>
    obtain ⟨less, rfl⟩ : ∃ less : Bool → Nat, left = fun i => less i + 1 := by
      refine ⟨fun i => left i - 1, funext fun i => (Nat.sub_add_cancel ?_).symm⟩
      cases i <;> omega
    have hdeeper := ih less (Nat.le_of_succ_le_succ hle)
    exact invokeAt_persists room (fun tool input => hdeeper tool input (Nat.succ.inj hleft)) .call tool input

end Run

/-- **A limit that is not reached is immaterial.**  A program is evaluated while so many calls are in
progress.  If no call is refused on the way, not even inside a `try`, then under a higher limit, from the
same state, the evaluation is the same: it ends in the same way and in the same state, with what is
printed and read, with the frames, and with the trace of all invocations and their inputs. -/
theorem limit_immaterial {limit limit' : Nat} (hle : limit ≤ limit') (depth room : Nat) (program : Value)
    (world : World)
    (hsteps : ∀ step ∈ (Run.evaluate (Run.reach room limit (limit - depth)) program).steps world,
      step.refuses = false) :
    Run.evaluate (Run.reach room limit' (limit' - depth)) program world =
      Run.evaluate (Run.reach room limit (limit - depth)) program world := by
  let limits : Bool → Nat := fun i => bif i then limit' else limit
  have hcalls := Run.call_persists room limits (fun i => limits i - depth) (Nat.sub_le_sub_right hle depth)
  have hreach : Law.persists.Reaches () fun i => Run.reach room (limits i) (limits i - depth) := by
    refine ⟨?_, ?_⟩
    · rintro _ _ _ ⟨tool, rfl⟩ input
      exact hcalls tool input
    · rintro _ _ _ ⟨tool, rfl⟩ input
      exact Run.invokeAt_persists room hcalls .definition tool input
  exact (Law.evaluate hreach program).2 world hsteps

/-- Defines a tool that fails one call deeper, and tries it. -/
def triedSum : Value :=
  .array [
    .object [("define", .string "f"),
      ("body", .object [("call", .string "add"), ("input", .array [.string "x"])])],
    .object [("call", .string "try"), ("input", .object [("tool", .string "f")])]]

/-- Two calls nest, and so the limit 2 will do. -/
theorem limit_immaterial_tried :
    2 ≤ 64 ∧ (∀ step ∈ (Run.evaluate (Run.reach 3 2 2) triedSum).steps World.plain, step.refuses = false) ∧
      Run.evaluate (Run.reach 3 64 64) triedSum World.plain =
        Run.evaluate (Run.reach 3 2 2) triedSum World.plain := by
  have hsteps : ((Run.evaluate (Run.reach 3 2 2) triedSum).steps World.plain).all
      (fun step => !step.refuses) = true := by decide +kernel
  have hrefused : ∀ step ∈ (Run.evaluate (Run.reach 3 2 2) triedSum).steps World.plain,
      step.refuses = false := fun step hstep => by simpa using List.all_eq_true.mp hsteps step hstep
  exact ⟨by decide, hrefused, limit_immaterial (by decide) 0 3 triedSum World.plain hrefused⟩

end ToolWeave
