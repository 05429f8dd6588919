import ToolWeave.Proofs.CallDepth

/-!
# When evaluations end

An evaluation may nest without end only through definitions.  Calls are limited, attempts and
comparisons hand on parts of their input, and only a definition invokes a tool at its own depth with
an input that may be as large as the one that led to it.  So an evaluation ends exactly if there is a
bound on how many definitions are in progress at once (`Run.evaluate_settles_iff`).

## Design notes

**Ends without a clock.**  Runs are total functions here, since there is room for so many invocations
at each depth and no more.  To end is to need only so much of it (`Run.Settles`): the outcome and the
state, with all steps that were taken, are the same whatever more there is.  A run that would go on for
ever does not settle, for it takes more steps the more room there is.

**The measure.**  How many further calls may nest, how many further definitions, and how deep the input
is nested, in this order.
-/

namespace ToolWeave

namespace Run

variable {α β : Type}

/-- A run for every room settles if it is the same run of this state once there is enough. -/
def Settles (x : Nat → Run α) (world : World) : Prop :=
  ∃ result, ∃ enough, ∀ room, enough ≤ room → x room world = result

/-- Once there is enough room, a definition begins only while fewer than `bound` are in progress. -/
def Bounded (bound : Nat) (x : Nat → Run α) (world : World) (opened : List Step) : Prop :=
  ∃ enough, ∀ room, enough ≤ room →
    Step.Each (fun opened step => step.begins Starter.isDefinition = true →
      Step.definitions opened < bound) opened ((x room).steps world)

/-- Where so many further definitions may be in progress, the runs settle if no more are. -/
def Ends (bound left : Nat) (x : Nat → Run α) : Prop :=
  ∀ world opened, Step.definitions opened + left = bound → Bounded bound x world opened →
    Settles x world

namespace Ends

variable {bound left : Nat} {x : Nat → Run α}

/-- One run for every room. -/
theorem const (action : Run α) : Ends bound left fun _ => action :=
  fun world _ _ _ => ⟨action world, 0, fun _ _ => rfl⟩

/-- Only large rooms matter. -/
theorem congr {y : Nat → Run α} (hx : Ends bound left x) (enough : Nat)
    (heq : ∀ room, enough ≤ room → y room = x room) : Ends bound left y := by
  intro world opened hopened hbounded
  have hbounded' : Bounded bound x world opened := by
    obtain ⟨least, hleast⟩ := hbounded
    refine ⟨max least enough, fun room hroom => ?_⟩
    rw [← heq room (Nat.le_trans (Nat.le_max_right _ _) hroom)]
    exact hleast room (Nat.le_trans (Nat.le_max_left _ _) hroom)
  obtain ⟨result, least, hleast⟩ := hx world opened hopened hbounded'
  refine ⟨result, max least enough, fun room hroom => ?_⟩
  rw [heq room (Nat.le_trans (Nat.le_max_right _ _) hroom)]
  exact hleast room (Nat.le_trans (Nat.le_max_left _ _) hroom)

theorem bind {f : Nat → α → Run β} (hxNested : ∀ room, (x room).Nested)
    (hfNested : ∀ room a, (f room a).Nested) (hx : Ends bound left x)
    (hf : ∀ a, Ends bound left fun room => f room a) :
    Ends bound left fun room => x room >>= f room := by
  rintro world opened hopened ⟨least, hleast⟩
  have hparts (room : Nat) (hroom : least ≤ room) :=
    (each_bind (hxNested room) (hfNested room)).mp (hleast room hroom)
  have hfirst : Bounded bound x world opened :=
    ⟨least, fun room hroom => (hparts room hroom).1⟩
  obtain ⟨⟨outcome, between⟩, enough, henough⟩ := hx world opened hopened hfirst
  -- with so much room the first part always ends in the same state, where the second one starts
  cases outcome with
  | error e =>
    exact ⟨(.error e, between), enough, fun room hroom => bind_of_error (henough room hroom) _⟩
  | ok a =>
    have hsecond : Bounded bound (fun room => f room a) between opened := by
      refine ⟨max least enough, fun room hroom => ?_⟩
      have hrun := henough room (Nat.le_trans (Nat.le_max_right _ _) hroom)
      exact (hparts room (Nat.le_trans (Nat.le_max_left _ _) hroom)).2 a between hrun
    obtain ⟨result, further, hfurther⟩ := hf a between opened hopened hsecond
    refine ⟨result, max enough further, fun room hroom => ?_⟩
    dsimp only
    rw [bind_of_ok (henough room (Nat.le_trans (Nat.le_max_left _ _) hroom))]
    exact hfurther room (Nat.le_trans (Nat.le_max_right _ _) hroom)

theorem inside (outer : Environment) (constants : Fields) (hx : Ends bound left x) :
    Ends bound left fun room => Run.inside outer constants (x room) := by
  intro world opened hopened hbounded
  obtain ⟨result, enough, henough⟩ := hx (world.enter outer constants) opened hopened hbounded
  refine ⟨(result.1, { result.2 with environment := world.environment }), enough, ?_⟩
  intro room hroom
  dsimp only
  rw [inside_apply, henough room hroom]

theorem capture (hx : Ends bound left x) : Ends bound left fun room => Run.capture (x room) := by
  intro world opened hopened hbounded
  obtain ⟨result, enough, henough⟩ := hx world opened hopened hbounded
  refine ⟨(.ok result.1, result.2), enough, fun room hroom => ?_⟩
  dsimp only
  rw [capture_apply, henough room hroom]

section Invocations

variable {reach : Nat → Reach} {tool : Tool} {input : Value} {starter : Starter}

/-- An invocation settles if what the tool does settles. -/
theorem settles_perform {world : World}
    (hact : Settles (fun room => tool.act (reach room) input) (tool.begun starter input world)) :
    Settles (fun room => tool.perform starter (reach room) input) world := by
  obtain ⟨result, enough, henough⟩ := hact
  refine ⟨(result.1.bind Tool.verdict, { result.2 with trace := .ended :: result.2.trace }),
    enough, fun room hroom => ?_⟩
  dsimp only at henough ⊢
  rw [Tool.perform_apply, henough room hroom]

theorem bounded_act {world : World} {opened : List Step}
    (hnested : ∀ room, (tool.act (reach room) input).Nested)
    (h : Bounded bound (fun room => tool.perform starter (reach room) input) world opened) :
    Bounded bound (fun room => tool.act (reach room) input) (tool.begun starter input world)
      (.began starter tool input :: opened) := by
  obtain ⟨enough, henough⟩ := h
  exact ⟨enough, fun room hroom => ((each_perform (hnested room)).mp (henough room hroom)).2.1⟩

/-- An invocation that is no definition leaves room for as many definitions as there are. -/
theorem perform (starter : Starter) (hstarter : starter.isDefinition = false)
    (hnested : ∀ room, (tool.act (reach room) input).Nested)
    (hact : Ends bound left fun room => tool.act (reach room) input) :
    Ends bound left fun room => tool.perform starter (reach room) input := by
  intro world opened hopened hbounded
  have hcount : Step.definitions (.began starter tool input :: opened) = Step.definitions opened :=
    Step.countP_began_of_false hstarter tool input opened
  refine settles_perform (hact _ _ ?_ (bounded_act hnested hbounded))
  rw [hcount]
  exact hopened

/-- A definition leaves room for one fewer. -/
theorem perform_definition (hnested : ∀ room, (tool.act (reach room) input).Nested)
    (hact : Ends bound left fun room => tool.act (reach room) input) :
    Ends bound (left + 1) fun room => tool.perform .definition (reach room) input := by
  intro world opened hopened hbounded
  have hcount : Step.definitions (.began .definition tool input :: opened) =
      Step.definitions opened + 1 := Step.countP_began_of_true rfl tool input opened
  refine settles_perform (hact _ _ ?_ (bounded_act hnested hbounded))
  omega

/-- Where no further definition may be in progress, none begins. -/
theorem perform_definition_zero (hnested : ∀ room, (tool.act (reach room) input).Nested) :
    Ends bound 0 fun room => tool.perform .definition (reach room) input := by
  rintro world opened hopened ⟨enough, henough⟩
  have hbegins := ((each_perform (hnested enough)).mp (henough enough (Nat.le_refl enough))).1 rfl
  omega

end Invocations

end Ends

end Run

/-- Settling where definitions are bounded, as a law. -/
def Law.ends (bound left : Nat) : Law Nat Law.Stage :=
  .traced (fun x => Run.Ends bound left x) (fun _ => .const _)
    (fun hxNested hfNested hx hf => hx.bind hxNested hfNested hf)
    (fun outer constants hx => hx.inside outer constants)

theorem Law.ends_captures (bound left : Nat) : (Law.ends bound left).Captures := by
  intro _ _ _ hx
  exact ⟨fun room => (hx.1 room).capture, hx.2.capture⟩

/-! ### Invocations that settle -/

namespace Run

variable {bound limit left : Nat}

/-- An invocation at a depth in which so many others are in progress already. -/
def invokeAfter (limit left used room : Nat) : Starter → Tool → Value → Run Value :=
  invokeAt (call room limit left) (room - used)

/-- How tools are invoked in it. -/
def reachAfter (limit left used room : Nat) : Reach :=
  ⟨call room limit left, invokeAfter limit left used room⟩

theorem invokeAfter_eq {used room : Nat} (hroom : used < room) (starter : Starter) (tool : Tool)
    (input : Value) :
    invokeAfter limit left used room starter tool input =
      tool.perform starter (reachAfter limit left (used + 1) room) input := by
  have hleft : room - used = room - (used + 1) + 1 := by omega
  unfold invokeAfter
  rw [hleft]
  rfl

theorem invokeAfter_nested (limit left used room : Nat) (starter : Starter) (tool : Tool)
    (input : Value) : (invokeAfter limit left used room starter tool input).Nested :=
  invokeAt_nested room limit left (room - used) tool input starter

theorem actAfter_nested (limit left used room : Nat) (tool : Tool) (input : Value) :
    (tool.act (reachAfter limit left used room) input).Nested :=
  act_nested room limit left (room - used) tool input

/-- Calls that lead one deeper settle where definitions are bounded. -/
def CallsEnd (bound limit left further : Nat) : Prop :=
  ∀ tool input, (Law.ends bound further).holds () fun room => call room limit left tool input

/-- What a tool does settles if the calls and the definitions made in it do.  The induction is on how
deep the input is nested. -/
theorem act_ends {further : Nat} (hcalls : CallsEnd bound limit left further)
    (hdefinitions : ∀ used tool input, (Law.ends bound further).holds () fun room =>
      invokeAfter limit left used room .definition tool input)
    (input : Value) (used : Nat) (tool : Tool) :
    (Law.ends bound further).holds () fun room =>
      tool.act (reachAfter limit left used room) input := by
  induction hheight : input.height using Nat.strongRecOn generalizing input used tool with
  | ind height ih =>
    subst hheight
    have hserves : (Law.ends bound further).Serves () (reachAfter limit left used) input := by
      refine ⟨⟨?_, ?_⟩, ?_⟩
      · rintro _ _ _ ⟨tool, rfl⟩ input
        exact hcalls tool input
      · rintro _ _ _ ⟨tool, rfl⟩ input
        exact hdefinitions used tool input
      · rintro _ _ _ ⟨tool, rfl⟩ part hpart
        -- an attempt or a comparison: one more is in progress, with an input less deep
        refine ⟨fun room => invokeAfter_nested limit left used room .other tool part, ?_⟩
        have hact := (ih part.height hpart part (used + 1) tool rfl).2
        have hnested (room : Nat) := actAfter_nested limit left (used + 1) room tool part
        refine (hact.perform .other rfl hnested).congr (used + 1) ?_
        exact fun room hroom => invokeAfter_eq hroom .other tool part
    exact Law.act hserves ⟨tool, rfl⟩ fun _ => Law.ends_captures bound further

/-- Definitions settle.  The induction is on how many more may be in progress. -/
theorem definition_ends (hcalls : ∀ further, CallsEnd bound limit left further) (further used : Nat)
    (tool : Tool) (input : Value) :
    (Law.ends bound further).holds () fun room =>
      invokeAfter limit left used room .definition tool input := by
  refine ⟨fun room => invokeAfter_nested limit left used room .definition tool input, ?_⟩
  induction further generalizing used tool input with
  | zero =>
    refine (Ends.perform_definition_zero fun room =>
      actAfter_nested limit left (used + 1) room tool input).congr (used + 1) ?_
    exact fun room hroom => invokeAfter_eq hroom .definition tool input
  | succ further ih =>
    have hact := act_ends (hcalls further)
      (fun used tool input => ⟨fun room => invokeAfter_nested limit left used room .definition tool
        input, ih used tool input⟩) input (used + 1) tool
    refine (hact.2.perform_definition hact.1).congr (used + 1) ?_
    exact fun room hroom => invokeAfter_eq hroom .definition tool input

/-- Calls settle.  The induction is on how many more may nest. -/
theorem call_ends (bound limit left further : Nat) : CallsEnd bound limit left further := by
  intro tool input
  induction left generalizing further tool input with
  | zero => exact ⟨fun room => .call_zero room limit tool input, .const _⟩
  | succ left ih =>
    have hnested (room : Nat) : (call room limit (left + 1) tool input).Nested :=
      invokeAfter_nested limit left 0 room .call tool input
    have hdefinitions := definition_ends ih further
    have hact := act_ends (ih further) hdefinitions input 1 tool
    refine ⟨hnested, (hact.2.perform .call rfl hact.1).congr 1 ?_⟩
    exact fun room hroom => invokeAfter_eq hroom .call tool input

/-- An evaluation settles where definitions are bounded. -/
theorem evaluate_ends (bound limit : Nat) (program : Value) :
    Ends bound bound fun room => evaluate (reach room limit limit) program := by
  have hreach : (Law.ends bound bound).Reaches () fun room => reach room limit limit := by
    refine ⟨?_, ?_⟩
    · rintro _ _ _ ⟨tool, rfl⟩ input
      exact call_ends bound limit limit bound tool input
    · rintro _ _ _ ⟨tool, rfl⟩ input
      exact definition_ends (call_ends bound limit limit) bound 0 tool input
  exact (Law.evaluate hreach program).2

/-- **Endings.**  An evaluation ends exactly if there is a bound on how many definitions are in progress
at once, however much room there is. -/
theorem evaluate_settles_iff (limit : Nat) (program : Value) (world : World) :
    Settles (fun room => evaluate (reach room limit limit) program) world ↔
      ∃ bound enough, ∀ room, enough ≤ room → ∀ n,
        Step.definitions ((evaluate (reach room limit limit) program).inProgress world n) ≤ bound := by
  constructor
  · rintro ⟨result, enough, henough⟩
    -- a run of so many steps has no more in progress than these
    refine ⟨(result.2.trace.take (result.2.trace.length - world.trace.length)).reverse.length,
      enough, fun room hroom n => ?_⟩
    dsimp only at henough
    unfold inProgress steps
    rw [henough room hroom]
    exact Nat.le_trans (Step.countP_inProgress_le _ _) (List.length_take_le' n _)
  · rintro ⟨bound, enough, henough⟩
    refine evaluate_ends bound limit program world [] (Nat.zero_add bound) ⟨enough, ?_⟩
    intro room hroom
    exact (Step.each_below_iff (Nat.zero_le bound)).mpr (henough room hroom)

end Run

end ToolWeave
