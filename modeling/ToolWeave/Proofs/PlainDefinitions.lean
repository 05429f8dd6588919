import ToolWeave.Proofs.Endings

/-!
# Definitions that only define

The built-in `define` invokes nothing.  So where no other tool is ever bound to `define`, no two
definitions are in progress at once, and every evaluation ends (`Run.evaluate_settles_of_define`).
-/

namespace ToolWeave

namespace Step

/-- Whether a step is the beginning of an invocation of the built-in `define`. -/
def isDefine : Step → Bool
  | began _ (.builtin .define) _ => true
  | _ => false

/-- Nothing begins directly inside an invocation of the built-in `define`. -/
def Outside (opened : List Step) (step : Step) : Prop :=
  step.begins (fun _ => true) = true → opened.head?.any isDefine = false

/-- A definition is handed to the built-in `define`. -/
def Defines (step : Step) : Prop := step.begins Starter.isDefinition = true → step.isDefine = true

/-- Only the invocation begun last may be a definition, and then it is one of the built-in `define`. -/
def AtMostDefining : List Step → Prop
  | [] => True
  | last :: outer => definitions outer = 0 ∧ last.Defines

theorem AtMostDefining.tail {opened : List Step} (h : AtMostDefining opened) :
    AtMostDefining opened.tail := by
  cases opened with
  | nil => trivial
  | cons last outer =>
    cases outer with
    | nil => trivial
    | cons next outer =>
      have hcount : definitions (next :: outer) = 0 := h.1
      rw [definitions, List.countP_eq_zero] at hcount
      refine ⟨List.countP_eq_zero.mpr fun step hstep => hcount step (List.mem_cons_of_mem _ hstep), ?_⟩
      exact fun hbegins => absurd hbegins (hcount next List.mem_cons_self)

/-- Whatever begins outside of the built-in `define` begins outside of all definitions. -/
theorem AtMostDefining.definitions_eq {opened : List Step} (h : AtMostDefining opened)
    (houtside : opened.head?.any isDefine = false) : definitions opened = 0 := by
  cases opened with
  | nil => rfl
  | cons last outer =>
    obtain ⟨hcount, hdefines⟩ := h
    change last.isDefine = false at houtside
    have hlast : ¬ last.begins Starter.isDefinition = true := fun hbegins =>
      Bool.false_ne_true (houtside.symm.trans (hdefines hbegins))
    exact (List.countP_cons_of_neg hlast).trans hcount

/-- If nothing begins inside the built-in `define` and all definitions are handed to it, no definition
begins inside another. -/
theorem each_single {opened steps : List Step} (h : AtMostDefining opened)
    (houtside : Each Outside opened steps)
    (hdefines : Each (fun _ step => step.Defines) opened steps) :
    Each (fun opened step => step.begins Starter.isDefinition = true → definitions opened < 1) opened
      steps := by
  induction steps generalizing opened with
  | nil => trivial
  | cons step rest ih =>
    obtain ⟨hstep, houtside⟩ := houtside
    obtain ⟨hdefine, hdefines⟩ := hdefines
    refine ⟨fun hbegins => ?_, ih ?_ houtside hdefines⟩
    · have hbegun : step.begins (fun _ => true) = true := by
        cases step with
        | began starter tool input => rfl
        | _ => cases hbegins
      rw [h.definitions_eq (hstep hbegun)]
      exact Nat.one_pos
    · cases step with
      | began starter tool input => exact ⟨h.definitions_eq (hstep rfl), hdefine⟩
      | ended => exact h.tail
      | refused tool input => exact h

end Step

/-! ### Runs outside of `define` -/

/-- A run that begins nothing directly inside an invocation of the built-in `define`, unless it is all
inside one. -/
def Run.Outside {α : Type} (action : Run α) : Prop :=
  ∀ world opened, opened.head?.any Step.isDefine = false →
    Step.Each Step.Outside opened (action.steps world)

namespace Run.Outside

variable {α β : Type}

theorem of_trace_eq {action : Run α} (h : ∀ world, (action world).2.trace = world.trace) :
    Run.Outside action := by
  intro world opened _
  rw [Run.steps_of_trace_eq (h world)]
  trivial

theorem bind {x : Run α} {f : α → Run β} (hxNested : x.Nested) (hfNested : ∀ a, (f a).Nested)
    (hx : Run.Outside x) (hf : ∀ a, Run.Outside (f a)) : Run.Outside (x >>= f) := by
  intro world opened hopened
  rw [Run.each_bind hxNested hfNested]
  exact ⟨hx world opened hopened, fun a between _ => hf a between opened hopened⟩

theorem perform {reach : Reach} {tool : Tool} {input : Value} {starter : Starter}
    (hnested : (tool.act reach input).Nested) (hact : Run.Outside (tool.act reach input)) :
    Run.Outside (tool.perform starter reach input) := by
  intro world opened hopened
  rw [Run.each_perform hnested]
  refine ⟨fun _ => hopened, ?_, nofun⟩
  by_cases htool : tool = .builtin .define
  · -- the built-in `define` takes no steps
    subst htool
    have hsteps : ((Tool.builtin .define).act reach input).steps
        (Tool.begun starter (.builtin .define) input world) = [] :=
      Run.steps_of_trace_eq ((Run.Own.define input).trace_eq _)
    rw [hsteps]
    trivial
  · refine hact _ _ ?_
    show Step.isDefine (.began starter tool input) = false
    unfold Step.isDefine
    split
    · next h =>
      cases h
      exact absurd rfl htool
    · rfl

end Run.Outside

/-- Beginning nothing inside the built-in `define`, as a law. -/
def Law.outside : Law Unit Law.Stage :=
  .traced (fun x => Run.Outside (x ())) .of_trace_eq
    (fun hxNested hfNested hx hf => hx.bind (hxNested ()) (hfNested ()) hf)
    (fun _ _ hx _ => hx _)

theorem Law.outside_captures : Law.outside.Captures := by
  intro _ _ _ hx
  exact hx

theorem Law.outside_invokes (limit : Nat) : Law.outside.Invokes limit where
  performs k reach tools input starter _ htools hserves := by
    obtain ⟨hnested, hact⟩ := Law.act hserves htools fun _ => Law.outside_captures
    exact ⟨fun i => (hnested i).perform starter, hact.perform (hnested ())⟩
  refuse k tools input room := by
    refine ⟨fun i => .call_zero room limit (tools i) input, fun world opened _ => ?_⟩
    rw [Run.steps_call_zero]
    exact ⟨nofun, trivial⟩

/-- **Plain definitions.**  An evaluation ends if all its definitions are handed to the built-in
`define`. -/
theorem Run.evaluate_settles_of_define (limit : Nat) (program : Value) (world : World) (enough : Nat)
    (hdefine : ∀ room, enough ≤ room → ∀ step ∈
      (evaluate (reach room limit limit) program).steps world, step.Defines) :
    Settles (fun room => evaluate (reach room limit limit) program) world := by
  refine (evaluate_settles_iff limit program world).mpr ⟨1, enough, fun room hroom => ?_⟩
  obtain ⟨-, houtside⟩ := (Law.outside_invokes limit).evaluate room limit () program
  have hdefines : Step.Each (fun _ step => step.Defines) []
      ((evaluate (reach room limit limit) program).steps world) :=
    Step.each_iff.mpr fun n step hstep => hdefine room hroom step (List.mem_of_getElem? hstep)
  exact (Step.each_below_iff (Nat.zero_le 1)).mp
    (Step.each_single trivial (houtside world [] rfl) hdefines)

end ToolWeave
