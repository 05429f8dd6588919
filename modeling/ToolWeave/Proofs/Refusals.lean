import ToolWeave.Proofs.Traces

/-!
# What a refused call leads to

A call that would be one too deep is refused.  Its failure is passed on like any other, and the only
thing that stops a failure is an invocation of `try`.  So a refusal that is not made inside such an
invocation is how the evaluation as a whole ends (`Run.evaluate_fails_of_refused`).
-/

namespace ToolWeave

/-- A call is refused only inside an invocation of `try`. -/
def Step.Guarded (opened : List Step) (step : Step) : Prop :=
  step.refuses = true → opened.any Step.isAttempt = true

/-- A run that no `try` is around refuses calls only inside a `try` of its own, or it ends with the
failure of a refusal. -/
def Run.Surfaces (limit : Nat) {α : Type} (action : Run α) : Prop :=
  ∀ world opened, opened.any Step.isAttempt = false →
    Step.Each Step.Guarded opened (action.steps world) ∨
      (action world).1 = .error (Run.tooDeep limit)

namespace Run.Surfaces

variable {limit : Nat} {α β : Type}

theorem of_trace_eq {action : Run α} (h : ∀ world, (action world).2.trace = world.trace) :
    Run.Surfaces limit action := by
  intro world opened _
  rw [Run.steps_of_trace_eq (h world)]
  exact .inl trivial

theorem bind {x : Run α} {f : α → Run β} (hxNested : x.Nested) (hfNested : ∀ a, (f a).Nested)
    (hx : Run.Surfaces limit x) (hf : ∀ a, Run.Surfaces limit (f a)) :
    Run.Surfaces limit (x >>= f) := by
  intro world opened hopened
  rw [Run.each_bind hxNested hfNested]
  have hfirst := hx world opened hopened
  rcases hrun : x world with ⟨e | a, between⟩
  · rw [hrun] at hfirst
    rw [Run.bind_of_error hrun]
    refine hfirst.imp (fun h => ⟨h, nofun⟩) fun h => ?_
    cases h
    rfl
  · have hguarded : Step.Each Step.Guarded opened (x.steps world) := by
      rw [hrun] at hfirst
      exact hfirst.resolve_right nofun
    rw [Run.bind_of_ok hrun]
    refine (hf a between opened hopened).imp (fun h => ⟨hguarded, ?_⟩) id
    intro a' between' heq
    cases heq
    exact h

/-- In an invocation of `try` no refusal is outside one. -/
theorem perform_attempt {reach : Reach} {input : Value} {starter : Starter}
    (hnested : ((Tool.builtin .attempt).act reach input).Nested) :
    Run.Surfaces limit ((Tool.builtin .attempt).perform starter reach input) := by
  intro world opened _
  have hguards (opened : List Step) (step : Step)
      (houter : .began starter (.builtin .attempt) input ∈ opened) : Step.Guarded opened step :=
    fun _ => List.any_eq_true.mpr ⟨_, houter, rfl⟩
  rw [Run.each_perform hnested]
  refine .inl ⟨nofun, ?_, nofun⟩
  exact (hnested.balanced _).each_of_mem hguards List.mem_cons_self

/-- An invocation of another tool fails as the tool does. -/
theorem perform {reach : Reach} {tool : Tool} {input : Value} {starter : Starter}
    (htool : tool ≠ .builtin .attempt) (hnested : (tool.act reach input).Nested)
    (hact : Run.Surfaces limit (tool.act reach input)) :
    Run.Surfaces limit (tool.perform starter reach input) := by
  intro world opened hopened
  have hnone : Step.isAttempt (.began starter tool input) = false := by
    unfold Step.isAttempt
    split
    · next h => cases h; exact absurd rfl htool
    · rfl
  have hinner : (Step.began starter tool input :: opened).any Step.isAttempt = false := by
    rw [List.any_cons, hnone, hopened]
    rfl
  rw [Run.each_perform hnested]
  refine (hact (tool.begun starter input world) _ hinner).imp (fun h => ⟨nofun, h, nofun⟩) ?_
  intro h
  rw [Tool.perform_apply, h]
  rfl

theorem call_zero (room : Nat) (tool : Tool) (input : Value) :
    Run.Surfaces limit (Run.call room limit 0 tool input) := fun _ _ _ => .inr rfl

end Run.Surfaces

/-- Refusals that surface, as a law.  It does not survive that ends are captured. -/
def Law.surfaces (limit : Nat) : Law Unit Law.Stage :=
  .traced (fun x => Run.Surfaces limit (x ())) .of_trace_eq
    (fun hxNested hfNested hx hf => hx.bind (hxNested ()) (hfNested ()) hf)
    (fun _ _ hx _ => hx _)

theorem Law.surfaces_invokes (limit : Nat) : (Law.surfaces limit).Invokes limit where
  performs := by
    rintro k reach _ input starter - ⟨tool, rfl⟩ hserves
    have hnested := hserves.act_nested And.left (fun tool => ⟨tool, rfl⟩) tool
    refine ⟨fun i => (hnested i).perform starter, ?_⟩
    by_cases htool : tool = .builtin .attempt
    · subst htool
      exact .perform_attempt (hnested ())
    · have hact := Law.act hserves ⟨tool, rfl⟩ fun h => absurd (congrFun h ()) htool
      exact hact.2.perform htool (hnested ())
  refuse _ tools input room :=
    ⟨fun i => .call_zero room limit (tools i) input, .call_zero room (tools ()) input⟩

/-- **Refusals surface.**  An evaluation that refuses a call where no `try` is in progress fails with
that refusal. -/
theorem Run.evaluate_fails_of_refused (room limit left : Nat) (program : Value) (world : World)
    {n : Nat} {step : Step}
    (hstep : ((evaluate (reach room limit left) program).steps world)[n]? = some step)
    (hrefuses : step.refuses = true)
    (hattempt : ((evaluate (reach room limit left) program).inProgress world n).any
      Step.isAttempt = false) :
    (evaluate (reach room limit left) program world).1 = .error (tooDeep limit) := by
  obtain ⟨-, hsurfaces⟩ := (Law.surfaces_invokes limit).evaluate room left () program
  refine (hsurfaces world [] rfl).resolve_left fun heach => ?_
  have hguarded := Step.each_iff.mp heach n step hstep hrefuses
  exact Bool.false_ne_true (hattempt.symm.trans hguarded)

end ToolWeave
