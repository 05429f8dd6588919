import ToolWeave.Proofs.Actions
import ToolWeave.Proofs.Laws

/-!
# Traces of runs

A run adds to the trace the steps it takes: the beginnings and ends of invocations, and the calls that
are refused.  Read from left to right they tell at every moment which invocations are in progress and
what started them.

Every run is `Run.Nested`: its steps are balanced, so that whatever it has begun has ended when it is
done.  Hence the steps of a run can be looked at where they stand, whatever is in progress around
them.

## Design notes

**Moments before steps.**  What is said of a run is said of each of its steps together with what is in
progress when the step is taken (`Step.Each`).  A bound on how many invocations are in progress is a
condition on beginnings (`Step.each_below_iff`).
-/

namespace ToolWeave

namespace Step

/-- What is in progress after a step: the beginnings that have no end yet, the latest first. -/
def after (opened : List Step) : Step → List Step
  | began starter tool input => began starter tool input :: opened
  | ended => opened.tail
  | refused _ _ => opened

/-- What is in progress after some steps. -/
def inProgress (opened steps : List Step) : List Step :=
  steps.foldl after opened

/-- Whether a step is the beginning of an invocation that was started in one of some ways. -/
def begins (p : Starter → Bool) : Step → Bool
  | began starter _ _ => p starter
  | _ => false

/-- Whether a step is a refusal. -/
def refuses : Step → Bool
  | refused _ _ => true
  | _ => false

/-- Whether a step is the beginning of an invocation of `try`. -/
def isAttempt : Step → Bool
  | began _ (.builtin .attempt) _ => true
  | _ => false

/-- Every step of some steps, with what is in progress when it is taken. -/
def Each (R : List Step → Step → Prop) : List Step → List Step → Prop
  | _, [] => True
  | opened, step :: rest => R opened step ∧ Each R (step.after opened) rest

/-- Steps that end everything they begin. -/
inductive Balanced : List Step → Prop
  | nil : Balanced []
  | refused {tool : Tool} {input : Value} {rest : List Step} (hrest : Balanced rest) :
      Balanced (.refused tool input :: rest)
  | invoked {starter : Starter} {tool : Tool} {input : Value} {inner rest : List Step}
      (hinner : Balanced inner) (hrest : Balanced rest) :
      Balanced (.began starter tool input :: (inner ++ .ended :: rest))

@[simp]
theorem inProgress_cons (opened : List Step) (step : Step) (rest : List Step) :
    inProgress opened (step :: rest) = inProgress (step.after opened) rest := rfl

theorem inProgress_append (opened first second : List Step) :
    inProgress opened (first ++ second) = inProgress (inProgress opened first) second :=
  List.foldl_append

theorem length_inProgress_le (opened steps : List Step) :
    (inProgress opened steps).length ≤ opened.length + steps.length := by
  induction steps generalizing opened with
  | nil => exact Nat.le_refl _
  | cons step rest ih =>
    rw [inProgress_cons, List.length_cons]
    have hstep : (step.after opened).length ≤ opened.length + 1 := by
      cases step with
      | began starter tool input => exact Nat.le_refl _
      | ended =>
        show opened.tail.length ≤ opened.length + 1
        rw [List.length_tail]
        omega
      | refused tool input => exact Nat.le_succ _
    have hrest := ih (step.after opened)
    omega

theorem countP_began_of_true {p : Starter → Bool} {starter : Starter} (h : p starter = true)
    (tool : Tool) (input : Value) (opened : List Step) :
    (began starter tool input :: opened).countP (begins p) = opened.countP (begins p) + 1 :=
  List.countP_cons_of_pos h

theorem countP_began_of_false {p : Starter → Bool} {starter : Starter} (h : p starter = false)
    (tool : Tool) (input : Value) (opened : List Step) :
    (began starter tool input :: opened).countP (begins p) = opened.countP (begins p) :=
  List.countP_cons_of_neg (by rw [begins, h]; exact Bool.false_ne_true)

/-- No more is in progress than has begun. -/
theorem countP_inProgress_le (p : Step → Bool) (steps : List Step) :
    (inProgress [] steps).countP p ≤ steps.length := by
  have hlength := length_inProgress_le [] steps
  rw [List.length_nil, Nat.zero_add] at hlength
  exact Nat.le_trans List.countP_le_length hlength

/-- After balanced steps there is in progress what was so before. -/
theorem Balanced.inProgress {steps : List Step} (h : Balanced steps) (opened : List Step) :
    Step.inProgress opened steps = opened := by
  induction h generalizing opened with
  | nil => rfl
  | refused _ ih => exact ih opened
  | invoked _ _ ihInner ihRest =>
    rw [inProgress_cons, inProgress_append, ihInner, inProgress_cons]
    exact ihRest opened

theorem Balanced.append {first second : List Step} (hfirst : Balanced first)
    (hsecond : Balanced second) : Balanced (first ++ second) := by
  induction hfirst with
  | nil => exact hsecond
  | refused _ ih => exact .refused ih
  | @invoked starter tool input inner rest hinner _ _ ih =>
    rw [List.cons_append, List.append_assoc, List.cons_append]
    exact .invoked hinner ih

section Each

variable {R S : List Step → Step → Prop} {opened first second steps : List Step}

theorem each_append :
    Each R opened (first ++ second) ↔ Each R opened first ∧ Each R (inProgress opened first) second := by
  induction first generalizing opened with
  | nil => exact ⟨fun h => ⟨trivial, h⟩, And.right⟩
  | cons step rest ih =>
    rw [List.cons_append, Each, Each, ih, inProgress_cons, and_assoc]

/-- What holds of every step holds of the one after so many others. -/
theorem each_iff :
    Each R opened steps ↔ ∀ n step, steps[n]? = some step → R (inProgress opened (steps.take n)) step := by
  induction steps generalizing opened with
  | nil => exact ⟨fun _ n step h => (by cases h), fun _ => trivial⟩
  | cons first rest ih =>
    rw [Each, ih]
    constructor
    · rintro ⟨hfirst, hrest⟩ n step hstep
      cases n with
      | zero =>
        cases hstep
        exact hfirst
      | succ n => exact hrest n step hstep
    · intro h
      exact ⟨h 0 first rfl, fun n step hstep => h (n + 1) step hstep⟩

theorem Each.imp (h : Each R opened steps) (himp : ∀ opened step, R opened step → S opened step) :
    Each S opened steps := by
  induction steps generalizing opened with
  | nil => trivial
  | cons step rest ih => exact ⟨himp _ _ h.1, ih h.2⟩

theorem Each.and (hR : Each R opened steps) (hS : Each S opened steps) :
    Each (fun opened step => R opened step ∧ S opened step) opened steps := by
  induction steps generalizing opened with
  | nil => trivial
  | cons step rest ih => exact ⟨⟨hR.1, hS.1⟩, ih hR.2 hS.2⟩

/-- The steps of an invocation are its beginning, what is done in it, and its end. -/
theorem each_invoked {starter : Starter} {tool : Tool} {input : Value} {inner : List Step}
    (hinner : Balanced inner) :
    Each R opened (.began starter tool input :: (inner ++ [.ended])) ↔
      R opened (.began starter tool input) ∧ Each R (.began starter tool input :: opened) inner ∧
        R (.began starter tool input :: opened) .ended := by
  rw [Each, each_append, hinner.inProgress]
  exact and_congr_right fun _ => and_congr_right fun _ => and_iff_left trivial

/-- What holds of all steps taken while a certain invocation is in progress holds of whatever is done
in it. -/
theorem Balanced.each_of_mem (hsteps : Balanced steps) {outer : Step}
    (hR : ∀ opened step, outer ∈ opened → R opened step) (houter : outer ∈ opened) :
    Each R opened steps := by
  induction hsteps generalizing opened with
  | nil => trivial
  | refused _ ih => exact ⟨hR _ _ houter, ih houter⟩
  | @invoked starter tool input inner rest hinner _ ihInner ihRest =>
    have hwithin : outer ∈ .began starter tool input :: opened := List.mem_cons_of_mem _ houter
    rw [Each, each_append]
    refine ⟨hR _ _ houter, ihInner hwithin, ?_⟩
    change Each R (Step.inProgress (.began starter tool input :: opened) inner) (.ended :: rest)
    rw [hinner.inProgress]
    exact ⟨hR _ _ hwithin, ihRest houter⟩

/-- Never more than `bound` invocations of some kind are in progress exactly if each of them begins
while there are fewer. -/
theorem each_below_iff {p : Starter → Bool} {bound : Nat}
    (hopened : opened.countP (begins p) ≤ bound) :
    Each (fun opened step => step.begins p = true → opened.countP (begins p) < bound) opened steps ↔
      ∀ n, (inProgress opened (steps.take n)).countP (begins p) ≤ bound := by
  induction steps generalizing opened with
  | nil =>
    refine ⟨fun _ n => ?_, fun _ => trivial⟩
    rw [List.take_nil]
    exact hopened
  | cons step rest ih =>
    have hafter (hbegins : step.begins p = true → opened.countP (begins p) < bound) :
        (step.after opened).countP (begins p) ≤ bound := by
      cases step with
      | began starter tool input =>
        show (began starter tool input :: opened).countP (begins p) ≤ bound
        rw [List.countP_cons]
        split
        · next hp => exact hbegins hp
        · exact hopened
      | ended => exact Nat.le_trans (List.Sublist.countP_le (List.tail_sublist opened)) hopened
      | refused tool input => exact hopened
    constructor
    · rintro ⟨hbegins, hrest⟩ n
      cases n with
      | zero => exact hopened
      | succ n => exact (ih (hafter hbegins)).mp hrest n
    · intro h
      have hbegins (hp : step.begins p = true) : opened.countP (begins p) < bound := by
        have hone := h 1
        cases step with
        | began starter tool input =>
          change (began starter tool input :: opened).countP (begins p) ≤ bound at hone
          rw [List.countP_cons_of_pos hp] at hone
          exact hone
        | _ => cases hp
      exact ⟨hbegins, (ih (hafter hbegins)).mpr fun n => h (n + 1)⟩

end Each

end Step

/-! ### Steps of runs -/

namespace Run

variable {α β : Type}

/-- The steps that a run adds to the trace, in the order in which they are taken. -/
def steps (action : Run α) (world : World) : List Step :=
  ((action world).2.trace.take
    ((action world).2.trace.length - world.trace.length)).reverse

/-- What a run has in progress when it has taken so many steps. -/
def inProgress (action : Run α) (world : World) (n : Nat) : List Step :=
  Step.inProgress [] ((action.steps world).take n)

/-- A run adds steps to the trace and takes none away, and it ends whatever it begins. -/
def Nested (action : Run α) : Prop :=
  ∀ world, ∃ steps, Step.Balanced steps ∧ (action world).2.trace = steps.reverse ++ world.trace

theorem steps_eq {action : Run α} {world : World} {added : List Step}
    (h : (action world).2.trace = added.reverse ++ world.trace) : action.steps world = added := by
  unfold steps
  rw [h, List.length_append, Nat.add_sub_cancel, List.take_left, List.reverse_reverse]

theorem Nested.balanced {action : Run α} (h : Nested action) (world : World) :
    Step.Balanced (action.steps world) := by
  obtain ⟨added, hbalanced, htrace⟩ := h world
  rw [steps_eq htrace]
  exact hbalanced

theorem Nested.trace_eq {action : Run α} (h : Nested action) (world : World) :
    (action world).2.trace = (action.steps world).reverse ++ world.trace := by
  obtain ⟨added, -, htrace⟩ := h world
  rw [steps_eq htrace]
  exact htrace

/-- A run that takes no steps. -/
theorem Nested.of_trace_eq {action : Run α} (h : ∀ world, (action world).2.trace = world.trace) :
    Nested action := fun world => ⟨[], .nil, h world⟩

theorem steps_of_trace_eq {action : Run α} {world : World}
    (h : (action world).2.trace = world.trace) : action.steps world = [] := steps_eq h

/-- The refusal of a call is one step. -/
theorem steps_call_zero (room limit : Nat) (tool : Tool) (input : Value) (world : World) :
    (call room limit 0 tool input).steps world = [.refused tool input] := steps_eq rfl

theorem Nested.call_zero (room limit : Nat) (tool : Tool) (input : Value) :
    Nested (call room limit 0 tool input) :=
  fun _ => ⟨[.refused tool input], .refused .nil, rfl⟩

/-- What a second part adds comes after what the first one added. -/
theorem steps_bind_of_ok {x : Run α} {f : α → Run β} {world between : World} {a : α}
    (hx : Nested x) (hf : Nested (f a)) (hrun : x world = (.ok a, between)) :
    (x >>= f).steps world = x.steps world ++ (f a).steps between := by
  refine steps_eq ?_
  have hfirst := hx.trace_eq world
  rw [hrun] at hfirst
  rw [bind_of_ok hrun, hf.trace_eq between, hfirst, List.reverse_append, List.append_assoc]

theorem steps_bind_of_error {x : Run α} {f : α → Run β} {world after : World} {e : ToolError}
    (hrun : x world = (.error e, after)) : (x >>= f).steps world = x.steps world := by
  unfold steps
  rw [bind_of_error hrun, hrun]

theorem Nested.bind {x : Run α} {f : α → Run β} (hx : Nested x) (hf : ∀ a, Nested (f a)) :
    Nested (x >>= f) := by
  intro world
  rcases hrun : x world with ⟨e | a, between⟩
  · rw [bind_of_error hrun]
    have hfirst := hx world
    rw [hrun] at hfirst
    exact hfirst
  · rw [bind_of_ok hrun]
    refine ⟨x.steps world ++ (f a).steps between, ?_, ?_⟩
    · exact (hx.balanced world).append ((hf a).balanced between)
    · have hfirst := hx.trace_eq world
      rw [hrun] at hfirst
      rw [(hf a).trace_eq between, hfirst, List.reverse_append, List.append_assoc]

theorem Nested.inside {x : Run α} (hx : Nested x) (outer : Environment) (constants : Fields) :
    Nested (inside outer constants x) := fun world => hx (world.enter outer constants)

theorem Nested.capture {x : Run α} (hx : Nested x) : Nested (capture x) := hx

/-- What holds of all steps of two parts holds of all steps of the first, and of all of the second if
there is one. -/
theorem each_bind {R : List Step → Step → Prop} {x : Run α} {f : α → Run β} (hx : Nested x)
    (hf : ∀ a, Nested (f a)) {opened : List Step} {world : World} :
    Step.Each R opened ((x >>= f).steps world) ↔ Step.Each R opened (x.steps world) ∧
      ∀ a between, x world = (.ok a, between) → Step.Each R opened ((f a).steps between) := by
  rcases hrun : x world with ⟨e | a, between⟩
  · rw [steps_bind_of_error hrun]
    exact (and_iff_left fun a between h => by cases h).symm
  · rw [steps_bind_of_ok hx (hf a) hrun, Step.each_append, (hx.balanced world).inProgress]
    refine and_congr_right fun _ => ⟨fun h a between heq => ?_, fun h => h a between rfl⟩
    cases heq
    exact h

theorem perform_trace {reach : Reach} {tool : Tool} {input : Value}
    (hact : Nested (tool.act reach input)) (starter : Starter) (world : World) :
    (tool.perform starter reach input world).2.trace =
      (.began starter tool input ::
        ((tool.act reach input).steps (tool.begun starter input world) ++ [.ended])).reverse ++
          world.trace := by
  rw [Tool.perform_apply]
  show Step.ended :: (tool.act reach input (tool.begun starter input world)).2.trace = _
  rw [hact.trace_eq, List.reverse_cons, List.reverse_append, List.append_assoc]
  rfl

/-- An invocation begins, the tool acts, and the invocation ends. -/
theorem steps_perform {reach : Reach} {tool : Tool} {input : Value}
    (hact : Nested (tool.act reach input)) (starter : Starter) (world : World) :
    (tool.perform starter reach input).steps world =
      .began starter tool input ::
        ((tool.act reach input).steps (tool.begun starter input world) ++ [.ended]) :=
  steps_eq (perform_trace hact starter world)

theorem Nested.perform {reach : Reach} {tool : Tool} {input : Value}
    (hact : Nested (tool.act reach input)) (starter : Starter) :
    Nested (tool.perform starter reach input) :=
  fun world => ⟨_, .invoked (hact.balanced _) .nil, perform_trace hact starter world⟩

/-- What holds of all steps of an invocation holds of its beginning, of all steps of what the tool does,
and of its end. -/
theorem each_perform {R : List Step → Step → Prop} {reach : Reach} {tool : Tool} {input : Value}
    (hact : Nested (tool.act reach input)) {starter : Starter} {opened : List Step} {world : World} :
    Step.Each R opened ((tool.perform starter reach input).steps world) ↔
      R opened (.began starter tool input) ∧
        Step.Each R (.began starter tool input :: opened)
          ((tool.act reach input).steps (tool.begun starter input world)) ∧
        R (.began starter tool input :: opened) .ended := by
  rw [steps_perform hact]
  exact Step.each_invoked (hact.balanced _)

end Run

/-! ### Single actions -/

theorem Run.Refuses.trace_eq {α : Type} {action : Run α} (h : Run.Refuses action) (world : World) :
    (action world).2.trace = world.trace := by
  obtain ⟨e, h⟩ := h
  rw [h]

/-- Single actions take no steps. -/
theorem Run.Own.trace_eq {α : Type} {action : Run α} (haction : Run.Own action) (world : World) :
    (action world).2.trace = world.trace := by
  cases haction with
  | checkScopes => rw [Run.checkScopes_apply]
  | define input =>
    rcases Bindings.define_cases input with h | ⟨request, h⟩
    · exact h.trace_eq world
    · rw [h]
  | undefine input =>
    rcases Bindings.undefine_cases input with h | ⟨name, h⟩
    · exact h.trace_eq world
    · rw [h]
  | rebind input =>
    rcases Bindings.rebind_cases input with h | ⟨name, source, h⟩
    · exact h.trace_eq world
    · rw [h]
      split <;> rfl
  | listTools => rfl
  | print input =>
    rcases ConsoleTools.print_cases input with h | ⟨text, h⟩
    · exact h.trace_eq world
    · rw [h]
      split <;> rfl
  | readLine =>
    rw [ConsoleTools.readLine_apply]
    split <;> rfl

theorem Run.Foreign.trace_eq {α : Type} {action : Run α} (haction : Run.Foreign action)
    (world : World) : (action world).2.trace = world.trace :=
  (haction.leaves world).2.2

theorem Run.Simple.trace_eq {α : Type} {action : Run α} (haction : Run.Simple action)
    (world : World) : (action world).2.trace = world.trace := by
  cases haction with
  | own haction => exact haction.trace_eq world
  | foreign haction => exact haction.trace_eq world
  | _ => rfl

/-! ### Laws of traces -/

/-- A property of families of nested runs that may look at the steps they take.  It has to hold of
runs that take none, and to survive putting runs together. -/
def Law.traced {ι : Type} (holds : {α : Type} → (ι → Run α) → Prop)
    (quiet : ∀ {α : Type} {action : Run α}, (∀ world, (action world).2.trace = world.trace) →
      holds fun _ => action)
    (bind : ∀ {α β : Type} {x : ι → Run α} {f : ι → α → Run β}, (∀ i, (x i).Nested) →
      (∀ i a, (f i a).Nested) → holds x → (∀ a, holds fun i => f i a) →
      holds fun i => x i >>= f i)
    (inside : ∀ {α : Type} {x : ι → Run α} (outer : Environment) (constants : Fields), holds x →
      holds fun i => Run.inside outer constants (x i)) : Law ι Law.Stage :=
  .uniform (fun x => (∀ i, (x i).Nested) ∧ holds x)
    (fun haction => ⟨fun _ => .of_trace_eq haction.trace_eq, quiet haction.trace_eq⟩)
    (fun hx hf => ⟨fun i => (hx.1 i).bind fun a => (hf a).1 i,
      bind hx.1 (fun i a => (hf a).1 i) hx.2 fun a => (hf a).2⟩)
    (fun outer constants hx => ⟨fun i => (hx.1 i).inside outer constants,
      inside outer constants hx.2⟩)

/-- Being nested, as a law. -/
def Law.nested (ι : Type) : Law ι Law.Stage :=
  .uniform (fun x => ∀ i, (x i).Nested) (fun haction _ => .of_trace_eq haction.trace_eq)
    (fun hx hf i => (hx i).bind fun a => hf a i)
    (fun outer constants hx i => (hx i).inside outer constants)

theorem Law.nested_captures (ι : Type) : (Law.nested ι).Captures := by
  intro _ _ _ hx i
  exact (hx i).capture

theorem Law.nested_invokes (ι : Type) (limit : Nat) : (Law.nested ι).Invokes limit where
  performs _ _ _ _ starter _ htools hserves i :=
    (Law.act hserves htools (fun _ => Law.nested_captures ι) i).perform starter
  refuse _ tools input room i := .call_zero room limit (tools i) input

/-- What a tool does is nested if a law serves it that holds of nested runs only. -/
theorem Law.Serves.act_nested {ι : Type} {law : Law ι Law.Stage} {reach : ι → Reach} {input : Value}
    (hserves : law.Serves () reach input)
    (hnested : ∀ {α : Type} {x : ι → Run α}, law.holds () x → ∀ i, (x i).Nested)
    (halike : ∀ tool, law.alike () fun _ => tool) (tool : Tool) (i : ι) :
    (tool.act (reach i) input).Nested := by
  have hserves' : (Law.nested ι).Serves () reach input := by
    refine ⟨⟨?_, ?_⟩, ?_⟩
    · rintro later hle _ ⟨tool, rfl⟩ input
      exact hnested (hserves.call later hle _ (halike tool) input)
    · rintro later hle _ ⟨tool, rfl⟩ input
      exact hnested (hserves.definition later hle _ (halike tool) input)
    · rintro later hle _ ⟨tool, rfl⟩ part hpart
      exact hnested (hserves.other later hle _ (halike tool) part hpart)
  have htool : (Law.nested ι).alike () fun _ => tool := ⟨tool, rfl⟩
  exact Law.act hserves' htool (fun _ => Law.nested_captures ι) i

namespace Run

variable (room limit left further : Nat) (tool : Tool) (input : Value)

theorem invokeAt_nested (starter : Starter) :
    (invokeAt (call room limit left) further starter tool input).Nested :=
  (Law.nested_invokes Unit limit).again room left further () (fun _ => tool) ⟨tool, rfl⟩ starter
    input ()

theorem act_nested :
    (tool.act ⟨call room limit left, invokeAt (call room limit left) further⟩ input).Nested :=
  ((Law.nested_invokes Unit limit).serves room left further () input).act_nested id
    (fun tool => ⟨tool, rfl⟩) tool ()

end Run

end ToolWeave
