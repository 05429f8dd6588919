import ToolWeave.Proofs.Traces

/-!
# How deep calls nest

The limit on the depth of calls bounds how many calls and references are in progress at once: a call
begins only while there are fewer than the limit, and it is refused only when there are as many
(`Run.evaluate_counted`).

Definitions do not count.  A definition hands its request to the tool bound to `define` at the depth it
is at, so that the invocations that programs make, definitions included, may be more than the limit.
They are more exactly if one of them begins in or as a definition when there are as many as the limit
(`Run.evaluate_below_iff`).
-/

namespace ToolWeave

/-! ### What programs start -/

namespace Starter

/-- A call or a reference. -/
def isCall : Starter → Bool
  | call => true
  | _ => false

/-- A definition. -/
def isDefinition : Starter → Bool
  | definition => true
  | _ => false

/-- An invocation that a program makes: a call, a reference or a definition. -/
def isProgram : Starter → Bool
  | other => false
  | _ => true

end Starter

namespace Step

/-- How many calls and references are in progress. -/
def calls (opened : List Step) : Nat := opened.countP (begins Starter.isCall)

/-- How many definitions are in progress. -/
def definitions (opened : List Step) : Nat := opened.countP (begins Starter.isDefinition)

/-- How many invocations that programs have made are in progress. -/
def programs (opened : List Step) : Nat := opened.countP (begins Starter.isProgram)

theorem programs_eq (opened : List Step) : programs opened = calls opened + definitions opened := by
  induction opened with
  | nil => rfl
  | cons step rest ih =>
    simp only [programs, calls, definitions, List.countP_cons] at ih ⊢
    rw [ih]
    cases step with
    | began starter tool input => cases starter <;> simp [begins, Starter.isProgram, Starter.isCall,
        Starter.isDefinition] <;> omega
    | _ => simp [begins]

/-- What a program begins is a call if it is no definition. -/
theorem begins_call {step : Step} (hbegins : step.begins Starter.isProgram = true)
    (hnot : ¬ step.begins Starter.isDefinition = true) : step.begins Starter.isCall = true := by
  cases step with
  | began starter tool input =>
    cases starter with
    | call => rfl
    | definition => exact absurd rfl hnot
    | other => cases hbegins
  | _ => cases hbegins

/-- A call begins only while fewer calls than the limit are in progress, and it is refused only while
there are as many. -/
def Counted (limit : Nat) (opened : List Step) (step : Step) : Prop :=
  (step.begins Starter.isCall = true → calls opened < limit) ∧
    (step.refuses = true → calls opened = limit)

end Step

/-! ### Shallow runs -/

/-- A run that starts where so many further calls may nest keeps to the limit. -/
def Run.Shallow (limit left : Nat) {α : Type} (action : Run α) : Prop :=
  ∀ world opened, Step.calls opened + left = limit →
    Step.Each (Step.Counted limit) opened (action.steps world)

namespace Run.Shallow

variable {limit left : Nat} {α β : Type}

theorem of_trace_eq {action : Run α} (h : ∀ world, (action world).2.trace = world.trace) :
    Run.Shallow limit left action := by
  intro world opened _
  rw [Run.steps_of_trace_eq (h world)]
  trivial

theorem bind {x : Run α} {f : α → Run β} (hxNested : x.Nested) (hfNested : ∀ a, (f a).Nested)
    (hx : Run.Shallow limit left x) (hf : ∀ a, Run.Shallow limit left (f a)) :
    Run.Shallow limit left (x >>= f) := by
  intro world opened hopened
  rw [Run.each_bind hxNested hfNested]
  exact ⟨hx world opened hopened, fun a between _ => hf a between opened hopened⟩

/-- An invocation that is no call leaves as much depth as there is. -/
theorem perform {reach : Reach} {tool : Tool} {input : Value} {starter : Starter}
    (hstarter : starter.isCall = false) (hnested : (tool.act reach input).Nested)
    (hact : Run.Shallow limit left (tool.act reach input)) :
    Run.Shallow limit left (tool.perform starter reach input) := by
  intro world opened hopened
  have hcalls : Step.calls (.began starter tool input :: opened) = Step.calls opened :=
    Step.countP_began_of_false hstarter tool input opened
  rw [Run.each_perform hnested]
  refine ⟨⟨fun hbegins => ?_, nofun⟩, hact _ _ ?_, nofun, nofun⟩
  · exact absurd (hstarter.symm.trans hbegins) Bool.false_ne_true
  · rw [hcalls]
    exact hopened

/-- A call goes one deeper. -/
theorem perform_call {reach : Reach} {tool : Tool} {input : Value}
    (hnested : (tool.act reach input).Nested)
    (hact : Run.Shallow limit left (tool.act reach input)) :
    Run.Shallow limit (left + 1) (tool.perform .call reach input) := by
  intro world opened hopened
  have hcalls : Step.calls (.began .call tool input :: opened) = Step.calls opened + 1 :=
    Step.countP_began_of_true rfl tool input opened
  rw [Run.each_perform hnested]
  refine ⟨⟨fun _ => ?_, nofun⟩, hact _ _ ?_, nofun, nofun⟩ <;> omega

/-- A call is refused where no further calls may nest. -/
theorem call_zero (room : Nat) (tool : Tool) (input : Value) :
    Run.Shallow limit 0 (Run.call room limit 0 tool input) := by
  intro world opened hopened
  rw [Run.steps_call_zero]
  exact ⟨⟨nofun, fun _ => hopened⟩, trivial⟩

end Run.Shallow

/-- Keeping to the limit, as a law. -/
def Law.shallow (limit left : Nat) : Law Unit Law.Stage :=
  .traced (fun x => Run.Shallow limit left (x ())) .of_trace_eq
    (fun hxNested hfNested hx hf => hx.bind (hxNested ()) (hfNested ()) hf)
    (fun _ _ hx _ => hx _)

theorem Law.shallow_captures (limit left : Nat) : (Law.shallow limit left).Captures := by
  intro _ _ _ hx
  exact hx

/-- Invocations that are no calls are made at the same depth. -/
theorem Law.shallow_performs (limit left : Nat) :
    (Law.shallow limit left).Performs fun starter => starter.isCall = false := by
  intro k reach tools input starter hstarter htools hserves
  obtain ⟨hnested, hact⟩ := Law.act hserves htools fun _ => Law.shallow_captures limit left
  exact ⟨fun i => (hnested i).perform starter, hact.perform hstarter (hnested ())⟩

/-! ### Shallow invocations -/

namespace Run

variable {limit left : Nat} {deeper : Tool → Value → Run Value}

/-- Where the calls that lead one deeper keep to the limit, so does whatever a tool does. -/
theorem serves_shallow (hdeeper : (Law.shallow limit left).Calls deeper) (room : Nat) (input : Value) :
    (Law.shallow limit left).Serves () (fun _ => ⟨deeper, invokeAt deeper room⟩) input :=
  hdeeper.serves (fun starter => starter.isCall = false) rfl rfl
    ((Law.shallow_performs limit left).invokeAt rfl rfl hdeeper room) () input

theorem call_shallow (room limit left : Nat) :
    (Law.shallow limit left).Calls (call room limit left) := by
  induction left with
  | zero =>
    intro k tools _ input
    exact ⟨fun i => .call_zero room limit (tools i) input, .call_zero room (tools ()) input⟩
  | succ left ih =>
    intro k tools htools input
    -- without room the call fails before it begins; else the tool acts with one call fewer left
    cases room with
    | zero => exact (Law.shallow limit (left + 1)).fail k _
    | succ room =>
      obtain ⟨hnested, hact⟩ := Law.act (serves_shallow ih room input) htools fun _ =>
        Law.shallow_captures limit left
      exact ⟨fun i => (hnested i).perform .call, hact.perform_call (hnested ())⟩

/-- Every step of an evaluation keeps to the limit. -/
theorem evaluate_counted (room limit : Nat) (program : Value) (world : World) :
    Step.Each (Step.Counted limit) []
      ((evaluate (reach room limit limit) program).steps world) := by
  have hserves := serves_shallow (call_shallow room limit limit) room .null
  obtain ⟨-, hshallow⟩ := Law.evaluate hserves.toReaches program
  exact hshallow world [] (Nat.zero_add limit)

/-- Never more calls than the limit are in progress. -/
theorem evaluate_calls_le (room limit : Nat) (program : Value) (world : World) (n : Nat) :
    Step.calls ((evaluate (reach room limit limit) program).inProgress world n) ≤ limit := by
  have hcalls := (evaluate_counted room limit program world).imp fun _ _ hcounted => hcounted.1
  exact (Step.each_below_iff (Nat.zero_le limit)).mp hcalls n

/-- Never more invocations than the limit are in progress, definitions included, exactly if definitions
begin only while there are fewer, and so does whatever a program invokes in one. -/
theorem evaluate_programs_le_iff (room limit : Nat) (program : Value) (world : World) :
    (∀ n, Step.programs ((evaluate (reach room limit limit) program).inProgress world n) ≤ limit) ↔
    Step.Each (fun opened step => step.begins Starter.isProgram = true →
        step.begins Starter.isDefinition = true ∨ 0 < Step.definitions opened →
        Step.programs opened < limit) []
      ((evaluate (reach room limit limit) program).steps world) := by
  refine (Step.each_below_iff (Nat.zero_le limit)).symm.trans ?_
  constructor
  · intro h
    exact h.imp fun _ _ hbelow hbegins _ => hbelow hbegins
  · intro h
    refine ((evaluate_counted room limit program world).and h).imp ?_
    rintro opened step ⟨hcounted, hdefinition⟩ hbegins
    by_cases hinside : step.begins Starter.isDefinition = true ∨ 0 < Step.definitions opened
    · exact hdefinition hbegins hinside
    · -- a call that no definition is around: all that is in progress are calls
      obtain ⟨hnone, hnot⟩ := not_or.mp hinside
      have hcalls : Step.calls opened < limit := hcounted.1 (Step.begins_call hbegins hnone)
      show Step.programs opened < limit
      rw [Step.programs_eq]
      omega

end Run

end ToolWeave
