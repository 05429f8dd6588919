import ToolWeave.Proofs.Refusals
import ToolWeave.Proofs.Runaway

/-!
# What the limit on the depth of calls limits

Under a limit no more calls and references than that are ever in progress at once.  One more is
refused, and unless a `try` is around it, the evaluation as a whole fails with the refusal.

The limit is not one on definitions.  A definition invokes the tool bound to `define` whatever the
depth, and it leaves as much of the depth as there was.  If that tool is a defined one, its body runs
as an invocation that nobody counted.  Hence there may be more invocations in progress than the limit
(`definition_uncounted`), and an evaluation may even nest definitions without end
(`redefinition_endless`).  `depth_limited` states exactly when either happens.
-/

namespace ToolWeave

namespace Run

/-- The evaluation of a program under a limit on the depth of calls, with so much room at each depth.
`Run.program` is this with room for `Run.reentries`. -/
def under (limit : Nat) (program : Value) (room : Nat) : Run Value :=
  evaluate (reach room limit limit) program

end Run

/-- **The depth of calls is limited.**  Whatever program is evaluated in whatever state, and however
much room there is:

* never more calls and references than the limit are in progress;
* one begins only while there are fewer, and is refused only when there are as many;
* a refusal that no `try` is around is how the evaluation ends, and this is its kind and payload;
* with definitions counted there are never more than the limit exactly if none of the definitions, and
  nothing that is invoked in one, begins when there are as many as the limit;
* the evaluation ends exactly if the definitions in progress are bounded. -/
theorem depth_limited (limit : Nat) (program : Value) (world : World) :
    (∀ room n, Step.calls ((Run.under limit program room).inProgress world n) ≤ limit) ∧
    (∀ room n step, ((Run.under limit program room).steps world)[n]? = some step →
      (step.begins Starter.isCall = true →
        Step.calls ((Run.under limit program room).inProgress world n) < limit) ∧
      (step.refuses = true →
        Step.calls ((Run.under limit program room).inProgress world n) = limit)) ∧
    (∀ room n step, ((Run.under limit program room).steps world)[n]? = some step →
      step.refuses = true →
      ((Run.under limit program room).inProgress world n).any Step.isAttempt = false →
      (Run.under limit program room world).1 = .error (Run.tooDeep limit)) ∧
    ((Run.tooDeep limit).kind = .toolFailure ∧
      (Run.tooDeep limit).payload =
        .object [("error", .string "maximum call depth exceeded"), ("limit", .int limit)]) ∧
    (∀ room, (∀ n, Step.programs ((Run.under limit program room).inProgress world n) ≤ limit) ↔
      ∀ n step, ((Run.under limit program room).steps world)[n]? = some step →
        step.begins Starter.isProgram = true →
        step.begins Starter.isDefinition = true ∨
          0 < Step.definitions ((Run.under limit program room).inProgress world n) →
        Step.programs ((Run.under limit program room).inProgress world n) < limit) ∧
    (Run.Settles (Run.under limit program) world ↔
      ∃ bound enough, ∀ room, enough ≤ room → ∀ n,
        Step.definitions ((Run.under limit program room).inProgress world n) ≤ bound) := by
  refine ⟨?_, ?_, ?_, ⟨rfl, rfl⟩, ?_, ?_⟩
  · intro room n
    exact Run.evaluate_calls_le room limit program world n
  · intro room n step hstep
    exact Step.each_iff.mp (Run.evaluate_counted room limit program world) n step hstep
  · intro room n step hstep hrefuses hattempt
    exact Run.evaluate_fails_of_refused room limit limit program world hstep hrefuses hattempt
  · intro room
    exact (Run.evaluate_programs_le_iff room limit program world).trans Step.each_iff
  · exact Run.evaluate_settles_iff limit program world

/-- A tool that calls itself. -/
def recursive : Value :=
  .array [.object [("define", .string "f"), ("body", .object [("$", .string "f")])],
    .object [("$", .string "f")]]

set_option maxRecDepth 4000 in
/-- Under the limit 1 its second call is refused, and that is the end. -/
theorem depth_limited_recursive :
    (Run.under 1 recursive 2 World.plain).1 = .error (Run.tooDeep 1) :=
  (depth_limited 1 recursive World.plain).2.2.1 2 3 _ rfl rfl rfl

/-- Binds `define` to a tool that calls another one, and then defines. -/
def rebound : Value :=
  .array [
    .object [("define", .string "define"),
      ("body", .object [("call", .string "add"), ("input", .array [.int 1, .int 2])])],
    .object [("define", .string "x"), ("body", .null)]]

set_option maxRecDepth 4000 in
/-- Under the limit 1 the definition and the call in it are in progress at once, and both succeed. -/
theorem definition_uncounted :
    Step.programs ((Run.under 1 rebound 2).inProgress World.plain 4) = 2 ∧
      (Run.under 1 rebound 2 World.plain).1 = .ok (.int 3) := ⟨rfl, rfl⟩

/-- Binds `define` to a tool that defines. -/
def selfDefining : Value :=
  .object [("define", .string "define"),
    ("body", .object [("define", .string "x"), ("body", .null)])]

set_option maxRecDepth 4000 in
/-- With `define` bound to a tool that defines, an evaluation that defines has no end, whatever the
limit. -/
theorem redefinition_endless (limit : Nat) :
    ¬ Run.Settles (Run.under limit (.object [("define", .string "y"), ("body", .null)]))
      (Run.under 1 selfDefining 1 World.plain).2 := by
  refine Run.evaluate_not_settles limit rfl ⟨_, _, _, rfl⟩ rfl ⟨⟨_, _, _, rfl⟩, rfl, ?_, rfl⟩
  decide

end ToolWeave
