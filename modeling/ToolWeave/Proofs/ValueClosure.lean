import ToolWeave.Proofs.DomainTools
import ToolWeave.Proofs.RoundTrip
import ToolWeave.Proofs.Traces

/-!
# Only JSON values circulate

A number that is not finite can be written in a program or bound by the host, but it cannot be made.  So
where a program is a JSON value, and so is everything that it can reach, nothing else ever circulates
(`values_circulate`): no tool is handed or gives anything else, nothing else is bound, and no failure carries
anything else.

## Main definitions

* `Store.Reachable`: the frames that an environment leads to, also through the tools bound there.
* `World.domain`: the JSON values, and the frames that can be reached from a state.
-/

namespace ToolWeave

/-! ### JSON values -/

theorem Value.isFinite_closed : Value.Closed (·.isFinite = true) where
  null := rfl
  bool _ := rfl
  string _ := rfl
  number _ h := h
  array_iff := Json.allFinite_iff
  contents := Json.fieldsFinite_iff.mp
  object _ h := Json.fieldsFinite_iff.mpr h
  renew _ _ h := Json.fieldsFinite_iff.mpr h

/-- A tool of the language itself.  The value of a constant and the program of a defined tool are JSON
values. -/
def Tool.IsFinite : Tool → Prop
  | .builtin _ => True
  | .constant value => value.isFinite = true
  | .defined _ _ body _ => body.isFinite = true
  | _ => False

/-- The frames that an environment leads to: its own, and those in which the tools that are bound in such
frames look names up. -/
inductive Store.Reachable (store : Store) (env : Environment) : Nat → Prop
  | own {number : Nat} (h : number ∈ env.path) : Reachable store env number
  | closure {outer number : Nat} {entry : String × Binding} {parameters : List String} {description : String}
      {body : Value} {closure : Environment} (houter : Reachable store env outer)
      (hentry : entry ∈ store.frameAt outer)
      (htool : entry.2.2 = .defined parameters description body closure) (h : number ∈ closure.path) :
      Reachable store env number

/-- All tools that can be reached in a state are of the language, with JSON values. -/
def World.ReachesFinite (world : World) : Prop :=
  ∀ number, world.store.Reachable world.environment number → ∀ entry ∈ world.store.frameAt number,
    entry.2.2.IsFinite

/-- The JSON values, and the frames that can be reached from a state or that are made later. -/
def World.domain (world : World) : Domain where
  values v := v.isFinite = true
  closed := Value.isFinite_closed
  frames number := world.store.Reachable world.environment number ∨ world.store.size ≤ number
  first := world.store.size
  frames_of_le _ h := .inr h
  before := world.trace

theorem Domain.HasTool.isFinite {world : World} {tool : Tool} (h : world.domain.HasTool tool) :
    tool.IsFinite := by
  cases tool with
  | defined parameters description body closure => exact h.1
  | _ => exact h

/-- A state belongs to its own domain. -/
theorem World.ReachesFinite.hasWorld {world : World} (h : world.ReachesFinite) : world.domain.HasWorld world where
  store := by
    refine ⟨Nat.le_refl _, fun number hnumber entry hentry => ?_⟩
    -- frames that are still to be made bind nothing
    have hreached := hnumber.resolve_right (Nat.not_le_of_lt (Store.lt_size_of_mem hentry))
    have hfinite := h number hreached entry hentry
    cases htool : entry.2.2 with
    | defined parameters description body closure =>
      rw [htool] at hfinite
      exact ⟨hfinite, fun inner hinner => .inl (.closure hreached hentry htool hinner)⟩
    | _ =>
      rw [htool] at hfinite
      exact hfinite
  environment number hnumber := .inl (.own hnumber)
  steps := ⟨[], rfl, fun _ hstep => by cases hstep⟩

/-- **Only JSON values circulate.**  A program is evaluated that is a JSON value, in a state in which all tools
that can be reached are built-in tools, constants and defined tools with JSON values.

* Watched, the evaluation is the same, whatever the alarm would do.  So every tool is invoked with a JSON
  value, it ends with one or fails with a payload that is one, and before and after it whatever is bound in
  frames that were reachable or are new is a JSON value, or has one as its program.
* The value of the program, or the payload of its failure, is a JSON value, and so are the inputs in the trace
  and whatever is bound in the end. -/
theorem values_circulate {program : Value} (hprogram : program.isFinite = true) {world : World}
    (hworld : world.ReachesFinite) (room limit left : Nat) (alarm : Run Value) :
    let action := Run.evaluate (Run.reach room limit left) program
    Run.evaluate (world.domain.watchedReach alarm room limit left) program world = action world ∧
      (∀ value, (action world).1 = .ok value → value.isFinite = true) ∧
      (∀ e, (action world).1 = .error e → e.payload.isFinite = true) ∧
      (∀ starter tool input, .began starter tool input ∈ action.steps world →
        tool.IsFinite ∧ input.isFinite = true) ∧
      ∀ number, world.store.Reachable world.environment number ∨ world.store.size ≤ number →
        ∀ entry ∈ (action world).2.store.frameAt number, entry.2.2.IsFinite := by
  have hvalues : world.domain.values program := hprogram
  have hstays := Domain.evaluate_stays (Domain.watchedReach_serves alarm room limit left) hvalues
  obtain ⟨outcome, after, hsame, hends, hafter⟩ := hstays world hworld.hasWorld
  dsimp only
  have hplain : Run.evaluate (Run.reach room limit left) program world = (outcome, after) := hsame false
  have hwatched : Run.evaluate (world.domain.watchedReach alarm room limit left) program world = (outcome, after) :=
    hsame true
  obtain ⟨taken, htrace, htaken⟩ := hafter.steps
  have hsteps : (Run.evaluate (Run.reach room limit left) program).steps world = taken.reverse := by
    refine Run.steps_eq ?_
    rw [hplain, List.reverse_reverse]
    exact htrace
  rw [hplain, hwatched, hsteps]
  refine ⟨rfl, ?_, fun e _ => e.isFinite_payload, ?_, ?_⟩
  · rintro value rfl
    exact hends
  · intro starter tool input hmem
    have hstep := htaken _ (List.mem_reverse.mp hmem)
    exact ⟨hstep.1.isFinite, hstep.2⟩
  · exact fun number hnumber entry hentry => (hafter.store.tools number hnumber entry hentry).isFinite

theorem World.plain_reachesFinite : World.plain.ReachesFinite := by
  intro number _ entry hentry
  obtain ⟨tool, htool, heq⟩ := Store.holds_of_add_empty [] ⟨number, entry, hentry, rfl⟩
  obtain ⟨b, -, rfl⟩ := List.mem_map.mp htool
  rw [← heq]
  exact trivial

/-- Binds a number and tries to divide it by zero. -/
def triedQuotient : Value :=
  .object [("let", .string "x"), ("value", .int 3),
    ("in", .object [("call", .string "try"), ("input", .object [("tool", .string "divide"),
      ("input", .array [.object [("$", .string "x")], .int 0])])])]

theorem values_circulate_tried :
    triedQuotient.isFinite = true ∧ World.plain.ReachesFinite ∧ ∀ alarm : Run Value,
      Run.evaluate (World.plain.domain.watchedReach alarm 3 3 3) triedQuotient World.plain =
        Run.evaluate (Run.reach 3 3 3) triedQuotient World.plain :=
  ⟨rfl, World.plain_reachesFinite, fun alarm =>
    (values_circulate rfl World.plain_reachesFinite 3 3 3 alarm).1⟩

end ToolWeave
