import ToolWeave.Evaluation.World
import ToolWeave.Tool.Set

/-!
# Equations of runs

A run is a function of the state.  These equations say what each way of building runs does to one
state, so that no later argument has to open the monads that runs are made of.
-/

namespace ToolWeave

/-- A state with the built-in tools in a root frame and nothing else. -/
def World.plain : World := .fresh ToolSet.builtins (.reading "") ⟨[], [], [], "/"⟩

namespace Run

variable {α β : Type}

/-- The second part of a run starts where the first one ended, unless that failed. -/
theorem bind_apply (x : Run α) (f : α → Run β) (world : World) :
    (x >>= f) world =
      match x world with
      | (.ok a, after) => f a after
      | (.error e, after) => (.error e, after) := by
  show ExceptT.bindCont f (x world).1 (x world).2 = _
  rcases x world with ⟨_ | _, _⟩ <;> rfl

theorem bind_of_ok {x : Run α} {world after : World} {a : α} (h : x world = (.ok a, after))
    (f : α → Run β) : (x >>= f) world = f a after := by
  rw [bind_apply, h]

theorem bind_of_error {x : Run α} {world after : World} {e : ToolError}
    (h : x world = (.error e, after)) (f : α → Run β) :
    (x >>= f) world = (.error e, after) := by
  rw [bind_apply, h]

/-- A run of two parts ends with the failure of the first, or as the second does. -/
theorem bind_eq_iff {x : Run α} {f : α → Run β} {world after : World}
    {outcome : Except ToolError β} :
    (x >>= f) world = (outcome, after) ↔
      (∃ e, x world = (.error e, after) ∧ outcome = .error e) ∨
        ∃ a between, x world = (.ok a, between) ∧ f a between = (outcome, after) := by
  rw [bind_apply]
  rcases x world with ⟨e | a, between⟩
  · constructor
    · intro h
      cases h
      exact .inl ⟨e, rfl, rfl⟩
    · rintro (⟨e, h, rfl⟩ | ⟨a, between, h, -⟩)
      · cases h
        rfl
      · cases h
  · constructor
    · intro h
      exact .inr ⟨a, between, rfl, h⟩
    · rintro (⟨e, h, -⟩ | ⟨a, between, h, hrest⟩)
      · cases h
      · cases h
        exact hrest

/-- The ends of a run whose value is passed through a function. -/
theorem map_apply (x : Run α) (f : α → β) (world : World) :
    (x >>= fun a => pure (f a)) world = ((x world).1.map f, (x world).2) := by
  rw [bind_apply]
  rcases x world with ⟨_ | _, _⟩ <;> rfl

theorem inside_apply (outer : Environment) (constants : Fields) (action : Run α)
    (world : World) :
    inside outer constants action world =
      ((action (world.enter outer constants)).1,
        { (action (world.enter outer constants)).2 with environment := world.environment }) := rfl

theorem capture_apply (action : Run α) (world : World) :
    capture action world = (.ok (action world).1, (action world).2) := rfl

theorem ofExcept_apply (outcome : Except ToolError α) (world : World) :
    ofExcept outcome world = (outcome, world) := by
  cases outcome <;> rfl

theorem get_apply (world : World) : (get : Run World) world = (.ok world, world) := rfl

theorem environment_apply (world : World) : environment world = (.ok world.environment, world) :=
  rfl

theorem lookup_apply (name : String) (world : World) :
    lookup name world = (.ok (world.lookup name), world) := rfl

theorem lookup_bind_of_none {name : String} {world : World} (h : world.lookup name = none)
    (f : Option Tool → Run α) : (lookup name >>= f) world = f none world := by
  rw [bind_of_ok (lookup_apply _ _), h]

theorem lookup_bind_of_some {name : String} {world : World} {tool : Tool}
    (h : world.lookup name = some tool) (f : Option Tool → Run α) :
    (lookup name >>= f) world = f (some tool) world := by
  rw [bind_of_ok (lookup_apply _ _), h]

theorem record_apply (step : Step) (world : World) :
    record step world = (.ok (), { world with trace := step :: world.trace }) := rfl

theorem checkScopes_apply (world : World) :
    checkScopes world = (Scope.check world.now world.scopes, world) := by
  show ofExcept (Scope.check world.now world.scopes) world = _
  rw [ofExcept_apply]

end Run

end ToolWeave
