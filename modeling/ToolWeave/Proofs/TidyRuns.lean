import ToolWeave.Proofs.DomainTools

/-!
# Runs keep values tidy

An object has each of its names once.  Values as such may fail this, and what is read, made or passed around
never does: where all tools are of the language itself, and their values and programs are tidy, everything
that a run makes is tidy (`Run.named_tidily`).  Objects come from three places only.  A program builds them
with the names of its own fields, tools give them with names that are fixed, and all others are parts of what
was there before.  So tidy values are a domain, and all frames count as reached.

## Main definitions

* `Value.Tidy`, `ToolError.Tidy`: no object inside has a name twice.
* `Store.Tidy`: only tidy tools of the language itself are bound.
* `Run.Tidily`: from tidy states a run leads to tidy states, and it ends tidily.
-/

namespace ToolWeave

/-! ### Tidy values -/

/-- No object inside a value has a name twice. -/
def Value.Tidy (v : Value) : Prop := v.distinctNames = true

namespace Value

theorem tidy_array {items : List Value} : (array items).Tidy ↔ ∀ item ∈ items, item.Tidy :=
  distinctNames_array

theorem tidy_object {fields : Fields} :
    (object fields).Tidy ↔ (Entries.names fields).Nodup ∧ ∀ entry ∈ fields, entry.2.Tidy :=
  distinctNames_object

theorem tidy_closed : Closed Tidy where
  null := rfl
  bool _ := rfl
  string _ := rfl
  number _ _ := rfl
  array_iff := tidy_array
  contents h := (tidy_object.mp h).2
  object hnames h := tidy_object.mpr ⟨hnames, h⟩
  renew h hnames hvalues := tidy_object.mpr ⟨hnames ▸ (tidy_object.mp h).1, hvalues⟩

end Value

/-- The payload of a failure is tidy. -/
def ToolError.Tidy (e : ToolError) : Prop := e.payload.Tidy

/-- An outcome is a value with a property or a tidy failure. -/
def Ends {α : Type} (P : α → Prop) : Except ToolError α → Prop
  | .ok a => P a
  | .error e => e.Tidy

/-! ### Tidy states -/

/-- A tool of the language itself.  The value of a constant and the program of a defined tool are tidy. -/
def Tool.Tidy : Tool → Prop
  | .builtin _ => True
  | .constant value => value.Tidy
  | .defined _ _ body _ => body.Tidy
  | _ => False

/-- All tools that are bound are tidy. -/
def Store.Tidy (store : Store) : Prop := ∀ tool, store.Holds tool → tool.Tidy

theorem World.plain_tidy : World.plain.store.Tidy := by
  intro tool htool
  obtain ⟨entry, hentry, rfl⟩ := Store.holds_of_add_empty [] htool
  obtain ⟨b, -, rfl⟩ := List.mem_map.mp hentry
  exact trivial

/-- The tidy values, and all frames there are. -/
def World.tidyDomain (world : World) : Domain where
  values := Value.Tidy
  closed := Value.tidy_closed
  frames _ := True
  first := 0
  frames_of_le _ _ := trivial
  before := world.trace

namespace Domain

variable {world : World}

theorem hasTool_tidy {tool : Tool} : world.tidyDomain.HasTool tool ↔ tool.Tidy := by
  cases tool with
  | defined parameters description body closure => exact and_iff_left fun _ _ => trivial
  | _ => exact Iff.rfl

theorem hasStore_tidy {store : Store} : world.tidyDomain.HasStore store ↔ store.Tidy := by
  constructor
  · rintro h tool ⟨number, entry, hentry, rfl⟩
    exact hasTool_tidy.mp (h.tools number trivial entry hentry)
  · exact fun h => ⟨Nat.zero_le _, fun number _ entry hentry => hasTool_tidy.mpr (h _ ⟨number, entry, hentry, rfl⟩)⟩

end Domain

/-! ### Runs -/

/-- From tidy states a run leads to tidy states, and it gives a value with a property or fails tidily. -/
def Run.Tidily {α : Type} (P : α → Prop) (run : Run α) : Prop :=
  ∀ world, world.store.Tidy → Ends P (run world).1 ∧ (run world).2.store.Tidy

/-- What is invoked from outside keeps names distinct. -/
theorem Run.named_tidily (limit : Nat) (name : String) {input : Value} (h : input.Tidy) :
    Tidily Value.Tidy (named limit name input) := by
  intro world hworld
  have hstart : world.tidyDomain.HasWorld world :=
    ⟨Domain.hasStore_tidy.mpr hworld, fun _ _ => trivial, [], rfl, fun _ hstep => by cases hstep⟩
  have hinput : world.tidyDomain.values input := h
  obtain ⟨outcome, after, hsame, hends, hafter⟩ := Domain.named_stays limit name hinput world hstart
  have hrun : named limit name input world = (outcome, after) := hsame ()
  rw [hrun]
  refine ⟨?_, Domain.hasStore_tidy.mp hafter.store⟩
  cases outcome with
  | ok value => exact hends
  | error e => exact hends

end ToolWeave
