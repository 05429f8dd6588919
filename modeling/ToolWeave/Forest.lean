/-!
# Forests

Entries that came one after the other, each inside an earlier one or inside none.  Scopes and frames
are kept this way: what an entry is inside of is settled when it comes and never changes.

## Main definitions

* `Forest`: the entries with the number of the entry each is inside of.
* `Forest.chain`: an entry and those it is inside of, innermost first.
* `Forest.add`, `Forest.modify`: a new entry, and a change of an entry.
-/

namespace ToolWeave

/-- Entries in the order they came, each with the number of the entry it is inside of, if any. -/
abbrev Forest (α : Type) : Type := List (α × Option Nat)

namespace Forest

variable {α : Type}

/-- The entry of a number and those it is inside of.  An entry is inside an earlier one, so the
numbers go down. -/
def chain (forest : Forest α) (number : Nat) : List α :=
  match forest[number]? with
  | none => []
  | some (entry, none) => [entry]
  | some (entry, some outer) =>
    if outer < number then entry :: chain forest outer else [entry]
  termination_by number

/-- The number of the entry that an entry is inside of. -/
def outer? (forest : Forest α) (number : Nat) : Option Nat := forest[number]?.bind Prod.snd

/-- A forest with one more entry, and the number of that entry. -/
def add (forest : Forest α) (entry : α) (outer : Option Nat) : Forest α × Nat :=
  (forest ++ [(entry, outer)], forest.length)

/-- A forest with one entry changed. -/
def modify (forest : Forest α) (number : Nat) (change : α → α) : Forest α :=
  List.modify forest number fun cell => (change cell.1, cell.2)

end Forest

end ToolWeave
