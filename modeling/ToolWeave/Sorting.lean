/-!
# Stable sorting with an effectful comparison

Sorting asks a comparison that may print, fail or give up, so which pairs it asks about, and in
which order, is part of what it does.

## Main definitions

* `Sorting.ascending`, `Sorting.descending`: the run at the front of a list.
* `Sorting.place`: where an element belongs among sorted ones, by binary search.
* `Sorting.sort`: the sorted list.

## Design notes

**Runs first.**  The elements at the front that are in order already, or strictly in the opposite
order, are taken as they are; each element after them is placed by binary search.  Only strictly
descending elements are turned round, which keeps equal elements in their order.
-/

namespace ToolWeave

namespace Sorting

variable {m : Type → Type} [Monad m] {α : Type}

/-- Takes further elements while each is not below the one before it.  `run` holds the elements
taken so far, the last one first. -/
def ascending (below : α → α → m Bool) (last : α) (run : List α) : List α → m (List α × List α)
  | [] => pure (run.reverse, [])
  | next :: rest => do
    if ← below next last then return (run.reverse, next :: rest)
    else ascending below next (next :: run) rest

/-- Takes further elements while each is below the one before it.  `run` holds the elements taken
so far, the last one first, which is increasing order. -/
def descending (below : α → α → m Bool) (last : α) (run : List α) : List α → m (List α × List α)
  | [] => pure (run, [])
  | next :: rest => do
    if ← below next last then descending below next (next :: run) rest
    else return (run, next :: rest)

/-- The number of sorted elements, among those from `left` up to below `right`, that stay in front
of an element: those it is not below. -/
def place (below : α → α → m Bool) (element : α) (sorted : List α) :
    (turns left right : Nat) → m Nat
  | 0, left, _ => pure left
  | turns + 1, left, right =>
    if left < right then
      let middle := left + (right - left) / 2
      match sorted[middle]? with
      | none => pure left
      | some other => do
        if ← below element other then place below element sorted turns left middle
        else place below element sorted turns (middle + 1) right
    else pure left

/-- Inserts an element into sorted ones, after those it is not below. -/
def insert (below : α → α → m Bool) (sorted : List α) (element : α) : m (List α) := do
  let position ← place below element sorted sorted.length 0 sorted.length
  return sorted.take position ++ element :: sorted.drop position

/-- The elements in increasing order, equal ones in the order they came in. -/
def sort (below : α → α → m Bool) : List α → m (List α)
  | [] => pure []
  | [only] => pure [only]
  | first :: second :: rest => do
    let (run, rest) ←
      if ← below second first then descending below second [second, first] rest
      else ascending below second [second, first] rest
    rest.foldlM (insert below) run

end Sorting

end ToolWeave
