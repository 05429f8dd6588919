import ToolWeave.Tool.Basic

/-!
# Frames around one another

Looking a name up walks from a frame outwards, and the first frame that binds it wins.

## Main definitions

* `Frame.find?`: the binding of a name in frames around one another.
* `Frame.visible`: the names that are bound in any of them, in increasing order.
-/

namespace ToolWeave

namespace Frame

/-- The binding of a name in the innermost of some frames that has one. -/
def find? (name : String) : List Frame → Option Binding
  | [] => none
  | frame :: outer => (Entries.get? name frame).or (find? name outer)

/-- The names that some frames bind, in increasing order. -/
def visible (frames : List Frame) : List String :=
  Entries.sortedNames (frames.flatMap Entries.names)

@[simp] theorem find?_nil (name : String) : find? name [] = none := rfl

/-- An inner frame decides before the outer ones. -/
theorem find?_cons (name : String) (frame : Frame) (outer : List Frame) :
    find? name (frame :: outer) = (Entries.get? name frame).or (find? name outer) := rfl

end Frame

end ToolWeave
