import ToolWeave.Failure
import ToolWeave.Forest

/-!
# Cancellation and deadlines

A scope can be cancelled by the caller and may have a deadline.  Scopes nest: an inner scope stops
when an outer one does.  Whatever may block asks the innermost scope whether it should go on.

## Main definitions

* `Instant`: a point in time, and a length of time.
* `Scope`: one scope; a chain of scopes is a list, innermost first.
* `Scope.reason?`: why a chain has stopped.
* `Scope.remaining?`: the time to the nearest deadline of a chain.
* `Scope.wait?`: how long a blocking loop may wait before it asks again.
* `Scope.Registry`: scopes entered and left one after the other.
-/

namespace ToolWeave

/-- A point in time, or a length of time, in units of `2 ^ (-1074)` seconds: every double is a whole
number of them. -/
abbrev Instant : Type := Int

/-- The length of time of so many seconds, if it is finite. -/
def Instant.ofSeconds? : Double → Option Instant
  | .finite negative code => some (Double.signedUnits negative code)
  | _ => none

/-- A length of time as seconds. -/
def Instant.toSeconds (t : Instant) : Double := Double.ofUnits (decide (t < 0)) t.natAbs 1

/-- A thousandth of a second. -/
def Instant.millisecond : Instant := Double.unit / 1000

/-- A scope: whether it has been cancelled, and its deadline. -/
structure Scope where
  cancelled : Bool
  deadline : Option Instant

namespace Scope

/-- Why a chain of scopes has stopped. -/
inductive Reason where
  | cancelled
  | deadline
  deriving DecidableEq

/-- The wording of a reason. -/
def Reason.message : Reason → String
  | cancelled => "cancelled"
  | deadline => "deadline exceeded"

/-- The deadline at so many seconds from an instant on.  There is none if the number is infinite or
no number at all, save that it has passed already if the number is below all others. -/
def deadlineAfter (now : Instant) : Double → Option Instant
  | .infinite true => some now
  | seconds => (Instant.ofSeconds? seconds).map fun length => now + length

/-- A scope entered at an instant with a number of seconds to go, if any. -/
def enter (now : Instant) (seconds : Option Double) : Scope where
  cancelled := false
  deadline := seconds.bind (deadlineAfter now)

/-- Why one scope has stopped by itself; a cancellation counts before a deadline. -/
def ownReason? (now : Instant) (scope : Scope) : Option Reason :=
  if scope.cancelled then some .cancelled
  else
    match scope.deadline with
    | some deadline => if deadline ≤ now then some .deadline else none
    | none => none

/-- Why a chain of scopes has stopped: the reason of the innermost scope that has one. -/
def reason? (now : Instant) (scopes : List Scope) : Option Reason :=
  scopes.findSome? (ownReason? now)

/-- The smaller of two limits, either of which may be absent. -/
def least (a b : Option Instant) : Option Instant :=
  match a, b with
  | some a, some b => some (min a b)
  | some a, none => some a
  | none, b => b

/-- The time to the nearest deadline of a chain of scopes, none of it when a deadline is past. -/
def remaining? (now : Instant) (scopes : List Scope) : Option Instant :=
  scopes.foldr
    (fun scope rest => least (scope.deadline.map fun deadline => max 0 (deadline - now)) rest) none

/-- How long a blocking loop may wait before it asks again: bounded by a limit of its own, by the
time to the nearest deadline and, inside a scope, by a slice. -/
def wait? (now : Instant) (scopes : List Scope) (limit : Option Instant) (slice : Instant) :
    Option Instant :=
  least limit (least (remaining? now scopes) (if scopes.isEmpty then none else some slice))

/-- Passes if no scope of a chain has stopped. -/
def check (now : Instant) (scopes : List Scope) : Except ToolError Unit :=
  match reason? now scopes with
  | none => .ok ()
  | some reason => .error (.cancelled reason.message)

/-- Cancels the innermost scope of a chain. -/
def cancelInnermost : List Scope → List Scope
  | [] => []
  | scope :: rest => { scope with cancelled := true } :: rest

/-- How a scope is asked for: with a time limit or without, or cancelled from the start. -/
inductive Request where
  | unlimited
  | limited (seconds : Double)
  | cancelled

/-- The scope that is asked for, entered at an instant. -/
def Request.scope (now : Instant) : Request → Scope
  | unlimited => enter now none
  | limited seconds => enter now (some seconds)
  | cancelled => { enter now none with cancelled := true }

/-- Scopes entered and left one after the other.  Each remembers the scope around it, also after it
was left. -/
structure Registry where
  /-- Every scope ever entered. -/
  scopes : Forest Scope
  /-- The innermost scope that has not been left. -/
  active : Option Nat

namespace Registry

/-- No scope was ever entered. -/
def empty : Registry := ⟨[], none⟩

/-- The chain of the innermost scope that has not been left. -/
def current (registry : Registry) : List Scope :=
  match registry.active with
  | none => []
  | some number => registry.scopes.chain number

/-- Enters a scope inside the innermost one. -/
def enter (registry : Registry) (scope : Scope) : Registry :=
  let (scopes, number) := registry.scopes.add scope registry.active
  ⟨scopes, some number⟩

/-- Leaves the innermost scope. -/
def leave (registry : Registry) : Registry :=
  { registry with active := registry.active.bind registry.scopes.outer? }

/-- Cancels a scope. -/
def cancel (registry : Registry) (number : Nat) : Registry :=
  { registry with
    scopes := registry.scopes.modify number fun scope => { scope with cancelled := true } }

end Registry

end Scope

end ToolWeave
