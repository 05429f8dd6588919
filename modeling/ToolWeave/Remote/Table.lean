import ToolWeave.Json.Read
import ToolWeave.Text.Blank

/-!
# Requests in flight

A client numbers its requests and keeps a table of those that have not ended yet.  Every line the
server writes is looked at once: if it answers a request in the table it is kept there, otherwise
nothing happens.

## Main definitions

* `Remote.Table`: the next number, whether the connection is closed, and the requests in flight.
* `Remote.Table.issue`, `receive`, `forget`, `close`: what can happen to it.
* `Remote.Event`, `Remote.Table.apply`: the same as data, so that any order of events can be played.

## Design notes

**Numbers of messages.**  A message answers the request whose number its `id` counts.  A boolean
counts as zero or one here; fractions, strings and null count nothing.
-/

namespace ToolWeave

namespace Remote

/-- The requests of one connection. -/
structure Table where
  /-- The number of the next request. -/
  next : Nat
  /-- Whether nothing more will arrive. -/
  closed : Bool
  /-- The requests in flight, each with the message that answered it, if one has arrived. -/
  pending : List (Nat × Option Fields)

/-- The number that a value counts as. -/
def countOf? : Value → Option Int
  | .number (.int i) => some i
  | .bool b => some b.toNat
  | _ => none

/-- The message of a line: an object whose `id` counts a number, and that number.  All other lines
are passed over. -/
def message? (line : List Char) : Option (Int × Fields) :=
  match Json.readChars .lenient (Text.stripChars line) with
  | .ok (.object fields) =>
    match (Entries.get? "id" fields).bind countOf? with
    | some number => some (number, fields)
    | none => none
  | _ => none

namespace Table

/-- No request has been issued yet. -/
def fresh : Table := ⟨1, false, []⟩

/-- Uses up the next number. -/
def reserve (t : Table) : Nat × Table := (t.next, { t with next := t.next + 1 })

/-- Puts a request in flight. -/
def register (t : Table) (number : Nat) : Table :=
  { t with pending := t.pending ++ [(number, none)] }

/-- Keeps a line with the request it answers, if it answers one in flight. -/
def receive (t : Table) (line : List Char) : Table :=
  match message? line with
  | none => t
  | some (number, fields) =>
    { t with
      pending := t.pending.map fun entry =>
        if (entry.1 : Int) = number then (entry.1, some fields) else entry }

/-- The message that answered a request in flight, if one has arrived. -/
def answer? (t : Table) (number : Nat) : Option Fields :=
  (t.pending.find? fun entry => entry.1 == number).bind Prod.snd

/-- Takes a request out of flight. -/
def forget (t : Table) (number : Nat) : Table :=
  { t with pending := t.pending.filter fun entry => entry.1 != number }

/-- Nothing more will arrive. -/
def close (t : Table) : Table := { t with closed := true }

end Table

/-- What can happen to a table. -/
inductive Event where
  /-- A request is numbered and, unless the connection is closed, put in flight. -/
  | issue
  /-- The server writes a line. -/
  | receive (line : List Char)
  /-- A request ends, with its answer or without one. -/
  | forget (number : Nat)
  /-- The server is gone, or the client lets it go. -/
  | close

/-- A table after an event. -/
def Table.apply (t : Table) : Event → Table
  | .issue =>
    let (number, t) := t.reserve
    if t.closed then t else t.register number
  | .receive line => t.receive line
  | .forget number => t.forget number
  | .close => t.close

end Remote

end ToolWeave
