import Mathlib.Data.List.Induction
import Mathlib.Data.List.Nodup
import ToolWeave.Remote.Client

/-!
# Requests over one connection

Many callers may share a client.  Their requests are numbered, written, answered, given up and ended in any
order, while lines arrive and while the connection is closed.  Here what can happen is a system that takes
one act after the other, and acts that are not possible do nothing, so every list of acts is a run.

What an act can do to a client and its requests is said once (`Traffic.change`).  From it follows the
invariant that ties the table of the client to the requests in flight (`Traffic.Sound.run`).

## Main definitions

* `Remote.Request`, `Remote.Stage`: a request of a caller, and how far it has come.
* `Remote.Traffic`, `Remote.Act`, `Traffic.step`, `Traffic.run`: a client with all its requests, and what
  can happen to them.
* `Request.Failed`: an outcome for want of a reply.
* `Request.Moved`, `Traffic.Change`: what a move and an act change.
* `Traffic.Sound`: the table of the client has the requests in flight.

## Design notes

**Time.**  A request may be given up as timed out or cancelled whenever it waits.  What clocks and scopes
say only narrows this down, so what holds of all runs here holds whatever they say.

**Two moments.**  A caller that gives up does so before it takes its request out of the table, and lines may
arrive between the two moments.  A caller that was answered reads the answer as it takes its request out,
since no line is kept with the request afterwards.
-/

namespace ToolWeave

namespace Remote

/-! ### The system -/

/-- How long a request may take: a number of seconds that can be added to a time. -/
structure Limit where
  number : Number
  seconds : Double
  isSeconds : number.toDouble = .ok seconds

/-- How far a request has come. -/
inductive Stage where
  /-- It has a number, and has not been written. -/
  | numbered
  /-- It is in flight, and its caller waits. -/
  | waiting
  /-- It is in flight, but its caller has given up. -/
  | leaving (outcome : Except Fault Value)
  /-- It has ended. -/
  | ended (outcome : Except Fault Value)

/-- A request of a caller. -/
structure Request where
  number : Nat
  method : String
  params : Value
  limit : Limit
  stage : Stage

/-- A client with all requests that were ever made of it, in the order of their numbers. -/
structure Traffic where
  client : Client
  requests : List Request

/-- Why a caller gives up. -/
inductive Surrender where
  /-- Its scopes have stopped. -/
  | cancelled (reason : Scope.Reason)
  /-- Its request has taken too long. -/
  | timedOut
  /-- The system cannot wait for so long. -/
  | unwaitable

/-- What the caller of a request can do next. -/
inductive Move where
  /-- To write the request, or to find that the pipe is broken. -/
  | send (broken : Option String)
  /-- To wait no longer. -/
  | giveUp (cause : Surrender)
  /-- To take the request out of the table, with what has come of it. -/
  | leave

/-- What can happen. -/
inductive Act where
  /-- Somebody asks for a request, and it gets its number. -/
  | issue (method : String) (params : Value) (limit : Limit)
  /-- A caller, given by the position of its request, does something. -/
  | move (index : Nat) (move : Move)
  /-- The server writes a line. -/
  | receive (line : List Char)
  /-- The server is gone, or the client lets it go. -/
  | close

namespace Request

/-- A request is in flight: it has been written, and it is in the table. -/
def inFlight (r : Request) : Bool :=
  match r.stage with
  | .waiting | .leaving _ => true
  | .numbered | .ended _ => false

/-- The line that is written for a request, or why none can be written. -/
def line (r : Request) (broken : Option String) : Except String String :=
  match Client.requestLine r.number r.method r.params, broken with
  | .error cause, _ => .error cause.message
  | .ok _, some cause => .error cause
  | .ok line, none => .ok line

/-- How a request ends that its caller gives up, if it can be given up for this.  The system is asked to
wait only while there is something to wait for, and outside of scopes. -/
def surrender? (c : Client) (r : Request) : Surrender → Option (Except Fault Value)
  | .cancelled reason => some (.error (.failure (.cancelled reason.message)))
  | .timedOut => some (c.lost "Remote request timed out"
      [("method", .string r.method), ("timeout", .number r.limit.number)])
  | .unwaitable =>
    if (c.table.answer? r.number).isSome || c.closed then none
    else (Client.unwaitable? [] r.limit.seconds).map fun cause => .error (.crash cause)

/-- What a move does to the client, and how far the request comes by it, if the move is possible. -/
def move? (c : Client) (r : Request) (move : Move) : Option (Client × Stage) :=
  let after := { c with table := c.table.forget r.number }
  match r.stage, move with
  | .numbered, .send broken =>
    if c.closed then
      some (c, .ended (c.lost "Remote server is not running" [("method", .string r.method)]))
    else
      match r.line broken with
      | .error cause =>
        some (c, .ended (c.lost "Could not write to remote server" [("description", .string cause)]))
      | .ok line =>
        some ({ c with sent := c.sent ++ line.toList ++ ['\n'], table := c.table.register r.number },
          .waiting)
  | .waiting, .giveUp cause => (r.surrender? c cause).map fun outcome => (c, .leaving outcome)
  | .waiting, .leave =>
    match c.table.answer? r.number with
    | some message => some (after, .ended (Client.resultOf message))
    | none =>
      if c.closed then
        some (after, .ended (c.lost "Remote server exited" [("method", .string r.method)]))
      else none
  | .leaving outcome, .leave => some (after, .ended outcome)
  | _, _ => none

/-- On a closed connection a request is refused as it is written. -/
theorem move?_of_closed {c : Client} {r : Request} (hstage : r.stage = .numbered) (hclosed : c.closed = true)
    (broken : Option String) :
    r.move? c (.send broken) =
      some (c, .ended (c.lost "Remote server is not running" [("method", .string r.method)])) := by
  unfold move?
  rw [hstage]
  exact if_pos hclosed

/-- A request that waits takes the reply that is there. -/
theorem move?_of_answer {c : Client} {r : Request} (hstage : r.stage = .waiting) {message : Fields}
    (hmessage : c.table.answer? r.number = some message) :
    r.move? c .leave =
      some ({ c with table := c.table.forget r.number }, .ended (Client.resultOf message)) := by
  unfold move?
  rw [hstage]
  dsimp only
  rw [hmessage]

/-- On a closed connection a request that waits for nothing fails. -/
theorem move?_of_lost {c : Client} {r : Request} (hstage : r.stage = .waiting)
    (hnone : c.table.answer? r.number = none) (hclosed : c.closed = true) :
    r.move? c .leave = some ({ c with table := c.table.forget r.number },
      .ended (c.lost "Remote server exited" [("method", .string r.method)])) := by
  unfold move?
  rw [hstage]
  dsimp only
  rw [hnone]
  exact if_pos hclosed

/-- A caller that has given up takes its request out of the table. -/
theorem move?_of_leaving {c : Client} {r : Request} {outcome : Except Fault Value}
    (hstage : r.stage = .leaving outcome) :
    r.move? c .leave = some ({ c with table := c.table.forget r.number }, .ended outcome) := by
  unfold move?
  rw [hstage]

end Request

namespace Traffic

/-- The traffic after an act.  An act that is not possible does nothing. -/
def step (t : Traffic) : Act → Traffic
  | .issue method params limit =>
    let (number, table) := t.client.table.reserve
    ⟨{ t.client with table := table }, t.requests ++ [⟨number, method, params, limit, .numbered⟩]⟩
  | .receive line => { t with client := { t.client with table := t.client.table.receive line } }
  | .close => { t with client := t.client.close }
  | .move index move =>
    match t.requests[index]? with
    | none => t
    | some r =>
      match r.move? t.client move with
      | none => t
      | some (client, stage) => ⟨client, t.requests.set index { r with stage := stage }⟩

/-- The traffic after some acts. -/
def run (t : Traffic) (acts : List Act) : Traffic := acts.foldl step t

theorem run_append (t : Traffic) (acts more : List Act) : t.run (acts ++ more) = (t.run acts).run more :=
  List.foldl_append

theorem run_concat (t : Traffic) (acts : List Act) (act : Act) :
    t.run (acts ++ [act]) = (t.run acts).step act :=
  t.run_append acts [act]

/-- A move that is possible is what the step does. -/
theorem step_move {t : Traffic} {index : Nat} {r : Request} (hr : t.requests[index]? = some r) {move : Move}
    {client : Client} {stage : Stage} (hmove : r.move? t.client move = some (client, stage)) :
    t.step (.move index move) = ⟨client, t.requests.set index { r with stage := stage }⟩ := by
  unfold step
  dsimp only
  rw [hr]
  dsimp only
  rw [hmove]

end Traffic

/-! ### Tables -/

namespace Table

/-- The numbers of the requests in flight. -/
def numbers (t : Table) : List Nat := t.pending.map Prod.fst

@[simp]
theorem numbers_register (t : Table) (number : Nat) : (t.register number).numbers = t.numbers ++ [number] :=
  List.map_append

@[simp]
theorem numbers_receive (t : Table) (line : List Char) : (t.receive line).numbers = t.numbers := by
  unfold receive
  split
  · rfl
  · unfold numbers
    rw [List.map_map]
    refine List.map_congr_left fun entry _ => ?_
    show Prod.fst (if _ then _ else _) = _
    split <;> rfl

@[simp]
theorem numbers_forget (t : Table) (number : Nat) :
    (t.forget number).numbers = t.numbers.filter (· != number) := by
  unfold forget numbers
  rw [List.filter_map]
  rfl

@[simp]
theorem next_receive (t : Table) (line : List Char) : (t.receive line).next = t.next := by
  unfold receive
  split <;> rfl

@[simp]
theorem closed_receive (t : Table) (line : List Char) : (t.receive line).closed = t.closed := by
  unfold receive
  split <;> rfl

theorem answer?_of_not_mem {t : Table} {number : Nat} (h : number ∉ t.numbers) : t.answer? number = none := by
  unfold answer?
  rw [List.find?_eq_none.mpr]
  · rfl
  · intro entry hentry heq
    exact h (List.mem_map.mpr ⟨entry, hentry, beq_iff_eq.mp heq⟩)

@[simp]
theorem answer?_register (t : Table) (number other : Nat) :
    (t.register number).answer? other = t.answer? other := by
  unfold answer? register
  rw [List.find?_append]
  cases t.pending.find? fun entry => entry.1 == other with
  | some entry => rfl
  | none =>
    rw [Option.none_or, List.find?_singleton]
    split <;> rfl

theorem answer?_forget (t : Table) {number other : Nat} (h : other ≠ number) :
    (t.forget number).answer? other = t.answer? other := by
  unfold answer? forget
  rw [List.find?_filter]
  congr 2
  funext entry
  by_cases heq : entry.1 = other
  · simp [heq, h]
  · simp [heq]

/-- A line changes nothing but the answer of a request in flight whose number it counts. -/
theorem answer?_receive (t : Table) (line : List Char) (number : Nat) :
    (t.receive line).answer? number =
      match message? line with
      | some (id, message) => if number ∈ t.numbers ∧ (number : Int) = id then some message else t.answer? number
      | none => t.answer? number := by
  unfold receive
  cases message? line with
  | none => rfl
  | some found =>
    obtain ⟨id, message⟩ := found
    unfold answer? numbers
    dsimp only
    -- the search goes by numbers, and these the line does not change
    induction t.pending with
    | nil => simp
    | cons entry rest ih =>
      rw [List.map_cons, List.find?_cons, List.find?_cons]
      have hnumber : (if (entry.1 : Int) = id then (entry.1, some message) else entry).1 = entry.1 := by
        split <;> rfl
      rw [hnumber]
      by_cases heq : entry.1 = number
      · subst heq
        by_cases hid : (entry.1 : Int) = id
        · simp [hid]
        · simp [hid]
      · rw [beq_eq_false_iff_ne.mpr heq]
        simp only [ih, List.map_cons, List.mem_cons, Ne.symm heq, false_or]

end Table

/-! ### What an act changes -/

namespace Request

/-- An outcome for want of a reply: the connection failed, or the call was cancelled.  While the connection
is open it may also be that the system cannot wait for so long. -/
def Failed (r : Request) (closed : Bool) (outcome : Except Fault Value) : Prop :=
  (∃ e, outcome = .error (.failure e) ∧ (e.kind = .transportFailure ∨ e.kind = .cancelled)) ∨
    ∃ cause, closed = false ∧ Client.unwaitable? [] r.limit.seconds = some cause ∧
      outcome = .error (.crash cause)

theorem failed_lost (r : Request) (c : Client) (closed : Bool) (message : String) (details : Fields) :
    r.Failed closed (c.lost message details) :=
  .inl ⟨_, rfl, .inl (ToolError.kind_make _ _)⟩

theorem failed_of_surrender? {c : Client} {r : Request} {cause : Surrender} {outcome : Except Fault Value}
    (h : r.surrender? c cause = some outcome) : r.Failed c.closed outcome := by
  cases cause with
  | cancelled reason =>
    cases h
    exact .inl ⟨_, rfl, .inr (ToolError.kind_make _ _)⟩
  | timedOut =>
    cases h
    exact r.failed_lost c _ _ _
  | unwaitable =>
    simp only [surrender?] at h
    split at h
    · cases h
    next hwaits =>
      obtain ⟨cause, hcause, rfl⟩ := Option.map_eq_some_iff.mp h
      rw [Bool.or_eq_true, not_or, Bool.not_eq_true] at hwaits
      exact .inr ⟨cause, (Bool.not_eq_true _).mp hwaits.2, hcause, rfl⟩

/-- What a move does to the client, and how far the request comes by it. -/
inductive Moved (c : Client) (r : Request) : Client → Stage → Prop
  /-- The request ends without having been written. -/
  | refused (outcome : Except Fault Value) (hstage : r.stage = .numbered)
      (hfailed : r.Failed c.closed outcome)
      (hclosed : c.closed = true →
        outcome = c.lost "Remote server is not running" [("method", .string r.method)]) :
      Moved c r c (.ended outcome)
  /-- The request is written. -/
  | sent (line : String) (hstage : r.stage = .numbered) (hopen : c.closed = false) :
      Moved c r { c with sent := c.sent ++ line.toList ++ ['\n'], table := c.table.register r.number }
        .waiting
  /-- The caller gives up. -/
  | gaveUp (outcome : Except Fault Value) (hstage : r.stage = .waiting)
      (hfailed : r.Failed c.closed outcome) : Moved c r c (.leaving outcome)
  /-- The request is taken out of the table, with what has come of it. -/
  | left (outcome : Except Fault Value)
      (hstage : r.stage = .leaving outcome ∨ r.stage = .waiting ∧
        ((∃ message, c.table.answer? r.number = some message ∧ outcome = Client.resultOf message) ∨
          c.table.answer? r.number = none ∧ r.Failed c.closed outcome)) :
      Moved c r { c with table := c.table.forget r.number } (.ended outcome)

theorem moved_of_move? {c after : Client} {r : Request} {move : Move} {stage : Stage}
    (h : r.move? c move = some (after, stage)) : r.Moved c after stage := by
  unfold move? at h
  cases hstage : r.stage with
  | numbered =>
    cases move with
    | send broken =>
      simp only [hstage] at h
      split at h
      · cases h
        exact .refused _ hstage (r.failed_lost c _ _ _) fun _ => rfl
      next hopen =>
        split at h
        · cases h
          exact .refused _ hstage (r.failed_lost c _ _ _) fun hclosed => absurd hclosed hopen
        · cases h
          exact .sent _ hstage ((Bool.not_eq_true _).mp hopen)
    | _ => simp [hstage] at h
  | waiting =>
    cases move with
    | send broken => simp [hstage] at h
    | giveUp cause =>
      simp only [hstage] at h
      obtain ⟨outcome, hsurrender, heq⟩ := Option.map_eq_some_iff.mp h
      cases heq
      exact .gaveUp outcome hstage (failed_of_surrender? hsurrender)
    | leave =>
      simp only [hstage] at h
      split at h
      next message hmessage =>
        cases h
        exact .left _ (.inr ⟨hstage, .inl ⟨message, hmessage, rfl⟩⟩)
      next hnone =>
        split at h
        · cases h
          exact .left _ (.inr ⟨hstage, .inr ⟨hnone, r.failed_lost c _ _ _⟩⟩)
        · cases h
  | leaving outcome =>
    cases move with
    | leave =>
      simp only [hstage] at h
      cases h
      exact .left outcome (.inl hstage)
    | _ => simp [hstage] at h
  | ended outcome => cases move <;> simp [hstage] at h

/-- A request comes further, except that it may wait on. -/
theorem Moved.ne_ended {c after : Client} {r : Request} {stage : Stage} (h : r.Moved c after stage)
    (outcome : Except Fault Value) : r.stage ≠ .ended outcome := by
  intro hended
  have hstage : r.stage = .numbered ∨ r.stage = .waiting ∨ ∃ outcome, r.stage = .leaving outcome := by
    cases h with
    | refused _ hstage => exact .inl hstage
    | sent _ hstage => exact .inl hstage
    | gaveUp _ hstage => exact .inr (.inl hstage)
    | left outcome hstage => exact hstage.elim (fun h => .inr (.inr ⟨outcome, h⟩)) fun h => .inr (.inl h.1)
  rw [hended] at hstage
  rcases hstage with hstage | hstage | ⟨_, hstage⟩ <;> cases hstage

/-- A request that was not written is refused or written, and on a closed connection it is refused. -/
theorem Moved.of_numbered {c after : Client} {r : Request} {stage : Stage} (h : r.Moved c after stage)
    (hstage : r.stage = .numbered) :
    (∃ outcome, stage = .ended outcome ∧ (c.closed = true →
        outcome = c.lost "Remote server is not running" [("method", .string r.method)])) ∨
      stage = .waiting ∧ c.closed = false := by
  cases h with
  | refused outcome _ _ hclosed => exact .inl ⟨outcome, rfl, hclosed⟩
  | sent _ _ hopen => exact .inr ⟨rfl, hopen⟩
  | gaveUp outcome hwaiting =>
    rw [hstage] at hwaiting
    cases hwaiting
  | left outcome hflies =>
    rw [hstage] at hflies
    rcases hflies with hleaving | ⟨hwaiting, -⟩
    · cases hleaving
    · cases hwaiting

/-- After a move the table has the request if it is in flight now, and else the numbers it had. -/
theorem Moved.table {c after : Client} {r : Request} {stage : Stage} (h : r.Moved c after stage)
    (hnodup : c.table.numbers.Nodup) (hr : r.number ∈ c.table.numbers ↔ r.inFlight = true) :
    after.table.next = c.table.next ∧ after.table.numbers.Nodup ∧
      (r.number ∈ after.table.numbers ↔ inFlight { r with stage := stage } = true) ∧
      ∀ number ≠ r.number, (number ∈ after.table.numbers ↔ number ∈ c.table.numbers) := by
  cases h with
  | refused outcome hstage =>
    refine ⟨rfl, hnodup, hr.trans ?_, fun _ _ => Iff.rfl⟩
    rw [inFlight, hstage]
    rfl
  | gaveUp outcome hstage =>
    refine ⟨rfl, hnodup, hr.trans ?_, fun _ _ => Iff.rfl⟩
    rw [inFlight, hstage]
    rfl
  | sent line hstage =>
    -- a request that was not written is not in the table, so its number comes to be there once
    have hlanded : r.number ∉ c.table.numbers := by
      rw [hr, inFlight, hstage]
      exact Bool.false_ne_true
    simp only [Table.numbers_register, List.mem_append, List.mem_singleton]
    refine ⟨rfl, ?_, iff_of_true (.inr trivial) rfl, fun number hne => or_iff_left hne⟩
    refine List.nodup_append.mpr ⟨hnodup, List.nodup_singleton _, fun a ha b hb hab => ?_⟩
    rw [List.mem_singleton.mp hb] at hab
    exact hlanded (hab ▸ ha)
  | left outcome =>
    simp only [Table.numbers_forget, List.mem_filter, bne_iff_ne]
    exact ⟨rfl, hnodup.filter _, iff_of_false (fun h => h.2 rfl) Bool.false_ne_true,
      fun number hne => and_iff_left hne⟩

/-- A move changes no answers but the one of the request that moves. -/
theorem Moved.answer?_eq {c after : Client} {r : Request} {stage : Stage} (h : r.Moved c after stage)
    {number : Nat} (hne : number ≠ r.number) : after.table.answer? number = c.table.answer? number := by
  cases h with
  | refused | gaveUp => rfl
  | sent => exact Table.answer?_register ..
  | left => exact Table.answer?_forget _ hne

/-- A move leaves the connection open or closed, and writes nothing once it is closed. -/
theorem Moved.client {c after : Client} {r : Request} {stage : Stage} (h : r.Moved c after stage) :
    after.name = c.name ∧ after.closed = c.closed ∧ (c.closed = true → after.sent = c.sent) := by
  cases h with
  | refused | gaveUp | left => exact ⟨rfl, rfl, fun _ => rfl⟩
  | sent _ _ hopen => exact ⟨rfl, rfl, fun hclosed => absurd hclosed (hopen ▸ Bool.false_ne_true)⟩

/-- No request is numbered again once it was written. -/
theorem Moved.ne_numbered {c after : Client} {r : Request} {stage : Stage} (h : r.Moved c after stage) :
    stage ≠ .numbered := by
  cases h <;> nofun

/-- A request comes to wait by being written only. -/
theorem Moved.ne_waiting {c after : Client} {r : Request} {stage : Stage} (h : r.Moved c after stage)
    (hstage : r.stage ≠ .numbered) : stage ≠ .waiting := by
  cases h with
  | sent _ hnumbered => exact absurd hnumbered hstage
  | _ => nofun

end Request

namespace Traffic

/-- The traffic before and after an act. -/
inductive Change (t : Traffic) : Act → Traffic → Prop
  | idle (act : Act) : Change t act t
  | issue (method : String) (params : Value) (limit : Limit) :
      Change t (.issue method params limit)
        ⟨{ t.client with table := { t.client.table with next := t.client.table.next + 1 } },
          t.requests ++ [⟨t.client.table.next, method, params, limit, .numbered⟩]⟩
  | receive (line : List Char) :
      Change t (.receive line) { t with client := { t.client with table := t.client.table.receive line } }
  | close : Change t .close { t with client := t.client.close }
  | move (index : Nat) (move : Move) (r : Request) (after : Client) (stage : Stage)
      (hrequest : t.requests[index]? = some r) (hmoved : r.Moved t.client after stage) :
      Change t (.move index move) ⟨after, t.requests.set index { r with stage := stage }⟩

theorem change (t : Traffic) (act : Act) : t.Change act (t.step act) := by
  cases act with
  | issue method params limit => exact .issue method params limit
  | receive line => exact .receive line
  | close => exact .close
  | move index move =>
    unfold step
    dsimp only
    split
    · exact .idle _
    next r hrequest =>
      split
      · exact .idle _
      next after stage hmove => exact .move index move r after stage hrequest (Request.moved_of_move? hmove)

/-- Only the request that moves is another one afterwards. -/
theorem getElem?_set_cases {requests : List Request} {index i : Nat} {moved r : Request}
    (h : (requests.set index moved)[i]? = some r) :
    i = index ∧ r = moved ∨ i ≠ index ∧ requests[i]? = some r := by
  rw [List.getElem?_set] at h
  split at h
  next heq =>
    split at h
    · exact .inl ⟨heq.symm, (Option.some.inj h).symm⟩
    · cases h
  next hne => exact .inr ⟨Ne.symm hne, h⟩

/-- Only the request with the next number is new. -/
theorem getElem?_append_cases {requests : List Request} {i : Nat} {added r : Request}
    (h : (requests ++ [added])[i]? = some r) :
    requests[i]? = some r ∨ i = requests.length ∧ r = added := by
  rw [List.getElem?_append] at h
  split at h
  · exact .inl h
  next hlength =>
    obtain ⟨hzero, heq⟩ := List.getElem?_eq_some_iff.mp h
    rw [List.length_singleton] at hzero
    have hindex : i = requests.length := by omega
    subst hindex
    exact .inr ⟨rfl, by simpa using heq.symm⟩

/-! ### The invariant -/

/-- The table of the client has exactly the requests in flight, and no number was used twice. -/
structure Sound (t : Traffic) : Prop where
  next : t.client.table.next = t.requests.length + 1
  number : ∀ {i : Nat} {r : Request}, t.requests[i]? = some r → r.number = i + 1
  nodup : t.client.table.numbers.Nodup
  mem_iff : ∀ {i : Nat} {r : Request}, t.requests[i]? = some r →
    (r.number ∈ t.client.table.numbers ↔ r.inFlight = true)
  known : ∀ number ∈ t.client.table.numbers,
    ∃ (i : Nat) (r : Request), t.requests[i]? = some r ∧ r.number = number

namespace Sound

variable {t after : Traffic} {act : Act}

theorem start {c : Client} (h : c.table = .fresh) : Sound ⟨c, []⟩ where
  next := by rw [h]; rfl
  number := by intro i r hr; cases hr
  nodup := by rw [h]; exact List.nodup_nil
  mem_iff := by intro i r hr; cases hr
  known := by rw [h]; intro number hnumber; cases hnumber

theorem number_inj (ht : t.Sound) {i j : Nat} {r other : Request} (hr : t.requests[i]? = some r)
    (hother : t.requests[j]? = some other) (h : r.number = other.number) : i = j := by
  rw [ht.number hr, ht.number hother] at h
  exact Nat.succ.inj h

/-- The next number is the number of no request in flight. -/
theorem next_not_mem (ht : t.Sound) : t.client.table.next ∉ t.client.table.numbers := by
  intro hmem
  obtain ⟨i, r, hr, hnumber⟩ := ht.known _ hmem
  have hlength := (List.getElem?_eq_some_iff.mp hr).1
  rw [ht.number hr, ht.next] at hnumber
  omega

theorem change (ht : t.Sound) (h : t.Change act after) : after.Sound := by
  cases h with
  | idle => exact ht
  | close => exact ⟨ht.next, ht.number, ht.nodup, ht.mem_iff, ht.known⟩
  | receive line =>
    refine ⟨?_, ht.number, ?_, ?_, ?_⟩ <;> dsimp only
    · rw [Table.next_receive, ht.next]
    · rw [Table.numbers_receive]
      exact ht.nodup
    · rw [Table.numbers_receive]
      exact ht.mem_iff
    · rw [Table.numbers_receive]
      exact ht.known
  | issue method params limit =>
    refine ⟨?_, ?_, ht.nodup, ?_, ?_⟩ <;> dsimp only
    · rw [List.length_append, ht.next]
      rfl
    · intro i r hr
      rcases getElem?_append_cases hr with hr | ⟨rfl, rfl⟩
      · exact ht.number hr
      · exact ht.next
    · intro i r hr
      rcases getElem?_append_cases hr with hr | ⟨rfl, rfl⟩
      · exact ht.mem_iff hr
      · exact iff_of_false ht.next_not_mem Bool.false_ne_true
    · intro number hnumber
      obtain ⟨i, r, hr, heq⟩ := ht.known number hnumber
      exact ⟨i, r, by rw [List.getElem?_append_left (List.getElem?_eq_some_iff.mp hr).1, hr], heq⟩
  | move index move r client stage hr hmoved =>
    obtain ⟨hnext, hnodup, hself, hothers⟩ := hmoved.table ht.nodup (ht.mem_iff hr)
    have hindex : index < t.requests.length := (List.getElem?_eq_some_iff.mp hr).1
    -- of its own number the move says what becomes of it, and all other numbers stay as they are
    refine ⟨?_, ?_, hnodup, ?_, ?_⟩ <;> dsimp only
    · rw [List.length_set, hnext, ht.next]
    · intro i other hother
      rcases getElem?_set_cases hother with ⟨rfl, rfl⟩ | ⟨-, hother⟩
      · exact (ht.number hr : r.number = _)
      · exact ht.number hother
    · intro i other hother
      rcases getElem?_set_cases hother with ⟨rfl, rfl⟩ | ⟨hne, hother⟩
      · exact hself
      · exact (hothers _ fun heq => hne (ht.number_inj hother hr heq)).trans (ht.mem_iff hother)
    · intro number hnumber
      by_cases heq : number = r.number
      · exact ⟨index, _, List.getElem?_set_self hindex, heq.symm⟩
      · obtain ⟨i, other, hother, rfl⟩ := ht.known number ((hothers number heq).mp hnumber)
        have hne : index ≠ i := by
          rintro rfl
          rw [hr] at hother
          cases hother
          exact heq rfl
        exact ⟨i, other, by rw [List.getElem?_set_ne hne, hother], rfl⟩

theorem run (ht : t.Sound) (acts : List Act) : (t.run acts).Sound := by
  induction acts generalizing t with
  | nil => exact ht
  | cons act rest ih => exact ih (ht.change (t.change act))

end Sound

end Traffic

end Remote

end ToolWeave
