import ToolWeave.Proofs.Traffic

/-!
# Requests one at a time

A client with a single caller sees each request through before the next one is made.  What it does then is
a run of the traffic in which nothing else happens: `Client.request` leaves the table, what was written and
the outcome as some acts one after the other do (`Traffic.Sound.run_request`).  So what holds of all runs holds
of clients as programs use them.

## Main definitions

* `Client.Settled`: what has come of a request when its caller is done with it.
-/

namespace ToolWeave

namespace Remote

namespace Client

/-- What has come of a request when its caller is done with it. -/
inductive Settled (c : Client) (scopes : List Scope) (method : String) (limit : Number) (seconds : Double)
    (number : Nat) : Except Fault Value → Prop
  | cancelled (reason : Scope.Reason) :
      Settled c scopes method limit seconds number (.error (.failure (.cancelled reason.message)))
  | timedOut :
      Settled c scopes method limit seconds number
        (c.lost "Remote request timed out" [("method", .string method), ("timeout", .number limit)])
  | unwaitable (cause : Crash) (hcause : unwaitable? scopes seconds = some cause) :
      Settled c scopes method limit seconds number (.error (.crash cause))
  | replied (message : Fields) (hmessage : c.table.answer? number = some message) :
      Settled c scopes method limit seconds number (resultOf message)
  | exited (hnone : c.table.answer? number = none) (hclosed : c.closed = true) :
      Settled c scopes method limit seconds number
        (c.lost "Remote server exited" [("method", .string method)])

variable (c : Client) (now : Instant) (scopes : List Scope) (method : String) (limit : Number)
  (seconds : Double) (number : Nat) (delay : Instant)

theorem settle_settled :
    (c.settle now scopes method limit seconds number delay).client =
        { c with table := c.table.forget number } ∧
      c.Settled scopes method limit seconds number
        (c.settle now scopes method limit seconds number delay).outcome := by
  unfold settle
  dsimp only
  split
  next e hcheck =>
    unfold Scope.check at hcheck
    split at hcheck
    · cases hcheck
    next reason _ =>
      cases hcheck
      exact ⟨rfl, .cancelled reason⟩
  split
  · exact ⟨rfl, .timedOut⟩
  split
  next cause hcause => exact ⟨rfl, .unwaitable cause hcause⟩
  split
  next harrived =>
    split
    next message hmessage => exact ⟨rfl, .replied message hmessage⟩
    next hnone =>
      rw [hnone] at harrived
      simp only [Option.isSome_none, Bool.false_or, Bool.and_eq_true] at harrived
      exact ⟨rfl, .exited hnone harrived.1.1⟩
  split
  · exact ⟨rfl, .cancelled .deadline⟩
  · exact ⟨rfl, .timedOut⟩

/-- If the system cannot wait for so long, then there are no scopes. -/
theorem unwaitable?_nil {scopes : List Scope} {seconds : Double} {cause : Crash}
    (h : unwaitable? scopes seconds = some cause) : unwaitable? [] seconds = some cause := by
  cases scopes with
  | nil => exact h
  | cons scope rest => cases h

/-- A client that has used up its next number. -/
def reserved (c : Client) : Client := { c with table := c.table.reserve.2 }

/-- A client that has written a line with its next number. -/
def written (c : Client) (line : String) : Client :=
  { c.reserved with sent := c.sent ++ line.toList ++ ['\n'], table := c.reserved.table.register c.table.next }

section

variable {c} {method} {params : Value} {timeout : Option Number}

theorem request_of_closed (h : c.closed = true) :
    c.request now scopes method params timeout =
      ⟨c.lost "Remote server is not running" [("method", .string method)], c.reserved, now⟩ := by
  have hreserved : closed { c with table := { c.table with next := c.table.next + 1 } } = true := h
  unfold request
  dsimp only [Table.reserve]
  rw [if_pos hreserved]
  rfl

theorem request_of_unwritable (h : c.closed = false) {cause : Json.Unwritable}
    (hline : requestLine c.table.next method params = .error cause) :
    c.request now scopes method params timeout =
      ⟨c.lost "Could not write to remote server" [("description", .string cause.message)], c.reserved, now⟩ := by
  have hreserved : ¬ closed { c with table := { c.table with next := c.table.next + 1 } } = true :=
    fun hclosed => Bool.false_ne_true (h.symm.trans hclosed)
  unfold request
  dsimp only [Table.reserve]
  rw [if_neg hreserved, hline]
  rfl

theorem request_of_written (h : c.closed = false) {line : String}
    (hline : requestLine c.table.next method params = .ok line) {seconds : Double}
    (hlimit : (timeout.getD c.timeout).toDouble = .ok seconds) :
    c.request now scopes method params timeout =
      (c.written line).takeIn.settle now scopes method (timeout.getD c.timeout) seconds c.table.next
        (max Instant.millisecond ((c.written line).takeIn.elapsed - c.elapsed)) := by
  have hreserved : ¬ closed { c with table := { c.table with next := c.table.next + 1 } } = true :=
    fun hclosed => Bool.false_ne_true (h.symm.trans hclosed)
  unfold request
  dsimp only [Table.reserve]
  rw [if_neg hreserved, hline]
  dsimp only
  rw [hlimit]
  rfl

end

end Client

namespace Traffic

theorem run_receive (c : Client) (requests : List Request) (lines : List (List Char)) :
    (⟨c, requests⟩ : Traffic).run (lines.map .receive) = ⟨c.receiveAll lines, requests⟩ := by
  induction lines generalizing c with
  | nil => rfl
  | cons line rest ih => exact ih { c with table := c.table.receive line }

/-- What a client takes in is a number of lines, and possibly the end. -/
theorem run_takeIn (c : Client) (requests : List Request) :
    c.takeIn.sent = c.sent ∧ c.takeIn.name = c.name ∧
      ∃ acts, (⟨c, requests⟩ : Traffic).run acts = ⟨{ c with table := c.takeIn.table }, requests⟩ := by
  unfold Client.takeIn
  dsimp only
  split
  · exact ⟨rfl, rfl, [.close], rfl⟩
  next chars left _ =>
    generalize (Text.unifyLines chars).splitOn '\n' = lines
    split
    · exact ⟨rfl, rfl, lines.dropLast.map .receive, run_receive c requests _⟩
    · refine ⟨rfl, rfl, lines.map .receive ++ [.close], ?_⟩
      rw [run_concat, run_receive]
      rfl

/-- A move of the request that was made last. -/
theorem step_last {c after : Client} {r : Request} {move : Move} {stage : Stage} (requests : List Request)
    (hmove : r.move? c move = some (after, stage)) :
    (⟨c, requests ++ [r]⟩ : Traffic).step (.move requests.length move) =
      ⟨after, requests ++ [{ r with stage := stage }]⟩ := by
  have hlast : (requests ++ [r])[requests.length]? = some r := by
    rw [List.getElem?_append_right (Nat.le_refl _), Nat.sub_self]
    rfl
  rw [step_move hlast hmove, List.set_append_right _ _ (Nat.le_refl _), Nat.sub_self]
  rfl

/-- What comes of a request that was written: its caller may give up at once, then the client takes in what
has arrived, and then the request ends. -/
theorem run_settled (c : Client) (requests : List Request) {r : Request} (hstage : r.stage = .waiting)
    (hwaits : c.table.answer? r.number = none ∧ c.closed = false) {scopes : List Scope}
    {outcome : Except Fault Value}
    (hsettled : c.takeIn.Settled scopes r.method r.limit.number r.limit.seconds r.number outcome) :
    ∃ acts, (⟨c, requests ++ [r]⟩ : Traffic).run acts =
      ⟨{ c with table := c.takeIn.table.forget r.number }, requests ++ [{ r with stage := .ended outcome }]⟩ := by
  -- what is left to do once it is known whether the caller has given up
  have hends (first : List Act) (stage : Stage)
      (hfirst : (⟨c, requests ++ [r]⟩ : Traffic).run first = ⟨c, requests ++ [{ r with stage := stage }]⟩)
      (hleave : Request.move? { c with table := c.takeIn.table } { r with stage := stage } .leave =
        some ({ c with table := c.takeIn.table.forget r.number }, .ended outcome)) :
      ∃ acts, (⟨c, requests ++ [r]⟩ : Traffic).run acts =
        ⟨{ c with table := c.takeIn.table.forget r.number },
          requests ++ [{ r with stage := .ended outcome }]⟩ := by
    obtain ⟨-, -, between, hbetween⟩ := run_takeIn c (requests ++ [{ r with stage := stage }])
    refine ⟨first ++ between ++ [.move requests.length .leave], ?_⟩
    rw [run_concat, run_append, hfirst, hbetween, step_last requests hleave]
  have hsurrender (cause : Surrender) (h : r.surrender? c cause = some outcome) :
      ∃ acts, (⟨c, requests ++ [r]⟩ : Traffic).run acts =
        ⟨{ c with table := c.takeIn.table.forget r.number },
          requests ++ [{ r with stage := .ended outcome }]⟩ := by
    refine hends [.move requests.length (.giveUp cause)] (.leaving outcome) ?_ (Request.move?_of_leaving rfl)
    refine step_last requests ?_
    unfold Request.move?
    rw [hstage]
    dsimp only
    rw [h]
    rfl
  have hlost (message : String) (details : Fields) : c.takeIn.lost message details = c.lost message details := by
    unfold Client.lost
    rw [(run_takeIn c []).2.1]
  have hsame : { r with stage := .waiting } = r := by rw [← hstage]
  cases hsettled with
  | cancelled reason => exact hsurrender (.cancelled reason) rfl
  | timedOut =>
    refine hsurrender .timedOut ?_
    rw [hlost]
    rfl
  | unwaitable cause hcause =>
    refine hsurrender .unwaitable ?_
    unfold Request.surrender?
    rw [hwaits.1, hwaits.2, Client.unwaitable?_nil hcause]
    rfl
  | replied message hmessage =>
    refine hends [] .waiting (by rw [hsame]; rfl) ?_
    exact Request.move?_of_answer rfl hmessage
  | exited hnone hclosed =>
    refine hends [] .waiting (by rw [hsame]; rfl) ?_
    rw [hlost]
    exact Request.move?_of_lost rfl hnone hclosed

/-- **A request made by itself is a run.**  It leaves the table of the client and what was written as some
acts do, and it ends as the request does that these acts are about. -/
theorem Sound.run_request {t : Traffic} (ht : t.Sound) (now : Instant) (scopes : List Scope) (method : String)
    (params : Value) (timeout : Option Number) (limit : Limit)
    (hlimit : timeout.getD t.client.timeout = limit.number) :
    ∃ acts,
      let ended := t.client.request now scopes method params timeout
      t.run acts = ⟨{ t.client with table := ended.client.table, sent := ended.client.sent },
        t.requests ++ [⟨t.client.table.next, method, params, limit, .ended ended.outcome⟩]⟩ := by
  let r : Request := ⟨t.client.table.next, method, params, limit, .numbered⟩
  have hsend {after : Client} {stage : Stage} (hmove : r.move? t.client.reserved (.send none) = some (after, stage)) :
      t.run [.issue method params limit, .move t.requests.length (.send none)] =
        ⟨after, t.requests ++ [{ r with stage := stage }]⟩ := step_last t.requests hmove
  cases hclosed : t.client.closed with
  | true =>
    have hreserved : t.client.reserved.closed = true := hclosed
    rw [Client.request_of_closed now scopes hclosed]
    exact ⟨_, hsend (Request.move?_of_closed rfl hreserved none)⟩
  | false =>
    have hreserved : ¬ t.client.reserved.closed = true :=
      fun h => Bool.false_ne_true (hclosed.symm.trans h)
    cases hline : Client.requestLine t.client.table.next method params with
    | error cause =>
      rw [Client.request_of_unwritable now scopes hclosed hline]
      refine ⟨_, hsend ?_⟩
      unfold Request.move? Request.line
      dsimp only [r]
      rw [if_neg hreserved, hline]
      rfl
    | ok line =>
      have hmove : r.move? t.client.reserved (.send none) = some (t.client.written line, .waiting) := by
        unfold Request.move? Request.line
        dsimp only [r]
        rw [if_neg hreserved, hline]
        rfl
      have hfresh : (t.client.written line).table.answer? t.client.table.next = none :=
        (Table.answer?_register _ _ _).trans (Table.answer?_of_not_mem ht.next_not_mem)
      rw [Client.request_of_written now scopes hclosed hline (hlimit ▸ limit.isSeconds), hlimit]
      generalize max Instant.millisecond _ = delay
      obtain ⟨hclient, hsettled⟩ := (t.client.written line).takeIn.settle_settled now scopes method limit.number
        limit.seconds t.client.table.next delay
      obtain ⟨acts, hacts⟩ := run_settled (t.client.written line) t.requests (r := { r with stage := .waiting })
        rfl ⟨hfresh, hclosed⟩ hsettled
      refine ⟨[.issue method params limit, .move t.requests.length (.send none)] ++ acts, ?_⟩
      have hsent := (run_takeIn (t.client.written line) []).1
      dsimp only
      rw [run_append, hsend hmove, hacts, hclient]
      dsimp only
      rw [hsent]
      rfl

end Traffic

end Remote

end ToolWeave
