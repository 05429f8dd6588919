import ToolWeave.Proofs.SoleCaller

/-!
# What becomes of requests

Whatever happens on a connection, and in whatever order, no request gets what is not its own.  Later acts
change neither the number nor the outcome of a request (`Traffic.later_run`), an outcome that is a reply is
one that arrived while the request waited for it (`Traffic.run_accounts`), and once the connection is closed
whatever is still without a reply fails (`requests_safe`).

## Main definitions

* `Traffic.Ended`, `Traffic.Holds`: a request has ended; a request waits, and a reply is there.
* `Traffic.Replied`: a reply arrives during some acts.
* `Traffic.Later`: the traffic at a later time.
* `Traffic.Accounts`: where the stage of a request comes from.

## Design notes

**Replies by their arrival.**  That a reply belongs to a request is said of the moment when its line
arrives: the request waits at that moment, and the line counts its number.  A number is given once, so such
a line is a reply to no other request.
-/

namespace ToolWeave

namespace Remote

namespace Traffic

/-- The request at a position has ended with an outcome. -/
def Ended (t : Traffic) (index : Nat) (outcome : Except Fault Value) : Prop :=
  ∃ r, t.requests[index]? = some r ∧ r.stage = .ended outcome

/-- The request at a position waits, and a message that answers it is there. -/
def Holds (t : Traffic) (index : Nat) (message : Fields) : Prop :=
  ∃ r, t.requests[index]? = some r ∧ r.stage = .waiting ∧ t.client.table.answer? r.number = some message

/-- During some acts a message arrives that answers the request at a position while it waits. -/
def Replied (t : Traffic) (acts : List Act) (index : Nat) (message : Fields) : Prop :=
  ∃ before line after r, acts = before ++ .receive line :: after ∧
    (t.run before).requests[index]? = some r ∧ r.stage = .waiting ∧
      message? line = some ((r.number : Int), message)

theorem Replied.append {t : Traffic} {acts : List Act} {index : Nat} {message : Fields}
    (h : t.Replied acts index message) (more : List Act) : t.Replied (acts ++ more) index message := by
  obtain ⟨before, line, after, r, rfl, hr⟩ := h
  exact ⟨before, line, after ++ more, r, by rw [List.append_assoc, List.cons_append], hr⟩

/-! ### Later times -/

/-- The traffic before and after some acts: requests stay what they are and do not come back once they have
ended, and nothing is written to a connection that is closed. -/
structure Later (t after : Traffic) : Prop where
  request : ∀ {i : Nat} {r : Request}, t.requests[i]? = some r →
    ∃ stage, after.requests[i]? = some { r with stage := stage } ∧
      ∀ outcome, r.stage = .ended outcome → stage = r.stage
  closed : t.client.closed = true → after.client.closed = true ∧ after.client.sent = t.client.sent
  name : after.client.name = t.client.name

namespace Later

variable {t between after : Traffic}

theorem refl (t : Traffic) : t.Later t :=
  ⟨fun {_ r} hr => ⟨r.stage, hr, fun _ _ => rfl⟩, fun h => ⟨h, rfl⟩, rfl⟩

theorem trans (hfirst : t.Later between) (hsecond : between.Later after) : t.Later after := by
  refine ⟨fun {i r} hr => ?_, fun h => ?_, hsecond.name.trans hfirst.name⟩
  · obtain ⟨stage, hbetween, hended⟩ := hfirst.request hr
    obtain ⟨later, hafter, hkept⟩ := hsecond.request hbetween
    refine ⟨later, hafter, fun outcome hout => ?_⟩
    have hstage : stage = r.stage := hended outcome hout
    exact (hkept outcome (hstage.trans hout)).trans hstage
  · obtain ⟨hclosed, hsent⟩ := hfirst.closed h
    obtain ⟨hlater, hstill⟩ := hsecond.closed hclosed
    exact ⟨hlater, hstill.trans hsent⟩

theorem ended (h : t.Later after) {index : Nat} {outcome : Except Fault Value} (hended : t.Ended index outcome) :
    after.Ended index outcome := by
  obtain ⟨r, hr, hstage⟩ := hended
  obtain ⟨stage, hafter, hkept⟩ := h.request hr
  exact ⟨_, hafter, (hkept outcome hstage).trans hstage⟩

theorem open_of_open (h : t.Later after) (hopen : after.client.closed = false) : t.client.closed = false := by
  rw [← Bool.not_eq_true] at hopen ⊢
  exact fun hclosed => hopen (h.closed hclosed).1

end Later

/-- A request after an act has moved, or it is the same and still has a reply if it had one. -/
theorem Change.request {t after : Traffic} {act : Act} (ht : t.Sound) (h : t.Change act after) {i : Nat}
    {r : Request} (hr : t.requests[i]? = some r) :
    (after.requests[i]? = some r ∧ ∀ message, t.client.table.answer? r.number = some message →
        ∃ later, after.client.table.answer? r.number = some later) ∨
      ∃ client stage, r.Moved t.client client stage ∧ after.requests[i]? = some { r with stage := stage } := by
  cases h with
  | idle | close => exact .inl ⟨hr, fun message hmessage => ⟨message, hmessage⟩⟩
  | issue method params limit =>
    refine .inl ⟨?_, fun message hmessage => ⟨message, hmessage⟩⟩
    rw [List.getElem?_append_left (List.getElem?_eq_some_iff.mp hr).1, hr]
  | receive line =>
    refine .inl ⟨hr, fun message hmessage => ?_⟩
    dsimp only
    rw [Table.answer?_receive]
    split
    · split
      · exact ⟨_, rfl⟩
      · exact ⟨message, hmessage⟩
    · exact ⟨message, hmessage⟩
  | move index move moving client stage hmoving hmoved =>
    by_cases heq : index = i
    · subst heq
      rw [hr] at hmoving
      cases hmoving
      exact .inr ⟨client, stage, hmoved, List.getElem?_set_self (List.getElem?_eq_some_iff.mp hr).1⟩
    · refine .inl ⟨by rw [List.getElem?_set_ne heq, hr], fun message hmessage => ⟨message, ?_⟩⟩
      have hne : r.number ≠ moving.number := fun hnumber => heq (ht.number_inj hmoving hr hnumber.symm)
      exact (hmoved.answer?_eq hne).trans hmessage

/-- A request after an act was the same before, and a reply that is new for it has just arrived, or it has just
been made, or it has moved. -/
theorem Change.origin {t after : Traffic} {act : Act} (ht : t.Sound) (h : t.Change act after) {i : Nat}
    {r : Request} (hr : after.requests[i]? = some r) :
    (t.requests[i]? = some r ∧ ∀ message, after.client.table.answer? r.number = some message →
        t.client.table.answer? r.number = some message ∨
          ∃ line, act = .receive line ∧ message? line = some ((r.number : Int), message)) ∨
      r.stage = .numbered ∨
      ∃ before stage, t.requests[i]? = some before ∧ before.Moved t.client after.client stage ∧
        r = { before with stage := stage } := by
  cases h with
  | idle | close => exact .inl ⟨hr, fun message hmessage => .inl hmessage⟩
  | issue method params limit =>
    rcases getElem?_append_cases hr with hr | ⟨-, rfl⟩
    · exact .inl ⟨hr, fun message hmessage => .inl hmessage⟩
    · exact .inr (.inl rfl)
  | receive line =>
    refine .inl ⟨hr, fun message hmessage => ?_⟩
    dsimp only at hmessage
    rw [Table.answer?_receive] at hmessage
    cases hline : message? line with
    | none =>
      rw [hline] at hmessage
      exact .inl hmessage
    | some found =>
      obtain ⟨id, arrived⟩ := found
      rw [hline] at hmessage
      dsimp only at hmessage
      split at hmessage
      next hnumber =>
        cases hmessage
        exact .inr ⟨line, rfl, by rw [hline, hnumber.2]⟩
      next => exact .inl hmessage
  | move index move moving client stage hmoving hmoved =>
    rcases getElem?_set_cases hr with ⟨rfl, rfl⟩ | ⟨hne, hr⟩
    · exact .inr (.inr ⟨moving, stage, hmoving, hmoved, rfl⟩)
    · refine .inl ⟨hr, fun message hmessage => .inl ?_⟩
      have hother : r.number ≠ moving.number := fun heq => hne (ht.number_inj hr hmoving heq)
      exact (hmoved.answer?_eq hother).symm.trans hmessage

theorem later_change {t after : Traffic} {act : Act} (ht : t.Sound) (h : t.Change act after) : t.Later after := by
  refine ⟨fun {i r} hr => ?_, ?_, ?_⟩
  · rcases h.request ht hr with ⟨hsame, -⟩ | ⟨client, stage, hmoved, hafter⟩
    · exact ⟨r.stage, hsame, fun _ _ => rfl⟩
    · exact ⟨stage, hafter, fun outcome hout => absurd hout (hmoved.ne_ended outcome)⟩
  · intro hclosed
    cases h with
    | idle | issue => exact ⟨hclosed, rfl⟩
    | receive line => exact ⟨(t.client.table.closed_receive line).trans hclosed, rfl⟩
    | close => exact ⟨rfl, rfl⟩
    | move index move r client stage hr hmoved =>
      obtain ⟨-, hsame, hsent⟩ := hmoved.client
      exact ⟨hsame.trans hclosed, hsent hclosed⟩
  · cases h with
    | move index move r client stage hr hmoved => exact hmoved.client.1
    | _ => rfl

theorem later_run {t : Traffic} (ht : t.Sound) (acts : List Act) : t.Later (t.run acts) := by
  induction acts generalizing t with
  | nil => exact .refl t
  | cons act rest ih =>
    have hchange := t.change act
    exact (later_change ht hchange).trans (ih (ht.change hchange))

/-! ### Where outcomes come from -/

/-- A message has got to the request at a position: it was there, or it arrived. -/
def Got (t : Traffic) (acts : List Act) (index : Nat) (message : Fields) : Prop :=
  t.Holds index message ∨ t.Replied acts index message

theorem Got.append {t : Traffic} {acts : List Act} {index : Nat} {message : Fields}
    (h : t.Got acts index message) (more : List Act) : t.Got (acts ++ more) index message :=
  h.imp_right fun h => h.append more

/-- Where the stage of a request comes from that has waited at most before some acts. -/
def Accounts (t : Traffic) (acts : List Act) (index : Nat) (r : Request) : Prop :=
  match r.stage with
  | .numbered => True
  | .waiting =>
    ∀ message, (t.run acts).client.table.answer? r.number = some message → t.Got acts index message
  | .leaving outcome => r.Failed t.client.closed outcome
  | .ended outcome =>
    r.Failed t.client.closed outcome ∨
      ∃ message, t.Got acts index message ∧ outcome = Client.resultOf message

namespace Accounts

variable {t : Traffic} {acts : List Act} {act : Act} {index : Nat} {r : Request}

theorem of_numbered (h : r.stage = .numbered) : t.Accounts acts index r := by
  unfold Accounts
  rw [h]
  trivial

theorem of_waiting (hstage : r.stage = .waiting)
    (h : ∀ message, (t.run acts).client.table.answer? r.number = some message → t.Got acts index message) :
    t.Accounts acts index r := by
  unfold Accounts
  rw [hstage]
  exact h

theorem of_answer (h : t.Accounts acts index r) (hstage : r.stage = .waiting) {message : Fields}
    (hmessage : (t.run acts).client.table.answer? r.number = some message) : t.Got acts index message := by
  unfold Accounts at h
  rw [hstage] at h
  exact h message hmessage

theorem of_ended (h : t.Accounts acts index r) {outcome : Except Fault Value} (hstage : r.stage = .ended outcome) :
    r.Failed t.client.closed outcome ∨
      ∃ message, t.Got acts index message ∧ outcome = Client.resultOf message := by
  unfold Accounts at h
  rw [hstage] at h
  exact h

/-- A request that an act leaves as it is may get a message by it. -/
theorem concat (h : t.Accounts acts index r)
    (hanswer : ∀ message, r.stage = .waiting →
      (t.run (acts ++ [act])).client.table.answer? r.number = some message →
        (t.run acts).client.table.answer? r.number = some message ∨ t.Replied (acts ++ [act]) index message) :
    t.Accounts (acts ++ [act]) index r := by
  unfold Accounts at h ⊢
  cases hstage : r.stage with
  | numbered => trivial
  | waiting =>
    rw [hstage] at h
    intro message hmessage
    rcases hanswer message hstage hmessage with hbefore | hreplied
    · exact (h message hbefore).append _
    · exact .inr hreplied
  | leaving outcome =>
    rw [hstage] at h
    exact h
  | ended outcome =>
    rw [hstage] at h
    exact h.imp_right fun ⟨message, hgot, hout⟩ => ⟨message, hgot.append _, hout⟩

/-- A move accounts for the stage that it leads to. -/
theorem moved (ht : t.Sound) (h : t.Accounts acts index r)
    (hr : (t.run acts).requests[index]? = some r) {stage : Stage}
    (hmoved : r.Moved (t.run acts).client (t.run (acts ++ [act])).client stage) :
    t.Accounts (acts ++ [act]) index { r with stage := stage } := by
  -- a connection that is open now was open at the start
  have hfailed {outcome : Except Fault Value} (h : r.Failed (t.run acts).client.closed outcome) :
      r.Failed t.client.closed outcome :=
    h.imp_right fun ⟨cause, hopen, hcause⟩ => ⟨cause, (later_run ht acts).open_of_open hopen, hcause⟩
  unfold Accounts at h
  generalize hafter : (t.run (acts ++ [act])).client = after at hmoved
  cases hmoved with
  | refused outcome hstage hrefused => exact .inl (hfailed hrefused)
  | sent line hstage hopen =>
    -- it was not in the table before, so nothing can be there for it yet
    refine of_waiting rfl fun message hmessage => ?_
    have hlanded : r.number ∉ (t.run acts).client.table.numbers := by
      rw [(ht.run acts).mem_iff hr, Request.inFlight, hstage]
      exact Bool.false_ne_true
    rw [hafter, Table.answer?_register, Table.answer?_of_not_mem hlanded] at hmessage
    cases hmessage
  | gaveUp outcome hstage hgiven => exact hfailed hgiven
  | left outcome hstage =>
    rcases hstage with hstage | ⟨hstage, ⟨message, hmessage, hout⟩ | ⟨-, hlost⟩⟩
    · rw [hstage] at h
      exact .inl h
    · rw [hstage] at h
      exact .inr ⟨message, (h message hmessage).append _, hout⟩
    · exact .inl (hfailed hlost)

end Accounts

/-- A request that has waited at most before a run gets nothing in the run but what arrives for it. -/
theorem run_accounts {t : Traffic} (ht : t.Sound) (index : Nat)
    (hearly : ∀ r, t.requests[index]? = some r → r.stage = .numbered ∨ r.stage = .waiting)
    (acts : List Act) :
    ∀ r, (t.run acts).requests[index]? = some r → t.Accounts acts index r := by
  -- by the last act, since what has arrived is said of all acts so far
  induction acts using List.reverseRecOn with
  | nil =>
    intro r hr
    rcases hearly r hr with hstage | hstage
    · exact .of_numbered hstage
    · exact .of_waiting hstage fun message hmessage => .inl ⟨r, hr, hstage, hmessage⟩
  | append_singleton acts act ih =>
    intro r hr
    have hchange := (t.run acts).change act
    rw [← run_concat] at hchange
    rcases hchange.origin (ht.run acts) hr with ⟨hsame, hanswer⟩ | hnumbered | ⟨before, stage, hbefore, hmoved, rfl⟩
    · refine (ih r hsame).concat fun message hstage hmessage => (hanswer message hmessage).imp_right ?_
      rintro ⟨line, rfl, hline⟩
      exact ⟨acts, line, [], r, rfl, hsame, hstage, hline⟩
    · exact .of_numbered hnumbered
    · exact (ih before hbefore).moved ht hbefore hmoved

/-! ### Replies that are there -/

/-- The request at a position waits no longer. -/
def Past (t : Traffic) (index : Nat) : Prop :=
  ∃ r, t.requests[index]? = some r ∧ r.stage ≠ .numbered ∧ r.stage ≠ .waiting

/-- A reply that is there stays, or is replaced by a later one, until its request waits no longer. -/
theorem holds_change {t after : Traffic} {act : Act} (ht : t.Sound) (h : t.Change act after) {index : Nat}
    (hholds : (∃ message, t.Holds index message) ∨ t.Past index) :
    (∃ message, after.Holds index message) ∨ after.Past index := by
  rcases hholds with ⟨message, r, hr, hstage, hmessage⟩ | ⟨r, hr, hnumbered, hwaiting⟩
  · rcases h.request ht hr with ⟨hsame, hreply⟩ | ⟨client, stage, hmoved, hafter⟩
    · obtain ⟨later, hlater⟩ := hreply message hmessage
      exact .inl ⟨later, r, hsame, hstage, hlater⟩
    · exact .inr ⟨_, hafter, hmoved.ne_numbered, hmoved.ne_waiting (by rw [hstage]; exact fun h => by cases h)⟩
  · rcases h.request ht hr with ⟨hsame, -⟩ | ⟨client, stage, hmoved, hafter⟩
    · exact .inr ⟨r, hsame, hnumbered, hwaiting⟩
    · exact .inr ⟨_, hafter, hmoved.ne_numbered, hmoved.ne_waiting hnumbered⟩

theorem holds_run {t : Traffic} (ht : t.Sound) {index : Nat}
    (hholds : (∃ message, t.Holds index message) ∨ t.Past index) (acts : List Act) :
    (∃ message, (t.run acts).Holds index message) ∨ (t.run acts).Past index := by
  induction acts generalizing t with
  | nil => exact hholds
  | cons act rest ih =>
    have hchange := t.change act
    exact ih (ht.change hchange) (holds_change ht hchange hholds)

/-! ### What ends requests -/

theorem ended_of_move {t : Traffic} {index : Nat} {r : Request} (hr : t.requests[index]? = some r) {move : Move}
    {client : Client} {outcome : Except Fault Value}
    (hmove : r.move? t.client move = some (client, .ended outcome)) :
    (t.step (.move index move)).Ended index outcome := by
  rw [step_move hr hmove]
  exact ⟨_, List.getElem?_set_self (List.getElem?_eq_some_iff.mp hr).1, rfl⟩

/-- On a closed connection requests that were not written yet can only be refused. -/
theorem run_refuses {t : Traffic} (ht : t.Sound) (hclosed : t.client.closed = true) {index : Nat}
    (hearly : ∀ r, t.requests[index]? = some r → r.stage = .numbered) (acts : List Act) :
    ∀ r, (t.run acts).requests[index]? = some r → r.stage = .numbered ∨
      r.stage = .ended (t.client.lost "Remote server is not running" [("method", .string r.method)]) := by
  induction acts using List.reverseRecOn with
  | nil => exact fun r hr => .inl (hearly r hr)
  | append_singleton acts act ih =>
    intro r hr
    have hchange := (t.run acts).change act
    rw [← run_concat] at hchange
    rcases hchange.origin (ht.run acts) hr with ⟨hsame, -⟩ | hnumbered | ⟨before, stage, hbefore, hmoved, rfl⟩
    · exact ih r hsame
    · exact .inl hnumbered
    · have hlater := later_run ht acts
      have hstill := (hlater.closed hclosed).1
      rcases ih before hbefore with hnumbered | hended
      · rcases hmoved.of_numbered hnumbered with ⟨outcome, rfl, hrefused⟩ | ⟨-, hopen⟩
        · rw [hrefused hstill]
          unfold Client.lost
          rw [hlater.name]
          exact .inr rfl
        · exact absurd hstill (hopen ▸ Bool.false_ne_true)
      · exact absurd hended (hmoved.ne_ended _)

/-! ### All of it -/

/-- The request at a position waits, and nothing is there that answers it. -/
def Waits (t : Traffic) (index : Nat) : Prop :=
  ∃ r, t.requests[index]? = some r ∧ r.stage = .waiting ∧ t.client.table.answer? r.number = none

/-- The request at a position has not been written, or it has not been made yet. -/
def Unsent (t : Traffic) (index : Nat) : Prop := ∀ r, t.requests[index]? = some r → r.stage = .numbered

/-- What is promised to the callers of a client, after some acts have led to some traffic. -/
structure Safe (start : Traffic) (acts : List Act) (t : Traffic) : Prop where
  /-- No number is used twice. -/
  distinct : (t.requests.map Request.number).Nodup
  /-- The table has the requests in flight, and so nothing is left in it of a request that has ended. -/
  table : ∀ number, number ∈ t.client.table.numbers ↔ ∃ r ∈ t.requests, r.number = number ∧ r.inFlight = true
  /-- A line is kept with the request in flight that it answers, in place of what was kept there, and it
  changes nothing else. -/
  delivers : ∀ line, ∃ pending : List (Nat × Option Fields),
    t.step (.receive line) =
        { t with client := { t.client with table := { t.client.table with pending := pending } } } ∧
      pending.map Prod.fst = t.client.table.numbers ∧
      ∀ r ∈ t.requests, Table.answer? { t.client.table with pending := pending } r.number =
        match message? line with
        | some (id, message) =>
          if r.inFlight = true ∧ (r.number : Int) = id then some message else t.client.table.answer? r.number
        | none => t.client.table.answer? r.number
  /-- A request that has ended does not end again. -/
  final : ∀ index outcome, t.Ended index outcome → ∀ more, (t.run more).Ended index outcome
  /-- A request has failed, or it has a reply that arrived while it waited. -/
  sources : ∀ index outcome, t.Ended index outcome →
    (∃ r, t.requests[index]? = some r ∧ r.Failed start.client.closed outcome) ∨
      ∃ message, start.Replied acts index message ∧ outcome = Client.resultOf message
  /-- A reply that is there, or one that arrives after it, is there for its request as long as it waits, also
  if the connection is closed. -/
  available : ∀ index message, t.Holds index message → ∀ more, (t.run more).Past index ∨
    ∃ later, (later = message ∨ t.Replied more index later) ∧
      ((t.run more).step (.move index .leave)).Ended index (Client.resultOf later)
  /-- Nothing is written any more once the connection is closed, which it stays. -/
  silent : t.client.closed = true → ∀ more,
    (t.run more).client.closed = true ∧ (t.run more).client.sent = t.client.sent
  /-- Once the connection is closed, requests that were not written are refused as soon as they are to be
  written, and end in no other way. -/
  refuses : t.client.closed = true → ∀ index, t.Unsent index → ∀ more r, (t.run more).requests[index]? = some r →
    let refusal := start.client.lost "Remote server is not running" [("method", .string r.method)]
    (r.stage = .numbered → ∀ broken, ((t.run more).step (.move index (.send broken))).Ended index refusal) ∧
      ∀ outcome, r.stage = .ended outcome → outcome = refusal
  /-- Once the connection is closed, requests that wait without a reply fail as soon as they look for one.
  They end as failures of the connection or as cancelled, unless a reply arrives after all. -/
  releases : t.client.closed = true → ∀ index, t.Waits index →
    (∃ r, t.requests[index]? = some r ∧ (t.step (.move index .leave)).Ended index
      (start.client.lost "Remote server exited" [("method", .string r.method)])) ∧
    ∀ more outcome, (t.run more).Ended index outcome →
      (∃ e, outcome = .error (.failure e) ∧ (e.kind = .transportFailure ∨ e.kind = .cancelled)) ∨
        ∃ message, t.Replied more index message ∧ outcome = Client.resultOf message
  /-- A request that a client makes by itself, as programs do, is made, written and ended by such acts. -/
  sole : ∀ (now : Instant) scopes method params (timeout : Option Number) (limit : Limit),
    timeout.getD t.client.timeout = limit.number →
      ∃ more,
        let ended := t.client.request now scopes method params timeout
        t.run more = ⟨{ t.client with table := ended.client.table, sent := ended.client.sent },
          t.requests ++ [⟨t.client.table.next, method, params, limit, .ended ended.outcome⟩]⟩

namespace Sound

variable {t : Traffic}

theorem distinct (ht : t.Sound) : (t.requests.map Request.number).Nodup := by
  rw [List.nodup_iff_getElem?_ne_getElem?]
  intro i j hlt hj heq
  rw [List.length_map] at hj
  rw [List.getElem?_map, List.getElem?_map, List.getElem?_eq_getElem (Nat.lt_trans hlt hj), List.getElem?_eq_getElem hj]
    at heq
  have hsame := ht.number_inj (List.getElem?_eq_getElem (Nat.lt_trans hlt hj)) (List.getElem?_eq_getElem hj)
    (Option.some.inj heq)
  exact absurd hsame (Nat.ne_of_lt hlt)

theorem mem_numbers_iff (ht : t.Sound) (number : Nat) :
    number ∈ t.client.table.numbers ↔ ∃ r ∈ t.requests, r.number = number ∧ r.inFlight = true := by
  constructor
  · intro hmem
    obtain ⟨i, r, hr, rfl⟩ := ht.known number hmem
    exact ⟨r, List.mem_of_getElem? hr, rfl, (ht.mem_iff hr).mp hmem⟩
  · rintro ⟨r, hr, rfl, hflies⟩
    obtain ⟨i, hi⟩ := List.mem_iff_getElem?.mp hr
    exact (ht.mem_iff hi).mpr hflies

theorem delivers (ht : t.Sound) (line : List Char) : ∃ pending : List (Nat × Option Fields),
    t.step (.receive line) =
        { t with client := { t.client with table := { t.client.table with pending := pending } } } ∧
      pending.map Prod.fst = t.client.table.numbers ∧
      ∀ r ∈ t.requests, Table.answer? { t.client.table with pending := pending } r.number =
        match message? line with
        | some (id, message) =>
          if r.inFlight = true ∧ (r.number : Int) = id then some message else t.client.table.answer? r.number
        | none => t.client.table.answer? r.number := by
  have htable : t.client.table.receive line =
      { t.client.table with pending := (t.client.table.receive line).pending } := by
    unfold Table.receive
    split <;> rfl
  refine ⟨(t.client.table.receive line).pending, ?_, t.client.table.numbers_receive line, fun r hr => ?_⟩
  · rw [← htable]
    rfl
  · obtain ⟨i, hi⟩ := List.mem_iff_getElem?.mp hr
    rw [← htable, Table.answer?_receive]
    cases message? line with
    | none => rfl
    | some found => simp only [ht.mem_iff hi]

theorem available (ht : t.Sound) {index : Nat} {message : Fields} (h : t.Holds index message) (more : List Act) :
    (t.run more).Past index ∨ ∃ later, (later = message ∨ t.Replied more index later) ∧
      ((t.run more).step (.move index .leave)).Ended index (Client.resultOf later) := by
  rcases holds_run ht (.inl ⟨message, h⟩) more with ⟨later, r, hr, hstage, hlater⟩ | hpast
  · refine .inr ⟨later, ?_, ended_of_move hr (Request.move?_of_answer hstage hlater)⟩
    obtain ⟨first, hfirst, hwaits, hmessage⟩ := h
    have haccounts := run_accounts ht index (fun other hother => by
      rw [hfirst] at hother
      cases hother
      exact .inr hwaits) more r hr
    rcases haccounts.of_answer hstage hlater with ⟨other, hother, -, hheld⟩ | hreplied
    · rw [hfirst] at hother
      cases hother
      rw [hmessage] at hheld
      exact .inl (Option.some.inj hheld).symm
    · exact .inr hreplied
  · exact .inl hpast

theorem refuses (ht : t.Sound) (hclosed : t.client.closed = true) {index : Nat} (hunsent : t.Unsent index)
    (more : List Act) {r : Request} (hr : (t.run more).requests[index]? = some r) :
    let refusal := t.client.lost "Remote server is not running" [("method", .string r.method)]
    (r.stage = .numbered → ∀ broken, ((t.run more).step (.move index (.send broken))).Ended index refusal) ∧
      ∀ outcome, r.stage = .ended outcome → outcome = refusal := by
  have hlater := later_run ht more
  refine ⟨fun hstage broken => ?_, fun outcome hended => ?_⟩
  · have hmove := Request.move?_of_closed hstage (hlater.closed hclosed).1 broken
    unfold Client.lost at hmove ⊢
    rw [hlater.name] at hmove
    exact ended_of_move hr hmove
  · have hrefused := run_refuses ht hclosed hunsent more r hr
    rw [hended] at hrefused
    rcases hrefused with h | h
    · cases h
    · exact Stage.ended.inj h

theorem releases (ht : t.Sound) (hclosed : t.client.closed = true) {index : Nat} (hwaits : t.Waits index) :
    (∃ r, t.requests[index]? = some r ∧ (t.step (.move index .leave)).Ended index
      (t.client.lost "Remote server exited" [("method", .string r.method)])) ∧
    ∀ more outcome, (t.run more).Ended index outcome →
      (∃ e, outcome = .error (.failure e) ∧ (e.kind = .transportFailure ∨ e.kind = .cancelled)) ∨
        ∃ message, t.Replied more index message ∧ outcome = Client.resultOf message := by
  obtain ⟨r, hr, hstage, hnone⟩ := hwaits
  refine ⟨⟨r, hr, ended_of_move hr (Request.move?_of_lost hstage hnone hclosed)⟩, fun more outcome hended => ?_⟩
  obtain ⟨last, hlast, hout⟩ := hended
  have haccounts := run_accounts ht index (fun other hother => by
    rw [hr] at hother
    cases hother
    exact .inr hstage) more last hlast
  rcases haccounts.of_ended hout with hfailed | ⟨message, ⟨other, hother, -, hheld⟩ | hreplied, hresult⟩
  · rcases hfailed with hfailure | ⟨cause, hopen, -⟩
    · exact .inl hfailure
    · exact absurd hclosed (hopen ▸ Bool.false_ne_true)
  · rw [hr] at hother
    cases hother
    rw [hnone] at hheld
    cases hheld
  · exact .inr ⟨message, hreplied, hresult⟩

end Sound

end Traffic

/-- A client of a server that never writes by itself. -/
def Client.quiet : Client := ⟨"server", .int 20, ⟨fun _ => ([], 0, true)⟩, .fresh, [], 0, [], 0⟩

/-- Twenty seconds. -/
def Limit.twenty : Limit := ⟨.double (Double.ofDecimal false 20 0), Double.ofDecimal false 20 0, rfl⟩

/-- The integer that a request has returned. -/
def Stage.returned? : Stage → Option Int
  | .ended (.ok (.number (.int i))) => some i
  | _ => none

theorem Stage.eq_of_returned? {stage : Stage} {i : Int} (h : stage.returned? = some i) :
    stage = .ended (.ok (.int i)) := by
  unfold returned? at h
  split at h
  · cases h
    rfl
  · cases h

/-- Of two requests the second one is written first.  The first one times out, and only then its reply
arrives.  The second one is answered too, and takes its reply after the connection was closed. -/
def lateReplies : List Act :=
  [.issue "first" .null .twenty, .issue "second" .null .twenty, .move 1 (.send none), .move 0 (.send none),
    .move 0 (.giveUp .timedOut), .move 0 .leave,
    .receive "\x7b\"id\": 1, \"result\": 5\x7d".toList,
    .receive "\x7b\"id\": 2, \"result\": 6\x7d".toList, .close, .move 1 .leave]

end Remote

end ToolWeave
