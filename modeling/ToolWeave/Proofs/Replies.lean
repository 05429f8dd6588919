import ToolWeave.Proofs.ReadValues
import ToolWeave.Proofs.Requests

/-!
# What completes a request

A line that the server writes completes a request if it is a response to it, and in three cases in which it is
none but is taken for one (`Remote.Mistaken`).  All other lines change nothing, whatever requests are in flight,
and a request returns a value only from a line that completes it (`Remote.requests_completed`).

## Main definitions

* `Remote.Response`: a line is a response to a request.
* `Remote.Mistaken`: a line is taken for a response to a request, and is none.
* `Remote.Traffic.answered`: the traffic after a message has been kept with a request.

## Design notes

**Where the mistakes come from.**  The number of a message is compared as integers are compared, and `true` counts as
one there; nothing asks whether a message has a result or an error at all, so a request that the server makes
itself, or a notification with a number, passes for a response; and names of numbers that are not finite are
read, though no JSON text has them.
-/

namespace ToolWeave

namespace Remote

/-! ### Lines -/

/-- A line is a response to the request of a number: it is the JSON text of an object whose `id` is this number, and
that has a result or an error. -/
structure Response (line : List Char) (number : Nat) (message : Fields) : Prop where
  text : Json.readChars .strict (Text.stripChars line) = .ok (.object message)
  id : Entries.get? "id" message = some (.int number)
  content : Entries.has "result" message = true ∨ Entries.has "error" message = true

/-- A line is taken for a response to the request of a number, and is none: its `id` is `true` in place of one, or it
is no JSON text but for the names of numbers that are not finite, or it has neither a result nor an error. -/
structure Mistaken (line : List Char) (number : Nat) (message : Fields) : Prop where
  text : Json.readChars .lenient (Text.stripChars line) = .ok (.object message)
  cause : number = 1 ∧ Entries.get? "id" message = some (.bool true) ∨
    Entries.get? "id" message = some (.int number) ∧
      ((∃ name, Json.readChars .strict (Text.stripChars line) = .error (.constant name)) ∨
        Entries.has "result" message = false ∧ Entries.has "error" message = false)

variable {line : List Char} {number : Nat} {message : Fields}

/-- A line has a message if it is an object whose `id` counts a number. -/
theorem message?_eq_some {id : Int} : message? line = some (id, message) ↔
    Json.readChars .lenient (Text.stripChars line) = .ok (.object message) ∧
      (Entries.get? "id" message).bind countOf? = some id := by
  unfold message?
  constructor
  · intro h
    split at h
    · next fields hread =>
      split at h
      · next found hid =>
        cases h
        exact ⟨hread, hid⟩
      · cases h
    · cases h
  · rintro ⟨hread, hid⟩
    rw [hread]
    dsimp only
    rw [hid]

/-- A positive number is counted by itself, and one also by `true`. -/
theorem countOf?_eq_some (hnumber : 0 < number) {id : Value} :
    countOf? id = some (number : Int) ↔ id = .int number ∨ number = 1 ∧ id = .bool true := by
  unfold countOf?
  constructor
  · intro h
    split at h
    · cases h
      exact .inl rfl
    · next b =>
      right
      cases b with
      | false =>
        have hzero : (0 : Int) = number := Option.some.inj h
        omega
      | true =>
        have hone : (1 : Int) = number := Option.some.inj h
        exact ⟨by omega, rfl⟩
    · cases h
  · rintro (rfl | ⟨rfl, rfl⟩)
    · rfl
    · rfl

/-- A response and what is taken for one exclude each other. -/
theorem Response.not_mistaken (h : Response line number message) : ¬Mistaken line number message := by
  rintro ⟨-, ⟨-, hid⟩ | ⟨-, ⟨name, hname⟩ | ⟨hresult, herror⟩⟩⟩
  · rw [h.id] at hid
    cases hid
  · rw [h.text] at hname
    cases hname
  · rcases h.content with hcontent | hcontent
    · exact absurd hcontent (hresult ▸ Bool.false_ne_true)
    · exact absurd hcontent (herror ▸ Bool.false_ne_true)

/-- **A line is kept with a request** if it is a response to it, or is taken for one. -/
theorem message?_iff (hnumber : 0 < number) : message? line = some ((number : Int), message) ↔
    Response line number message ∨ Mistaken line number message := by
  rw [message?_eq_some]
  constructor
  · rintro ⟨hread, hid⟩
    obtain ⟨id, hfound, hcount⟩ := Option.bind_eq_some_iff.mp hid
    rcases (countOf?_eq_some hnumber).mp hcount with rfl | ⟨hone, rfl⟩
    · by_cases hcontent : Entries.has "result" message = true ∨ Entries.has "error" message = true
      · rcases Json.stricter_readChars (Text.stripChars line) with hsame | hname
        · exact .inl ⟨hsame.trans hread, hfound, hcontent⟩
        · exact .inr ⟨hread, .inr ⟨hfound, .inl hname⟩⟩
      · rw [not_or, Bool.not_eq_true, Bool.not_eq_true] at hcontent
        exact .inr ⟨hread, .inr ⟨hfound, .inr hcontent⟩⟩
    · exact .inr ⟨hread, .inl ⟨hone, hfound⟩⟩
  · rintro (h | ⟨hread, h⟩)
    · have hread : Json.readChars .lenient (Text.stripChars line) = .ok (.object message) := by
        rcases Json.stricter_readChars (Text.stripChars line) with hsame | ⟨name, hname⟩
        · exact hsame.symm.trans h.text
        · rw [h.text] at hname
          cases hname
      exact ⟨hread, by rw [h.id]; rfl⟩
    · refine ⟨hread, ?_⟩
      rcases h with ⟨rfl, hid⟩ | ⟨hid, -⟩
      · rw [hid]
        rfl
      · rw [hid]
        rfl

/-! ### Requests -/

namespace Traffic

/-- The traffic after a message has been kept with the request of a number. -/
def answered (t : Traffic) (number : Nat) (message : Fields) : Traffic :=
  { t with client := { t.client with table := { t.client.table with
    pending := t.client.table.pending.map fun entry =>
      if entry.1 = number then (number, some message) else entry } } }

/-- A line is kept with one request in flight, or it changes nothing. -/
theorem step_receive (t : Traffic) (line : List Char) :
    (∃ number ∈ t.client.table.numbers, ∃ message, message? line = some ((number : Int), message) ∧
        t.step (.receive line) = t.answered number message) ∨
      (∀ number ∈ t.client.table.numbers, ∀ message, message? line ≠ some ((number : Int), message)) ∧
        t.step (.receive line) = t := by
  have hstep : t.step (.receive line) =
      { t with client := { t.client with table := t.client.table.receive line } } := rfl
  rw [hstep]
  unfold Table.receive
  cases hline : message? line with
  | none => exact .inr ⟨fun _ _ _ => nofun, rfl⟩
  | some found =>
    obtain ⟨id, message⟩ := found
    by_cases hid : ∃ number ∈ t.client.table.numbers, (number : Int) = id
    · obtain ⟨number, hnumber, rfl⟩ := hid
      refine .inl ⟨number, hnumber, message, rfl, ?_⟩
      have hentry (entry : Nat × Option Fields) :
          (if (entry.1 : Int) = number then (entry.1, some message) else entry) =
            if entry.1 = number then (number, some message) else entry := by
        by_cases heq : entry.1 = number
        · simp [heq]
        · rw [if_neg fun h => heq (Int.ofNat_inj.mp h), if_neg heq]
      unfold answered
      simp only [hentry]
    · refine .inr ⟨fun number hnumber other heq => ?_, ?_⟩
      · cases heq
        exact hid ⟨number, hnumber, rfl⟩
      · -- no entry has the number of the message
        have hpending : (t.client.table.pending.map fun entry =>
            if (entry.1 : Int) = id then (entry.1, some message) else entry) = t.client.table.pending := by
          refine (List.map_congr_left fun entry hentry => if_neg fun heq => ?_).trans (List.map_id _)
          exact hid ⟨entry.1, List.mem_map_of_mem hentry, heq⟩
        dsimp only
        rw [hpending]

/-- Requests in flight have positive numbers. -/
theorem Sound.number_pos {t : Traffic} (ht : t.Sound) {number : Nat} (h : number ∈ t.client.table.numbers) :
    0 < number := by
  obtain ⟨i, r, hr, rfl⟩ := ht.known number h
  rw [ht.number hr]
  exact Nat.succ_pos i

end Traffic

/-- A message gives a value if it has no error: its result, or null. -/
theorem Client.resultOf_eq_ok {v : Value} (h : Client.resultOf message = .ok v) :
    Entries.get? "error" message = none ∧ v = (Entries.get? "result" message).getD .null := by
  unfold resultOf at h
  split at h
  · split at h
    · cases h
    · cases h
  · next herror =>
    cases h
    exact ⟨herror, rfl⟩

/-- **A request returns a value only from a line that completes it.**  Whatever has happened on a connection, a line
that is a response to a request in flight, or else is taken for one, is kept with this request alone, and any other
line changes nothing.  A request ends because it failed, or with what such a line says that arrived while it
waited; and it returns a value only in the second case, if the line has no error. -/
theorem requests_completed {c : Client} (hfresh : c.table = .fresh) (acts : List Act) :
    let start : Traffic := ⟨c, []⟩
    let t := start.run acts
    (∀ line number message, Response line number message → ¬Mistaken line number message) ∧
    (∀ line,
      (∃ number ∈ t.client.table.numbers, ∃ message,
        (Response line number message ∨ Mistaken line number message) ∧
          t.step (.receive line) = t.answered number message) ∨
      (∀ number ∈ t.client.table.numbers, ∀ message,
        ¬Response line number message ∧ ¬Mistaken line number message) ∧ t.step (.receive line) = t) ∧
    ∀ index outcome, t.Ended index outcome →
      (∃ r, t.requests[index]? = some r ∧ r.Failed c.closed outcome ∧ ∀ v, outcome ≠ .ok v) ∨
      ∃ before line after r message, acts = before ++ .receive line :: after ∧
        (start.run before).requests[index]? = some r ∧ r.stage = .waiting ∧
        (Response line r.number message ∨ Mistaken line r.number message) ∧
        outcome = Client.resultOf message ∧
        ∀ v, outcome = .ok v →
          Entries.get? "error" message = none ∧ v = (Entries.get? "result" message).getD .null := by
  have hstart : (⟨c, []⟩ : Traffic).Sound := .start hfresh
  refine ⟨fun line number message h => h.not_mistaken, fun line => ?_, fun index outcome hended => ?_⟩
  · have ht := hstart.run acts
    rcases Traffic.step_receive _ line with ⟨number, hnumber, message, hline, hstep⟩ | ⟨hline, hstep⟩
    · exact .inl ⟨number, hnumber, message, (message?_iff (ht.number_pos hnumber)).mp hline, hstep⟩
    · refine .inr ⟨fun number hnumber message => not_or.mp fun h => ?_, hstep⟩
      exact hline number hnumber message ((message?_iff (ht.number_pos hnumber)).mpr h)
  · obtain ⟨r, hr, hstage⟩ := hended
    have haccounts := Traffic.run_accounts hstart index (fun _ hother => by cases hother) acts r hr
    rcases haccounts.of_ended hstage with hfailed | ⟨message, ⟨other, hother, -⟩ | hreplied, hresult⟩
    · refine .inl ⟨r, hr, hfailed, fun v hv => ?_⟩
      rcases hfailed with ⟨e, herror, -⟩ | ⟨cause, -, -, hcrash⟩
      · rw [hv] at herror
        cases herror
      · rw [hv] at hcrash
        cases hcrash
    · cases hother
    · obtain ⟨before, line, after, waiting, hacts, hwaiting, hwaits, hline⟩ := hreplied
      have hpositive : 0 < waiting.number := by
        rw [(hstart.run before).number hwaiting]
        exact Nat.succ_pos index
      exact .inr ⟨before, line, after, waiting, message, hacts, hwaiting, hwaits, (message?_iff hpositive).mp hline,
        hresult, fun v hv => Client.resultOf_eq_ok (hresult.symm.trans hv)⟩

/-- A request is made and written, a line arrives, and the request ends if it can. -/
def asking (line : String) : List Act :=
  [.issue "first" .null .twenty, .move 0 (.send none), .receive line.toList, .move 0 .leave]

/-- What a response says is returned. -/
theorem requests_completed_response :
    Client.quiet.table = .fresh ∧
      ∃ before line after r message,
        asking "\x7b\"id\": 1, \"result\": 5\x7d" = before ++ .receive line :: after ∧
          ((⟨Client.quiet, []⟩ : Traffic).run before).requests[0]? = some r ∧ r.stage = .waiting ∧
          (Response line r.number message ∨ Mistaken line r.number message) ∧
          .int 5 = (Entries.get? "result" message).getD .null := by
  have hreturned : (((⟨Client.quiet, []⟩ : Traffic).run
      (asking "\x7b\"id\": 1, \"result\": 5\x7d")).requests[0]?).bind
      (fun r => r.stage.returned?) = some 5 := by decide +kernel
  obtain ⟨r, hr, hstage⟩ := Option.bind_eq_some_iff.mp hreturned
  rcases (requests_completed rfl (asking "\x7b\"id\": 1, \"result\": 5\x7d")).2.2 0 (.ok (.int 5))
      ⟨r, hr, Stage.eq_of_returned? hstage⟩ with ⟨-, -, -, hnone⟩ |
      ⟨before, line, after, waiting, message, hacts, hwaiting, hwaits, htaken, -, hvalue⟩
  · exact absurd rfl (hnone _)
  · exact ⟨rfl, before, line, after, waiting, message, hacts, hwaiting, hwaits, htaken, (hvalue _ rfl).2⟩

/-- Whether a request has returned null. -/
def Stage.returnsNull : Stage → Bool
  | .ended (.ok .null) => true
  | _ => false

theorem Stage.eq_of_returnsNull {stage : Stage} (h : stage.returnsNull = true) : stage = .ended (.ok .null) := by
  unfold returnsNull at h
  split at h
  · rfl
  · cases h

/-- The `id` of a response is a number. -/
theorem Response.kind_id (h : Response line number message) :
    (match Json.readChars .strict (Text.stripChars line) with
      | .ok (.object fields) => (Entries.get? "id" fields).map Value.kind
      | _ => none) = some .number := by
  rw [h.text]
  dsimp only
  rw [h.id]
  rfl

/-- A response has a result or an error. -/
theorem Response.has_content (h : Response line number message) :
    (match Json.readChars .strict (Text.stripChars line) with
      | .ok (.object fields) => Entries.has "result" fields || Entries.has "error" fields
      | _ => false) = true := by
  rw [h.text]
  exact Bool.or_eq_true _ _ |>.mpr h.content

/-- Two lines complete a request and are no responses to it: one whose `id` is `true`, and one that is a request of
the server itself. -/
theorem requests_mistaken :
    (((⟨Client.quiet, []⟩ : Traffic).run (asking "\x7b\"id\": true, \"result\": 5\x7d")).Ended 0 (.ok (.int 5)) ∧
      ∀ message, ¬Response "\x7b\"id\": true, \"result\": 5\x7d".toList 1 message) ∧
    ((⟨Client.quiet, []⟩ : Traffic).run (asking "\x7b\"id\": 1, \"method\": \"ping\"\x7d")).Ended 0 (.ok .null) ∧
      ∀ message, ¬Response "\x7b\"id\": 1, \"method\": \"ping\"\x7d".toList 1 message := by
  have htrue : (((⟨Client.quiet, []⟩ : Traffic).run (asking "\x7b\"id\": true, \"result\": 5\x7d")).requests[0]?).bind
      (fun r => r.stage.returned?) = some 5 := by decide +kernel
  have hping : (((⟨Client.quiet, []⟩ : Traffic).run
      (asking "\x7b\"id\": 1, \"method\": \"ping\"\x7d")).requests[0]?).map (fun r => r.stage.returnsNull) =
      some true := by decide +kernel
  obtain ⟨r, hr, hstage⟩ := Option.bind_eq_some_iff.mp htrue
  obtain ⟨other, hother, hnull⟩ := Option.map_eq_some_iff.mp hping
  refine ⟨⟨⟨r, hr, Stage.eq_of_returned? hstage⟩, fun message h => ?_⟩,
    ⟨other, hother, Stage.eq_of_returnsNull hnull⟩, fun message h => ?_⟩
  · exact absurd h.kind_id (by decide +kernel)
  · exact absurd h.has_content (by decide +kernel)

end Remote

end ToolWeave
