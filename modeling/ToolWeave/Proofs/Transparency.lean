import ToolWeave.Proofs.Lines
import ToolWeave.Proofs.Service
import ToolWeave.Proofs.TidyRuns
import ToolWeave.Remote.Client

/-!
# Tools at a distance

A client calls the tools of a server one after the other.  Each call ends as it does for one who invokes the
tool where it is: the value is the same, or the kind and the payload of the failure are, and the next call
finds the tools that this one has left (`Remote.location_transparent`).

## Main definitions

* `Run.session`, `Remote.Client.session`: some calls nearby, and the same calls at a distance.
* `Remote.Peer.serving`: what is seen of a server, given all that was sent to it.
* `Remote.Client.InTime`: a server always answers within the time limit.
* `Remote.Sendable`, `Remote.Carried`: a request and an outcome have a text that is read again.
* `Remote.Client.Idle`: the invariant that each call keeps.

## Design notes

**The server is replayed.**  A client sees its server as a function of all that it has sent so far, so each
call is served from the first line on.  `Server.serve_append` is what makes this a conversation: what was
answered before stays, and the new line is answered in the state that the lines before have led to.

**What can be carried.**  The writer refuses integers with too many digits and the reader refuses texts with
too many levels.  A value stands two levels inside of its request and of its reply, a payload three.

**Time.**  The clock of the server may be any function of what it was sent, and may even run backwards.  All
that is asked is that no answer comes after the limit.
-/

namespace ToolWeave

/-- Tools invoked by name from outside, one after the other, and how each invocation ends. -/
def Run.session (limit : Nat) : List (String × Value) → StateM World (List (Except ToolError Value))
  | [] => pure []
  | (name, input) :: rest => do
    let outcome ← (Run.named limit name input).run
    return outcome :: (← session limit rest)

namespace Remote

/-- A server that answers in an environment, given by the state in which it starts.  Its clock says how
long it takes for everything that is sent. -/
def Peer.serving (limit : Nat) (world : World) (clock : List Char → Instant) : Peer where
  observe sent :=
    let served := (Server.serve limit (Server.lines sent) world).1
    (Utf8.encode (Text.unlines (served.1.map String.toList)), clock sent, served.2.isNone)

/-- Tools of a server called one after the other, and how each call ends. -/
def Client.session (c : Client) (now : Instant) :
    List (String × Value) → List (Except Fault Value) × Client × Instant
  | [] => ([], c, now)
  | (tool, input) :: rest =>
    let ended := c.callTool now [] tool input
    let (outcomes, c, now) := ended.client.session ended.now rest
    (ended.outcome :: outcomes, c, now)

end Remote

namespace Server

/-- Lines that follow others are answered in the state that those have led to. -/
theorem serve_append {limit : Nat} {first : List (List Char)} {world between : World} {replies : List String}
    (h : serve limit first world = ((replies, none), between)) (rest : List (List Char)) :
    serve limit (first ++ rest) world =
      ((replies ++ (serve limit rest between).1.1, (serve limit rest between).1.2),
        (serve limit rest between).2) := by
  induction first generalizing world replies with
  | nil =>
    cases h
    rfl
  | cons line first ih =>
    rw [serve_cons] at h
    rw [List.cons_append, serve_cons]
    cases hanswer : (answer limit line world).1 with
    | none =>
      rw [hanswer] at h
      exact ih h
    | some message =>
      rw [hanswer] at h
      dsimp only at h ⊢
      cases hline : Json.line message with
      | error cause =>
        rw [hline] at h
        cases h
      | ok text =>
        rw [hline] at h
        dsimp only at h ⊢
        cases hrest : serve limit first (answer limit line world).2 with
        | mk done after =>
          obtain ⟨texts, stopped⟩ := done
          rw [hrest] at h
          cases h
          rw [ih hrest]
          rfl

/-- A line that calls a tool gets one reply, which tells how the call has ended. -/
theorem serve_call {limit : Nat} {line : List Char} {fields : Fields} {id input : Value} {name text : String}
    {world : World} (hline : Text.stripChars line ≠ []) (hread : request? line = .ok (.object fields))
    (hid : Entries.get? "id" fields = some id) (hcall : call? (.object fields) = some (name, input))
    (htext : Json.line (reply id (answerOf (Run.named limit name input world).1)) = .ok text) :
    serve limit [line] world = (([text], none), (Run.named limit name input world).2) := by
  have howed : owed line = true := by
    unfold owed
    rw [hread]
    simpa [Entries.has, hid] using hline
  have hidOf : idOf line = id := by
    unfold idOf
    rw [hread]
    show (Entries.get? "id" fields).getD .null = id
    rw [hid]
    rfl
  have hhandle : handleLine limit line world =
      (answerOf (Run.named limit name input world).1, (Run.named limit name input world).2) := by
    unfold handleLine
    rw [hread]
    exact handle_of_call hcall world
  rw [serve_cons, answer_of_owed limit howed, hidOf, hhandle]
  dsimp only
  rw [htext]
  rfl

end Server

namespace ToolError

theorem ofName?_name (kind : ErrorKind) : ErrorKind.ofName? kind.name = some kind := by
  cases kind <;> decide +kernel

/-- A failure is read back from the value it is sent as. -/
theorem ofValue?_toValue (e : ToolError) : ofValue? e.toValue = some e := by
  show (ErrorKind.ofName? e.kind.name).map (fun kind => make kind e.payload) = some e
  rw [ofName?_name]
  exact congrArg some (dif_pos e.isFinite_payload)

end ToolError

namespace Remote

/-! ### Taking in lines -/

/-- What a client does about lines that have arrived as a whole. -/
theorem Client.takeIn_of_lines (c : Client) {output : Shell.Bytes} {elapsed : Instant} {lines : List (List Char)}
    (hobserve : c.peer.observe c.sent = (output, elapsed, true)) (hpartial : c.partialLine = [])
    (houtput : output.drop c.seen = Utf8.encode (Text.unlines lines)) (hlines : ∀ line ∈ lines, Text.OneLine line) :
    c.takeIn =
      { c with
        table := lines.foldl Table.receive c.table, seen := output.length, elapsed := elapsed, partialLine := [] } := by
  unfold takeIn
  rw [hobserve]
  dsimp only
  rw [hpartial, houtput, List.nil_append, Utf8.decode_encode]
  dsimp only
  rw [Text.unifyLines_unlines hlines, Text.splitOn_unlines hlines, if_pos rfl, List.dropLast_concat,
    List.getLastD_concat]
  rfl

theorem Client.resultOf_of_error {message : Fields} {error : Value} {e : ToolError}
    (herror : Entries.get? "error" message = some error)
    (hcarried : (error.field? "data").bind ToolError.ofValue? = some e) :
    Client.resultOf message = .error (.failure e) := by
  unfold resultOf
  rw [herror]
  dsimp only
  rw [hcarried]

/-- How an answer is told to the caller. -/
theorem outcome_of_reply (id : Value) (outcome : Except ToolError Value) :
    ∃ fields, Server.reply id (Server.answerOf outcome) = .object fields ∧ Entries.get? "id" fields = some id ∧
      (Client.resultOf fields).bind valueOf = outcome.mapError Fault.failure := by
  cases outcome with
  | ok value => exact ⟨_, rfl, rfl, rfl⟩
  | error e =>
    refine ⟨_, rfl, rfl, ?_⟩
    have hcarried : ((Server.Refusal.failed e).toValue.field? "data").bind ToolError.ofValue? = some e :=
      e.ofValue?_toValue
    have hresult : Client.resultOf ([("jsonrpc", .string "2.0"), ("id", id)] ++
        [("error", (Server.Refusal.failed e).toValue)]) = .error (.failure e) :=
      Client.resultOf_of_error rfl hcarried
    exact congrArg (·.bind valueOf) hresult

/-! ### Requests that are answered in time -/

namespace Client

/-- A server with a clock always answers before a time limit. -/
def InTime (limit : Number) (clock : List Char → Instant) : Prop :=
  ∃ seconds, limit.toDouble = .ok seconds ∧ unwaitable? [] seconds = none ∧
    ∀ before after, Host.comesBefore (some (max Instant.millisecond (clock after - clock before)))
      (Host.allowance seconds) = true

theorem millisecond_pos : 0 < Instant.millisecond := by decide +kernel

/-- A request that is answered in time ends with its answer. -/
theorem settle_of_answer (c : Client) (now : Instant) (method : String) (limit : Number) {seconds : Double}
    {number : Nat} {delay : Instant} {message : Fields} (hwaitable : unwaitable? [] seconds = none)
    (hdelay : 0 < delay) (htime : Host.comesBefore (some delay) (Host.allowance seconds) = true)
    (hanswer : c.table.answer? number = some message) :
    c.settle now [] method limit seconds number delay =
      ⟨resultOf message, { c with table := c.table.forget number }, now + delay⟩ := by
  have hallowed : ((Host.allowance seconds).any fun length => decide (length ≤ 0)) = false := by
    cases hallowance : Host.allowance seconds with
    | none => rfl
    | some length =>
      rw [hallowance] at htime
      have hlt : delay < length := of_decide_eq_true htime
      exact decide_eq_false (Int.not_le.mpr (Int.lt_trans hdelay hlt))
  unfold settle
  rw [show Scope.check now [] = .ok () from rfl, show Scope.remaining? now [] = none from rfl]
  dsimp only
  rw [hallowed, hwaitable, hanswer, htime]
  rfl

theorem requestLine_call (number : Nat) (tool : String) (input : Value) :
    requestLine number "tools/call" (.object [("name", .string tool), ("arguments", input)]) =
      Json.line (.object [("jsonrpc", .string "2.0"), ("id", .int number), ("method", .string "tools/call"),
        ("params", .object [("name", .string tool), ("arguments", input)])]) := by
  have hgiven : (Value.object [("name", .string tool), ("arguments", input)]).isGiven = true := rfl
  unfold requestLine
  rw [if_pos hgiven]

/-- A message that answers the only request in flight. -/
theorem receive_of_message {number : Nat} {line : List Char} {message : Fields}
    (h : message? line = some ((number : Int), message)) :
    Table.receive ⟨number + 1, false, [(number, none)]⟩ line = ⟨number + 1, false, [(number, some message)]⟩ := by
  unfold Table.receive
  rw [h]
  dsimp only
  rw [List.map_singleton, if_pos rfl]

/-- A request to a server that answers it on one line, in time. -/
theorem request_of_answer (c : Client) (now : Instant) {number : Nat} {method text : String} {params : Value}
    {output : Shell.Bytes} {elapsed : Instant} {reply : List Char} {message : Fields} {seconds : Double}
    (htable : c.table = ⟨number, false, []⟩) (hpartial : c.partialLine = [])
    (htext : requestLine number method params = .ok text)
    (hobserve : c.peer.observe (c.sent ++ text.toList ++ ['\n']) = (output, elapsed, true))
    (houtput : output.drop c.seen = Utf8.encode (Text.unlines [reply])) (hreply : Text.OneLine reply)
    (hmessage : message? reply = some ((number : Int), message))
    (hseconds : c.timeout.toDouble = .ok seconds) (hwaitable : unwaitable? [] seconds = none)
    (htime : Host.comesBefore (some (max Instant.millisecond (elapsed - c.elapsed))) (Host.allowance seconds) = true) :
    c.request now [] method params =
      ⟨resultOf message,
        { c with
          table := ⟨number + 1, false, []⟩, sent := c.sent ++ text.toList ++ ['\n'], seen := output.length,
          elapsed := elapsed, partialLine := [] },
        now + max Instant.millisecond (elapsed - c.elapsed)⟩ := by
  obtain ⟨name, timeout, peer, table, sent, seen, partialLine, before⟩ := c
  dsimp only at htable hpartial hobserve houtput hseconds htime
  subst htable hpartial
  have htaken := takeIn_of_lines ⟨name, timeout, peer, ⟨number + 1, false, [(number, none)]⟩,
    sent ++ text.toList ++ ['\n'], seen, [], before⟩ hobserve rfl houtput (List.forall_mem_singleton.mpr hreply)
  dsimp only at htaken
  rw [List.foldl_cons, List.foldl_nil, receive_of_message hmessage] at htaken
  have hopen : ¬ closed ⟨name, timeout, peer, ⟨number + 1, false, []⟩, sent, seen, [], before⟩ = true :=
    Bool.false_ne_true
  unfold request
  dsimp only [Table.reserve, Option.getD_none, Table.register, List.nil_append]
  rw [if_neg hopen, htext]
  dsimp only
  rw [htaken, hseconds]
  dsimp only
  rw [settle_of_answer _ now method timeout hwaitable (Int.lt_of_lt_of_le millisecond_pos (Int.le_max_left ..)) htime
    (show Table.answer? ⟨number + 1, false, [(number, some message)]⟩ number = some message by
      simp [Table.answer?])]
  simp [Table.forget]

end Client

/-! ### Values that can be sent -/

/-- A value can be written, and can be read inside of so many levels. -/
structure Sendable (around : Nat) (v : Value) : Prop where
  isFinite : v.isFinite = true
  shortIntegers : v.shortIntegers = true
  tidy : v.Tidy
  levels : v.nestedWithin (Json.nestingLimit - around) = true

namespace Sendable

variable {around : Nat}

theorem writable {v : Value} (h : Sendable around v) : Json.unwritable? v = none :=
  Json.unwritable?_eq_none.mpr ⟨h.isFinite, h.shortIntegers⟩

theorem string (s : String) : Sendable around (.string s) := by
  refine ⟨rfl, rfl, rfl, ?_⟩
  cases Json.nestingLimit - around <;> rfl

theorem int {i : Int} (h : (Value.int i).shortIntegers = true) : Sendable around (.int i) := by
  refine ⟨rfl, h, rfl, ?_⟩
  cases Json.nestingLimit - around <;> rfl

theorem object {fields : Fields} (haround : around < Json.nestingLimit) (hnames : (Entries.names fields).Nodup)
    (hfields : ∀ entry ∈ fields, Sendable (around + 1) entry.2) : Sendable around (.object fields) where
  isFinite := Json.fieldsFinite_iff.mpr fun entry hentry => (hfields entry hentry).isFinite
  shortIntegers := Value.shortIntegers_object.mpr fun entry hentry => (hfields entry hentry).shortIntegers
  tidy := Value.tidy_object.mpr ⟨hnames, fun entry hentry => (hfields entry hentry).tidy⟩
  levels := by
    rw [show Json.nestingLimit - around = Json.nestingLimit - (around + 1) + 1 by omega, Value.nestedWithin,
      List.all_eq_true]
    exact fun entry hentry => (hfields entry hentry).levels

/-- A failure as a value. -/
theorem failure {e : ToolError} (haround : around < Json.nestingLimit) (h : Sendable (around + 1) e.payload) :
    Sendable around e.toValue := by
  refine .object haround (by simp [Entries.names]) ?_
  rw [List.forall_mem_cons, List.forall_mem_singleton]
  exact ⟨.string _, h⟩

/-- The request that calls a tool. -/
theorem request {number : Nat} (hnumber : (Value.int number).shortIntegers = true) (tool : String) {input : Value}
    (hinput : Sendable 2 input) :
    Sendable 0 (.object [("jsonrpc", .string "2.0"), ("id", .int number), ("method", .string "tools/call"),
      ("params", .object [("name", .string tool), ("arguments", input)])]) := by
  refine .object (by decide) (by simp [Entries.names]) ?_
  rw [List.forall_mem_cons, List.forall_mem_cons, List.forall_mem_cons, List.forall_mem_singleton]
  refine ⟨.string _, .int hnumber, .string _, .object (by decide) (by simp [Entries.names]) ?_⟩
  rw [List.forall_mem_cons, List.forall_mem_singleton]
  exact ⟨.string _, hinput⟩

/-- The reply to a call. -/
theorem reply {id : Int} (hid : (Value.int id).shortIntegers = true) {outcome : Except ToolError Value}
    (hvalue : ∀ value, outcome = .ok value → Sendable 2 value)
    (hpayload : ∀ e, outcome = .error e → Sendable 3 e.payload) :
    Sendable 0 (Server.reply (.int id) (Server.answerOf outcome)) := by
  have hresult : ∃ field content, Server.reply (.int id) (Server.answerOf outcome) =
      .object [("jsonrpc", .string "2.0"), ("id", .int id), (field, content)] ∧
      field ∉ ["jsonrpc", "id"] ∧ Sendable 1 content := by
    cases outcome with
    | ok value =>
      refine ⟨_, _, rfl, by decide, .object (by decide) (List.pairwise_singleton _ _) ?_⟩
      exact List.forall_mem_singleton.mpr (hvalue value rfl)
    | error e =>
      refine ⟨_, _, rfl, by decide, ?_⟩
      have hcode : (Value.int (-32000)).shortIntegers = true := by decide +kernel
      show Sendable 1 (.object [("code", .int (Server.Refusal.failed e).code),
        ("message", .string (Server.Refusal.failed e).message), ("data", e.toValue)])
      refine .object (by decide) (by simp [Entries.names]) ?_
      rw [List.forall_mem_cons, List.forall_mem_cons, List.forall_mem_singleton]
      exact ⟨.int hcode, .string _, .failure (by decide) (hpayload e rfl)⟩
  obtain ⟨field, content, hreply, hfield, hcontent⟩ := hresult
  rw [hreply]
  refine .object (by decide) ?_ ?_
  · simpa [Entries.names, eq_comm] using hfield
  · rw [List.forall_mem_cons, List.forall_mem_cons, List.forall_mem_singleton]
    exact ⟨.string _, .int hid, hcontent⟩

end Sendable

/-! ### Calls -/

theorem message?_of_id {line : List Char} {fields : Fields} {number : Int}
    (hread : Json.readChars .lenient (Text.stripChars line) = .ok (.object fields))
    (hid : Entries.get? "id" fields = some (.int number)) : message? line = some (number, fields) := by
  unfold message?
  rw [hread]
  dsimp only
  rw [hid]
  rfl

/-- The outcome of a call can be told: what it ends with can be written, and read inside of a reply. -/
def Carried : Except ToolError Value → Prop
  | .ok value => value.shortIntegers = true ∧ value.nestedWithin (Json.nestingLimit - 2) = true
  | .error e => e.payload.shortIntegers = true ∧ e.payload.nestedWithin (Json.nestingLimit - 3) = true

instance : DecidablePred Carried
  | .ok _ => inferInstanceAs (Decidable (_ ∧ _))
  | .error _ => inferInstanceAs (Decidable (_ ∧ _))

/-- A client between two calls: its server has answered everything, and is in a state. -/
structure Client.Idle (limit : Nat) (world : World) (clock : List Char → Instant) (number : Nat) (between : World)
    (c : Client) : Prop where
  peer_eq : c.peer = .serving limit world clock
  table_eq : c.table = ⟨number, false, []⟩
  partialLine_eq : c.partialLine = []
  elapsed_eq : c.elapsed = clock c.sent
  served : ∃ requests replies, (∀ line ∈ requests, Text.OneLine line) ∧ c.sent = Text.unlines requests ∧
    Server.serve limit requests world = ((replies, none), between) ∧
    c.seen = (Utf8.encode (Text.unlines (replies.map String.toList))).length

/-- What is sent to a server and what it has answered decide what is seen of it. -/
theorem Peer.observe_serving {limit : Nat} {world between : World} {requests : List (List Char)}
    {replies : List String} (clock : List Char → Instant) (hlines : ∀ line ∈ requests, Text.OneLine line)
    (hserve : Server.serve limit requests world = ((replies, none), between)) :
    (Peer.serving limit world clock).observe (Text.unlines requests) =
      (Utf8.encode (Text.unlines (replies.map String.toList)), clock (Text.unlines requests), true) := by
  unfold Peer.serving
  dsimp only
  rw [Server.lines_unlines hlines, hserve]
  rfl

/-- A call whose reply can be sent ends at a distance as it does nearby, and leaves the server in the same
state. -/
theorem Client.Idle.call_of_reply {limit : Nat} {world between : World} {clock : List Char → Instant} {number : Nat}
    {c : Client} (hidle : c.Idle limit world clock number between) (hinTime : InTime c.timeout clock) (now : Instant)
    (tool : String) {input : Value} (hnumber : (Value.int number).shortIntegers = true) (hinput : Sendable 2 input)
    (hreply : Sendable 0 (Server.reply (.int number) (Server.answerOf (Run.named limit tool input between).1))) :
    (c.callTool now [] tool input).outcome = (Run.named limit tool input between).1.mapError Fault.failure ∧
      (c.callTool now [] tool input).client.Idle limit world clock (number + 1) (Run.named limit tool input between).2 ∧
      (c.callTool now [] tool input).client.timeout = c.timeout := by
  obtain ⟨seconds, hseconds, hwaitable, htime⟩ := hinTime
  obtain ⟨requests, replies, hlines, hsent, hserve, hseen⟩ := hidle.served
  have hrequest := Sendable.request hnumber tool hinput
  obtain ⟨text, htext, hone, hfull, hread⟩ :=
    Json.line_of_message hrequest.writable hrequest.tidy hrequest.levels
  obtain ⟨message, hmessage, hid, houtcome⟩ :=
    outcome_of_reply (.int number) (Run.named limit tool input between).1
  rw [hmessage] at hreply
  obtain ⟨answer, hanswer, hanswerOne, -, hanswerRead⟩ :=
    Json.line_of_message hreply.writable hreply.tidy hreply.levels
  -- the server answers the new line after all those before
  have hserved : Server.serve limit [text.toList] between =
      (([answer], none), (Run.named limit tool input between).2) :=
    Server.serve_call hfull hread rfl rfl (by rw [hmessage]; exact hanswer)
  have hall : Server.serve limit (requests ++ [text.toList]) world =
      ((replies ++ [answer], none), (Run.named limit tool input between).2) := by
    rw [Server.serve_append hserve, hserved]
  have hallLines : ∀ line ∈ requests ++ [text.toList], Text.OneLine line := by
    intro line hline
    rcases List.mem_append.mp hline with hline | hline
    · exact hlines line hline
    · rw [List.mem_singleton.mp hline]
      exact hone
  have hallSent : c.sent ++ text.toList ++ ['\n'] = Text.unlines (requests ++ [text.toList]) := by
    rw [Text.unlines_append, Text.unlines_singleton, hsent, List.append_assoc]
  -- and the client finds its answer among what is new
  have houtput : (Utf8.encode (Text.unlines ((replies ++ [answer]).map String.toList))).drop c.seen =
      Utf8.encode (Text.unlines [answer.toList]) := by
    rw [List.map_append, Text.unlines_append, Utf8.encode_append, hseen, List.drop_left]
    rfl
  have hrequestLine := (Client.requestLine_call number tool input).trans htext
  have hended := Client.request_of_answer c now hidle.table_eq hidle.partialLine_eq hrequestLine
    (by rw [hidle.peer_eq, hallSent]; exact Peer.observe_serving clock hallLines hall) houtput hanswerOne
    (message?_of_id hanswerRead hid) hseconds hwaitable (by rw [hidle.elapsed_eq]; exact htime _ _)
  unfold Client.callTool
  rw [hended]
  refine ⟨houtcome, ⟨hidle.peer_eq, rfl, rfl, ?_, ?_⟩, rfl⟩
  · rw [hallSent]
  · exact ⟨_, _, hallLines, hallSent, hall, rfl⟩

/-- A call ends at a distance as it does nearby if its outcome can be told. -/
theorem Client.Idle.call {limit : Nat} {world between : World} {clock : List Char → Instant} {number : Nat} {c : Client}
    (hidle : c.Idle limit world clock number between) (hinTime : InTime c.timeout clock) (now : Instant)
    (tool : String) {input : Value} (hnumber : (Value.int number).shortIntegers = true) (hinput : Sendable 2 input)
    (hbetween : between.store.Tidy) (hcarried : Carried (Run.named limit tool input between).1) :
    (c.callTool now [] tool input).outcome = (Run.named limit tool input between).1.mapError Fault.failure ∧
      (c.callTool now [] tool input).client.Idle limit world clock (number + 1) (Run.named limit tool input between).2 ∧
      (c.callTool now [] tool input).client.timeout = c.timeout := by
  have htidy := Run.named_tidily limit tool hinput.tidy between hbetween
  refine hidle.call_of_reply hinTime now tool hnumber hinput (.reply hnumber (fun value hvalue => ?_) fun e he => ?_)
  · rw [hvalue] at htidy hcarried
    exact ⟨Run.isFinite_of_named hvalue, hcarried.1, htidy.1, hcarried.2⟩
  · rw [he] at htidy hcarried
    exact ⟨e.isFinite_payload, hcarried.1, htidy.1, hcarried.2⟩

/-- A client just connected to a server. -/
def Client.connected (limit : Nat) (world : World) (clock : List Char → Instant) (name : String) (timeout : Number) :
    Client :=
  ⟨name, timeout, .serving limit world clock, .fresh, [], 0, [], clock []⟩

theorem Client.connected_idle (limit : Nat) (world : World) (clock : List Char → Instant) (name : String)
    (timeout : Number) : (connected limit world clock name timeout).Idle limit world clock 1 world where
  peer_eq := rfl
  table_eq := rfl
  partialLine_eq := rfl
  elapsed_eq := rfl
  served := ⟨[], [], List.forall_mem_nil _, rfl, rfl, rfl⟩

end Remote

theorem Run.session_cons (limit : Nat) (name : String) (input : Value) (rest : List (String × Value)) (world : World) :
    session limit ((name, input) :: rest) world =
      ((named limit name input world).1 :: (session limit rest (named limit name input world).2).1,
        (session limit rest (named limit name input world).2).2) := rfl

namespace Remote

theorem shortIntegers_of_le {small large : Nat} (h : (Value.int large).shortIntegers = true) (hle : small ≤ large) :
    (Value.int small).shortIntegers = true := by
  rw [Value.int, Value.shortIntegers_number, Number.isShort] at h ⊢
  generalize Nat.pow 10 Json.digitLimit = bound at h ⊢
  rw [decide_eq_true_iff] at h ⊢
  omega

/-- Calls end at a distance as they do nearby, from one state between two calls on. -/
theorem Client.Idle.session {limit : Nat} {world between : World} {clock : List Char → Instant} {number : Nat} {c : Client}
    (hidle : c.Idle limit world clock number between) (hinTime : InTime c.timeout clock) (now : Instant)
    {calls : List (String × Value)} (hnumber : (Value.int (number + calls.length - 1 : Nat)).shortIntegers = true)
    (hinputs : ∀ call ∈ calls, Sendable 2 call.2) (hbetween : between.store.Tidy)
    (hcarried : ∀ outcome ∈ (Run.session limit calls between).1, Carried outcome) :
    (c.session now calls).1 = (Run.session limit calls between).1.map (Except.mapError Fault.failure) ∧
      (c.session now calls).2.1.Idle limit world clock (number + calls.length) (Run.session limit calls between).2 := by
  -- a call leaves the client idle, with the next number and the server in the next state
  induction calls generalizing number between c now with
  | nil => exact ⟨rfl, hidle⟩
  | cons call rest ih =>
    obtain ⟨tool, input⟩ := call
    obtain ⟨hinput, hrest⟩ := List.forall_mem_cons.mp hinputs
    rw [Run.session_cons] at hcarried ⊢
    obtain ⟨hfirst, hcarried⟩ := List.forall_mem_cons.mp hcarried
    rw [List.length_cons] at hnumber ⊢
    obtain ⟨houtcome, hnext, htimeout⟩ :=
      hidle.call hinTime now tool (shortIntegers_of_le hnumber (by omega)) hinput hbetween hfirst
    have hafter := (Run.named_tidily limit tool hinput.tidy between hbetween).2
    obtain ⟨houtcomes, hlast⟩ := ih hnext (by rw [htimeout]; exact hinTime) (c.callTool now [] tool input).now
      (by rw [Nat.add_right_comm, Nat.add_assoc]; exact hnumber) hrest hafter hcarried
    rw [Nat.add_right_comm] at hlast
    refine ⟨?_, hlast⟩
    rw [List.map_cons, ← houtcome, ← houtcomes]
    rfl

/-- **Tools at a distance are the tools nearby.**  A client calls tools of a server, one after the other and
under any names, and each call ends exactly as it does where the tools are: with the same value, or with a
failure of the same kind and payload.  The server is left in the same state.  For this its tools are of the
language itself, requests and outcomes have text that can be written and read again, and the server answers
in time. -/
theorem location_transparent (limit : Nat) {world : World} (hworld : world.store.Tidy)
    {clock : List Char → Instant} {timeout : Number} (hinTime : Client.InTime timeout clock) (name : String)
    (now : Instant) {calls : List (String × Value)} (hcount : (Value.int calls.length).shortIntegers = true)
    (hinputs : ∀ call ∈ calls, Sendable 2 call.2)
    (hcarried : ∀ outcome ∈ (Run.session limit calls world).1, Carried outcome) :
    let nearby := Run.session limit calls world
    let distant := (Client.connected limit world clock name timeout).session now calls
    distant.1 = nearby.1.map (Except.mapError Fault.failure) ∧
      (Server.serve limit (Server.lines distant.2.1.sent) world).2 = nearby.2 := by
  intro nearby distant
  have hidle := Client.connected_idle limit world clock name timeout
  obtain ⟨houtcomes, hlast⟩ := hidle.session hinTime now
    (by rw [Nat.add_sub_cancel_left]; exact hcount) hinputs hworld hcarried
  refine ⟨houtcomes, ?_⟩
  obtain ⟨requests, replies, hlines, hsent, hserve, -⟩ := hlast.served
  have hserved : Server.serve limit (Server.lines distant.2.1.sent) world = ((replies, none), nearby.2) := by
    rw [show distant.2.1.sent = Text.unlines requests from hsent, Server.lines_unlines hlines]
    exact hserve
  rw [hserved]

/-- A tool is defined, then used, and then a tool is called that does not exist.  The value of the
defined tool looks like the result of a call. -/
def sampleCalls : List (String × Value) :=
  [("define", .object [("name", .string "five"), ("body", .object [("quote", .object [("value", .int 5)])])]),
    ("five", .null), ("nope", .array [])]

/-- Half a minute. -/
def sampleLimit : Number := .double (Double.ofDecimal false 30 0)

/-- Half a minute is enough for a server that takes no time. -/
theorem inTime_sample : Client.InTime sampleLimit fun _ => 0 := by
  have htime : Host.comesBefore (some (max Instant.millisecond (0 - 0)))
      (Host.allowance (Double.ofDecimal false 30 0)) = true := by decide +kernel
  exact ⟨_, rfl, Option.isNone_iff_eq_none.mp (by decide +kernel), fun _ _ => htime⟩

theorem sendable_sample : ∀ call ∈ sampleCalls, Sendable 2 call.2 := by
  have hdefinition : (Value.object
      [("name", .string "five"), ("body", .object [("quote", .object [("value", .int 5)])])]).shortIntegers = true := by
    decide +kernel
  refine List.forall_mem_cons.mpr ⟨⟨rfl, hdefinition, rfl, rfl⟩, ?_⟩
  exact List.forall_mem_cons.mpr ⟨⟨rfl, rfl, rfl, rfl⟩, List.forall_mem_singleton.mpr ⟨rfl, rfl, rfl, rfl⟩⟩

/-- The theorem for these calls and the built-in tools. -/
theorem location_transparent_sample :
    let nearby := Run.session 5 sampleCalls World.plain
    let distant := (Client.connected 5 World.plain (fun _ => 0) "far" sampleLimit).session 0 sampleCalls
    (∀ call ∈ sampleCalls, Sendable 2 call.2) ∧ (∀ outcome ∈ nearby.1, Carried outcome) ∧
      distant.1 = nearby.1.map (Except.mapError Fault.failure) ∧
      (Server.serve 5 (Server.lines distant.2.1.sent) World.plain).2 = nearby.2 := by
  have hcount : (Value.int sampleCalls.length).shortIntegers = true := by decide +kernel
  have hcarried : ∀ outcome ∈ (Run.session 5 sampleCalls World.plain).1, Carried outcome := by decide +kernel
  exact ⟨sendable_sample, hcarried,
    location_transparent 5 World.plain_tidy inTime_sample "far" 0 hcount sendable_sample hcarried⟩

end Remote

end ToolWeave
