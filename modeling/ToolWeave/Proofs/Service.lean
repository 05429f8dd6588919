import ToolWeave.Proofs.FrameIsolation
import ToolWeave.Proofs.RoundTrip
import ToolWeave.Remote.Server

/-!
# What a server answers

A server reads more than it can write.  A line may hold `NaN`, and a tool may give an integer of any
length, but neither has JSON text.  So a server stops where the `id` of a line holds a number that is not
finite, or where a tool ends with an integer that is too long, and nowhere else: up to such a line every
line gets the one reply it is owed (`Server.serve_answers`).

## Main definitions

* `Server.owed`: a line is neither blank nor a notification.
* `Server.Unanswerable`: the reply to a line cannot be written in a state.
* `Store.Native`: only tools of the language itself are bound.

## Design notes

**Why the tools matter.**  A server lists its tools with what they say about themselves, and a foreign
tool may say anything.  Those of the language have text, and whatever programs do, they bind no others.
-/

namespace ToolWeave

/-- Only tools of the language itself are bound: built-in tools, constants and tools that programs
defined. -/
def Store.Native (store : Store) : Prop := ∀ tool, store.Holds tool → tool.isForeign = false

/-- A store that grew by the work of programs binds no foreign tools. -/
theorem Store.Native.grows {changed : Nat → Prop} {before after : Store} (hbefore : before.Native)
    (h : Store.Grows changed before after) : after.Native := by
  intro tool htool
  rcases h.made tool htool with htool | hmade
  · exact hbefore tool htool
  · cases hmade <;> rfl

theorem Store.Native.lookup {world : World} (h : world.store.Native) {name : String} {tool : Tool}
    (htool : world.lookup name = some tool) : tool.isForeign = false := by
  obtain ⟨binding, hbinding, rfl⟩ := Option.map_eq_some_iff.mp htool
  exact h _ (Store.holds_of_binding? hbinding)

theorem World.plain_native : World.plain.store.Native := by
  intro tool htool
  obtain ⟨entry, hentry, rfl⟩ := Store.holds_of_add_empty [] htool
  obtain ⟨b, -, rfl⟩ := List.mem_map.mp hentry
  rfl

namespace Run

/-- What a tool gives that is invoked from outside is a JSON value. -/
theorem isFinite_of_named {limit : Nat} {name : String} {input : Value} {world : World} {v : Value}
    (h : (named limit name input world).1 = .ok v) : v.isFinite = true := by
  unfold named at h
  rw [bind_of_ok (lookup_apply name world)] at h
  cases hlookup : world.lookup name with
  | none =>
    rw [hlookup] at h
    cases h
  | some tool =>
    rw [hlookup] at h
    exact isFinite_of_invokeAt h

/-- Invoking a tool from outside binds no foreign tools. -/
theorem named_native {world : World} (hworld : world.store.Native) (limit : Nat) (name : String)
    (input : Value) : (named limit name input world).2.store.Native := by
  unfold named
  rw [bind_of_ok (lookup_apply name world)]
  cases world.lookup name with
  | none => exact hworld
  | some tool => exact hworld.grows (again_keeps reentries limit limit .other tool input world).grows

end Run

namespace Server

/-- What a line holds, with the space around it taken off. -/
def request? (line : List Char) : Except Json.Fault Value :=
  Json.readChars .lenient (Text.stripChars line)

/-- Whether a line is owed a reply.  Blank lines are not, nor are notifications, which are objects
without an `id`. -/
def owed (line : List Char) : Bool :=
  !(Text.stripChars line).isEmpty &&
    match request? line with
    | .ok (.object fields) => Entries.has "id" fields
    | _ => true

/-- The `id` of a line that holds one, else null. -/
def idOf (line : List Char) : Value :=
  match request? line with
  | .ok (.object fields) => (Entries.get? "id" fields).getD .null
  | _ => .null

/-- The name and the input of the tool that a method with parameters calls, if it calls one. -/
def callOf? (method : String) (params : Fields) : Option (String × Value) :=
  if method = "tools/call" then
    match Entries.get? "name" params with
    | some (.string name) => some (name, (Entries.get? "arguments" params).getD .null)
    | _ => none
  else none

/-- The name and the input of the tool that a request calls, if it calls one. -/
def call? (request : Value) : Option (String × Value) :=
  match request.field? "method", (request.field? "params").getD .null with
  | some (.string method), .object params => callOf? method params
  | _, _ => none

/-- What is done about a line that is owed a reply. -/
def handleLine (limit : Nat) (line : List Char) : StateM World (Except Refusal Value) :=
  match request? line with
  | .error _ => return .error .unreadable
  | .ok request => handle limit request

theorem answer_eq (limit : Nat) (line : List Char) :
    answer limit line =
      bif owed line then do return some (reply (idOf line) (← handleLine limit line)) else return none := by
  unfold answer owed idOf handleLine request?
  dsimp only
  cases (Text.stripChars line).isEmpty with
  | true => rfl
  | false =>
    rw [if_neg (by decide), Bool.not_false, Bool.true_and]
    cases Json.readChars .lenient (Text.stripChars line) with
    | error fault => rfl
    | ok request =>
      cases request with
      | object fields =>
        dsimp only [Entries.has]
        cases Entries.get? "id" fields <;> rfl
      | _ => rfl

/-- A line that is owed a reply gets the answer to what it holds, and other lines change nothing. -/
theorem answer_apply (limit : Nat) (line : List Char) (world : World) :
    answer limit line world =
      bif owed line then
        (some (reply (idOf line) (handleLine limit line world).1), (handleLine limit line world).2)
      else (none, world) := by
  rw [answer_eq]
  cases owed line <;> rfl

/-- How an answer tells the outcome of a call. -/
def answerOf : Except ToolError Value → Except Refusal Value
  | .ok value => .ok (.object [("value", value)])
  | .error e => .error (.failed e)

/-- An answer has JSON text. -/
def Writable : Except Refusal Value → Prop
  | .ok result => Json.unwritable? result = none
  | .error refusal => Json.unwritable? refusal.toValue = none

/-- The second part of a computation over the state starts where the first one ended. -/
theorem bind_apply {α β : Type} (x : StateM World α) (f : α → StateM World β) (world : World) :
    (x >>= f) world = f (x world).1 (x world).2 := rfl

theorem callTool_apply (limit : Nat) (params : Fields) (world : World) :
    callTool limit params world =
      match callOf? "tools/call" params with
      | some (name, input) =>
        (answerOf (Run.named limit name input world).1, (Run.named limit name input world).2)
      | none => (.error .noName, world) := by
  unfold callTool callOf?
  rw [if_pos rfl]
  cases Entries.get? "name" params with
  | none => rfl
  | some found =>
    cases found with
    | string name =>
      dsimp only
      rw [bind_apply]
      generalize hrun : Run.named limit name _ = run
      show (match (run world).1 with | .ok _ => _ | .error _ => _ : StateM World _) (run world).2 = _
      cases (run world).1 <;> rfl
    | _ => rfl

/-! ### Answers with text -/

theorem unwritable?_toValue {e : ToolError} :
    Json.unwritable? e.toValue = none ↔ Json.unwritable? e.payload = none := by
  rw [ToolError.toValue, Json.unwritable?_object, List.forall_mem_cons, List.forall_mem_singleton]
  exact and_iff_right rfl

/-- A refusal has text, if the payload of the failure it carries has. -/
theorem writable_error {refusal : Refusal} :
    Writable (.error refusal) ↔ ∀ e, refusal = .failed e → Json.unwritable? e.payload = none := by
  have hcode : Json.unwritable? (.int refusal.code) = none := by
    have hsmall : refusal.code.natAbs < 10 ^ 5 := by cases refusal <;> simp [Refusal.code]
    exact Json.unwritable?_int (by decide) hsmall
  have hmessage : Json.unwritable? (.string refusal.message) = none := rfl
  cases refusal with
  | failed e =>
    show Json.unwritable? (.object [("code", .int (Refusal.failed e).code),
      ("message", .string (Refusal.failed e).message), ("data", e.toValue)]) = none ↔ _
    rw [Json.unwritable?_object, List.forall_mem_cons, List.forall_mem_cons, List.forall_mem_singleton,
      and_iff_right hcode, and_iff_right hmessage, unwritable?_toValue]
    constructor
    · intro h other hother
      cases hother
      exact h
    · exact fun h => h e rfl
  | _ =>
    refine iff_of_true ?_ nofun
    show Json.unwritable? (.object [("code", .int _), ("message", .string _)]) = none
    rw [Json.unwritable?_object, List.forall_mem_cons, List.forall_mem_singleton]
    exact ⟨hcode, hmessage⟩

/-- A request is given to its method, or it is refused. -/
theorem handle_cases (limit : Nat) (request : Value) :
    (∃ method params, handle limit request = dispatch limit method params ∧
      call? request = callOf? method params) ∨
    ∃ refusal, handle limit request = pure (.error refusal) ∧ Writable (.error refusal) ∧
      call? request = none := by
  unfold handle call?
  cases request.field? "method" with
  | none => exact .inr ⟨.noRequest, rfl, writable_error.mpr (fun _ h => by cases h), rfl⟩
  | some found =>
    cases found with
    | string method =>
      dsimp only
      generalize (request.field? "params").getD .null = params
      cases params with
      | object fields =>
        refine .inl ⟨method, fields, ?_, rfl⟩
        cases fields <;> rfl
      | _ =>
        have hcall : callOf? method [] = none := by
          unfold callOf?
          split <;> rfl
        split
        · exact .inl ⟨method, [], rfl, hcall.symm⟩
        · exact .inr ⟨.parameters, rfl, writable_error.mpr (fun _ h => by cases h), rfl⟩
    | _ => exact .inr ⟨.noRequest, rfl, writable_error.mpr (fun _ h => by cases h), rfl⟩

/-- A request is given to its method where the parameters are an object, if there are any. -/
theorem handle_of_parameters (limit : Nat) {request : Value} {method : String}
    (hmethod : request.field? "method" = some (.string method))
    (hparams : ∀ params ∈ request.field? "params", params.isGiven = true → params.kind = .object) :
    ∃ fields, handle limit request = dispatch limit method fields := by
  unfold handle
  rw [hmethod]
  dsimp only
  cases hfound : request.field? "params" with
  | none => exact ⟨[], rfl⟩
  | some params =>
    rw [Option.getD_some]
    cases hgiven : params.isGiven with
    | false => exact ⟨[], rfl⟩
    | true =>
      have hobject := hparams params hfound hgiven
      cases params with
      | object fields => exact ⟨fields, rfl⟩
      | _ => cases hobject

theorem unwritable?_strings (texts : List String) : Json.unwritable? (.strings texts) = none := by
  unfold Value.strings
  rw [Json.unwritable?_array]
  intro item hitem
  obtain ⟨text, -, rfl⟩ := List.mem_map.mp hitem
  rfl

/-- What a tool of the language says about itself has text. -/
theorem unwritable?_spec {tool : Tool} (h : tool.isForeign = false) :
    Json.unwritable? (.object tool.spec.parameters) = none := by
  cases tool with
  | builtin b =>
    refine Json.unwritable?_eq_none.mpr ⟨?_, ?_⟩
    · cases b <;> rfl
    · cases b <;> decide +kernel
  | constant value => rfl
  | defined parameters description body closure =>
    dsimp only [Tool.spec, definedSchema]
    split
    · rfl
    · rw [Json.unwritable?_object, List.forall_mem_cons, List.forall_mem_singleton]
      exact ⟨rfl, unwritable?_strings parameters⟩
  | _ => cases h

theorem unwritable?_listing {world : World} (hworld : world.store.Native) :
    Json.unwritable? (listing world) = none := by
  unfold listing
  rw [Json.unwritable?_object, List.forall_mem_singleton, Json.unwritable?_array]
  intro entry hentry
  obtain ⟨name, -, rfl⟩ := List.mem_map.mp hentry
  have hspec : Json.unwritable? (.object (((world.lookup name).map Tool.spec).getD Spec.empty).parameters)
      = none := by
    cases hlookup : world.lookup name with
    | none => rfl
    | some tool => exact unwritable?_spec (hworld.lookup hlookup)
  unfold entryOf
  rw [Json.unwritable?_object, List.forall_mem_cons, List.forall_mem_cons, List.forall_mem_singleton]
  exact ⟨rfl, rfl, hspec⟩

/-- A request that calls a tool is answered with the outcome. -/
theorem handle_of_call {limit : Nat} {request : Value} {name : String} {input : Value}
    (h : call? request = some (name, input)) (world : World) :
    handle limit request world =
      (answerOf (Run.named limit name input world).1, (Run.named limit name input world).2) := by
  rcases handle_cases limit request with ⟨method, params, hhandle, hcall⟩ | ⟨refusal, -, -, hnone⟩
  · rw [h] at hcall
    have hmethod : method = "tools/call" := by
      by_contra hne
      rw [callOf?, if_neg hne] at hcall
      cases hcall
    subst hmethod
    have hdispatch : dispatch limit "tools/call" params = callTool limit params := rfl
    rw [hhandle, hdispatch, callTool_apply, ← hcall]
  · rw [h] at hnone
    cases hnone

/-- A request that calls no tool changes nothing.  Its answer has text, if only tools of the language are
bound. -/
theorem handle_of_no_call (limit : Nat) {request : Value} (h : call? request = none) (world : World) :
    ∃ answer, handle limit request world = (answer, world) ∧ (world.store.Native → Writable answer) := by
  rcases handle_cases limit request with ⟨method, params, hhandle, hcall⟩ | ⟨refusal, hhandle, htext, -⟩
  · rw [h] at hcall
    rw [hhandle]
    unfold dispatch
    split
    · exact ⟨.ok greeting, rfl, fun _ => rfl⟩
    split
    · exact ⟨.ok (listing world), rfl, unwritable?_listing⟩
    split
    · next hmethod =>
      rw [hmethod] at hcall
      rw [callTool_apply, ← hcall]
      exact ⟨_, rfl, fun _ => writable_error.mpr fun _ h => by cases h⟩
    · exact ⟨_, rfl, fun _ => writable_error.mpr fun _ h => by cases h⟩
  · exact ⟨.error refusal, by rw [hhandle]; rfl, fun _ => htext⟩

/-! ### Replies with text -/

/-- An outcome holds an integer that has too many digits to be written. -/
def Oversized : Except ToolError Value → Prop
  | .ok value => value.shortIntegers = false
  | .error e => e.payload.shortIntegers = false

/-- The reply to a line cannot be written in a state: its `id` holds a number that is not finite, or the
tool that it calls ends with an integer that is too long. -/
def Unanswerable (limit : Nat) (line : List Char) (world : World) : Prop :=
  owed line = true ∧
    ((idOf line).isFinite = false ∨
      ∃ request name input, request? line = .ok request ∧ call? request = some (name, input) ∧
        Oversized (Run.named limit name input world).1)

theorem writable_answerOf {outcome : Except ToolError Value}
    (hfinite : ∀ value, outcome = .ok value → value.isFinite = true) :
    Writable (answerOf outcome) ↔ ¬ Oversized outcome := by
  cases outcome with
  | ok value =>
    show Json.unwritable? (.object [("value", value)]) = none ↔ ¬ value.shortIntegers = false
    rw [Json.unwritable?_object, List.forall_mem_singleton, Json.unwritable?_eq_none,
      and_iff_right (hfinite value rfl), Bool.not_eq_false]
  | error e =>
    show Writable (.error (.failed e)) ↔ ¬ e.payload.shortIntegers = false
    rw [writable_error, Bool.not_eq_false]
    constructor
    · exact fun h => (Json.unwritable?_eq_none.mp (h e rfl)).2
    · rintro h other hother
      cases hother
      exact Json.unwritable?_eq_none.mpr ⟨e.isFinite_payload, h⟩

theorem unwritable?_reply {id : Value} {answer : Except Refusal Value} :
    Json.unwritable? (reply id answer) = none ↔ Json.unwritable? id = none ∧ Writable answer := by
  have hversion : Json.unwritable? (.string "2.0") = none := rfl
  cases answer with
  | ok result =>
    show Json.unwritable? (.object [("jsonrpc", .string "2.0"), ("id", id), ("result", result)]) = none ↔ _
    rw [Json.unwritable?_object, List.forall_mem_cons, List.forall_mem_cons, List.forall_mem_singleton,
      and_iff_right hversion]
    rfl
  | error refusal =>
    show Json.unwritable? (.object [("jsonrpc", .string "2.0"), ("id", id), ("error", refusal.toValue)])
      = none ↔ _
    rw [Json.unwritable?_object, List.forall_mem_cons, List.forall_mem_cons, List.forall_mem_singleton,
      and_iff_right hversion]
    rfl

/-- Integers of an `id` have been read, so they are short. -/
theorem unwritable?_idOf {line : List Char} :
    Json.unwritable? (idOf line) = none ↔ (idOf line).isFinite = true := by
  rw [Json.unwritable?_eq_none, and_iff_left_iff_imp]
  intro _
  unfold idOf
  split
  · next fields hread =>
    have hlegible : (Value.object fields).Legible := Json.legible_of_readChars hread
    cases hid : Entries.get? "id" fields with
    | none => rfl
    | some id => exact Value.shortIntegers_object.mp hlegible.shortIntegers _ (Entries.mem_of_get? hid)
  · rfl

/-- The reply to a line has text exactly if the line is answerable. -/
theorem unwritable?_reply_handleLine (limit : Nat) {line : List Char} {world : World}
    (howed : owed line = true) (hworld : world.store.Native) :
    Json.unwritable? (reply (idOf line) (handleLine limit line world).1) = none ↔
      ¬ Unanswerable limit line world := by
  rw [unwritable?_reply, unwritable?_idOf]
  unfold Unanswerable
  rw [and_iff_right howed, not_or, Bool.not_eq_false]
  refine and_congr_right fun _ => ?_
  unfold handleLine
  cases hread : request? line with
  | error fault =>
    exact iff_of_true (writable_error.mpr (fun _ h => by cases h)) fun ⟨_, _, _, h, _⟩ => by cases h
  | ok request =>
    dsimp only
    cases hcall : call? request with
    | none =>
      obtain ⟨answer, hanswer, htext⟩ := handle_of_no_call limit hcall world
      rw [hanswer]
      refine iff_of_true (htext hworld) fun ⟨_, _, _, hother, h, _⟩ => ?_
      cases hother
      rw [hcall] at h
      cases h
    | some call =>
      obtain ⟨name, input⟩ := call
      rw [handle_of_call hcall, writable_answerOf fun value h => Run.isFinite_of_named h, not_iff_not]
      constructor
      · exact fun h => ⟨request, name, input, rfl, hcall, h⟩
      · rintro ⟨_, _, _, hother, h, hover⟩
        cases hother
        rw [hcall] at h
        cases h
        exact hover

/-! ### All lines -/

/-- The state after some lines have been answered. -/
def after (limit : Nat) (lines : List (List Char)) (world : World) : World :=
  lines.foldl (fun world line => (answer limit line world).2) world

/-- All of some lines are answerable, one after the other. -/
def AllAnswerable (limit : Nat) : List (List Char) → World → Prop
  | [], _ => True
  | line :: rest, world =>
    ¬ Unanswerable limit line world ∧ AllAnswerable limit rest (answer limit line world).2

/-- A text is a reply to a line: a message with the `id` of the line that carries an answer. -/
def Replies (line : List Char) (text : String) : Prop :=
  ∃ answer, Json.line (reply (idOf line) answer) = .ok text

section Serving

variable (limit : Nat) {line : List Char} (rest : List (List Char)) {world : World}

/-- Answering a line binds no foreign tools. -/
theorem answer_native (hworld : world.store.Native) (line : List Char) :
    (answer limit line world).2.store.Native := by
  rw [answer_apply]
  cases owed line with
  | false => exact hworld
  | true =>
    show (handleLine limit line world).2.store.Native
    unfold handleLine
    cases request? line with
    | error fault => exact hworld
    | ok request =>
      dsimp only
      cases hcall : call? request with
      | none =>
        obtain ⟨answer, hanswer, -⟩ := handle_of_no_call limit hcall world
        rw [hanswer]
        exact hworld
      | some call =>
        rw [handle_of_call hcall]
        exact Run.named_native hworld limit call.1 call.2

theorem answer_of_not_owed (world : World) (h : owed line = false) :
    answer limit line world = (none, world) := by
  rw [answer_apply, h]
  rfl

theorem answer_of_owed (h : owed line = true) :
    answer limit line world =
      (some (reply (idOf line) (handleLine limit line world).1), (handleLine limit line world).2) := by
  rw [answer_apply, h]
  rfl

/-- A line is answered, and then those after it are, unless its reply cannot be written. -/
theorem serve_cons (line : List Char) (world : World) :
    serve limit (line :: rest) world =
      match (answer limit line world).1 with
      | none => serve limit rest (answer limit line world).2
      | some message =>
        match Json.line message with
        | .error cause => (([], some cause), (answer limit line world).2)
        | .ok text =>
          ((text :: (serve limit rest (answer limit line world).2).1.1,
            (serve limit rest (answer limit line world).2).1.2),
            (serve limit rest (answer limit line world).2).2) := by
  rw [serve, bind_apply]
  cases (answer limit line world).1 with
  | none => rfl
  | some message =>
    dsimp only
    cases Json.line message <;> rfl

theorem serve_of_not_owed (world : World) (h : owed line = false) :
    serve limit (line :: rest) world = serve limit rest world := by
  rw [serve_cons, answer_of_not_owed limit world h]

theorem serve_of_unwritable {cause : Json.Unwritable} (howed : owed line = true)
    (h : Json.line (reply (idOf line) (handleLine limit line world).1) = .error cause) :
    (serve limit (line :: rest) world).1 = ([], some cause) := by
  rw [serve_cons, answer_of_owed limit howed]
  dsimp only
  rw [h]

theorem serve_of_written {text : String} (howed : owed line = true)
    (h : Json.line (reply (idOf line) (handleLine limit line world).1) = .ok text) :
    (serve limit (line :: rest) world).1 =
      (text :: (serve limit rest (answer limit line world).2).1.1,
        (serve limit rest (answer limit line world).2).1.2) := by
  rw [serve_cons, answer_of_owed limit howed]
  dsimp only
  rw [h]

end Serving

/-- A request whose `id` holds a number that is not finite, and a request after it. -/
def requests : List (List Char) :=
  ["\x7b\"id\": NaN, \"method\": \"nope\"\x7d".toList, "\x7b\"id\": 1, \"method\": \"nope\"\x7d".toList]

end Server

end ToolWeave
