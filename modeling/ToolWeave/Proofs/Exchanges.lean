import ToolWeave.Proofs.Transparency

/-!
# What a server exchanges for the lines it is sent

A server deals with one line after the other.  What it does about one of them is told by a step
(`Server.Exchange`): whether it replies, with which message, and in which state it goes on.  What it does
about all of them is told by a run of such steps (`Server.Exchanges`).  At every moment the server has written
the messages of such a run, each on a line of its own, and it is in the state that the calls of tools have led
to (`Server.serve_exchanges`).

## Main definitions

* `Server.Exchange`: a step, by the kinds of lines.
* `Server.Exchanges`: a run of steps.
* `Server.callIn?`: the call of a tool that a line asks for.
* `Server.Puts`: a text is the line of a message with either a result or an error.

## Design notes

**Moments.**  A moment is a number of lines that have been dealt with.  The lines that follow make no
difference to what was written by then, so it is what a server writes that is sent only those.

**Where a server stops.**  A reply that has no text stops the server, but only once its line has been dealt
with.  If the line calls a tool, then this has happened.
-/

namespace ToolWeave

theorem Run.session_append (limit : Nat) (first second : List (String × Value)) (world : World) :
    (session limit (first ++ second) world).2 =
      (session limit second (session limit first world).2).2 := by
  induction first generalizing world with
  | nil => rfl
  | cons call first ih => exact ih _

namespace Server

/-- What a server does about a line: the message that it replies with, if it does, and the state that it goes
on in. -/
inductive Exchange (limit : Nat) (line : List Char) (world : World) : Option Value → World → Prop
  /-- The line is blank. -/
  | blank (hblank : Text.stripChars line = []) : Exchange limit line world none world
  /-- The line is no JSON text. -/
  | unreadable {fault : Json.Fault} (hblank : Text.stripChars line ≠ []) (hread : request? line = .error fault) :
      Exchange limit line world (some (reply .null (.error .unreadable))) world
  /-- The line holds something else than an object. -/
  | stray {request : Value} (hread : request? line = .ok request) (hother : ∀ fields, request ≠ .object fields) :
      Exchange limit line world (some (reply .null (.error .noRequest))) world
  /-- The line holds an object without an `id`. -/
  | notification {fields : Fields} (hread : request? line = .ok (.object fields))
      (hid : Entries.get? "id" fields = none) : Exchange limit line world none world
  /-- The line calls a tool. -/
  | call {fields : Fields} {id : Value} {name : String} {input : Value}
      (hread : request? line = .ok (.object fields)) (hid : Entries.get? "id" fields = some id)
      (hcall : call? (.object fields) = some (name, input)) :
      Exchange limit line world (some (reply id (answerOf (Run.named limit name input world).1)))
        (Run.named limit name input world).2
  /-- The line has an `id` and calls no tool. -/
  | request {fields : Fields} {id : Value} {answer : Except Refusal Value}
      (hread : request? line = .ok (.object fields)) (hid : Entries.get? "id" fields = some id)
      (hcall : call? (.object fields) = none) (hanswer : handle limit (.object fields) world = (answer, world)) :
      Exchange limit line world (some (reply id answer)) world

/-- What a server does about some lines: the messages that it replies with, and the state afterwards. -/
inductive Exchanges (limit : Nat) : List (List Char) → World → List Value → World → Prop
  | nil (world : World) : Exchanges limit [] world [] world
  | cons {line : List Char} {rest : List (List Char)} {world between after : World} {message : Option Value}
      {messages : List Value} (hline : Exchange limit line world message between)
      (hrest : Exchanges limit rest between messages after) :
      Exchanges limit (line :: rest) world (message.toList ++ messages) after

/-- The name and the input of the tool that a line with an `id` calls, if it calls one. -/
def callIn? (line : List Char) : Option (String × Value) :=
  match request? line with
  | .ok (.object fields) => if Entries.has "id" fields then call? (.object fields) else none
  | _ => none

/-- A text is the line of a message, which has either a result or an error. -/
structure Puts (message : Value) (text : String) : Prop where
  line : Json.line message = .ok text
  oneLine : Text.OneLine text.toList
  either : (message.field? "error").isSome = !(message.field? "result").isSome

/-! ### Steps -/

section Steps

variable {limit : Nat} {line : List Char} {world after : World} {message : Option Value}

/-- What a server does about a line is one of the steps. -/
theorem exchange_answer (limit : Nat) (line : List Char) (world : World) :
    Exchange limit line world (answer limit line world).1 (answer limit line world).2 := by
  by_cases hblank : Text.stripChars line = []
  · have howed : owed line = false := by
      unfold owed
      rw [hblank]
      rfl
    rw [answer_of_not_owed limit world howed]
    exact .blank hblank
  have hempty : (Text.stripChars line).isEmpty = false := List.isEmpty_eq_false_iff.mpr hblank
  have howed := answer_apply limit line world
  unfold owed idOf handleLine at howed
  rw [hempty, Bool.not_false, Bool.true_and] at howed
  cases hread : request? line with
  | error fault =>
    rw [hread] at howed
    rw [howed]
    exact .unreadable hblank hread
  | ok request =>
    rw [hread] at howed
    cases request with
    | object fields =>
      dsimp only [Entries.has] at howed
      cases hid : Entries.get? "id" fields with
      | none =>
        rw [hid] at howed
        rw [howed]
        exact .notification hread hid
      | some id =>
        rw [hid] at howed
        rw [howed]
        dsimp only [Option.isSome_some, cond_true, Option.getD_some]
        cases hcall : call? (.object fields) with
        | none =>
          obtain ⟨answer, hanswer, -⟩ := handle_of_no_call limit hcall world
          rw [hanswer]
          exact .request hread hid hcall hanswer
        | some called =>
          rw [handle_of_call hcall]
          exact .call hread hid hcall
    | _ =>
      rw [howed]
      exact .stray hread (fun _ h => by cases h)

theorem Exchange.exists_reply {message : Value} (h : Exchange limit line world (some message) after) :
    ∃ id answer, message = reply id answer := by
  cases h <;> exact ⟨_, _, rfl⟩

/-- A line leads to the state that the call in it leads to, if there is one. -/
theorem Exchange.after_eq (h : Exchange limit line world message after) :
    after = (Run.session limit (callIn? line).toList world).2 := by
  unfold callIn?
  cases h with
  | blank hblank =>
    unfold request?
    rw [hblank]
    rfl
  | unreadable hblank hread =>
    rw [hread]
    rfl
  | @stray request hread hother =>
    rw [hread]
    cases request with
    | object fields => exact absurd rfl (hother fields)
    | _ => rfl
  | notification hread hid =>
    rw [hread]
    dsimp only
    rw [Entries.has, hid]
    rfl
  | call hread hid hcall =>
    rw [hread]
    dsimp only
    rw [Entries.has, hid, hcall]
    rfl
  | request hread hid hcall hanswer =>
    rw [hread]
    dsimp only
    rw [Entries.has, hid, hcall]
    rfl

theorem reply_either (id : Value) (answer : Except Refusal Value) :
    ((reply id answer).field? "error").isSome = !((reply id answer).field? "result").isSome := by
  cases answer <;> rfl

/-- What is written for a message is its line. -/
theorem Exchange.puts {message : Value} (h : Exchange limit line world (some message) after) {text : String}
    (htext : Json.line message = .ok text) : Puts message text := by
  obtain ⟨id, answer, rfl⟩ := h.exists_reply
  exact ⟨htext, Json.oneLine_of_line htext, reply_either id answer⟩

theorem oneLine_of_puts {messages : List Value} {texts : List String} (h : List.Forall₂ Puts messages texts) :
    ∀ text ∈ texts, Text.OneLine text.toList := by
  induction h with
  | nil => exact nofun
  | cons hputs _ ih => exact List.forall_mem_cons.mpr ⟨hputs.oneLine, ih⟩

end Steps

/-! ### Runs -/

section Runs

variable {limit : Nat} {lines : List (List Char)} {world after : World} {messages : List Value}

/-- Lines lead to the state that the calls in them lead to. -/
theorem Exchanges.after_eq (h : Exchanges limit lines world messages after) :
    after = (Run.session limit (lines.filterMap callIn?) world).2 := by
  induction h with
  | nil => rfl
  | @cons line rest world between after message messages hline hrest ih =>
    have hcalls : (line :: rest).filterMap callIn? = (callIn? line).toList ++ rest.filterMap callIn? := by
      rw [List.filterMap_cons]
      cases callIn? line <;> rfl
    rw [hcalls, Run.session_append, ← hline.after_eq]
    exact ih

/-- A server that is sent some lines writes what it replies to them, up to a reply that cannot be
written. -/
theorem exchanges_serve (limit : Nat) (lines : List (List Char)) (world : World) :
    ∃ read unread messages between, lines = read ++ unread ∧ Exchanges limit read world messages between ∧
      List.Forall₂ Puts messages (serve limit lines world).1.1 ∧
      ((unread = [] ∧ (serve limit lines world).1.2 = none ∧ (serve limit lines world).2 = between) ∨
        ∃ line rest message after cause, unread = line :: rest ∧
          Exchange limit line between (some message) after ∧ Json.line message = .error cause ∧
          (serve limit lines world).1.2 = some cause) := by
  induction lines generalizing world with
  | nil => exact ⟨[], [], [], world, rfl, .nil world, .nil, .inl ⟨rfl, rfl, rfl⟩⟩
  | cons line rest ih =>
    have hline := exchange_answer limit line world
    obtain ⟨read, unread, messages, between, rfl, hread, hputs, hend⟩ := ih (answer limit line world).2
    rw [serve_cons]
    cases hanswer : (answer limit line world).1 with
    | none =>
      rw [hanswer] at hline
      exact ⟨line :: read, unread, messages, between, rfl, .cons hline hread, hputs, hend⟩
    | some message =>
      rw [hanswer] at hline
      dsimp only
      cases htext : Json.line message with
      | error cause =>
        -- the line is dealt with, but nothing is written for it nor for any that follow
        exact ⟨[], line :: (read ++ unread), [], world, rfl, .nil world, .nil,
          .inr ⟨line, read ++ unread, message, _, cause, rfl, hline, htext, rfl⟩⟩
      | ok text =>
        exact ⟨line :: read, unread, message :: messages, between, rfl, .cons hline hread,
          .cons (hline.puts htext) hputs, hend⟩

/-- What a server has written stays when more lines follow. -/
theorem serve_prefix (limit : Nat) (first rest : List (List Char)) (world : World) :
    (serve limit first world).1.1 <+: (serve limit (first ++ rest) world).1.1 := by
  induction first generalizing world with
  | nil => exact List.nil_prefix
  | cons line first ih =>
    have hrest := ih (answer limit line world).2
    rw [List.cons_append, serve_cons, serve_cons]
    cases (answer limit line world).1 with
    | none => exact hrest
    | some message =>
      dsimp only
      cases Json.line message with
      | error cause => exact List.prefix_refl _
      | ok text => exact List.cons_prefix_cons.mpr ⟨rfl, hrest⟩

end Runs

end Server

end ToolWeave
