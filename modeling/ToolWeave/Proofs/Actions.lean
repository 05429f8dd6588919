import ToolWeave.Evaluation.Invocation
import ToolWeave.Proofs.Runs

/-!
# What the single actions do

The built-in tools that change bindings or use the console first read their input, which the state has
no part in, and then do one thing to the state.  Each equation here says this of one of them for all
states at once, so that statements about one state, or about two, need not open it again.
-/

namespace ToolWeave

/-- A run that fails in every state and changes nothing. -/
def Run.Refuses {α : Type} (action : Run α) : Prop :=
  ∃ e, ∀ world, action world = (.error e, world)

namespace Run

variable {α β : Type}

/-- What reads its input first fails on it, or goes on with what it has read. -/
theorem refuses_or (outcome : Except ToolError α) (f : α → Run β) :
    Refuses (ofExcept outcome >>= f) ∨ ∃ a, outcome = .ok a ∧ (ofExcept outcome >>= f) = f a := by
  cases outcome with
  | error e => exact .inl ⟨e, fun _ => rfl⟩
  | ok a => exact .inr ⟨a, rfl, rfl⟩

end Run

namespace Bindings

theorem define_cases (input : Value) :
    Run.Refuses (define input) ∨
      ∃ request : Request, ∀ world, define input world =
        (.ok (.string request.name),
          { world with
            store := world.store.create world.environment request.name request.parameters
              request.description request.body }) := by
  unfold define
  rcases Run.refuses_or (request input) _ with h | ⟨request, -, h⟩
  · exact .inl h
  · rw [h]
    exact .inr ⟨request, fun _ => rfl⟩

theorem undefine_cases (input : Value) :
    Run.Refuses (undefine input) ∨
      ∃ name, ∀ world, undefine input world =
        (.ok (.bool (Entries.has name (world.store.frameAt world.environment.frame))),
          { world with store := world.store.undefine world.environment name }) := by
  unfold undefine
  rcases Run.refuses_or (Expect.object "undefine" ["name"] input) _ with h | ⟨fields, -, h⟩
  · exact .inl h
  rw [h]
  rcases Run.refuses_or (Expect.string "undefine" "a string name"
    ((Entries.get? "name" fields).getD .null)) _ with h | ⟨name, -, h⟩
  · exact .inl h
  rw [h]
  exact .inr ⟨name, fun _ => rfl⟩

theorem rebind_cases (input : Value) :
    Run.Refuses (rebind input) ∨
      ∃ name source, ∀ world, rebind input world =
        match world.store.binding? world.environment source with
        | none => (.error (.unknownTool source), world)
        | some binding =>
          (.ok (.string name),
            { world with store := world.store.bind world.environment name binding }) := by
  unfold rebind
  rcases Run.refuses_or (Expect.object "alias" ["name", "tool"] input) _ with h | ⟨fields, -, h⟩
  · exact .inl h
  rw [h]
  rcases Run.refuses_or (Expect.string "alias" "a string name"
    ((Entries.get? "name" fields).getD .null)) _ with h | ⟨name, -, h⟩
  · exact .inl h
  rw [h]
  rcases Run.refuses_or (Expect.string "alias" "a string tool name"
    ((Entries.get? "tool" fields).getD .null)) _ with h | ⟨source, -, h⟩
  · exact .inl h
  rw [h]
  by_cases hname : name = ""
  · rw [if_pos hname]
    exact .inl ⟨_, fun _ => rfl⟩
  · rw [if_neg hname]
    refine .inr ⟨name, source, fun world => ?_⟩
    show (match world.store.binding? world.environment source with
      | none => throw (.unknownTool source)
      | some binding => do
        set { world with store := world.store.bind world.environment name binding }
        return .string name : Run Value) world = _
    cases world.store.binding? world.environment source <;> rfl

end Bindings

namespace ConsoleTools

theorem print_cases (input : Value) :
    Run.Refuses (print input) ∨
      ∃ text, ∀ world, print input world =
        if world.console.working then
          (.ok input,
            { world with console.printed := world.console.printed ++ text ++ "\n" })
        else
          (.error (.toolFailure "Write failed"
            [("description", .string "[Errno 28] No space left on device")]), world) := by
  unfold print
  rcases Run.refuses_or (textOf input) _ with h | ⟨text, -, h⟩
  · exact .inl h
  rw [h]
  refine .inr ⟨text, fun world => ?_⟩
  show (if world.console.working then _ else _ : Run Value) world = _
  split <;> rfl

theorem readLine_apply (world : World) :
    readLine world =
      if world.console.working then
        (.ok (lineValue (cutLine world.console.input).1),
          { world with console.input := (cutLine world.console.input).2 })
      else
        (.error (.toolFailure "Read failed"
          [("description", .string "[Errno 9] Bad file descriptor")]), world) := by
  show (if world.console.working then _ else _ : Run Value) world = _
  split <;> rfl

end ConsoleTools

/-! ### Tools from outside -/

/-- A command takes time and may change the host. -/
theorem Command.run_state (c : Command) (input : Value) (world : World) :
    ∃ now host, (c.run input world).2 = { world with now := now, host := host } := by
  unfold Command.run
  cases Json.line input with
  | error cause => exact ⟨world.now, world.host, rfl⟩
  | ok text =>
    let done := world.host.complete world.now world.scopes c.words c.directory c.vars c.timeout text
    refine ⟨done.now, done.host, ?_⟩
    show (Run.ofExcept (c.result done.ending) { world with now := done.now, host := done.host }).2 = _
    rw [Run.ofExcept_apply]

/-- A tool of a remote server takes time and may change the server. -/
theorem Remote.call_state (server : Nat) (name : String) (input : Value) (world : World) :
    ∃ now servers,
      (Remote.call server name input world).2 = { world with now := now, servers := servers } := by
  unfold Remote.call
  rw [Run.bind_of_ok (Run.get_apply world)]
  cases world.servers[server]? with
  | none => exact ⟨world.now, world.servers, rfl⟩
  | some client =>
    let ended := client.callTool world.now world.scopes name input
    refine ⟨ended.now, world.servers.set server ended.client, ?_⟩
    show (Run.ofExcept (ended.outcome.mapError Fault.toError) _).2 = _
    rw [Run.ofExcept_apply]

/-! ### Invocations -/

namespace Tool

/-- The state in which a tool acts: the beginning of its invocation is recorded. -/
def begun (starter : Starter) (tool : Tool) (input : Value) (world : World) : World :=
  { world with trace := .began starter tool input :: world.trace }

/-- What becomes of a result: it is passed on if it is a JSON value. -/
def verdict (result : Value) : Except ToolError Value :=
  if result.isFinite then .ok result
  else .error (.toolFailure "Tool returned a non-JSON value" [("type", .string result.kind.name)])

theorem checked_apply (result : Value) (world : World) :
    checked result world = (verdict result, world) := by
  unfold checked verdict
  split <;> rfl

/-- An invocation ends as its tool does, if the result is a JSON value, and the end is recorded. -/
theorem perform_apply (starter : Starter) (reach : Reach) (tool : Tool) (input : Value)
    (world : World) :
    tool.perform starter reach input world =
      ((tool.act reach input (begun starter tool input world)).1.bind verdict,
        { (tool.act reach input (begun starter tool input world)).2 with
          trace := .ended :: (tool.act reach input (begun starter tool input world)).2.trace }) := by
  have hbegun : Run.record (.began starter tool input) world =
      (.ok (), begun starter tool input world) := rfl
  unfold perform
  rw [Run.bind_of_ok hbegun, Run.bind_of_ok (Run.capture_apply _ _),
    Run.bind_of_ok (Run.record_apply _ _), Run.bind_apply, Run.ofExcept_apply]
  cases (tool.act reach input (begun starter tool input world)).1 with
  | error e => rfl
  | ok result => exact checked_apply result _

/-- What an invocation gives is a JSON value. -/
theorem isFinite_of_perform {starter : Starter} {reach : Reach} {tool : Tool} {input value : Value}
    {world : World} (h : (tool.perform starter reach input world).1 = .ok value) :
    value.isFinite = true := by
  rw [perform_apply] at h
  dsimp only at h
  generalize (tool.act reach input _).1 = outcome at h
  cases outcome with
  | error e => cases h
  | ok result =>
    change verdict result = .ok value at h
    unfold verdict at h
    split at h
    · next hfinite =>
      cases h
      exact hfinite
    · cases h

end Tool

/-- What an invocation gives is a JSON value, whatever the depth. -/
theorem Run.isFinite_of_invokeAt {deeper : Tool → Value → Run Value} {room : Nat} {starter : Starter}
    {tool : Tool} {input value : Value} {world : World}
    (h : (Run.invokeAt deeper room starter tool input world).1 = .ok value) : value.isFinite = true := by
  cases room with
  | zero => cases h
  | succ room => exact Tool.isFinite_of_perform h

end ToolWeave
