import ToolWeave.Proofs.HigherLimits
import ToolWeave.Proofs.Journals
import ToolWeave.Proofs.Service
import ToolWeave.Proofs.Shapes

/-!
# Tools by their names

There are five ways of having the tool of a name invoked: a host invokes it, or runs it and looks at how
that ends, a program calls it, a client asks a server for it, and `try` attempts it.  They look the name up,
invoke the tool and tell the outcome each in its own way.  What the tool does is the same in all of them
(`invocations_agree`).

The ways differ in what is recorded, and in the depth: the call of a program is one of the calls that the
limit counts, and the other ways leave all of these to the tool.

## Main definitions

* `Run.Heedless`: a run does the same whatever was recorded before.
* `Form.calling`: the program that calls a tool with a value.
* `Control.attempting`: what `try` is given to attempt a tool with a value.

## Design notes

**The room inside `try`.**  An invocation of `try` uses up one of the invocations that the host allows at
one depth.  It is taken with as much room inside as the other ways have.
-/

namespace ToolWeave

/-! ### What was recorded before -/

/-- The state with another record of steps. -/
def World.withTrace (world : World) (trace : List Step) : World := { world with trace := trace }

/-- A run does not look at the steps that were recorded before: they make no difference but in the record
itself. -/
def Run.Heedless {α : Type} (x : Run α) : Prop :=
  ∀ world trace, ∃ left, x (world.withTrace trace) = ((x world).1, (x world).2.withTrace left)

namespace Run

variable {α β : Type}

theorem Refuses.heedless {action : Run α} (h : Refuses action) : Heedless action := by
  obtain ⟨e, h⟩ := h
  intro world trace
  rw [h, h]
  exact ⟨trace, rfl⟩

theorem Own.heedless {action : Run α} (haction : Own action) : Heedless action := by
  cases haction with
  | checkScopes =>
    intro world trace
    rw [checkScopes_apply, checkScopes_apply]
    exact ⟨trace, rfl⟩
  | define input =>
    rcases Bindings.define_cases input with h | ⟨request, h⟩
    · exact h.heedless
    · intro world trace
      rw [h, h]
      exact ⟨trace, rfl⟩
  | undefine input =>
    rcases Bindings.undefine_cases input with h | ⟨name, h⟩
    · exact h.heedless
    · intro world trace
      rw [h, h]
      exact ⟨trace, rfl⟩
  | rebind input =>
    rcases Bindings.rebind_cases input with h | ⟨name, source, h⟩
    · exact h.heedless
    · intro world trace
      rw [h, h]
      refine ⟨trace, ?_⟩
      dsimp only [World.withTrace]
      cases world.store.binding? world.environment source <;> rfl
  | listTools => exact fun _ trace => ⟨trace, rfl⟩
  | print input =>
    rcases ConsoleTools.print_cases input with h | ⟨text, h⟩
    · exact h.heedless
    · intro world trace
      have hconsole : (world.withTrace trace).console = world.console := rfl
      rw [h, h, hconsole]
      split <;> exact ⟨trace, rfl⟩
  | readLine =>
    intro world trace
    have hconsole : (world.withTrace trace).console = world.console := rfl
    rw [ConsoleTools.readLine_apply, ConsoleTools.readLine_apply, hconsole]
    split <;> exact ⟨trace, rfl⟩

theorem Foreign.heedless {action : Run α} (haction : Foreign action) : Heedless action := by
  intro world trace
  refine ⟨trace, ?_⟩
  cases haction with
  | command c input =>
    unfold Command.run
    cases Json.line input with
    | error cause => rfl
    | ok text =>
      show ofExcept (c.result _) _ = ((ofExcept (c.result _) _).1, (ofExcept (c.result _) _).2.withTrace trace)
      rw [ofExcept_apply, ofExcept_apply]
      rfl
  | remote server name input =>
    unfold Remote.call
    rw [bind_of_ok (get_apply _), bind_of_ok (get_apply _)]
    dsimp only [World.withTrace]
    cases world.servers[server]? with
    | none => rfl
    | some client =>
      let outcome := (client.callTool world.now world.scopes name input).outcome.mapError Fault.toError
      show ofExcept outcome _ = ((ofExcept outcome _).1, (ofExcept outcome _).2.withTrace trace)
      rw [ofExcept_apply, ofExcept_apply]
      rfl
  | _ => rfl

theorem Simple.heedless {action : Run α} (haction : Simple action) : Heedless action := by
  cases haction with
  | own haction => exact haction.heedless
  | foreign haction => exact haction.heedless
  | _ => exact fun _ trace => ⟨trace, rfl⟩

theorem Heedless.bind {x : Run α} {f : α → Run β} (hx : Heedless x) (hf : ∀ a, Heedless (f a)) :
    Heedless (x >>= f) := by
  intro world trace
  obtain ⟨left, hfirst⟩ := hx world trace
  rw [bind_apply, bind_apply, hfirst]
  rcases x world with ⟨e | a, between⟩
  · exact ⟨left, rfl⟩
  · exact hf a between left

theorem Heedless.inside {x : Run α} (hx : Heedless x) (outer : Environment) (constants : Fields) :
    Heedless (inside outer constants x) := by
  intro world trace
  obtain ⟨left, h⟩ := hx (world.enter outer constants) trace
  have hentered : (world.withTrace trace).enter outer constants =
    (world.enter outer constants).withTrace trace := rfl
  refine ⟨left, ?_⟩
  rw [inside_apply, inside_apply, hentered, h]
  rfl

theorem Heedless.capture {x : Run α} (hx : Heedless x) : Heedless (capture x) := by
  intro world trace
  obtain ⟨left, h⟩ := hx world trace
  refine ⟨left, ?_⟩
  rw [capture_apply, capture_apply, h]

end Run

/-- Not heeding the record, as a law. -/
def Law.heedless : Law Unit Law.Stage :=
  .uniform (fun x => Run.Heedless (x ())) (fun haction => haction.heedless)
    (fun hx hf => hx.bind hf) (fun outer constants hx => hx.inside outer constants)

theorem Law.heedless_untraced : Law.heedless.Untraced where
  captures _ _ _ hx := Run.Heedless.capture hx
  record _ steps _ trace := ⟨steps () :: trace, rfl⟩

namespace Run

/-- What starts an invocation makes no difference but in the record. -/
theorem invokeAt_starter (room limit left further : Nat) (first second : Starter) (tool : Tool)
    (input : Value) (world : World) :
    ∃ trace, invokeAt (call room limit left) further first tool input world =
      ((invokeAt (call room limit left) further second tool input world).1,
        (invokeAt (call room limit left) further second tool input world).2.withTrace trace) := by
  cases further with
  | zero => exact ⟨world.trace, rfl⟩
  | succ further =>
    have hserves := (Law.heedless_untraced.invokes limit).serves room left further () input
    have hact : Heedless (tool.act ⟨call room limit left, invokeAt (call room limit left) further⟩ input) :=
      Law.act hserves ⟨tool, rfl⟩ fun _ => Law.heedless_untraced.captures
    have hbegun : tool.begun first input world =
      (tool.begun second input world).withTrace (tool.begun first input world).trace := rfl
    obtain ⟨trace, h⟩ := hact (tool.begun second input world) (tool.begun first input world).trace
    refine ⟨.ended :: trace, ?_⟩
    rw [invokeAt, invokeAt, Tool.perform_apply, Tool.perform_apply, hbegun, h]
    rfl

theorem named_heedless (limit : Nat) (name : String) (input : Value) : Heedless (named limit name input) := by
  refine Simple.heedless (.lookup name) |>.bind fun found => ?_
  cases found with
  | none => exact Simple.heedless (.fail _)
  | some tool =>
    exact (Law.heedless_untraced.invokes limit).again reentries limit reentries () (fun _ => tool) ⟨tool, rfl⟩
      .other input

end Run

/-! ### Asking for a tool -/

/-- The program that calls the tool of a name with a value. -/
def Form.calling (name : String) (input : Value) : Value :=
  .object [("call", .string name), ("input", .object [("quote", input)])]

/-- What `try` is given to attempt the tool of a name with a value. -/
def Control.attempting (name : String) (input : Value) : Value :=
  .object [("tool", .string name), ("input", input)]

theorem Form.parse_calling {name : String} (hname : name ≠ "") (input : Value) :
    Form.parse (Form.calling name input) = .call name (.quote input) := by
  have hcall : Phrase.Says [("call", .string name), ("input", .object [("quote", input)])]
      (.call name (.object [("quote", input)])) :=
    .call ⟨by simp [Entries.names], by simp [Entries.names]⟩ rfl hname
  have hquote : Phrase.Says [("quote", input)] (.quote input) :=
    .quote ⟨by simp [Entries.names], by simp [Entries.names]⟩ rfl
  unfold Form.parse Form.calling
  rw [hcall.readings]
  show Form.call name (Form.readings (.object [("quote", input)])).data = _
  rw [hquote.readings]
  rfl

namespace Run

/-- A program that calls a tool invokes it one call deeper, if the tool is found and no scope has stopped. -/
theorem program_calling (limit : Nat) {name : String} (hname : name ≠ "") (input : Value) (world : World)
    (hlevels : (Form.calling name input).nestedWithin programLevels = true) :
    program limit (Form.calling name input) world =
      match world.lookup name with
      | none => (.error (.unknownTool name), world)
      | some tool =>
        match Scope.check world.now world.scopes with
        | .error e => (.error e, world)
        | .ok () => call reentries limit limit tool input world := by
  unfold program evaluate
  rw [if_pos hlevels, Form.parse_calling hname, Form.run, Form.run, pure_bind,
    bind_of_ok (lookup_apply name world)]
  cases world.lookup name with
  | none => rfl
  | some tool =>
    dsimp only
    rw [bind_apply, checkScopes_apply]
    cases Scope.check world.now world.scopes <;> rfl

theorem named_apply (limit : Nat) (name : String) (input : Value) (world : World) :
    named limit name input world =
      match world.lookup name with
      | none => (.error (.unknownTool name), world)
      | some tool => invoke limit tool input world := by
  unfold named
  rw [bind_of_ok (lookup_apply name world)]
  cases world.lookup name <;> rfl

/-- A call of which no part is refused is an invocation by the host, up to the record of steps: the calls
that it leads to are one deeper, which makes no difference to them. -/
theorem call_unrefused {limit : Nat} {tool : Tool} {input : Value} {world : World}
    (hsteps : ∀ step ∈ (call reentries limit limit tool input).steps world, step.refuses = false) :
    ∃ trace, call reentries limit limit tool input world =
      ((invoke limit tool input world).1, (invoke limit tool input world).2.withTrace trace) := by
  cases limit with
  | zero =>
    rw [steps_call_zero] at hsteps
    cases hsteps _ List.mem_cons_self
  | succ further =>
    -- the limit counts the call itself, so what the tool calls has one less left than under a host
    let left : Bool → Nat := fun deep => bif deep then further + 1 else further
    have hdeeper := call_persists reentries (fun _ => further + 1) left (Nat.le_succ further)
    have hpersists := invokeAt_persists reentries hdeeper .call tool input
    have hsame : invokeAt (call reentries (further + 1) (further + 1)) reentries .call tool input world =
      call reentries (further + 1) (further + 1) tool input world := hpersists.2 world hsteps
    obtain ⟨trace, h⟩ := invokeAt_starter reentries (further + 1) (further + 1) reentries .call .other tool
      input world
    exact ⟨trace, hsame.symm.trans h⟩

/-- A program that calls a tool does what the host does that invokes it, up to the record of steps. -/
theorem program_unrefused {limit : Nat} {name : String} (hname : name ≠ "") {input : Value} {world : World}
    (hlevels : (Form.calling name input).nestedWithin programLevels = true)
    (hlive : Scope.check world.now world.scopes = .ok ())
    (hsteps : ∀ step ∈ (program limit (Form.calling name input)).steps world, step.refuses = false) :
    ∃ trace, program limit (Form.calling name input) world =
      ((named limit name input world).1, (named limit name input world).2.withTrace trace) := by
  have hprogram := program_calling limit hname input world hlevels
  rw [named_apply]
  cases hlookup : world.lookup name with
  | none =>
    rw [hlookup] at hprogram
    exact ⟨world.trace, hprogram⟩
  | some tool =>
    rw [hlookup] at hprogram
    dsimp only at hprogram ⊢
    rw [hlive] at hprogram
    dsimp only at hprogram
    unfold steps at hsteps
    rw [hprogram] at hsteps ⊢
    exact call_unrefused hsteps

end Run

/-- An attempt does what the host does that invokes the tool, up to the record of steps, and settles how
that ends. -/
theorem Control.perform_attempting (limit : Nat) (name : String) (input : Value) (world : World) :
    ∃ trace, (Tool.builtin .attempt).perform .other (Run.top limit) (attempting name input) world =
      (Journaled.settled (Run.named limit name input world).1,
        (Run.named limit name input world).2.withTrace trace) := by
  let begun := (Tool.builtin .attempt).begun .other (attempting name input) world
  obtain ⟨trace, hnamed⟩ : ∃ trace, Run.named limit name input begun =
      ((Run.named limit name input world).1, (Run.named limit name input world).2.withTrace trace) :=
    Run.named_heedless limit name input world begun.trace
  have hact : (Tool.builtin .attempt).act (Run.top limit) (attempting name input) begun =
      (Journaled.settled (Run.named limit name input world).1,
        (Run.named limit name input world).2.withTrace trace) := by
    show attempt (Run.top limit) (attempting name input) begun = _
    rw [Tells.attempt_apply]
    show (Journaled.settled (Run.named limit name input begun).1, (Run.named limit name input begun).2) = _
    rw [hnamed]
  refine ⟨.ended :: trace, ?_⟩
  rw [Tool.perform_apply]
  show (((Tool.builtin .attempt).act _ _ begun).1.bind Tool.verdict, _) = _
  rw [hact]
  refine Prod.ext ?_ rfl
  dsimp only
  -- what an attempt gives is a JSON value, so the check at the end lets it pass
  cases hsettled : Journaled.settled (Run.named limit name input world).1 with
  | error e => rfl
  | ok value => exact if_pos (Tells.isFinite_settled (fun _ => Run.isFinite_of_named) hsettled)

/-- **A tool does the same however it is asked for by its name.**  Where no scope has stopped, and the
program that calls the tool has no call refused on the way, what becomes of an invocation by a host is also
what becomes of it

* as a value that tells how it ends,
* in the program, if that nests no deeper than the host can follow,
* in the answer of a server,
* and in an attempt, which passes on that the run was cancelled and tells of anything else.

The same state is left behind, up to the record of steps.  If the name is not bound, nothing is done and the
failure says so. -/
theorem invocations_agree (limit : Nat) {name : String} (hname : name ≠ "") (input : Value) {world : World}
    (hlive : Scope.check world.now world.scopes = .ok ())
    (hsteps : ∀ step ∈ (Run.program limit (Form.calling name input)).steps world, step.refuses = false) :
    let outcome := (Run.named limit name input world).1
    let after := (Run.named limit name input world).2
    Run.outcome (Run.named limit name input) world = (.ok (Control.outcomeValue outcome), after) ∧
      (if (Form.calling name input).nestedWithin programLevels then
        ∃ trace, Run.program limit (Form.calling name input) world = (outcome, after.withTrace trace)
      else
        Run.program limit (Form.calling name input) world =
          (.error (.toolFailure "program nested too deeply"), world)) ∧
      (∀ request, Server.call? request = some (name, input) →
        Server.handle limit request world = (Server.answerOf outcome, after)) ∧
      (∃ trace, (Tool.builtin .attempt).perform .other (Run.top limit) (Control.attempting name input) world =
        (Journaled.settled outcome, after.withTrace trace)) ∧
      (world.lookup name = none → outcome = .error (.unknownTool name) ∧ after = world) := by
  refine ⟨rfl, ?_, fun request hcall => Server.handle_of_call hcall world,
    Control.perform_attempting limit name input world, fun hunbound => ?_⟩
  · split
    · next hlevels => exact Run.program_unrefused hname hlevels hlive hsteps
    · next hlevels =>
      unfold Run.program Run.evaluate
      rw [if_neg hlevels]
      rfl
  · rw [Run.named_apply, hunbound]
    exact ⟨rfl, rfl⟩

/-- The sum of two numbers, asked for in the program, from a server and in an attempt. -/
theorem invocations_agree_add :
    let input := Value.array [.int 1, .int 2]
    let request := Value.object [("method", .string "tools/call"),
      ("params", .object [("name", .string "add"), ("arguments", input)])]
    "add" ≠ "" ∧ Scope.check World.plain.now World.plain.scopes = .ok () ∧
      (∀ step ∈ (Run.program 64 (Form.calling "add" input)).steps World.plain, step.refuses = false) ∧
      (Run.program 64 (Form.calling "add" input) World.plain).1 = .ok (.int 3) ∧
      (Server.handle 64 request World.plain).1 = .ok (.object [("value", .int 3)]) ∧
      ((Tool.builtin .attempt).perform .other (Run.top 64) (Control.attempting "add" input) World.plain).1 =
        .ok (.object [("ok", .bool true), ("value", .int 3)]) := by
  intro input request
  have hunrefused : ((Run.program 64 (Form.calling "add" input)).steps World.plain).all
      (fun step => !step.refuses) = true := by decide +kernel
  have hsteps : ∀ step ∈ (Run.program 64 (Form.calling "add" input)).steps World.plain,
      step.refuses = false := fun step hstep => by simpa using List.all_eq_true.mp hunrefused step hstep
  have hsum : (Run.named 64 "add" input World.plain).1 = .ok (.int 3) := rfl
  have hlevels : (Form.calling "add" input).nestedWithin programLevels = true := by decide +kernel
  obtain ⟨-, hprogram, hserver, ⟨_, hattempt⟩, -⟩ := invocations_agree 64 (by decide) input rfl hsteps
  rw [if_pos hlevels] at hprogram
  obtain ⟨_, hprogram⟩ := hprogram
  refine ⟨by decide, rfl, hsteps, ?_, ?_, ?_⟩
  · rw [hprogram, hsum]
  · rw [hserver request rfl, hsum]
    rfl
  · rw [hattempt, hsum]
    rfl

end ToolWeave
