import ToolWeave.Proofs.Actions

/-!
# Runs that keep a journal

How a run ends says nothing about errors that were raised and caught on the way.  Here the interpreter is
written down once more, with each action noting what it does: a journal has the forms that are run, the
invocations with their ends, and every error where it is raised.  Nothing else is different, so a run that
keeps a journal does what the run does, and its journal is of a shape that accounts for how it ends
(`Tells.evaluate`, `Tells.invocations`).

## Main definitions

* `Event`: what a journal notes.
* `Journaled`: runs that keep a journal; `Journaled.evaluate` is the one of a program.
* `Story`: the shape of a journal, and what becomes of the error raised last in it.
* `Tells`: a run with a journal does what a run does, and the journal accounts for its end.

## Design notes

**Raising and passing on.**  `Journaled.act` notes an error, and only actions that run no forms and invoke
no tools are made by it.  What fails because a part of it failed notes nothing, and neither does `try` when
it passes a cancellation on.

**Where `try` begins to catch.**  `try` may refuse its own input, and then fails like any other tool.  The
event `tries` marks the place from which on it catches what is raised.
-/

namespace ToolWeave

/-- What a journal notes. -/
inductive Event where
  /-- A form begins to be run. -/
  | form (form : Form)
  /-- A tool is invoked. -/
  | began (tool : Tool) (input : Value)
  /-- The invocation begun last is one of `try`, which has read its input and begins to run the tool
  named there. -/
  | tries
  /-- An error is raised in a state. -/
  | raised (error : ToolError) (world : World)
  /-- The invocation begun last ends, in a state. -/
  | ended (outcome : Except ToolError Value) (world : World)

/-- A run that keeps a journal: what it notes comes with how it ends. -/
def Journaled (α : Type) : Type := World → (Except ToolError α × World) × List Event

namespace Journaled

variable {α β : Type}

/-- What comes after a run that has ended so. -/
def andThen (done : (Except ToolError α × World) × List Event) (f : α → Journaled β) :
    (Except ToolError β × World) × List Event :=
  match done with
  | ((.ok a, after), journal) => ((f a after).1, journal ++ (f a after).2)
  | ((.error e, after), journal) => ((.error e, after), journal)

instance : Monad Journaled where
  pure a := fun world => ((.ok a, world), [])
  bind x f := fun world => andThen (x world) f

/-- Notes an event. -/
def note (event : Event) : Journaled Unit := fun world => ((.ok (), world), [event])

/-- An action that runs no forms and invokes no tools.  If it fails, the error is raised there. -/
def act (action : Run α) : Journaled α := fun world =>
  (action world,
    match (action world).1 with
    | .ok _ => []
    | .error e => [.raised e (action world).2])

/-- A run in a new frame inside an environment, with some constants. -/
def inside (outer : Environment) (constants : Fields) (x : Journaled α) : Journaled α := fun world =>
  (((x (world.enter outer constants)).1.1,
    { (x (world.enter outer constants)).1.2 with environment := world.environment }),
    (x (world.enter outer constants)).2)

/-- How a program or a tool invokes other tools. -/
structure Reach where
  call : Tool → Value → Journaled Value
  again : Starter → Tool → Value → Journaled Value

/-! ### Forms -/

/-- Invokes the tool of a name, unless the name is not bound or the run is cancelled. -/
def invoking (name : String) (unbound : ToolError) (invoke : Tool → Journaled Value) :
    Journaled Value := do
  match ← act (Run.lookup name) with
  | none => act (throw unbound)
  | some tool =>
    act Run.checkScopes
    invoke tool

mutual

/-- Runs a form. -/
def form (reach : Reach) : Form → Journaled Value
  | .literal v => do
    note (.form (.literal v))
    pure v
  | .quote v => do
    note (.form (.quote v))
    pure v
  | .reference name => do
    note (.form (.reference name))
    invoking name (.unboundName name) fun tool => reach.call tool .null
  | .call name input => do
    note (.form (.call name input))
    let input ← form reach input
    invoking name (.unknownTool name) fun tool => reach.call tool input
  | .sequence items => do
    note (.form (.sequence items))
    sequence reach .null items
  | .binding name value body => do
    note (.form (.binding name value body))
    let value ← form reach value
    inside (← act Run.environment) [(name, value)] (form reach body)
  | .definition name parameters body => do
    note (.form (.definition name parameters body))
    invoking Builtin.define.name (.unknownTool Builtin.define.name) fun tool =>
      reach.again .definition tool (Form.definitionRequest name parameters body)
  | .array items => do
    note (.form (.array items))
    return .array (← formItems reach items)
  | .object fields => do
    note (.form (.object fields))
    return .object (← formFields reach fields)

/-- Runs forms one after the other and gives the value of the last, or of what came before them. -/
def sequence (reach : Reach) (before : Value) : List Form → Journaled Value
  | [] => pure before
  | item :: rest => do
    let value ← form reach item
    sequence reach value rest

/-- Runs forms one after the other and gives all values. -/
def formItems (reach : Reach) : List Form → Journaled (List Value)
  | [] => pure []
  | item :: rest => do
    let value ← form reach item
    return value :: (← formItems reach rest)

/-- Runs the forms of fields one after the other and gives the fields with their values. -/
def formFields (reach : Reach) : List (String × Form) → Journaled Fields
  | [] => pure []
  | (name, item) :: rest => do
    let value ← form reach item
    return (name, value) :: (← formFields reach rest)

end

/-- Runs a value as a program. -/
def evaluate (reach : Reach) (program : Value) : Journaled Value :=
  if program.nestedWithin programLevels then form reach (Form.parse program)
  else act (throw (.toolFailure "program nested too deeply"))

/-! ### Tools -/

/-- What `try` makes of how the tool ends that it runs. -/
def settled : Except ToolError Value → Except ToolError Value
  | .ok value => .ok (Control.outcomeValue (.ok value))
  | .error e => if e.kind = .cancelled then .error e else .ok (Control.outcomeValue (.error e))

/-- Runs the tool that `try` names. -/
def settle (x : Journaled Value) : Journaled Value := fun world =>
  ((settled (x world).1.1, (x world).1.2), (x world).2)

/-- Reads the input of `try`: the name of a tool, and the input for it. -/
def attemptRequest (input : Value) : Except ToolError (String × Value) := do
  let fields ← Expect.object "try" ["tool"] input
  let name ← Expect.string "try" "a tool name" ((Entries.get? "tool" fields).getD .null)
  return (name, (Entries.get? "input" fields).getD .null)

/-- Runs a tool by its name. -/
def runNamed (reach : Reach) (name : String) (input : Value) : Journaled Value := do
  match ← act (Run.lookup name) with
  | none => act (throw (.unknownTool name))
  | some tool => reach.again .other tool input

/-- Invokes a tool and captures how it ends, unless it was cancelled. -/
def attempt (reach : Reach) (input : Value) : Journaled Value := do
  let (name, input) ← act (Run.ofExcept (attemptRequest input))
  note .tries
  settle (runNamed reach name input)

/-- Whether one item is below another in the eyes of a tool, which answers with a number. -/
def below (reach : Reach) (name : String) (tool : Tool) (a b : Value) : Journaled Bool := do
  match ← reach.again .other tool (.array [a, b]) with
  | .number n => return n.order (.int 0) == .lt
  | other =>
    act (throw (.toolFailure "compare tool must return a number"
      [("tool", .string name), ("got", .string other.kind.name)]))

/-- Sorts an array in the order of values, or in the order that a tool gives. -/
def sort (reach : Reach) (input : Value) : Journaled Value := do
  match input with
  | .array items => return .array (Comparison.sort items)
  | _ =>
    match input.field? "array" with
    | none =>
      act (throw (.invalidInput "sort expects an array or \x7barray, compare_tool\x7d"
        [("tool", .string "sort"), ("got", .string input.kind.name)]))
    | some array =>
      let items ← act (Run.ofExcept (Expect.array "sort" none array))
      match (input.field? "compare_tool").bind Value.nonNull? with
      | none => return .array (Comparison.sort items)
      | some name =>
        let name ← act (Run.ofExcept (Expect.string "sort" "compare_tool to be a tool name" name))
        match ← act (Run.lookup name) with
        | none => act (throw (.unknownTool name))
        | some tool => return .array (← Sorting.sort (below reach name tool) items)

/-- What a built-in tool does. -/
def builtin (reach : Reach) : Builtin → Value → Journaled Value
  | .define, input => act (Bindings.define input)
  | .undefine, input => act (Bindings.undefine input)
  | .rebind, input => act (Bindings.rebind input)
  | .listTools, _ => act Bindings.listTools
  | .print, input => act (ConsoleTools.print input)
  | .readLine, _ => act ConsoleTools.readLine
  | .compare, input => act (Run.ofExcept (Comparison.compare input))
  | .equals, input => act (Run.ofExcept (Comparison.equals input))
  | .sort, input => sort reach input
  | .add, input => act (Run.ofExcept (Arithmetic.add input))
  | .multiply, input => act (Run.ofExcept (Arithmetic.multiply input))
  | .subtract, input => act (Run.ofExcept (Arithmetic.subtract input))
  | .divide, input => act (Run.ofExcept (Arithmetic.divide input))
  | .evaluate, input => evaluate reach input
  | .choose, input => do evaluate reach (← act (Run.ofExcept (Control.branch input)))
  | .attempt, input => attempt reach input

/-- What a tool of the host does. -/
def hostTool (reach : Reach) : HostTool → Value → Journaled Value
  | .identity, input => return input
  | .record, input => do
    act (modify fun world => { world with notes := input :: world.notes })
    return input
  | .boom, _ => act (throw (Crash.raised "kaput").toError)
  | .reject, _ => act (throw (.invalidInput "nope" [("field", .string "x")]))
  | .cancel, _ => act (throw (.cancelled Scope.Reason.cancelled.message))
  | .cancelScope, _ => do
    act (modify fun world => { world with scopes := Scope.cancelInnermost world.scopes })
    evaluate reach (.object [("call", .string "add"), ("input", .array [])])
  | .frameNames, _ =>
    act do
      let world ← get
      return .strings (world.store.localNames world.environment)

/-- What a tool does with its input, given how it may invoke others. -/
def tool (reach : Reach) : Tool → Value → Journaled Value
  | .builtin tool, input => builtin reach tool input
  | .constant value, _ => return value
  | .defined parameters _ body closure, input => do
    let constants ← act (Run.ofExcept (Tool.inputFields parameters input))
    inside closure constants (form reach (Form.parse body))
  | .command c, input => act (c.run input)
  | .remote server name _, input => act (Remote.call server name input)
  | .host tool, input => hostTool reach tool input

/-! ### Invocations -/

/-- A tool that acts is invoked: the beginning and the end are noted. -/
def enclose (starter : Starter) (t : Tool) (input : Value) (acting : Journaled Value) : Journaled Value :=
  fun world =>
    let acted := acting (Tool.begun starter t input world)
    let after := { acted.1.2 with trace := .ended :: acted.1.2.trace }
    ((acted.1.1, after), .began t input :: acted.2 ++ [.ended acted.1.1 after])

/-- One invocation.  A result that is no JSON value raises an error inside. -/
def perform (starter : Starter) (reach : Reach) (t : Tool) (input : Value) : Journaled Value :=
  enclose starter t input (tool reach t input >>= fun result => act (Tool.checked result))

/-- Invokes a tool at one depth, with so much room. -/
def invokeAt (deeper : Tool → Value → Journaled Value) :
    (room : Nat) → Starter → Tool → Value → Journaled Value
  | 0, _, _, _ => act (throw Crash.nesting.toError)
  | room + 1, starter, t, input => perform starter ⟨deeper, invokeAt deeper room⟩ t input

/-- Calls a tool when so many further calls may nest, this one included. -/
def call (room limit : Nat) : (left : Nat) → Tool → Value → Journaled Value
  | 0, t, input => act (Run.call room limit 0 t input)
  | left + 1, t, input => invokeAt (call room limit left) room .call t input

/-- How tools are invoked where so many further calls may nest. -/
def reach (room limit left : Nat) : Reach :=
  ⟨call room limit left, invokeAt (call room limit left) room⟩

end Journaled

/-! ### Stories -/

/-- Two states are the same but for the environment that is current and for the trace. -/
def World.Same (before after : World) : Prop :=
  after = { before with environment := after.environment, trace := after.trace }

/-- The journal of a run tells what becomes of each error.  A run that fails has a fate: the error that
was raised last, and the state in which it was raised. -/
inductive Story : Option (ToolError × World) → List Event → Prop
  | nil : Story none []
  | form (f : Form) : Story none [.form f]
  | raised (e : ToolError) (world : World) : Story (some (e, world)) [.raised e world]
  | append {fate : Option (ToolError × World)} {first second : List Event} (hfirst : Story none first)
      (hsecond : Story fate second) : Story fate (first ++ second)
  /-- A tool gives a value. -/
  | gave {journal : List Event} (tool : Tool) (input value : Value) (after : World)
      (h : Story none journal) :
      Story none (.began tool input :: journal ++ [.ended (.ok value) after])
  /-- A tool fails with what was raised inside it. -/
  | failed {e : ToolError} {world after : World} {journal : List Event} (tool : Tool) (input : Value)
      (h : Story (some (e, world)) journal) (hsame : world.Same after) :
      Story (some (e, world)) (.began tool input :: journal ++ [.ended (.error e) after])
  /-- The tool that `try` runs gives a value. -/
  | tried {journal : List Event} (input value : Value) (after : World) (h : Story none journal) :
      Story none (.began (.builtin .attempt) input :: .tries :: journal ++ [.ended (.ok value) after])
  /-- The tool that `try` runs fails, and was not cancelled. -/
  | caught {e : ToolError} {world after : World} {journal : List Event} (input : Value)
      (h : Story (some (e, world)) journal) (hkind : e.kind ≠ .cancelled) (hsame : world.Same after) :
      Story none (.began (.builtin .attempt) input :: .tries :: journal ++
        [.ended (.ok (Control.outcomeValue (.error e))) after])
  /-- The tool that `try` runs was cancelled. -/
  | cancelled {e : ToolError} {world after : World} {journal : List Event} (input : Value)
      (h : Story (some (e, world)) journal) (hkind : e.kind = .cancelled) (hsame : world.Same after) :
      Story (some (e, world)) (.began (.builtin .attempt) input :: .tries :: journal ++
        [.ended (.error e) after])

namespace World.Same

theorem refl (world : World) : world.Same world := rfl

theorem trans {first second third : World} (h : first.Same second) (h' : second.Same third) :
    first.Same third := by
  unfold Same at *
  rw [h', h]

end World.Same

/-- A journal accounts for how a run ends: with a value, or with the error that was raised last and
nothing done since. -/
def Accounts {α : Type} (journal : List Event) : Except ToolError α → World → Prop
  | .ok _, _ => Story none journal
  | .error e, after => ∃ world, Story (some (e, world)) journal ∧ world.Same after

theorem Accounts.append {α : Type} {first second : List Event} {outcome : Except ToolError α} {after : World}
    (h : Accounts second outcome after) (hfirst : Story none first) :
    Accounts (first ++ second) outcome after := by
  cases outcome with
  | ok a => exact Story.append hfirst h
  | error e =>
    obtain ⟨world, hstory, hsame⟩ := h
    exact ⟨world, Story.append hfirst hstory, hsame⟩

/-- A run that keeps a journal does what a run does, and its journal accounts for how it ends. -/
structure Tells {α : Type} (x : Journaled α) (run : Run α) : Prop where
  run_eq : ∀ world, (x world).1 = run world
  accounts : ∀ world, Accounts (x world).2 (run world).1 (run world).2

namespace Tells

variable {α β : Type}

theorem pure (a : α) : Tells (Pure.pure a) (Pure.pure a) := ⟨fun _ => rfl, fun _ => .nil⟩

theorem act (run : Run α) : Tells (Journaled.act run) run where
  run_eq _ := rfl
  accounts world := by
    unfold Journaled.act Accounts
    dsimp only
    split
    · next h => rw [h]; exact .nil
    · next e h => rw [h]; exact ⟨_, .raised e _, .refl _⟩

theorem bind {x : Journaled α} {run : Run α} {f : α → Journaled β} {g : α → Run β} (hx : Tells x run)
    (hf : ∀ a, Tells (f a) (g a)) : Tells (x >>= f) (run >>= g) := by
  have hstep (world : World) : (x >>= f) world = Journaled.andThen (x world) f := rfl
  constructor
  · intro world
    have hfirst := hx.run_eq world
    rw [hstep, Run.bind_apply, ← hfirst]
    rcases x world with ⟨⟨e | a, between⟩, journal⟩
    · rfl
    · exact (hf a).run_eq between
  · intro world
    have hfirst := hx.run_eq world
    have haccounts := hx.accounts world
    rw [hstep, Run.bind_apply]
    rw [← hfirst] at haccounts ⊢
    generalize x world = done at haccounts
    rcases done with ⟨⟨e | a, between⟩, journal⟩
    · exact haccounts
    · exact ((hf a).accounts between).append haccounts

theorem announce (f : Form) {x : Journaled α} {run : Run α} (hx : Tells x run) :
    Tells (do Journaled.note (.form f); x) run := by
  refine ⟨hx.run_eq, fun world => ?_⟩
  have haccounts := hx.accounts world
  exact haccounts.append (.form f)

theorem inside (outer : Environment) (constants : Fields) {x : Journaled α} {run : Run α}
    (hx : Tells x run) : Tells (Journaled.inside outer constants x) (Run.inside outer constants run) := by
  constructor
  · intro world
    have h := hx.run_eq (world.enter outer constants)
    rw [Run.inside_apply, ← h]
    rfl
  · intro world
    have haccounts := hx.accounts (world.enter outer constants)
    rw [Run.inside_apply]
    show Accounts (x (world.enter outer constants)).2 _ _
    generalize (run (world.enter outer constants)).1 = outcome at haccounts
    cases outcome with
    | ok a => exact haccounts
    | error e =>
      obtain ⟨raisedIn, hstory, hsame⟩ := haccounts
      exact ⟨raisedIn, hstory, hsame.trans rfl⟩

theorem map (f : α → β) {x : Journaled α} {run : Run α} (hx : Tells x run) :
    Tells (do return f (← x)) (do return f (← run)) :=
  hx.bind fun a => .pure (f a)

end Tells

/-! ### Forms -/

namespace Journaled

/-- Tools are invoked alike, and give JSON values. -/
structure Reach.Tells (journaled : Reach) (reach : ToolWeave.Reach) : Prop where
  call : ∀ tool input, ToolWeave.Tells (journaled.call tool input) (reach.call tool input)
  again : ∀ starter tool input,
    ToolWeave.Tells (journaled.again starter tool input) (reach.again starter tool input)
  isFinite : ∀ {starter tool input world value},
    (reach.again starter tool input world).1 = .ok value → value.isFinite = true

end Journaled

namespace Tells

variable {journaled : Journaled.Reach} {reach : Reach}

theorem invoking (name : String) (unbound : ToolError) {invoke : Tool → Journaled Value}
    {run : Tool → Run Value} (h : ∀ tool, Tells (invoke tool) (run tool)) :
    Tells (Journaled.invoking name unbound invoke) (do
      match ← Run.lookup name with
      | none => throw unbound
      | some tool =>
        Run.checkScopes
        run tool) := by
  refine (act (Run.lookup name)).bind fun found => ?_
  cases found with
  | none => exact act _
  | some tool => exact (act Run.checkScopes).bind fun _ => h tool

mutual

theorem form (hreach : journaled.Tells reach) :
    ∀ form : Form, Tells (Journaled.form journaled form) (form.run reach)
  | .literal v => announce (.literal v) (pure v)
  | .quote v => announce (.quote v) (pure v)
  | .reference name => by
    refine announce (.reference name) (invoking name _ fun tool => ?_)
    exact hreach.call tool .null
  | .call name input => by
    refine announce (.call name input) ((form hreach input).bind fun value => ?_)
    exact invoking name _ fun tool => hreach.call tool value
  | .sequence items => announce (.sequence items) (sequence hreach .null items)
  | .binding name value body => by
    refine announce (.binding name value body) ((form hreach value).bind fun bound => ?_)
    exact (act Run.environment).bind fun env => inside env _ (form hreach body)
  | .definition name parameters body => by
    refine announce (.definition name parameters body) (invoking _ _ fun tool => ?_)
    exact hreach.again .definition tool _
  | .array members => announce (.array members) (map _ (items hreach members))
  | .object members => announce (.object members) (map _ (fields hreach members))

theorem sequence (hreach : journaled.Tells reach) (before : Value) :
    ∀ items : List Form,
      Tells (Journaled.sequence journaled before items) (Form.runSequence reach before items)
  | [] => pure before
  | item :: rest => (form hreach item).bind fun value => sequence hreach value rest

theorem items (hreach : journaled.Tells reach) :
    ∀ items : List Form, Tells (Journaled.formItems journaled items) (Form.runItems reach items)
  | [] => pure []
  | item :: rest => (form hreach item).bind fun _ => map _ (items hreach rest)

theorem fields (hreach : journaled.Tells reach) : ∀ fields : List (String × Form),
    Tells (Journaled.formFields journaled fields) (Form.runFields reach fields)
  | [] => pure []
  | (_, item) :: rest => (form hreach item).bind fun _ => map _ (fields hreach rest)

end

theorem evaluate (hreach : journaled.Tells reach) (program : Value) :
    Tells (Journaled.evaluate journaled program) (Run.evaluate reach program) := by
  unfold Journaled.evaluate Run.evaluate
  split
  · exact form hreach (Form.parse program)
  · exact act _

/-! ### Sorting -/

section Sorting

variable {α : Type} {below : α → α → Journaled Bool} {run : α → α → Run Bool}
  (hbelow : ∀ a b, Tells (below a b) (run a b))

include hbelow

theorem ascending (last : α) (taken rest : List α) :
    Tells (Sorting.ascending below last taken rest) (Sorting.ascending run last taken rest) := by
  induction rest generalizing last taken with
  | nil => exact pure _
  | cons next rest ih =>
    refine (hbelow next last).bind fun answer => ?_
    cases answer with
    | true => exact pure _
    | false => exact ih next _

theorem descending (last : α) (taken rest : List α) :
    Tells (Sorting.descending below last taken rest) (Sorting.descending run last taken rest) := by
  induction rest generalizing last taken with
  | nil => exact pure _
  | cons next rest ih =>
    refine (hbelow next last).bind fun answer => ?_
    cases answer with
    | true => exact ih next _
    | false => exact pure _

theorem place (element : α) (sorted : List α) (turns left right : Nat) :
    Tells (Sorting.place below element sorted turns left right)
      (Sorting.place run element sorted turns left right) := by
  induction turns generalizing left right with
  | zero => exact pure _
  | succ turns ih =>
    simp only [Sorting.place]
    split
    · cases sorted[left + (right - left) / 2]? with
      | none => exact pure _
      | some other =>
        refine (hbelow element other).bind fun answer => ?_
        cases answer with
        | true => exact ih left _
        | false => exact ih _ right
    · exact pure _

theorem insertAll (sorted rest : List α) :
    Tells (rest.foldlM (Sorting.insert below) sorted) (rest.foldlM (Sorting.insert run) sorted) := by
  induction rest generalizing sorted with
  | nil => exact pure _
  | cons element rest ih =>
    simp only [List.foldlM_cons]
    exact (map _ (place hbelow element sorted _ _ _)).bind fun sorted => ih sorted

/-- Sorting tells what its comparisons tell. -/
theorem sort (items : List α) : Tells (Sorting.sort below items) (Sorting.sort run items) := by
  match items with
  | [] => exact pure _
  | [only] => exact pure _
  | first :: second :: rest =>
    refine (hbelow second first).bind fun answer => ?_
    cases answer with
    | true => exact (descending hbelow second _ rest).bind fun parts => insertAll hbelow parts.1 parts.2
    | false => exact (ascending hbelow second _ rest).bind fun parts => insertAll hbelow parts.1 parts.2

end Sorting

/-! ### Tools -/

section Tools

variable (hreach : journaled.Tells reach)

include hreach

theorem below (name : String) (tool : Tool) (a b : Value) :
    Tells (Journaled.below journaled name tool a b) (Control.below reach name tool a b) := by
  refine (hreach.again .other tool _).bind fun answer => ?_
  cases answer with
  | number n => exact pure _
  | _ => exact act _

theorem sortTool (input : Value) : Tells (Journaled.sort journaled input) (Control.sort reach input) := by
  cases input with
  | array items => exact pure _
  | object fields =>
    simp only [Journaled.sort, Control.sort]
    cases (Value.object fields).field? "array" with
    | none => exact act _
    | some array =>
      refine (act _).bind fun items => ?_
      cases ((Value.object fields).field? "compare_tool").bind Value.nonNull? with
      | none => exact pure _
      | some given =>
        refine (act _).bind fun name => (act _).bind fun found => ?_
        cases found with
        | none => exact act _
        | some tool => exact map _ (sort (below hreach name tool) items)
  | _ => exact act _

theorem builtin {tool : Builtin} (htool : tool ≠ .attempt) (input : Value) :
    Tells (Journaled.builtin journaled tool input) (tool.act reach input) := by
  cases tool with
  | sort => exact sortTool hreach input
  | evaluate => exact evaluate hreach input
  | choose => exact (act _).bind fun branch => evaluate hreach branch
  | attempt => exact absurd rfl htool
  | _ => exact act _

theorem hostTool (tool : HostTool) (input : Value) :
    Tells (Journaled.hostTool journaled tool input) (tool.act reach input) := by
  cases tool with
  | identity => exact pure _
  | record => exact (act _).bind fun _ => pure _
  | cancelScope => exact (act _).bind fun _ => evaluate hreach _
  | _ => exact act _

/-- Tools other than `try` tell what becomes of each error. -/
theorem tool {t : Tool} (ht : t ≠ .builtin .attempt) (input : Value) :
    Tells (Journaled.tool journaled t input) (t.act reach input) := by
  cases t with
  | builtin b => exact builtin hreach (fun h => ht (by rw [h])) input
  | constant value => exact pure _
  | defined parameters description body closure =>
    exact (act _).bind fun constants => inside _ _ (form hreach _)
  | command c => exact act _
  | remote server name spec => exact act _
  | host h => exact hostTool hreach h input

end Tools

/-! ### Invocations -/

section Invocations

/-- An invocation is what the tool does, with its result checked, between a beginning and an end. -/
theorem perform_eq (starter : Starter) (reach : Reach) (t : Tool) (input : Value) (world : World) :
    t.perform starter reach input world =
      (((t.act reach input >>= Tool.checked) (Tool.begun starter t input world)).1,
        { ((t.act reach input >>= Tool.checked) (Tool.begun starter t input world)).2 with
          trace := .ended ::
            ((t.act reach input >>= Tool.checked) (Tool.begun starter t input world)).2.trace }) := by
  rw [Tool.perform_apply, Run.bind_apply]
  rcases t.act reach input (Tool.begun starter t input world) with ⟨e | result, after⟩
  · rfl
  · dsimp only
    rw [Tool.checked_apply]
    rfl

/-- An invocation whose journal between its beginning and its end is told. -/
theorem enclose {starter : Starter} {t : Tool} {input : Value} {acting : Journaled Value}
    (hrun : ∀ world, (acting world).1 = (t.act reach input >>= Tool.checked) world)
    (haccounts : ∀ world after, (acting world).1.2.Same after →
      Accounts (.began t input :: (acting world).2 ++ [.ended (acting world).1.1 after])
        (acting world).1.1 after) :
    Tells (Journaled.enclose starter t input acting) (t.perform starter reach input) := by
  constructor
  · intro world
    rw [perform_eq, ← hrun]
    rfl
  · intro world
    rw [perform_eq, ← hrun]
    exact haccounts _ _ rfl

/-- A tool of which the acting tells is invoked. -/
theorem perform_of_tool (starter : Starter) {t : Tool} {input : Value}
    (h : Tells (Journaled.tool journaled t input) (t.act reach input)) :
    Tells (Journaled.perform starter journaled t input) (t.perform starter reach input) := by
  have hacting := h.bind fun result => act (Tool.checked result)
  refine enclose hacting.run_eq fun world after hafter => ?_
  have haccounts := hacting.accounts world
  rw [← hacting.run_eq] at haccounts
  generalize (Journaled.tool journaled t input >>= _) world = acted at haccounts hafter ⊢
  rcases acted with ⟨⟨e | value, between⟩, journal⟩
  · obtain ⟨raisedIn, hstory, hsame⟩ := haccounts
    exact ⟨raisedIn, hstory.failed t input (hsame.trans hafter), hsame.trans hafter⟩
  · exact Story.gave t input value _ haccounts

/-- Runs a tool by its name, which keeps no journal. -/
def attempted (reach : Reach) (name : String) (input : Value) : Run Value := do
  match ← Run.lookup name with
  | none => throw (.unknownTool name)
  | some tool => reach.again .other tool input

theorem runNamed (hreach : journaled.Tells reach) (name : String) (input : Value) :
    Tells (Journaled.runNamed journaled name input) (attempted reach name input) := by
  refine (act (Run.lookup name)).bind fun found => ?_
  cases found with
  | none => exact act _
  | some tool => exact hreach.again .other tool input

/-- `try` reads its input, runs a tool by its name and settles how that ends. -/
theorem attempt_apply (reach : Reach) (input : Value) (world : World) :
    Control.attempt reach input world =
      match Journaled.attemptRequest input with
      | .error e => (.error e, world)
      | .ok (name, part) =>
        (Journaled.settled (attempted reach name part world).1, (attempted reach name part world).2) := by
  unfold Control.attempt Journaled.attemptRequest attempted
  cases Expect.object "try" ["tool"] input with
  | error e => rfl
  | ok fields =>
    show (Run.ofExcept (Expect.string "try" "a tool name" ((Entries.get? "tool" fields).getD .null)) >>= _)
      world = match (Expect.string "try" "a tool name" ((Entries.get? "tool" fields).getD .null) >>= fun name =>
        Except.ok (name, (Entries.get? "input" fields).getD .null)) with
      | .error e => (.error e, world)
      | .ok (name, part) => _
    cases Expect.string "try" "a tool name" ((Entries.get? "tool" fields).getD .null) with
    | error e => rfl
    | ok name =>
      rw [Run.bind_apply, Run.ofExcept_apply]
      dsimp only
      rw [Run.bind_of_ok (Run.lookup_apply name world)]
      show _ = (Journaled.settled ((Run.lookup name >>= _) world).1, ((Run.lookup name >>= _) world).2)
      rw [Run.bind_of_ok (Run.lookup_apply name world)]
      cases world.lookup name with
      | none => rfl
      | some tool =>
        dsimp only
        rw [Run.bind_of_ok (Run.capture_apply _ _)]
        generalize reach.again .other tool _ world = done
        rcases done with ⟨e | value, after⟩
        · dsimp only [Journaled.settled]
          split <;> rfl
        · rfl

theorem isFinite_outcomeValue {outcome : Except ToolError Value}
    (h : ∀ value, outcome = .ok value → value.isFinite = true) :
    (Control.outcomeValue outcome).isFinite = true := by
  cases outcome with
  | ok value =>
    have hvalue := h value rfl
    simp [Control.outcomeValue, Value.isFinite, Value.fieldsFinite, hvalue]
  | error e =>
    have hpayload := e.isFinite_payload
    simp [Control.outcomeValue, ToolError.toValue, Value.isFinite, Value.fieldsFinite, hpayload]

theorem isFinite_settled {outcome : Except ToolError Value}
    (h : ∀ value, outcome = .ok value → value.isFinite = true) {value : Value}
    (hvalue : Journaled.settled outcome = .ok value) : value.isFinite = true := by
  cases outcome with
  | ok result =>
    cases hvalue
    exact isFinite_outcomeValue h
  | error e =>
    unfold Journaled.settled at hvalue
    dsimp only at hvalue
    split at hvalue
    · cases hvalue
    · cases hvalue
      exact isFinite_outcomeValue h

/-- What runs a tool by its name gives JSON values. -/
theorem isFinite_attempted (hreach : journaled.Tells reach) {name : String} {part value : Value}
    {world : World} (h : (attempted reach name part world).1 = .ok value) : value.isFinite = true := by
  unfold attempted at h
  rw [Run.bind_of_ok (Run.lookup_apply name world)] at h
  cases hlookup : world.lookup name with
  | none =>
    rw [hlookup] at h
    cases h
  | some tool =>
    rw [hlookup] at h
    exact hreach.isFinite h

/-- What `try` gives passes the check at the end of its invocation. -/
theorem checked_settled (hreach : journaled.Tells reach) {name : String} {part value : Value} {world : World}
    (h : Journaled.settled (attempted reach name part world).1 = .ok value) :
    Tool.checked value = Pure.pure value :=
  if_pos (isFinite_settled (fun _ => isFinite_attempted hreach) h)

/-- What `try` does once it has read its input, with the check at the end. -/
theorem attempt_checked (hreach : journaled.Tells reach) {input : Value} {name : String} {part : Value}
    (hrequest : Journaled.attemptRequest input = .ok (name, part)) (world : World) :
    (Control.attempt reach input >>= Tool.checked) world =
      (Journaled.settled (attempted reach name part world).1, (attempted reach name part world).2) := by
  rw [Run.bind_apply, attempt_apply, hrequest]
  dsimp only
  cases hsettled : Journaled.settled (attempted reach name part world).1 with
  | error e => rfl
  | ok value =>
    show Tool.checked value _ = _
    rw [checked_settled hreach hsettled]
    rfl

/-- The journal of `try` notes that it tries, and then what the tool that it runs does. -/
theorem attempt_journaled (hreach : journaled.Tells reach) {input : Value} {name : String} {part : Value}
    (hrequest : Journaled.attemptRequest input = .ok (name, part)) (world : World) :
    (Journaled.tool journaled (.builtin .attempt) input >>= fun result => Journaled.act (Tool.checked result))
        world =
      ((Journaled.settled (attempted reach name part world).1, (attempted reach name part world).2),
        .tries :: (Journaled.runNamed journaled name part world).2) := by
  have hattempt : Journaled.attempt journaled input world =
      ((Journaled.settled (attempted reach name part world).1, (attempted reach name part world).2),
        .tries :: (Journaled.runNamed journaled name part world).2) := by
    unfold Journaled.attempt
    rw [hrequest, ← (runNamed hreach name part).run_eq]
    rfl
  show Journaled.andThen (Journaled.attempt journaled input world) _ = _
  rw [hattempt]
  cases hsettled : Journaled.settled (attempted reach name part world).1 with
  | error e => rfl
  | ok value =>
    show ((Journaled.act (Tool.checked value) _).1, _ ++ (Journaled.act (Tool.checked value) _).2) = _
    rw [checked_settled hreach hsettled]
    exact congrArg (Prod.mk _) (List.append_nil _)

/-- `try` refuses its input. -/
theorem attempt_refused {input : Value} {e : ToolError} (hrequest : Journaled.attemptRequest input = .error e) :
    Tells (Journaled.attempt journaled input) (Control.attempt reach input) := by
  have hjournaled : Journaled.attempt journaled input = Journaled.act (throw e) := by
    unfold Journaled.attempt
    rw [hrequest]
    rfl
  have hrun : Control.attempt reach input = throw e := by
    funext world
    rw [attempt_apply, hrequest]
    rfl
  rw [hjournaled, hrun]
  exact act _

/-- `try` is invoked. -/
theorem perform_attempt (hreach : journaled.Tells reach) (starter : Starter) (input : Value) :
    Tells (Journaled.perform starter journaled (.builtin .attempt) input)
      ((Tool.builtin .attempt).perform starter reach input) := by
  cases hrequest : Journaled.attemptRequest input with
  | error e => exact perform_of_tool starter (attempt_refused hrequest)
  | ok request =>
    obtain ⟨name, part⟩ := request
    refine enclose (fun world => ?_) fun world after hafter => ?_
    · rw [attempt_journaled hreach hrequest]
      exact (attempt_checked hreach hrequest world).symm
    · -- the tool that is run tells how it has failed; `try` keeps a cancellation and catches the rest
      have haccounts := (runNamed hreach name part).accounts world
      rw [attempt_journaled hreach hrequest] at hafter ⊢
      dsimp only at hafter ⊢
      generalize (Journaled.runNamed journaled name part world).2 = journal at haccounts ⊢
      generalize attempted reach name part world = done at haccounts hafter ⊢
      rcases done with ⟨e | value, between⟩
      · obtain ⟨raisedIn, hstory, hsame⟩ := haccounts
        by_cases hkind : e.kind = .cancelled
        · rw [show Journaled.settled (.error e) = .error e from if_pos hkind]
          exact ⟨raisedIn, hstory.cancelled input hkind (hsame.trans hafter), hsame.trans hafter⟩
        · rw [show Journaled.settled (.error e) = .ok (Control.outcomeValue (.error e)) from if_neg hkind]
          exact hstory.caught input hkind (hsame.trans hafter)
      · exact Story.tried input _ after haccounts

theorem perform (hreach : journaled.Tells reach) (starter : Starter) (t : Tool) (input : Value) :
    Tells (Journaled.perform starter journaled t input) (t.perform starter reach input) := by
  by_cases ht : t = .builtin .attempt
  · subst ht
    exact perform_attempt hreach starter input
  · exact perform_of_tool starter (tool hreach ht input)

theorem invokeAt {deeper : Tool → Value → Journaled Value} {runDeeper : Tool → Value → Run Value}
    (hdeeper : ∀ t input, Tells (deeper t input) (runDeeper t input)) (room : Nat) (starter : Starter)
    (t : Tool) (input : Value) :
    Tells (Journaled.invokeAt deeper room starter t input) (Run.invokeAt runDeeper room starter t input) := by
  induction room generalizing starter t input with
  | zero => exact act _
  | succ room ih => exact perform ⟨hdeeper, ih, Run.isFinite_of_invokeAt⟩ starter t input

theorem call (room limit left : Nat) (t : Tool) (input : Value) :
    Tells (Journaled.call room limit left t input) (Run.call room limit left t input) := by
  induction left generalizing t input with
  | zero => exact act _
  | succ left ih => exact invokeAt ih room .call t input

/-- Invocations at any depth tell what becomes of each error. -/
theorem invocations (room limit left : Nat) :
    (Journaled.reach room limit left).Tells (Run.reach room limit left) where
  call := call room limit left
  again := invokeAt (call room limit left) room
  isFinite := Run.isFinite_of_invokeAt

end Invocations

end Tells

end ToolWeave
