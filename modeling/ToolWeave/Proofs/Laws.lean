import Mathlib.Order.Defs.PartialOrder
import ToolWeave.Evaluation.Invocation
import ToolWeave.Proofs.Actions
import ToolWeave.Proofs.Comparisons

/-!
# Laws of runs

Much of what can be said about programs holds because it holds of the few actions they are made of
and survives putting these together.  A `Law` is a property with these closure conditions, and this
module shows once that it holds of every form and of whatever a tool does, provided that it holds of
the invocations they make.

## Design notes

**Families.**  A law speaks of a family of runs at once: one run (`ι` has one element), two runs to
be compared, or one run for every budget.  The runs of a family give equal values; the tools and
environments that they find may differ.

**Stages.**  Which tools and environments correspond is known at a stage of the runs and stays so at
later stages, in which more of them may.  A law that needs no stages has one.

**Invocations apart.**  The closure conditions say nothing about how invocations nest.  A law about
depths treats them in its own way and still shares everything else.
-/

namespace ToolWeave

/-! ### How deep values nest -/

namespace Value

mutual

/-- How deep arrays and objects are nested. -/
def height : Value → Nat
  | array items => itemsHeight items + 1
  | object fields => fieldsHeight fields + 1
  | _ => 0

/-- The greatest height of some items. -/
def itemsHeight : List Value → Nat
  | [] => 0
  | item :: rest => max item.height (itemsHeight rest)

/-- The greatest height of the contents of some fields. -/
def fieldsHeight : List (String × Value) → Nat
  | [] => 0
  | (_, content) :: rest => max content.height (fieldsHeight rest)

end

theorem height_le_of_mem {item : Value} {items : List Value} (h : item ∈ items) :
    item.height ≤ itemsHeight items := by
  induction items with
  | nil => cases h
  | cons first rest ih =>
    rw [itemsHeight]
    rcases List.mem_cons.mp h with rfl | h
    · exact Nat.le_max_left _ _
    · exact Nat.le_trans (ih h) (Nat.le_max_right _ _)

theorem height_lt_of_get? {name : String} {fields : Fields} {content : Value}
    (h : Entries.get? name fields = some content) : content.height < (object fields).height := by
  rw [height, Nat.lt_succ_iff]
  induction fields with
  | nil => cases h
  | cons entry rest ih =>
    obtain ⟨key, first⟩ := entry
    rw [Entries.get?_cons] at h
    rw [fieldsHeight]
    split at h
    · cases h
      exact Nat.le_max_left _ _
    · exact Nat.le_trans (ih h) (Nat.le_max_right _ _)

theorem height_getD_lt (name : String) (fields : Fields) :
    ((Entries.get? name fields).getD .null).height < (object fields).height := by
  cases h : Entries.get? name fields with
  | none => exact Nat.succ_pos _
  | some content => exact height_lt_of_get? h

/-- A pair of items nests no deeper than the array of all. -/
theorem height_pair_le {a b : Value} {items : List Value} (ha : a ∈ items) (hb : b ∈ items) :
    (array [a, b]).height ≤ (array items).height := by
  have hle : max a.height b.height ≤ itemsHeight items :=
    Nat.max_le.mpr ⟨height_le_of_mem ha, height_le_of_mem hb⟩
  simp only [height, itemsHeight, Nat.max_zero]
  exact Nat.succ_le_succ hle

end Value

/-! ### Laws -/

namespace Expect

theorem eq_object {tool : String} {required : List String} {input : Value} {fields : Fields}
    (h : Expect.object tool required input = .ok fields) : input = .object fields := by
  unfold Expect.object at h
  cases input with
  | object given =>
    dsimp only at h
    split at h
    · cases h
      rfl
    · cases h
  | _ => cases h

theorem eq_array {tool : String} {input : Value} {items : List Value}
    (h : Expect.array tool none input = .ok items) : input = .array items := by
  cases input with
  | array given =>
    cases h
    rfl
  | _ => cases h

end Expect

/-- The actions of forms and of the language's own tools that invoke nothing. -/
inductive Run.Own : {α : Type} → Run α → Prop
  | checkScopes : Own Run.checkScopes
  | define (input : Value) : Own (Bindings.define input)
  | undefine (input : Value) : Own (Bindings.undefine input)
  | rebind (input : Value) : Own (Bindings.rebind input)
  | listTools : Own Bindings.listTools
  | print (input : Value) : Own (ConsoleTools.print input)
  | readLine : Own ConsoleTools.readLine

/-- Whether a tool is outside the language: a command, a tool of a remote server or of the host. -/
def Tool.isForeign : Tool → Bool
  | command _ => true
  | remote _ _ _ => true
  | host _ => true
  | _ => false

/-- The actions of commands, of remote tools and of the tools of the host that invoke nothing. -/
inductive Run.Foreign : {α : Type} → Run α → Prop
  | command (c : Command) (input : Value) : Foreign (c.run input)
  | remote (server : Nat) (name : String) (input : Value) : Foreign (Remote.call server name input)
  | note (input : Value) :
      Foreign (modify fun world => { world with notes := input :: world.notes })
  | cancelScope :
      Foreign (modify fun world => { world with scopes := Scope.cancelInnermost world.scopes })
  | frameNames :
      Foreign (do
        let world ← get
        return Value.strings (world.store.localNames world.environment))

/-- Such an action leaves the frames, the environment and the trace alone. -/
theorem Run.Foreign.leaves {α : Type} {action : Run α} (haction : Run.Foreign action)
    (world : World) :
    (action world).2.store = world.store ∧ (action world).2.environment = world.environment ∧
      (action world).2.trace = world.trace := by
  cases haction with
  | command c input =>
    obtain ⟨now, host, hafter⟩ := c.run_state input world
    rw [hafter]
    exact ⟨rfl, rfl, rfl⟩
  | remote server name input =>
    obtain ⟨now, servers, hafter⟩ := Remote.call_state server name input world
    rw [hafter]
    exact ⟨rfl, rfl, rfl⟩
  | note input => exact ⟨rfl, rfl, rfl⟩
  | cancelScope => exact ⟨rfl, rfl, rfl⟩
  | frameNames => exact ⟨rfl, rfl, rfl⟩

/-- A property of families of runs that is closed under everything programs are made of except
invocations.  `alike` and `parallel` tell which tools and which environments the runs of a family may
find in each other's place. -/
structure Law (ι : Type) (κ : Type) [Preorder κ] where
  holds : κ → {α : Type} → (ι → Run α) → Prop
  alike : κ → (ι → Tool) → Prop
  parallel : κ → (ι → Environment) → Prop
  mono {k later : κ} {α : Type} {x : ι → Run α} (hle : k ≤ later) (hx : holds k x) :
    holds later x
  alike_mono {k later : κ} {tools : ι → Tool} (hle : k ≤ later) (htools : alike k tools) :
    alike later tools
  pure {α : Type} (k : κ) (a : α) : holds k fun _ => (Pure.pure a : Run α)
  fail {α : Type} (k : κ) (e : ToolError) : holds k fun _ => (throw e : Run α)
  bind {k : κ} {α β : Type} {x : ι → Run α} {f : ι → α → Run β} (hx : holds k x)
    (hf : ∀ later, k ≤ later → ∀ a, holds later fun i => f i a) : holds k fun i => x i >>= f i
  inside {k : κ} {α : Type} {outer : ι → Environment} {x : ι → Run α} (constants : Fields)
    (houter : parallel k outer) (hx : holds k x) :
    holds k fun i => Run.inside (outer i) constants (x i)
  environment {k : κ} {α : Type} {f : ι → Environment → Run α}
    (hf : ∀ later, k ≤ later → ∀ envs, parallel later envs → holds later fun i => f i (envs i)) :
    holds k fun i => Run.environment >>= f i
  lookup {k : κ} {α : Type} {f : ι → Option Tool → Run α} (name : String)
    (hnone : holds k fun i => f i none)
    (hsome : ∀ later, k ≤ later → ∀ tools, alike later tools →
      holds later fun i => f i (some (tools i))) :
    holds k fun i => Run.lookup name >>= f i
  own {α : Type} {action : Run α} (k : κ) (haction : Run.Own action) : holds k fun _ => action
  /-- Alike tools are one tool, or were defined by one program. -/
  alike_cases {k : κ} {tools : ι → Tool} (htools : alike k tools) :
    (∃ tool, tools = fun _ => .builtin tool) ∨
    (∃ value, tools = fun _ => .constant value) ∨
    (∃ parameters description body closures,
      tools = (fun i => .defined parameters description body (closures i)) ∧
        parallel k closures) ∨
    (∃ tool, tool.isForeign = true ∧ tools = (fun _ => tool) ∧
      ∀ {α : Type} {action : Run α}, Run.Foreign action → holds k fun _ => action)

/-- The simple actions that runs are put together of. -/
inductive Run.Simple : {α : Type} → Run α → Prop
  | pure {α : Type} (a : α) : Simple (Pure.pure a : Run α)
  | fail {α : Type} (e : ToolError) : Simple (throw e : Run α)
  | environment : Simple Run.environment
  | lookup (name : String) : Simple (Run.lookup name)
  | own {α : Type} {action : Run α} (haction : Run.Own action) : Simple action
  | foreign {α : Type} {action : Run α} (haction : Run.Foreign action) : Simple action

namespace Law

/-- The one stage of laws that need no stages. -/
def Stage : Type := Unit

instance : Preorder Stage where
  le _ _ := True
  le_refl _ := trivial
  le_trans _ _ _ _ _ := trivial

/-- A property of families whose runs all find the same tools and environments.  It needs no stages:
it has to hold of the simple actions and to survive putting runs together. -/
def uniform {ι : Type} (holds : {α : Type} → (ι → Run α) → Prop)
    (simple : ∀ {α : Type} {action : Run α}, Run.Simple action → holds fun _ => action)
    (bind : ∀ {α β : Type} {x : ι → Run α} {f : ι → α → Run β}, holds x →
      (∀ a, holds fun i => f i a) → holds fun i => x i >>= f i)
    (inside : ∀ {α : Type} {x : ι → Run α} (outer : Environment) (constants : Fields), holds x →
      holds fun i => Run.inside outer constants (x i)) : Law ι Stage where
  holds _ _ x := holds x
  alike _ tools := ∃ tool, tools = fun _ => tool
  parallel _ envs := ∃ env, envs = fun _ => env
  mono _ hx := hx
  alike_mono _ htools := htools
  pure _ a := simple (.pure a)
  fail _ e := simple (.fail e)
  bind hx hf := bind hx (hf () le_rfl)
  inside constants houter hx := by
    obtain ⟨env, rfl⟩ := houter
    exact inside env constants hx
  environment hf := bind (simple .environment) fun env => hf () le_rfl _ ⟨env, rfl⟩
  lookup name hnone hsome := by
    refine bind (simple (.lookup name)) fun found => ?_
    cases found with
    | none => exact hnone
    | some tool => exact hsome () le_rfl (fun _ => tool) ⟨tool, rfl⟩
  own _ haction := simple (.own haction)
  alike_cases htools := by
    obtain ⟨tool, rfl⟩ := htools
    cases tool with
    | builtin tool => exact .inl ⟨tool, rfl⟩
    | constant value => exact .inr (.inl ⟨value, rfl⟩)
    | defined parameters description body closure =>
      exact .inr (.inr (.inl ⟨parameters, description, body, fun _ => closure, rfl, closure, rfl⟩))
    | _ => exact .inr (.inr (.inr ⟨_, rfl, rfl, fun haction => simple (.foreign haction)⟩))

variable {ι κ : Type} [Preorder κ] (law : Law ι κ) {k : κ} {reach : ι → Reach}

/-- A law of a run is a law of the run with its end captured.  The tool `try` captures ends. -/
def Captures : Prop :=
  ∀ (k : κ) {α : Type} {x : ι → Run α}, law.holds k x → law.holds k fun i => Run.capture (x i)

theorem ofExcept (k : κ) {α : Type} (outcome : Except ToolError α) :
    law.holds k fun _ => Run.ofExcept outcome := by
  cases outcome with
  | error e => exact law.fail k e
  | ok a => exact law.pure k a

/-- What comes after an end that is known already depends on that end only. -/
theorem ofExcept_bind {α β : Type} (outcome : Except ToolError α) {f : ι → α → Run β}
    (hf : ∀ a, outcome = .ok a → law.holds k fun i => f i a) :
    law.holds k fun i => Run.ofExcept outcome >>= f i := by
  cases outcome with
  | error e => exact law.fail k e
  | ok a => exact hf a rfl

/-- A law of a run is a law of the run with its value passed through a function. -/
theorem map {α β : Type} {x : ι → Run α} (f : α → β) (hx : law.holds k x) :
    law.holds k fun i => x i >>= fun a => Pure.pure (f a) :=
  law.bind hx fun later _ a => law.pure later (f a)

/-! ### Forms -/

/-- A law holds of the invocations that programs make: of calls, and of definitions. -/
structure Reaches (k : κ) (reach : ι → Reach) : Prop where
  call : ∀ later, k ≤ later → ∀ tools, law.alike later tools → ∀ input,
    law.holds later fun i => (reach i).call (tools i) input
  definition : ∀ later, k ≤ later → ∀ tools, law.alike later tools → ∀ input,
    law.holds later fun i => (reach i).again .definition (tools i) input

theorem Reaches.mono {law : Law ι κ} {later : κ} (hreach : law.Reaches k reach)
    (hle : k ≤ later) : law.Reaches later reach where
  call last hlast := hreach.call last (le_trans hle hlast)
  definition last hlast := hreach.definition last (le_trans hle hlast)

section Forms

variable {law}

mutual

/-- A law of the invocations that programs make is a law of every form. -/
theorem form {k : κ} (hreach : law.Reaches k reach) :
    ∀ form : Form, law.holds k fun i => form.run (reach i)
  | .literal v => law.pure k v
  | .quote v => law.pure k v
  | .reference name => by
    refine law.lookup name (law.fail k _) ?_
    intro later hle tools htools
    refine law.bind (law.own later .checkScopes) ?_
    intro last hlast _
    exact (hreach.mono hle).call last hlast tools (law.alike_mono hlast htools) .null
  | .call name input => by
    refine law.bind (form hreach input) ?_
    intro between hbetween value
    refine law.lookup name (law.fail between _) ?_
    intro later hle tools htools
    refine law.bind (law.own later .checkScopes) ?_
    intro last hlast _
    exact ((hreach.mono hbetween).mono hle).call last hlast tools (law.alike_mono hlast htools) value
  | .sequence items => sequence hreach .null items
  | .binding name value body => by
    refine law.bind (form hreach value) ?_
    intro between hbetween bound
    refine law.environment ?_
    intro later hle envs henvs
    exact law.inside _ henvs (form ((hreach.mono hbetween).mono hle) body)
  | .definition name parameters body => by
    refine law.lookup _ (law.fail k _) ?_
    intro later hle tools htools
    refine law.bind (law.own later .checkScopes) ?_
    intro last hlast _
    exact (hreach.mono hle).definition last hlast tools (law.alike_mono hlast htools) _
  | .array members => law.map _ (items hreach members)
  | .object members => law.map _ (fields hreach members)

theorem sequence {k : κ} (hreach : law.Reaches k reach) (before : Value) :
    ∀ items : List Form, law.holds k fun i => Form.runSequence (reach i) before items
  | [] => law.pure k before
  | item :: rest => by
    refine law.bind (form hreach item) ?_
    intro later hle value
    exact sequence (hreach.mono hle) value rest

theorem items {k : κ} (hreach : law.Reaches k reach) :
    ∀ items : List Form, law.holds k fun i => Form.runItems (reach i) items
  | [] => law.pure k []
  | item :: rest => by
    refine law.bind (form hreach item) ?_
    intro later hle value
    exact law.map _ (items (hreach.mono hle) rest)

theorem fields {k : κ} (hreach : law.Reaches k reach) :
    ∀ fields : List (String × Form), law.holds k fun i => Form.runFields (reach i) fields
  | [] => law.pure k []
  | (name, item) :: rest => by
    refine law.bind (form hreach item) ?_
    intro later hle value
    exact law.map _ (fields (hreach.mono hle) rest)

end

/-- A law of the invocations that programs make is a law of every evaluation. -/
theorem evaluate (hreach : law.Reaches k reach) (program : Value) :
    law.holds k fun i => Run.evaluate (reach i) program := by
  unfold Run.evaluate
  split
  · exact form hreach (Form.parse program)
  · exact law.fail k _

end Forms

/-! ### Sorting -/

section Sorting

variable {law}

/-- A law of all comparisons, now and later, is a law of sorting. -/
theorem sort {α : Type} {below : ι → α → α → Run Bool}
    (hbelow : ∀ later, k ≤ later → ∀ a b, law.holds later fun i => below i a b) (items : List α) :
    law.holds k fun i => Sorting.sort (below i) items := by
  refine @Sorting.sort_closed _ _ _ _ (fun x => ∀ later, k ≤ later → law.holds later x) ?_ ?_ _ ?_ items k le_rfl
  · exact fun b later _ => law.pure later b
  · exact fun hx hf later hle => law.bind (hx later hle) fun last hlast b => hf b last (le_trans hle hlast)
  · exact fun a b later hle => hbelow later hle a b

/-- It is enough that a law holds of comparisons of the items themselves. -/
theorem sort_of_mem {below : ι → Value → Value → Run Bool} {items : List Value}
    (hbelow : ∀ later, k ≤ later → ∀ a ∈ items, ∀ b ∈ items, law.holds later fun i => below i a b) :
    law.holds k fun i => Sorting.sort (below i) items := by
  simp only [Sorting.sort_attach _ items, map_eq_pure_bind]
  refine law.map _ (sort ?_ items.attach)
  intro later hle a b
  exact hbelow later hle a.1 a.2 b.1 b.2

end Sorting

/-! ### Tools -/

section Tools

variable {law} {input : Value}

/-- A law holds of the invocations that a tool makes with its input: of those that programs make, and
of other tools with inputs that nest less deep than its own. -/
structure Serves (law : Law ι κ) (k : κ) (reach : ι → Reach) (input : Value) : Prop
    extends law.Reaches k reach where
  other : ∀ later, k ≤ later → ∀ tools, law.alike later tools → ∀ part : Value,
    part.height < input.height → law.holds later fun i => (reach i).again .other (tools i) part

theorem attempt (hcaptures : law.Captures) (hreach : law.Serves k reach input) :
    law.holds k fun i => Control.attempt (reach i) input := by
  refine law.ofExcept_bind _ fun fields hfields => ?_
  obtain rfl := Expect.eq_object hfields
  refine law.ofExcept_bind _ fun name _ => ?_
  refine law.lookup name (law.pure k _) fun later hle tools htools => ?_
  have hpart := Value.height_getD_lt "input" fields
  refine law.bind (hcaptures later (hreach.other later hle tools htools _ hpart)) ?_
  intro last _ outcome
  cases outcome with
  | error e =>
    dsimp only
    split
    · exact law.fail last e
    · exact law.pure last _
  | ok value => exact law.pure last _

theorem sortTool (hreach : law.Serves k reach input) :
    law.holds k fun i => Control.sort (reach i) input := by
  cases input with
  | array items => exact law.pure k _
  | object fields =>
    simp only [Control.sort, Value.field?]
    cases harray : Entries.get? "array" fields with
    | none => exact law.fail k _
    | some array =>
      refine law.ofExcept_bind _ fun items hitems => ?_
      obtain rfl := Expect.eq_array hitems
      cases (Entries.get? "compare_tool" fields).bind Value.nonNull? with
      | none => exact law.pure k _
      | some given =>
        refine law.ofExcept_bind _ fun name _ => ?_
        refine law.lookup name (law.fail k _) fun later hle tools htools => ?_
        refine law.map _ (sort_of_mem fun last hlast a ha b hb => ?_)
        -- a pair of items is less deep than the input, of which the array is one field only
        have hpair : (Value.array [a, b]).height < (Value.object fields).height :=
          Nat.lt_of_le_of_lt (Value.height_pair_le ha hb) (Value.height_lt_of_get? harray)
        refine law.bind (hreach.other last (le_trans hle hlast) tools
          (law.alike_mono hlast htools) _ hpair) ?_
        intro final _ answer
        cases answer with
        | number n => exact law.pure final _
        | _ => exact law.fail final _
  | _ => exact law.fail k _

theorem builtin (hreach : law.Serves k reach input) (tool : Builtin)
    (hcaptures : tool = .attempt → law.Captures) :
    law.holds k fun i => tool.act (reach i) input := by
  cases tool with
  | define => exact law.own k (.define input)
  | undefine => exact law.own k (.undefine input)
  | rebind => exact law.own k (.rebind input)
  | listTools => exact law.own k .listTools
  | print => exact law.own k (.print input)
  | readLine => exact law.own k .readLine
  | sort => exact sortTool hreach
  | evaluate => exact evaluate hreach.toReaches input
  | choose => exact law.ofExcept_bind _ fun branch _ => evaluate hreach.toReaches branch
  | attempt => exact attempt (hcaptures rfl) hreach
  | _ => exact law.ofExcept k _

theorem hostTool (hreach : law.Reaches k reach) (tool : HostTool)
    (hforeign : ∀ {α : Type} {action : Run α}, Run.Foreign action → law.holds k fun _ => action) :
    law.holds k fun i => tool.act (reach i) input := by
  cases tool with
  | identity => exact law.pure k _
  | record => exact law.bind (hforeign (.note input)) fun later _ _ => law.pure later _
  | cancelScope =>
    exact law.bind (hforeign .cancelScope) fun later hle _ => evaluate (hreach.mono hle) _
  | frameNames => exact hforeign .frameNames
  | _ => exact law.fail k _

/-- A law of the invocations that a tool makes is a law of what the tool does. -/
theorem act {tools : ι → Tool} (hreach : law.Serves k reach input) (htools : law.alike k tools)
    (hcaptures : (tools = fun _ => .builtin .attempt) → law.Captures) :
    law.holds k fun i => (tools i).act (reach i) input := by
  rcases law.alike_cases htools with ⟨tool, rfl⟩ | ⟨value, rfl⟩ |
    ⟨parameters, description, body, closures, rfl, hclosures⟩ | ⟨tool, htool, rfl, hforeign⟩
  · exact builtin hreach tool fun h => hcaptures (by rw [h])
  · exact law.pure k value
  · refine law.ofExcept_bind _ fun constants _ => ?_
    exact law.inside constants hclosures (form hreach.toReaches _)
  · cases tool with
    | command c => exact hforeign (.command c input)
    | remote server name _ => exact hforeign (.remote server name input)
    | host tool => exact hostTool hreach.toReaches tool hforeign
    | _ => exact absurd htool Bool.false_ne_true

end Tools

/-! ### Invocations -/

section Invocations

variable {law} {input : Value}

/-- A law holds of the calls that lead one deeper. -/
def Calls (law : Law ι κ) (deeper : Tool → Value → Run Value) : Prop :=
  ∀ (k : κ) (tools : ι → Tool), law.alike k tools → ∀ input,
    law.holds k fun i => deeper (tools i) input

/-- A law is closed under invocations that are started in some ways. -/
def Performs (law : Law ι κ) (p : Starter → Prop) : Prop :=
  ∀ (k : κ) (reach : ι → Reach) (tools : ι → Tool) (input : Value) (starter : Starter), p starter →
    law.alike k tools → law.Serves k reach input →
    law.holds k fun i => (tools i).perform starter (reach i) input

/-- A law is closed under whatever invocations consist of, and under the refusal of calls. -/
structure Invokes (law : Law ι κ) (limit : Nat) : Prop where
  performs : law.Performs fun _ => True
  refuse : ∀ (k : κ) (tools : ι → Tool) (input : Value) (room : Nat),
    law.holds k fun i => Run.call room limit 0 (tools i) input

/-- A law that is not about the trace: it holds of recording whatever step. -/
structure Untraced (law : Law ι κ) : Prop where
  captures : law.Captures
  record : ∀ (k : κ) (steps : ι → Step), law.holds k fun i => Run.record (steps i)

theorem Untraced.perform (huntraced : law.Untraced) {tools : ι → Tool} (starter : Starter)
    (hact : law.holds k fun i => (tools i).act (reach i) input) :
    law.holds k fun i => (tools i).perform starter (reach i) input := by
  refine law.bind (huntraced.record k _) fun began hbegan _ => ?_
  refine law.bind (huntraced.captures began (law.mono hbegan hact)) fun done _ outcome => ?_
  refine law.bind (huntraced.record done _) fun ended _ _ => ?_
  refine law.ofExcept_bind outcome fun result _ => ?_
  unfold Tool.checked
  split
  · exact law.pure ended result
  · exact law.fail ended _

theorem Untraced.invokes (huntraced : law.Untraced) (limit : Nat) : law.Invokes limit where
  performs _ _ _ _ starter _ htools hserves :=
    huntraced.perform starter (act hserves htools fun _ => huntraced.captures)
  refuse k _ _ _ := law.bind (huntraced.record k _) fun later _ _ => law.fail later _

/-- Where a law holds of the calls that lead one deeper and of the invocations at the same depth, it
serves every tool. -/
theorem Calls.serves {deeper : Tool → Value → Run Value} (hdeeper : law.Calls deeper)
    {again : Starter → Tool → Value → Run Value} (p : Starter → Prop) (hdefinition : p .definition)
    (hother : p .other)
    (hagain : ∀ (k : κ) (tools : ι → Tool), law.alike k tools → ∀ starter, p starter → ∀ input,
      law.holds k fun i => again starter (tools i) input)
    (k : κ) (input : Value) : law.Serves k (fun _ => ⟨deeper, again⟩) input where
  call later _ tools htools input := hdeeper later tools htools input
  definition later _ tools htools input := hagain later tools htools .definition hdefinition input
  other later _ tools htools part _ := hagain later tools htools .other hother part

/-- A law of the calls that lead one deeper is a law of the invocations at a depth, however much room
there is. -/
theorem Performs.invokeAt {p : Starter → Prop} (hperforms : law.Performs p)
    (hdefinition : p .definition) (hother : p .other) {deeper : Tool → Value → Run Value}
    (hdeeper : law.Calls deeper) (room : Nat) (k : κ) (tools : ι → Tool)
    (htools : law.alike k tools) (starter : Starter) (hstarter : p starter) (input : Value) :
    law.holds k fun i => Run.invokeAt deeper room starter (tools i) input := by
  induction room generalizing k tools starter input with
  | zero => exact law.fail k _
  | succ room ih =>
    have hserves := hdeeper.serves p hdefinition hother ih k input
    exact hperforms k _ tools input starter hstarter htools hserves

namespace Invokes

variable {limit : Nat} (hinvokes : law.Invokes limit)

include hinvokes

theorem call (room left : Nat) : law.Calls (Run.call room limit left) := by
  induction left with
  | zero =>
    intro k tools _ input
    exact hinvokes.refuse k tools input room
  | succ left ih =>
    intro k tools htools input
    exact hinvokes.performs.invokeAt trivial trivial ih room k tools htools .call trivial input

theorem again (room left further : Nat) (k : κ) (tools : ι → Tool) (htools : law.alike k tools)
    (starter : Starter) (input : Value) :
    law.holds k fun i => Run.invokeAt (Run.call room limit left) further starter (tools i) input :=
  hinvokes.performs.invokeAt trivial trivial (hinvokes.call room left) further k tools htools starter
    trivial input

theorem serves (room left further : Nat) (k : κ) (input : Value) :
    law.Serves k (fun _ => ⟨Run.call room limit left,
      Run.invokeAt (Run.call room limit left) further⟩) input :=
  (hinvokes.call room left).serves (fun _ => True) trivial trivial
    (fun k tools htools starter _ => hinvokes.again room left further k tools htools starter) k input

/-- A law that is closed under invocations is a law of every evaluation. -/
theorem evaluate (room left : Nat) (k : κ) (program : Value) :
    law.holds k fun _ => Run.evaluate (Run.reach room limit left) program :=
  Law.evaluate (hinvokes.serves room left room k .null).toReaches program

end Invokes

end Invocations

end Law

end ToolWeave
