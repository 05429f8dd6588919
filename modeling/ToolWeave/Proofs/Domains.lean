import ToolWeave.Evaluation.Invocation
import ToolWeave.Proofs.ReadValues
import ToolWeave.Proofs.Runs
import ToolWeave.Proofs.Stores

/-!
# Domains

Some properties of values are kept when values are taken apart and put together in the ways tools and
programs do it.  Such a property spreads: if it holds of all values that a program can reach, it holds of
all that the program makes of them.  A domain says which property is meant and which frames can be reached,
and so which tools, states and outcomes belong to it.  Here it is shown of the parts that runs are put
together of, of shapes of inputs, of failures and of stores.

## Main definitions

* `Value.Closed`: a property of values that is kept.
* `Domain`: such a property, and frames.
* `Domain.HasTool`, `Domain.HasStore`, `Domain.HasWorld`: tools, stores and states that belong to a domain.
* `Domain.Ends`: an outcome is a value with some property, or a failure whose payload belongs to a domain.

## Design notes

**Frames that cannot be reached.**  What is bound in a frame that no environment leads to is no concern of a
program, so nothing is asked of it.  Frames that do not exist yet count among those that can be reached.
-/

namespace ToolWeave

/-! ### Values -/

/-- A property of values that is kept when values are taken apart and put together. -/
structure Value.Closed (P : Value → Prop) : Prop where
  null : P .null
  bool : ∀ b, P (.bool b)
  string : ∀ s, P (.string s)
  number : ∀ n : Number, n.isFinite = true → P (.number n)
  array_iff : ∀ {items : List Value}, P (.array items) ↔ ∀ item ∈ items, P item
  contents : ∀ {fields : Fields}, P (.object fields) → ∀ entry ∈ fields, P entry.2
  object : ∀ {fields : Fields}, (Entries.names fields).Nodup → (∀ entry ∈ fields, P entry.2) →
    P (.object fields)
  /-- An object may get other contents under the names it has. -/
  renew : ∀ {fields values : Fields}, P (.object fields) → Entries.names values = Entries.names fields →
    (∀ entry ∈ values, P entry.2) → P (.object values)

/-- Values that may circulate, the frames that may be reached, and the steps that were taken before. -/
structure Domain where
  values : Value → Prop
  closed : Value.Closed values
  frames : Nat → Prop
  /-- All frames from this number on may be reached. -/
  first : Nat
  frames_of_le : ∀ number, first ≤ number → frames number
  before : List Step

namespace Domain

variable (D : Domain)

@[simp] theorem values_null : D.values .null := D.closed.null

@[simp] theorem values_bool (b : Bool) : D.values (.bool b) := D.closed.bool b

@[simp] theorem values_string (s : String) : D.values (.string s) := D.closed.string s

@[simp] theorem values_int (i : Int) : D.values (.int i) := D.closed.number _ rfl

@[simp]
theorem values_strings (texts : List String) : D.values (.strings texts) := by
  refine D.closed.array_iff.mpr fun item hitem => ?_
  obtain ⟨text, -, rfl⟩ := List.mem_map.mp hitem
  exact D.values_string text

variable {D}

/-- A field that is not there counts as null. -/
theorem values_getD {fields : Fields} (h : ∀ entry ∈ fields, D.values entry.2) (name : String) :
    D.values ((Entries.get? name fields).getD .null) := by
  cases hfound : Entries.get? name fields with
  | none => exact D.values_null
  | some content => exact h _ (Entries.mem_of_get? hfound)

theorem values_field {v content : Value} (h : D.values v) {name : String} (hfound : v.field? name = some content) :
    D.values content := by
  cases v with
  | object fields => exact D.closed.contents h _ (Entries.mem_of_get? hfound)
  | _ => cases hfound

/-! ### Failures -/

theorem values_make (kind : ErrorKind) {payload : Value} (h : D.values payload) :
    D.values (ToolError.make kind payload).payload := by
  unfold ToolError.make
  split
  · exact h
  · exact D.values_string _

theorem values_detailFields {message : Value} (hmessage : D.values message) {details : Fields}
    (h : ∀ detail ∈ details, D.values detail.2) : D.values (.object (ToolError.detailFields message details)) := by
  have hfields : (Entries.names (ToolError.detailFields message details)).Nodup ∧
      ∀ entry ∈ ToolError.detailFields message details, D.values entry.2 := by
    unfold ToolError.detailFields
    refine List.foldlRecOn details _
      (motive := fun fields => (Entries.names fields).Nodup ∧ ∀ entry ∈ fields, D.values entry.2) ?_ ?_
    · exact ⟨List.pairwise_singleton _ _, List.forall_mem_singleton.mpr hmessage⟩
    · rintro fields ⟨hnames, hcontents⟩ detail hdetail
      split
      · exact ⟨hnames, hcontents⟩
      · refine ⟨Entries.nodup_put _ _ hnames, fun entry hentry => ?_⟩
        rcases Entries.mem_of_mem_put hentry with hentry | rfl
        · exact hcontents entry hentry
        · exact h detail hdetail
  exact D.closed.object hfields.1 hfields.2

theorem values_report (kind : ErrorKind) (message : String) {details : Fields}
    (h : ∀ detail ∈ details, D.values detail.2) : D.values (ToolError.report kind message details).payload :=
  values_make kind (values_detailFields (D.values_string message) h)

theorem values_named (kind : ErrorKind) (message name : String) (text : String) (hne : name ≠ "error") :
    D.values (ToolError.make kind (.object [("error", .string message), (name, .string text)])).payload := by
  refine values_make kind (D.closed.object ?_ (by simp))
  simpa [Entries.names] using Ne.symm hne

theorem values_unknownTool (name : String) : D.values (ToolError.unknownTool name).payload :=
  values_named _ _ _ _ (by decide)

theorem values_unboundName (name : String) : D.values (ToolError.unboundName name).payload :=
  values_named _ _ _ _ (by decide)

theorem values_cancelled (reason : String) : D.values (ToolError.cancelled reason).payload :=
  values_named _ _ _ _ (by decide)

theorem values_crash (cause : Crash) : D.values cause.toError.payload := values_report _ _ (by simp)

theorem values_toValue {e : ToolError} (h : D.values e.payload) : D.values e.toValue :=
  D.closed.object (by simp [Entries.names]) (by simpa using h)

/-! ### Outcomes -/

variable (D) in
/-- An outcome is a value with a property or a failure of the domain. -/
def Ends {α : Type} (P : α → Prop) : Except ToolError α → Prop
  | .ok a => P a
  | .error e => D.values e.payload

namespace Ends

variable {α β : Type} {P : α → Prop} {Q : β → Prop} {outcome : Except ToolError α}

theorem bind {f : α → Except ToolError β} (h : D.Ends P outcome) (hf : ∀ a, P a → D.Ends Q (f a)) :
    D.Ends Q (outcome >>= f) := by
  cases outcome with
  | ok a => exact hf a h
  | error e => exact h

theorem mapM {f : β → Except ToolError α} {items : List β} (h : ∀ item ∈ items, D.Ends (fun _ => True) (f item)) :
    D.Ends (fun _ => True) (items.mapM f) := by
  induction items with
  | nil => exact trivial
  | cons item rest ih =>
    obtain ⟨hitem, hrest⟩ := List.forall_mem_cons.mp h
    rw [List.mapM_cons]
    exact hitem.bind fun _ _ => (ih hrest).bind fun _ _ => trivial

end Ends

/-! ### Shapes of inputs -/

section Shapes

variable (tool expected : String)

theorem values_mismatch (got : Value) : D.values (Expect.mismatch tool expected got).payload :=
  values_report _ _ (by simp)

theorem object_ends (required : List String) {input : Value} (h : D.values input) :
    D.Ends (fun fields => ∀ entry ∈ fields, D.values entry.2) (Expect.object tool required input) := by
  unfold Expect.object
  cases input with
  | object fields =>
    dsimp only
    split
    · exact D.closed.contents h
    · exact values_report _ _ (by simp)
  | _ => exact values_mismatch _ _ _

theorem array_ends (length : Option Nat) {input : Value} (h : D.values input) :
    D.Ends (fun items => ∀ item ∈ items, D.values item) (Expect.array tool length input) := by
  unfold Expect.array
  cases input with
  | array items =>
    have hitems := D.closed.array_iff.mp h
    dsimp only
    split
    · exact hitems
    split
    · exact hitems
    · exact values_report _ _ (by simp)
  | _ => exact values_mismatch _ _ _

theorem string_ends (input : Value) : D.Ends (fun _ => True) (Expect.string tool expected input) := by
  cases input with
  | string s => exact trivial
  | _ => exact values_mismatch _ _ _

theorem number_ends (input : Value) : D.Ends (fun _ => True) (Expect.number tool expected input) := by
  cases input with
  | number n => exact trivial
  | _ => exact values_mismatch _ _ _

theorem bool_ends (input : Value) : D.Ends (fun _ => True) (Expect.bool tool expected input) := by
  cases input with
  | bool b => exact trivial
  | _ => exact values_mismatch _ _ _

theorem pair_ends {input : Value} (h : D.values input) : D.Ends (fun _ => True) (Expect.pair tool input) := by
  refine (array_ends tool (some 2) h).bind fun items _ => ?_
  split
  · exact trivial
  · exact values_mismatch _ _ _

end Shapes

/-! ### Tools and stores -/

variable (D) in
/-- A tool of the language itself that belongs to the domain: the value of a constant does, and so do the
program of a defined tool and the frames in which its names are looked up. -/
def HasTool : Tool → Prop
  | .builtin _ => True
  | .constant value => D.values value
  | .defined _ _ body closure => D.values body ∧ ∀ number ∈ closure.path, D.frames number
  | _ => False

variable (D) in
/-- A step of an invocation that belongs to the domain. -/
def HasStep : Step → Prop
  | .began _ tool input => D.HasTool tool ∧ D.values input
  | .ended => True
  | .refused tool input => D.HasTool tool ∧ D.values input

variable (D) in
/-- All frames that may be reached bind tools of the domain. -/
structure HasStore (store : Store) : Prop where
  first_le : D.first ≤ store.size
  tools : ∀ number, D.frames number → ∀ entry ∈ store.frameAt number, D.HasTool entry.2.2

variable (D) in
/-- A state belongs to the domain: its environment and the frames that may be reached do, and so do the
steps that were taken. -/
structure HasWorld (world : World) : Prop where
  store : D.HasStore world.store
  environment : ∀ number ∈ world.environment.path, D.frames number
  steps : ∃ taken, world.trace = taken ++ D.before ∧ ∀ step ∈ taken, D.HasStep step

namespace HasStore

variable {store : Store}

/-- How many tools were made is no matter of frames. -/
theorem retool (h : D.HasStore store) (tools : Nat) : D.HasStore { store with tools := tools } :=
  ⟨h.first_le, h.tools⟩

theorem push (h : D.HasStore store) {frame : Frame} (hframe : ∀ entry ∈ frame, D.HasTool entry.2.2) :
    D.HasStore (store.push frame) where
  first_le := by
    rw [Store.size_push]
    exact Nat.le_succ_of_le h.first_le
  tools number hnumber := by
    rw [Store.frameAt_push]
    split
    · exact hframe
    · exact h.tools number hnumber

theorem change (h : D.HasStore store) {number : Nat} {f : Frame → Frame}
    (hf : ∀ entry ∈ f (store.frameAt number), D.HasTool entry.2.2) : D.HasStore (store.change number f) where
  first_le := by
    rw [Store.size_change]
    exact h.first_le
  tools other hother entry hentry := by
    have hsize := Store.lt_size_of_mem hentry
    rw [Store.size_change] at hsize
    by_cases heq : other = number
    · subst heq
      rw [Store.frameAt_change_self f hsize] at hentry
      exact hf entry hentry
    · rw [Store.frameAt_change_of_ne store f heq] at hentry
      exact h.tools other hother entry hentry

theorem bind (h : D.HasStore store) {env : Environment} (henv : D.frames env.frame) (name : String)
    {binding : Binding} (hbinding : D.HasTool binding.2) : D.HasStore (store.bind env name binding) := by
  refine h.change fun entry hentry => ?_
  rcases Entries.mem_of_mem_put hentry with hentry | rfl
  · exact h.tools _ henv entry hentry
  · exact hbinding

theorem undefine (h : D.HasStore store) {env : Environment} (henv : D.frames env.frame) (name : String) :
    D.HasStore (store.undefine env name) :=
  h.change fun entry hentry => h.tools _ henv entry (Entries.mem_of_mem_erase hentry)

theorem add (h : D.HasStore store) (outer : List Nat) {tools : Entries Tool}
    (htools : ∀ entry ∈ tools, D.HasTool entry.2) : D.HasStore (store.add outer tools).1 := by
  refine (h.push fun entry hentry => ?_).retool _
  obtain ⟨i, hi, rfl⟩ := List.mem_mapIdx.mp (Entries.mem_of_mem_ofList hentry)
  exact htools _ (List.getElem_mem hi)

theorem pushAll (h : D.HasStore store) {frames : List Frame}
    (hframes : ∀ frame ∈ frames, ∀ entry ∈ frame, D.HasTool entry.2.2) : D.HasStore (store.pushAll frames).1 := by
  induction frames with
  | nil => exact h
  | cons frame outer ih =>
    obtain ⟨hframe, houter⟩ := List.forall_mem_cons.mp hframes
    exact (ih houter).push hframe

/-- A new tool looks its names up in copies of frames that may be reached. -/
theorem create (h : D.HasStore store) {env : Environment} (henv : ∀ number ∈ env.path, D.frames number)
    (name : String) (parameters : List String) (description : String) {body : Value} (hbody : D.values body) :
    D.HasStore (store.create env name parameters description body) := by
  have hcopied : D.HasStore (store.snapshot env).1 := by
    have hchain : ∀ frame ∈ store.chain env, ∀ entry ∈ frame, D.HasTool entry.2.2 := by
      intro frame hframe
      obtain ⟨number, hnumber, rfl⟩ := List.mem_map.mp hframe
      exact h.tools number (henv number hnumber)
    exact h.pushAll hchain
  have hnew := (@Store.snapshot_grows (fun _ => True) store env).2
  unfold Store.create
  generalize store.snapshot env = copies at hcopied hnew
  obtain ⟨copied, surroundings⟩ := copies
  dsimp only at hcopied hnew ⊢
  -- the new tool leads to new frames only, and these count as reached
  have hmade : D.HasTool (.defined parameters description body ⟨copied.size, surroundings.path⟩) := by
    refine ⟨hbody, fun number hnumber => D.frames_of_le number ?_⟩
    rcases List.mem_cons.mp hnumber with rfl | hnumber
    · exact hcopied.first_le
    · exact Nat.le_trans h.first_le (hnew number hnumber).1
  refine ((hcopied.push fun entry hentry => ?_).bind (henv _ List.mem_cons_self) name hmade).retool _
  rw [List.mem_singleton.mp hentry]
  exact hmade

/-- What a name is bound to in an environment that may be reached. -/
theorem binding? (h : D.HasStore store) {env : Environment} (henv : ∀ number ∈ env.path, D.frames number)
    {name : String} {binding : Binding} (hbinding : store.binding? env name = some binding) :
    D.HasTool binding.2 := by
  obtain ⟨number, hnumber, hmem⟩ := Store.mem_of_binding? hbinding
  exact h.tools number (henv number hnumber) _ hmem

end HasStore

namespace HasWorld

variable {world : World}

theorem lookup (h : D.HasWorld world) {name : String} {tool : Tool} (htool : world.lookup name = some tool) :
    D.HasTool tool := by
  obtain ⟨binding, hbinding, rfl⟩ := Option.map_eq_some_iff.mp htool
  exact h.store.binding? h.environment hbinding

/-- A frame with constants of the domain is entered. -/
theorem enter (h : D.HasWorld world) {outer : Environment} (houter : ∀ number ∈ outer.path, D.frames number)
    {constants : Fields} (hconstants : ∀ entry ∈ constants, D.values entry.2) :
    D.HasWorld (world.enter outer constants) where
  store := by
    refine h.store.add outer.path fun entry hentry => ?_
    obtain ⟨constant, hconstant, rfl⟩ := List.mem_map.mp hentry
    exact hconstants constant hconstant
  environment := List.forall_mem_cons.mpr ⟨D.frames_of_le _ h.store.first_le, houter⟩
  steps := h.steps

theorem record (h : D.HasWorld world) {step : Step} (hstep : D.HasStep step) :
    D.HasWorld { world with trace := step :: world.trace } where
  store := h.store
  environment := h.environment
  steps := by
    obtain ⟨taken, htrace, htaken⟩ := h.steps
    exact ⟨step :: taken, congrArg (step :: ·) htrace, List.forall_mem_cons.mpr ⟨hstep, htaken⟩⟩

/-- Another store of the domain. -/
theorem restore (h : D.HasWorld world) {store : Store} (hstore : D.HasStore store) :
    D.HasWorld { world with store := store } := ⟨hstore, h.environment, h.steps⟩

end HasWorld

end Domain

end ToolWeave
