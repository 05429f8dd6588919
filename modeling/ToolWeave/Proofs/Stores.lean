import ToolWeave.Environment.Store
import ToolWeave.Evaluation.World

/-!
# What changes of a store leave alone

A store only grows, and each operation changes at most the frame it is meant for.  `Store.Grows` says
so of a store and a later one, together with where the tools bound in the later one come from: they
were bound before, or made since, and then over frames that were all made in between.  The relation is
reflexive and transitive, and every operation on a store is one of its steps.

## Design notes

**Numbers not given out yet.**  An environment may carry the number of a frame that does not exist.
Nothing here asks that it does: a change of such a frame is no change of an existing one, whether or not
the number is given out in the meantime.
-/

namespace ToolWeave

namespace Store

/-! ### Frames after a change -/

theorem size_push (store : Store) (frame : Frame) : (store.push frame).size = store.size + 1 := by
  unfold size push
  rw [Array.size_push]

theorem size_change (store : Store) (number : Nat) (f : Frame → Frame) :
    (store.change number f).size = store.size := by
  unfold size change
  rw [Array.size_modify]

theorem frameAt_push (store : Store) (frame : Frame) (number : Nat) :
    (store.push frame).frameAt number =
      if number = store.size then frame else store.frameAt number := by
  unfold frameAt push size
  rw [Array.getD_eq_getD_getElem?, Array.getD_eq_getD_getElem?, Array.getElem?_push]
  split <;> rfl

/-- A new frame leaves alone what some numbers stand for already. -/
theorem map_frameAt_push (store : Store) (frame : Frame) {numbers : List Nat}
    (h : ∀ number ∈ numbers, number < store.size) :
    numbers.map (store.push frame).frameAt = numbers.map store.frameAt := by
  refine List.map_congr_left fun number hnumber => ?_
  rw [frameAt_push, if_neg (Nat.ne_of_lt (h number hnumber))]

/-- In a new frame names are looked up there first, and then where they were before. -/
theorem chain_add (store : Store) {outer : List Nat} (houter : ∀ number ∈ outer, number < store.size)
    (tools : Entries Tool) :
    (store.add outer tools).1.chain (store.add outer tools).2 =
      Frame.ofTools store.tools tools :: outer.map store.frameAt := by
  show ((store.push _).frameAt store.size) :: outer.map (store.push _).frameAt = _
  rw [frameAt_push, if_pos rfl, map_frameAt_push store _ houter]

theorem frameAt_of_size_le {store : Store} {number : Nat} (h : store.size ≤ number) :
    store.frameAt number = [] := by
  unfold frameAt
  rw [Array.getD_eq_getD_getElem?, Array.getElem?_eq_none h]
  rfl

/-- Frames that are added get the next numbers. -/
theorem bounds_of_mem_pushAll {store : Store} {frames : List Frame} {number : Nat}
    (h : number ∈ (store.pushAll frames).2) : store.size ≤ number ∧ number < (store.pushAll frames).1.size := by
  have hsize (frames : List Frame) : store.size ≤ (store.pushAll frames).1.size := by
    induction frames with
    | nil => exact Nat.le_refl _
    | cons frame outer ih =>
      show _ ≤ ((store.pushAll outer).1.push frame).size
      rw [size_push]
      exact Nat.le_succ_of_le ih
  induction frames with
  | nil => cases h
  | cons frame outer ih =>
    show _ ∧ _ < ((store.pushAll outer).1.push frame).size
    rw [size_push]
    rcases List.mem_cons.mp h with rfl | h
    · exact ⟨hsize outer, Nat.lt_succ_self _⟩
    · exact ⟨(ih h).1, Nat.lt_succ_of_lt (ih h).2⟩

/-- The numbers that added frames get lead to these frames. -/
theorem map_frameAt_pushAll (store : Store) (frames : List Frame) :
    (store.pushAll frames).2.map (store.pushAll frames).1.frameAt = frames := by
  induction frames with
  | nil => rfl
  | cons frame outer ih =>
    show ((store.pushAll outer).1.push frame).frameAt (store.pushAll outer).1.size ::
      (store.pushAll outer).2.map ((store.pushAll outer).1.push frame).frameAt = _
    rw [frameAt_push, if_pos rfl, map_frameAt_push _ _ fun _ h => (bounds_of_mem_pushAll h).2, ih]

/-- A snapshot shows what the environment shows. -/
theorem chain_snapshot (store : Store) (env : Environment) :
    (store.snapshot env).1.chain (store.snapshot env).2 = store.chain env :=
  map_frameAt_pushAll store (store.chain env)

theorem frameAt_change_of_ne (store : Store) {number other : Nat} (f : Frame → Frame)
    (h : other ≠ number) : (store.change number f).frameAt other = store.frameAt other := by
  unfold frameAt change
  rw [Array.getD_eq_getD_getElem?, Array.getD_eq_getD_getElem?, Array.getElem?_modify,
    if_neg h.symm]

theorem frameAt_change_self {store : Store} {number : Nat} (f : Frame → Frame)
    (h : number < store.size) :
    (store.change number f).frameAt number = f (store.frameAt number) := by
  unfold size at h
  unfold frameAt change
  rw [Array.getD_eq_getD_getElem?, Array.getD_eq_getD_getElem?, Array.getElem?_modify, if_pos rfl,
    Array.getElem?_eq_getElem h]
  rfl

/-! ### Tools of a store -/

/-- A tool is bound in some frame of a store. -/
def Holds (store : Store) (tool : Tool) : Prop :=
  ∃ number, ∃ entry ∈ store.frameAt number, entry.2.2 = tool

/-- Only existing frames bind anything. -/
theorem lt_size_of_mem {store : Store} {number : Nat} {entry : String × Binding}
    (h : entry ∈ store.frameAt number) : number < store.size := by
  refine Nat.lt_of_not_le fun hsize => ?_
  rw [frameAt_of_size_le hsize] at h
  cases h

/-- What a name is bound to in an environment is in one of its frames. -/
theorem mem_of_binding? {store : Store} {env : Environment} {name : String} {binding : Binding}
    (h : store.binding? env name = some binding) :
    ∃ number ∈ env.path, (name, binding) ∈ store.frameAt number := by
  have hfind (numbers : List Nat)
      (h : Frame.find? name (numbers.map store.frameAt) = some binding) :
      ∃ number ∈ numbers, (name, binding) ∈ store.frameAt number := by
    induction numbers with
    | nil => cases h
    | cons number rest ih =>
      rw [List.map_cons, Frame.find?_cons, Option.or_eq_some_iff] at h
      rcases h with h | ⟨-, h⟩
      · exact ⟨number, List.mem_cons_self, Entries.mem_of_get? h⟩
      · obtain ⟨other, hother, hmem⟩ := ih h
        exact ⟨other, List.mem_cons_of_mem _ hother, hmem⟩
  exact hfind env.path h

/-- What a name is bound to in an environment is held. -/
theorem holds_of_binding? {store : Store} {env : Environment} {name : String}
    {binding : Binding} (h : store.binding? env name = some binding) :
    store.Holds binding.2 := by
  obtain ⟨number, -, hmem⟩ := mem_of_binding? h
  exact ⟨number, _, hmem, rfl⟩

theorem Holds.push {store : Store} {tool : Tool} (h : store.Holds tool) (frame : Frame) :
    (store.push frame).Holds tool := by
  obtain ⟨number, entry, hentry, rfl⟩ := h
  refine ⟨number, entry, ?_, rfl⟩
  rw [frameAt_push, if_neg (Nat.ne_of_lt (lt_size_of_mem hentry))]
  exact hentry

/-- Whatever is held after a push was held before or is in the frame. -/
theorem holds_of_push {store : Store} {frame : Frame} {tool : Tool}
    (h : (store.push frame).Holds tool) :
    store.Holds tool ∨ ∃ entry ∈ frame, entry.2.2 = tool := by
  obtain ⟨number, entry, hentry, rfl⟩ := h
  rw [frameAt_push] at hentry
  split at hentry
  · exact .inr ⟨entry, hentry, rfl⟩
  · exact .inl ⟨number, entry, hentry, rfl⟩

/-- Whatever is held after a change was held before or is in the changed frame. -/
theorem holds_of_change {store : Store} {number : Nat} {f : Frame → Frame} {tool : Tool}
    (h : (store.change number f).Holds tool) :
    store.Holds tool ∨ ∃ entry ∈ f (store.frameAt number), entry.2.2 = tool := by
  obtain ⟨other, entry, hentry, rfl⟩ := h
  have hsize := lt_size_of_mem hentry
  rw [size_change] at hsize
  by_cases heq : other = number
  · subst heq
    rw [frameAt_change_self f hsize] at hentry
    exact .inr ⟨entry, hentry, rfl⟩
  · rw [frameAt_change_of_ne store f heq] at hentry
    exact .inl ⟨other, entry, hentry, rfl⟩

/-- A binding adds no tool but the one that is bound. -/
theorem holds_of_bind {store : Store} {env : Environment} {name : String} {binding : Binding}
    {tool : Tool} (h : (store.bind env name binding).Holds tool) :
    store.Holds tool ∨ tool = binding.2 := by
  rcases holds_of_change h with h | ⟨entry, hentry, rfl⟩
  · exact .inl h
  · rcases Entries.mem_of_mem_put hentry with hentry | rfl
    · exact .inl ⟨env.frame, entry, hentry, rfl⟩
    · exact .inr rfl

theorem holds_of_undefine {store : Store} {env : Environment} {name : String} {tool : Tool}
    (h : (store.undefine env name).Holds tool) : store.Holds tool := by
  rcases holds_of_change h with h | ⟨entry, hentry, rfl⟩
  · exact h
  · exact ⟨env.frame, entry, Entries.mem_of_mem_erase hentry, rfl⟩

/-- A new frame adds no tools but those it is made of. -/
theorem holds_of_add {store : Store} {outer : List Nat} {tools : Entries Tool} {tool : Tool}
    (h : (store.add outer tools).1.Holds tool) :
    store.Holds tool ∨ ∃ entry ∈ tools, entry.2 = tool := by
  have hpush : (store.push (Frame.ofTools store.tools tools)).Holds tool := h
  rcases holds_of_push hpush with h | ⟨entry, hentry, rfl⟩
  · exact .inl h
  · obtain ⟨i, hi, rfl⟩ := List.mem_mapIdx.mp (Entries.mem_of_mem_ofList hentry)
    exact .inr ⟨_, List.getElem_mem hi, rfl⟩

/-- A store with one frame has the tools of this frame. -/
theorem holds_of_add_empty (outer : List Nat) {tools : Entries Tool} {tool : Tool}
    (h : (empty.add outer tools).1.Holds tool) : ∃ entry ∈ tools, entry.2 = tool := by
  rcases holds_of_add h with ⟨number, entry, hentry, -⟩ | hnew
  · rw [frameAt_of_size_le (Nat.zero_le _)] at hentry
    cases hentry
  · exact hnew

/-- Copies of frames add no tools. -/
theorem holds_of_pushAll {store : Store} {frames : List Frame} {tool : Tool}
    (hframes : ∀ frame ∈ frames, ∀ entry ∈ frame, store.Holds entry.2.2)
    (h : (store.pushAll frames).1.Holds tool) : store.Holds tool := by
  induction frames with
  | nil => exact h
  | cons frame outer ih =>
    obtain ⟨hframe, houter⟩ := List.forall_mem_cons.mp hframes
    rcases holds_of_push h with h | ⟨entry, hentry, rfl⟩
    · exact ih houter h
    · exact hframe entry hentry

/-- The frames of an environment are of tools that are held. -/
theorem holds_of_mem_chain (store : Store) (env : Environment) :
    ∀ frame ∈ store.chain env, ∀ entry ∈ frame, store.Holds entry.2.2 := by
  intro frame hframe entry hentry
  obtain ⟨number, _, rfl⟩ := List.mem_map.mp hframe
  exact ⟨number, entry, hentry, rfl⟩

theorem Holds.pushAll {store : Store} {tool : Tool} (h : store.Holds tool)
    (frames : List Frame) : (store.pushAll frames).1.Holds tool := by
  induction frames with
  | nil => exact h
  | cons frame outer ih => exact ih.push frame

end Store

/-- A tool that can be made once there are `first` frames and before there are `last`: a built-in tool,
a constant, or a defined tool all of whose frames were made in between. -/
inductive Tool.Made (first last : Nat) : Tool → Prop
  | builtin (tool : Builtin) : Made first last (.builtin tool)
  | constant (value : Value) : Made first last (.constant value)
  | defined {parameters : List String} {description : String} {body : Value}
      {closure : Environment}
      (hclosure : ∀ number ∈ closure.path, first ≤ number ∧ number < last) :
      Made first last (.defined parameters description body closure)

/-- A built-in tool or a constant. -/
def Tool.isSimple : Tool → Bool
  | builtin _ => true
  | constant _ => true
  | _ => false

theorem Tool.Made.of_isSimple {first last : Nat} {tool : Tool} (h : tool.isSimple = true) :
    tool.Made first last := by
  cases tool with
  | builtin tool => exact .builtin tool
  | constant value => exact .constant value
  | _ => cases h

theorem Tool.Made.mono {first last earlier later : Nat} {tool : Tool}
    (h : tool.Made first last) (hfirst : earlier ≤ first) (hlast : last ≤ later) :
    tool.Made earlier later := by
  cases h with
  | builtin tool => exact .builtin tool
  | constant value => exact .constant value
  | defined hclosure =>
    refine .defined fun number hnumber => ?_
    obtain ⟨hlower, hupper⟩ := hclosure number hnumber
    omega

namespace Store

/-- A later store has all frames of an earlier one, and those that were not to be changed are as they
were.  Its tools were bound before or were made since. -/
structure Grows (changed : Nat → Prop) (before after : Store) : Prop where
  size_le : before.size ≤ after.size
  frameAt_eq : ∀ number < before.size, ¬ changed number →
    after.frameAt number = before.frameAt number
  made : ∀ tool, after.Holds tool → before.Holds tool ∨ tool.Made before.size after.size

namespace Grows

variable {changed : Nat → Prop} {before between after : Store}

theorem refl (changed : Nat → Prop) (store : Store) : Grows changed store store where
  size_le := Nat.le_refl _
  frameAt_eq _ _ _ := rfl
  made _ h := .inl h

theorem trans (hfirst : Grows changed before between) (hsecond : Grows changed between after) :
    Grows changed before after where
  size_le := Nat.le_trans hfirst.size_le hsecond.size_le
  frameAt_eq number hnumber hchanged := by
    have hbetween := Nat.lt_of_lt_of_le hnumber hfirst.size_le
    rw [hsecond.frameAt_eq number hbetween hchanged, hfirst.frameAt_eq number hnumber hchanged]
  made tool h := by
    rcases hsecond.made tool h with h | h
    · rcases hfirst.made tool h with h | h
      · exact .inl h
      · exact .inr (h.mono (Nat.le_refl _) hsecond.size_le)
    · exact .inr (h.mono hfirst.size_le (Nat.le_refl _))

/-- It does no harm to allow more changes, also of frames that did not exist before. -/
theorem mono {allowed : Nat → Prop} (h : Grows changed before after)
    (hallowed : ∀ number < before.size, changed number → allowed number) :
    Grows allowed before after where
  size_le := h.size_le
  frameAt_eq number hnumber hkept :=
    h.frameAt_eq number hnumber fun hchanged => hkept (hallowed number hnumber hchanged)
  made := h.made

/-- One more frame, of tools that were held or are new. -/
theorem push (h : Grows changed before between) {frame : Frame}
    (hframe : ∀ entry ∈ frame,
      between.Holds entry.2.2 ∨ entry.2.2.Made before.size (between.size + 1)) :
    Grows changed before (between.push frame) where
  size_le := by
    rw [size_push]
    exact Nat.le_succ_of_le h.size_le
  frameAt_eq number hnumber hkept := by
    have hsize := h.size_le
    rw [frameAt_push, if_neg (by omega)]
    exact h.frameAt_eq number hnumber hkept
  made tool htool := by
    have hheld (htool : between.Holds tool) :
        before.Holds tool ∨ tool.Made before.size (between.push frame).size := by
      rcases h.made tool htool with hbefore | hmade
      · exact .inl hbefore
      · refine .inr (hmade.mono (Nat.le_refl _) ?_)
        rw [size_push]
        exact Nat.le_succ _
    rcases holds_of_push htool with htool | ⟨entry, hentry, rfl⟩
    · exact hheld htool
    · rcases hframe entry hentry with htool | hmade
      · exact hheld htool
      · rw [size_push]
        exact .inr hmade

/-- A change of one frame after which it binds only tools that were held or are new. -/
theorem change (h : Grows changed before between) {number : Nat} {f : Frame → Frame}
    (hchanged : changed number)
    (hf : ∀ entry ∈ f (between.frameAt number),
      between.Holds entry.2.2 ∨ entry.2.2.Made before.size between.size) :
    Grows changed before (between.change number f) where
  size_le := by
    rw [size_change]
    exact h.size_le
  frameAt_eq other hother hkept := by
    have hne : other ≠ number := fun heq => hkept (heq ▸ hchanged)
    rw [frameAt_change_of_ne between f hne]
    exact h.frameAt_eq other hother hkept
  made tool htool := by
    rw [size_change]
    rcases holds_of_change htool with htool | ⟨entry, hentry, rfl⟩
    · exact h.made tool htool
    · rcases hf entry hentry with htool | hmade
      · exact h.made _ htool
      · exact .inr hmade

/-- How many tools were made is no matter of frames. -/
theorem retool (h : Grows changed before after) (tools : Nat) :
    Grows changed before { after with tools := tools } :=
  ⟨h.size_le, h.frameAt_eq, h.made⟩

end Grows

/-! ### Operations -/

variable {changed : Nat → Prop} {store : Store}

/-- Frames of tools held already are copied. -/
theorem pushAll_grows {frames : List Frame}
    (hframes : ∀ frame ∈ frames, ∀ entry ∈ frame, store.Holds entry.2.2) :
    Grows changed store (store.pushAll frames).1 := by
  induction frames with
  | nil => exact Grows.refl _ _
  | cons frame outer ih =>
    obtain ⟨hframe, houter⟩ := List.forall_mem_cons.mp hframes
    exact (ih houter).push fun entry hentry => .inl ((hframe entry hentry).pushAll outer)

/-- The frames of an environment are copied: nothing is changed, and the copies are new. -/
theorem snapshot_grows (env : Environment) :
    Grows changed store (store.snapshot env).1 ∧
      ∀ number ∈ (store.snapshot env).2.path,
        store.size ≤ number ∧ number < (store.snapshot env).1.size :=
  ⟨pushAll_grows (holds_of_mem_chain store env),
    fun _ => @bounds_of_mem_pushAll store (store.chain env) _⟩

/-- A new frame is made of tools that are held or new. -/
theorem add_grows (outer : List Nat) {tools : Entries Tool}
    (htools : ∀ entry ∈ tools, store.Holds entry.2 ∨
      entry.2.Made store.size (store.size + 1)) :
    Grows changed store (store.add outer tools).1 := by
  refine ((Grows.refl changed store).push ?_).retool _
  intro entry hentry
  obtain ⟨i, hi, rfl⟩ := List.mem_mapIdx.mp (Entries.mem_of_mem_ofList hentry)
  exact htools _ (List.getElem_mem hi)

/-- A binding of the innermost frame is of a tool that is held already. -/
theorem bind_grows {env : Environment} (hchanged : changed env.frame) (name : String)
    {binding : Binding} (hbinding : store.Holds binding.2) :
    Grows changed store (store.bind env name binding) := by
  refine (Grows.refl changed store).change hchanged ?_
  intro entry hentry
  rcases Entries.mem_of_mem_put hentry with hentry | rfl
  · exact .inl ⟨env.frame, entry, hentry, rfl⟩
  · exact .inl hbinding

theorem undefine_grows {env : Environment} (hchanged : changed env.frame) (name : String) :
    Grows changed store (store.undefine env name) := by
  refine (Grows.refl changed store).change hchanged ?_
  intro entry hentry
  exact .inl ⟨env.frame, entry, Entries.mem_of_mem_erase hentry, rfl⟩

/-- A tool is made over new frames, and only the frame that it is bound in changes. -/
theorem create_grows {env : Environment} (hchanged : changed env.frame) (name : String)
    (parameters : List String) (description : String) (body : Value) :
    Grows changed store (store.create env name parameters description body) := by
  have hsnapshot := @snapshot_grows changed store env
  unfold create
  generalize store.snapshot env = copies at hsnapshot
  obtain ⟨copied, surroundings⟩ := copies
  obtain ⟨hcopied, hpath⟩ := hsnapshot
  dsimp only at hcopied hpath ⊢
  have hsize := hcopied.size_le
  -- all frames of the tool are new: the copies, and the frame in which it has its own name
  have hmade : (Tool.defined parameters description body
      ⟨copied.size, surroundings.path⟩).Made store.size (copied.size + 1) := by
    refine .defined fun number hnumber => ?_
    rcases List.mem_cons.mp hnumber with rfl | hnumber
    · exact ⟨hsize, Nat.lt_succ_self _⟩
    · have hbounds := hpath number hnumber
      omega
  refine ((hcopied.push fun entry hentry => ?_).change hchanged ?_).retool _
  · rw [List.mem_singleton.mp hentry]
    exact .inr hmade
  · intro entry hentry
    rcases Entries.mem_of_mem_put hentry with hentry | rfl
    · exact .inl ⟨env.frame, entry, hentry, rfl⟩
    · rw [size_push]
      exact .inr hmade

end Store

end ToolWeave
