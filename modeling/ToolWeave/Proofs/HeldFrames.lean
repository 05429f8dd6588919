import ToolWeave.Proofs.FrameTrees
import ToolWeave.Proofs.Service
import ToolWeave.Session

/-!
# Frames that a host holds

A host may hold on to any number of frames, and bind names in them, remove bindings, open frames inside them,
make snapshots of them and go to the frames around them, in any order.  What is seen from them is what a
`FrameTree` says to which the same is done, and no operation reaches further than it should
(`sessions_show_trees`).

## Main definitions

* `Session.perform`: an operation on the frames of a session.
* `Session.Mirrors`: the invariant that every operation keeps.
* `Session.Shows`: all that can be seen from the frames of a session is what a tree says.
* `Session.Effect`: all that an operation can do to a session.
* `FrameOperation.Confined`: how far an operation reaches.

## Design notes

**Frames that are held.**  A snapshot adds as many frames as the environment has, and the host gets the
innermost one.  The others are within reach, since a host can always go to the frame around a frame.

**Apart.**  Two frames are apart if they have different outermost frames.  Whatever is opened inside a frame
has the outermost frame of that, and a snapshot has one of its own.
-/

namespace ToolWeave

/-! ### Names in order -/

namespace Entries

/-- What is kept of the names so far comes before what is kept of the rest. -/
theorem eraseRepsLoop_eq (last : String) (names taken : List String) :
    List.eraseRepsBy.loop (· == ·) last names taken = taken.reverse ++ (last :: names).eraseReps := by
  have hstart (last : String) (names : List String) :
      (last :: names).eraseReps = List.eraseRepsBy.loop (· == ·) last names [] := rfl
  -- the loop has the names that it keeps in a list, last one first
  induction names generalizing last taken with
  | nil =>
    rw [List.eraseRepsBy.loop, List.reverse_cons]
    rfl
  | cons first rest ih =>
    rw [hstart, List.eraseRepsBy.loop, List.eraseRepsBy.loop]
    split
    · rw [ih, hstart]
    · rw [ih, ih first [last], List.reverse_cons, List.append_assoc]
      rfl

theorem eraseReps_cons_cons (first second : String) (rest : List String) :
    (first :: second :: rest).eraseReps =
      if first = second then (second :: rest).eraseReps else first :: (second :: rest).eraseReps := by
  show List.eraseRepsBy.loop (· == ·) first (second :: rest) [] = _
  rw [List.eraseRepsBy.loop]
  split
  · next heq =>
    rw [beq_iff_eq] at heq
    rw [if_pos heq, heq]
    rfl
  · next hne =>
    rw [beq_eq_false_iff_ne] at hne
    rw [if_neg hne, eraseRepsLoop_eq]
    rfl

theorem mem_eraseReps {name : String} {names : List String} : name ∈ names.eraseReps ↔ name ∈ names := by
  induction names with
  | nil => exact Iff.rfl
  | cons first rest ih =>
    cases rest with
    | nil => exact Iff.rfl
    | cons second rest =>
      rw [eraseReps_cons_cons]
      split
      · next heq =>
        rw [ih, heq]
        simp
      · rw [List.mem_cons, ih, ← List.mem_cons]

/-- Without repetitions, names that never go down go up. -/
theorem pairwise_eraseReps {names : List String} (h : names.Pairwise (· ≤ ·)) :
    names.eraseReps.Pairwise (· < ·) := by
  induction names with
  | nil => exact .nil
  | cons first rest ih =>
    obtain ⟨hfirst, hrest⟩ := List.pairwise_cons.mp h
    cases rest with
    | nil => exact List.pairwise_singleton _ _
    | cons second rest =>
      rw [eraseReps_cons_cons]
      split
      · exact ih hrest
      · next hne =>
        refine List.pairwise_cons.mpr ⟨fun name hname => ?_, ih hrest⟩
        have hsecond : first < second := by
          rw [← String.not_le]
          exact fun hle => hne (String.le_antisymm (hfirst second List.mem_cons_self) hle)
        rcases List.mem_cons.mp (mem_eraseReps.mp hname) with rfl | hname
        · exact hsecond
        · exact Std.lt_of_lt_of_le hsecond ((List.pairwise_cons.mp hrest).1 name hname)

theorem mem_sortedNames {name : String} {names : List String} : name ∈ sortedNames names ↔ name ∈ names := by
  unfold sortedNames
  rw [mem_eraseReps, List.mem_mergeSort]

theorem pairwise_sortedNames (names : List String) : (sortedNames names).Pairwise (· < ·) := by
  refine pairwise_eraseReps (List.Pairwise.imp of_decide_eq_true ?_)
  refine List.pairwise_mergeSort (fun a b c hab hbc => ?_) (fun a b => ?_) _
  · exact decide_eq_true (String.le_trans (of_decide_eq_true hab) (of_decide_eq_true hbc))
  · rw [Bool.or_eq_true, decide_eq_true_iff, decide_eq_true_iff]
    exact String.le_total _ _

end Entries

/-- The visible names are those that are bound to something. -/
theorem Frame.mem_visible {name : String} {frames : List Frame} :
    name ∈ Frame.visible frames ↔ (Frame.find? name frames).isSome = true := by
  unfold Frame.visible
  rw [Entries.mem_sortedNames, List.mem_flatMap]
  induction frames with
  | nil => simp
  | cons frame outer ih =>
    rw [List.exists_mem_cons_iff, ih, ← Entries.has_iff_mem_names, Frame.find?_cons, Option.isSome_or,
      Bool.or_eq_true]
    rfl

/-! ### Operations -/

/-- The number of the outermost frame of an environment. -/
def Environment.outermost (env : Environment) : Nat := env.path.getLast (List.cons_ne_nil _ _)

namespace Session

/-- Holds on to the frame around a numbered one, if there is one. -/
def around (s : Session) (number : Nat) : Session :=
  match (s.environment number).outer with
  | [] => s
  | frame :: outer => { s with held := s.held ++ [⟨frame, outer⟩] }

/-- The session after an operation on one of its frames. -/
def perform (s : Session) : FrameOperation → Except Crash Session
  | .define number name tool => s.define number name tool
  | .bind number name binding => s.bind number name binding
  | .undefine number name => .ok (s.undefine number name)
  | .child number tools => .ok (s.child number tools)
  | .snapshot number => .ok (s.snapshot number)
  | .around number => .ok (s.around number)

/-- The state of a run in a numbered frame. -/
def worldAt (s : Session) (number : Nat) : World := { s.world with environment := s.environment number }

/-- The names that resolve in a numbered frame. -/
def names (s : Session) (number : Nat) : List String := s.world.store.names (s.environment number)

/-- The outermost frame around a numbered one. -/
def outermost (s : Session) (number : Nat) : Nat := (s.environment number).outermost

end Session

/-! ### What an operation does to a session -/

/-- The frames of a session are those of a tree, and the same ones are held. -/
structure Session.Mirrors (s : Session) (t : FrameTree) : Prop where
  frames : s.world.store.Mirrors t.frames
  held : List.Forall₂ (fun env number => t.frames.Path (some number) env.path) s.held t.held

namespace Session.Mirrors

variable {s : Session} {t : FrameTree}

theorem length_eq (h : s.Mirrors t) : s.held.length = t.held.length := h.held.length_eq

/-- The environment of a number is the path from its frame. -/
theorem path (h : s.Mirrors t) {number : Nat} (hnumber : number < t.held.length) :
    t.frames.Path (some (t.frame number)) (s.environment number).path := by
  have hnumber' : number < s.held.length := by rwa [h.length_eq]
  have hget := List.Forall₂.get h.held hnumber' hnumber
  unfold Session.environment FrameTree.frame
  rw [List.getElem?_eq_getElem hnumber', List.getElem?_eq_getElem hnumber]
  exact hget

theorem frame_eq (h : s.Mirrors t) {number : Nat} (hnumber : number < t.held.length) :
    (s.environment number).frame = t.frame number :=
  Option.some.inj (h.path hnumber).head?_eq

/-- The frames of a number are those of the tree. -/
theorem chain (h : s.Mirrors t) {number : Nat} (hnumber : number < t.held.length) :
    List.Forall₂ Frame.Mirrors (s.world.store.chain (s.environment number)) (t.chain number) :=
  h.frames.chain (h.path hnumber)

/-- A frame is changed on both sides. -/
theorem change (h : s.Mirrors t) {number : Nat} (hnumber : number < t.held.length) {f : Frame → Frame}
    {g : FrameMap → FrameMap} (hf : ∀ frame map, Frame.Mirrors frame map → (f frame).Mirrors (g map))
    (made : Nat) :
    Mirrors (s.setStore { s.world.store.change (s.environment number).frame f with tools := made })
      (t.change number g) := by
  have hstore := h.frames.change (s.environment number).frame hf
  unfold FrameTree.change
  rw [← h.frame_eq hnumber]
  exact ⟨⟨hstore.size_eq, hstore.frameAt⟩, h.held.imp fun _ _ hpath => hpath.modify _ _⟩

/-- New frames are held on both sides. -/
theorem hold (h : s.Mirrors t) {store : Store} {env : Environment} {forest : Forest FrameMap} {added : Nat}
    (hstore : store.Mirrors forest) (hmore : ∃ more, forest = t.frames ++ more)
    (hpath : forest.Path (some added) env.path) : Mirrors (s.hold (store, env)) (t.hold (forest, some added)) := by
  obtain ⟨more, rfl⟩ := hmore
  exact ⟨hstore, List.rel_append (h.held.imp fun _ _ hold => hold.append more) (.cons hpath .nil)⟩

/-- A frame is opened on both sides. -/
theorem child (h : s.Mirrors t) {number : Nat} (hnumber : number < t.held.length) (tools : Entries Tool) :
    (s.child number tools).Mirrors (t.perform (.child number tools)) := by
  have hpath := h.path hnumber
  have hpush := h.frames.push (Frame.mirrors_ofTools s.world.store.tools tools) (some (t.frame number))
  refine h.hold ⟨hpush.size_eq, hpush.frameAt⟩ ⟨_, rfl⟩ ?_
  show Forest.Path _ _ (s.world.store.size :: (s.environment number).path)
  rw [h.frames.size_eq]
  refine .inside List.getElem?_concat_length (fun around haround => ?_) (hpath.append _)
  exact hpath.lt_length around (List.mem_of_mem_head? (hpath.head?_eq.trans haround))

/-- A snapshot is made on both sides. -/
theorem snapshot (h : s.Mirrors t) {number : Nat} (hnumber : number < t.held.length) :
    (s.snapshot number).Mirrors (t.perform (.snapshot number)) := by
  obtain ⟨hstore, hpath⟩ := h.frames.pushAll (h.chain hnumber)
  have hmore := Forest.exists_addAll_eq t.frames (t.chain number)
  show Mirrors _ (t.hold (t.frames.addAll (t.chain number)))
  generalize t.frames.addAll (t.chain number) = added at hstore hpath hmore ⊢
  obtain ⟨forest, last⟩ := added
  -- a snapshot has at least one frame
  obtain rfl : last = some _ := hpath.head?_eq.symm
  exact h.hold hstore hmore hpath

/-- The frame around is held on both sides, or on neither. -/
theorem around (h : s.Mirrors t) {number : Nat} (hnumber : number < t.held.length) :
    (s.around number).Mirrors (t.perform (.around number)) := by
  have hpath := h.path hnumber
  show Mirrors (s.around number) (t.hold (t.frames, t.frames.outer? (t.frame number)))
  unfold Session.around
  generalize s.environment number = env at hpath ⊢
  obtain ⟨frame, outer⟩ := env
  change t.frames.Path (some (t.frame number)) (frame :: outer) at hpath
  cases hpath with
  | inside hcell hlt hrest =>
    have houter : t.frames.outer? (t.frame number) = _ := congrArg (Option.bind · Prod.snd) hcell
    rw [houter]
    have haround := hrest
    -- an outermost frame has none around it on either side
    cases hrest with
    | outside =>
      show Mirrors s ⟨t.frames, t.held ++ []⟩
      rw [List.append_nil]
      exact h
    | inside => exact ⟨h.frames, List.rel_append h.held (.cons haround .nil)⟩

/-- **One operation.**  It can be done, and afterwards the frames are again those of the tree. -/
theorem perform (h : s.Mirrors t) {op : FrameOperation} (hfits : op.Fits t.held.length) :
    ∃ next, s.perform op = .ok next ∧ next.Mirrors (t.perform op) := by
  obtain ⟨hnumber, hname⟩ := hfits
  have hbindable {name : String} (hne : some name ≠ some "") : bindable name = .ok () :=
    if_neg fun heq => hne (congrArg some heq)
  cases op with
  | define number name tool =>
    refine ⟨_, ?_, h.change hnumber (fun _ _ hframe => hframe.put name (s.world.store.tools, tool))
      (s.world.store.tools + 1)⟩
    show s.define number name tool = _
    unfold Session.define
    rw [hbindable (hname rfl)]
    rfl
  | bind number name binding =>
    refine ⟨_, ?_, h.change hnumber (fun _ _ hframe => hframe.put name binding) s.world.store.tools⟩
    show s.bind number name binding = _
    unfold Session.bind
    rw [hbindable (hname rfl)]
    rfl
  | undefine number name =>
    exact ⟨_, rfl, h.change hnumber (fun _ _ hframe => hframe.erase name) s.world.store.tools⟩
  | child number tools => exact ⟨_, rfl, h.child hnumber tools⟩
  | snapshot number => exact ⟨_, rfl, h.snapshot hnumber⟩
  | around number => exact ⟨_, rfl, h.around hnumber⟩

end Session.Mirrors

/-! ### What is seen of the frames -/

/-- From the frames that a session holds there is to be seen what a tree says. -/
structure Session.Shows (s : Session) (t : FrameTree) : Prop where
  length_eq : s.held.length = t.held.length
  /-- A name is bound to what the nearest frame with the name binds it to. -/
  lookup_eq : ∀ number < t.held.length, ∀ name, s.lookup number name = t.lookup number name
  isLocal_eq : ∀ number < t.held.length, ∀ name, s.isLocal number name = t.isLocal number name
  /-- The tool that removes a binding says whether the frame itself had the name. -/
  undefine_eq : ∀ number < t.held.length, ∀ name,
    Bindings.undefine (.object [("name", .string name)]) (s.worldAt number) =
      (.ok (.bool (t.isLocal number name)), (s.undefine number name).worldAt number)
  names_pairwise : ∀ number, (s.names number).Pairwise (· < ·)
  mem_names : ∀ number < t.held.length, ∀ name,
    name ∈ s.names number ↔ (t.lookup number name).isSome = true
  /-- The tool that lists names lists these. -/
  listTools_eq : ∀ number, Bindings.listTools (s.worldAt number) =
    (.ok (.object [("names", .strings (s.names number))]), s.worldAt number)
  /-- A server lists these when it is asked to, with any parameters that it accepts. -/
  handle_eq : ∀ number limit request, request.field? "method" = some (.string "tools/list") →
    (∀ params ∈ request.field? "params", params.isGiven = true → params.kind = .object) → ∃ entries,
      Server.handle limit request (s.worldAt number) =
        (.ok (.object [("tools", .array entries)]), s.worldAt number) ∧
        entries.map (Value.field? "name") = (s.names number).map fun name => some (.string name)

theorem Session.Mirrors.isLocal_eq {s : Session} {t : FrameTree} (h : s.Mirrors t) {number : Nat}
    (hnumber : number < t.held.length) (name : String) : s.isLocal number name = t.isLocal number name := by
  have hchain := h.chain hnumber
  unfold FrameTree.isLocal
  generalize t.chain number = maps at hchain ⊢
  cases hchain with
  | cons hframe _ => exact hframe.has name

theorem Session.Mirrors.shows {s : Session} {t : FrameTree} (h : s.Mirrors t) : s.Shows t where
  length_eq := h.length_eq
  lookup_eq number hnumber name := Frame.find?_eq_findSome? (h.chain hnumber) name
  isLocal_eq number hnumber name := h.isLocal_eq hnumber name
  undefine_eq number hnumber name := by
    rw [← h.isLocal_eq hnumber name]
    rfl
  names_pairwise number := Entries.pairwise_sortedNames _
  mem_names number hnumber name := by
    rw [FrameTree.lookup, ← Frame.find?_eq_findSome? (h.chain hnumber), Option.isSome_map]
    exact Frame.mem_visible
  listTools_eq number := rfl
  handle_eq number limit request hmethod hparams := by
    refine ⟨(s.names number).map (Server.entryOf (s.worldAt number)), ?_, ?_⟩
    · obtain ⟨fields, hhandle⟩ := Server.handle_of_parameters limit hmethod hparams
      rw [hhandle]
      rfl
    · rw [List.map_map]
      rfl

/-! ### How far an operation reaches -/

namespace Session

variable {s next : Session} {op : FrameOperation}

theorem environment_hold (s : Session) (added : Store × Environment) :
    (s.hold added).environment s.held.length = added.2 := by
  unfold environment hold
  rw [List.getElem?_concat_length]
  rfl

/-- All that an operation can do: it changes the frame that it is done to at one name, or it leaves all frames
alone and possibly holds on to one more. -/
inductive Effect (s : Session) (op : FrameOperation) : Session → Prop
  | changed {name : String} {f : Frame → Frame} (made : Nat) (hname : op.name? = some name)
      (hself : ∀ entries, (Entries.get? name (f entries)).map Prod.snd = op.tool?)
      (hother : ∀ other ≠ name, ∀ entries, Entries.get? other (f entries) = Entries.get? other entries) :
      Effect s op (s.setStore { s.world.store.change (s.environment op.number).frame f with tools := made })
  | opened {store : Store} {env : Environment} (hname : op.name? = none)
      (hkept : ∀ frame < s.world.store.size, store.frameAt frame = s.world.store.frameAt frame) :
      Effect s op (s.hold (store, env))
  | nothing (hname : op.name? = none) : Effect s op s

/-- A frame in which a name is bound to the tool of an operation. -/
theorem effect_put (s : Session) {name : String} {binding : Binding} (made : Nat) (hname : op.name? = some name)
    (htool : op.tool? = some binding.2) :
    s.Effect op (s.setStore
      { s.world.store.change (s.environment op.number).frame (Entries.put name binding) with tools := made }) := by
  refine .changed made hname (fun entries => ?_) fun other hne entries => ?_
  · rw [Entries.get?_put_self, htool]
    rfl
  · exact Entries.get?_put_of_ne hne.symm binding entries

theorem effect_of_perform (h : s.perform op = .ok next) : s.Effect op next := by
  cases op with
  | define number name tool =>
    change s.define number name tool = .ok next at h
    unfold Session.define bindable at h
    split at h
    · cases h
    · cases h
      exact effect_put s (s.world.store.tools + 1) rfl rfl
  | bind number name binding =>
    change s.bind number name binding = .ok next at h
    unfold Session.bind bindable at h
    split at h
    · cases h
    · cases h
      exact effect_put s s.world.store.tools rfl rfl
  | undefine number name =>
    cases h
    refine .changed (f := Entries.erase name) s.world.store.tools rfl (fun entries => ?_) ?_
    · rw [Entries.get?_erase_self]
      rfl
    · exact fun other hne entries => Entries.get?_erase_of_ne hne.symm entries
  | child number tools =>
    cases h
    refine .opened rfl fun frame hframe => ?_
    show (s.world.store.push _).frameAt frame = _
    rw [Store.frameAt_push, if_neg (Nat.ne_of_lt hframe)]
  | snapshot number =>
    cases h
    refine .opened rfl fun frame hframe => ?_
    exact (@Store.snapshot_grows (fun _ => False) s.world.store _).1.frameAt_eq frame hframe id
  | around number =>
    cases h
    unfold Session.around
    split
    · exact .nothing rfl
    · exact .opened rfl fun _ _ => rfl

namespace Effect

/-- The frames that were held are held under the same numbers. -/
theorem environment_eq (h : s.Effect op next) {number : Nat} (hnumber : number < s.held.length) :
    next.environment number = s.environment number := by
  cases h with
  | changed => rfl
  | opened =>
    unfold environment hold
    rw [List.getElem?_append_left hnumber, List.getElem?_eq_getElem hnumber]
    rfl
  | nothing => rfl

theorem length_le (h : s.Effect op next) : s.held.length ≤ next.held.length := by
  cases h with
  | changed => exact Nat.le_refl _
  | opened => exact (List.prefix_append _ _).length_le
  | nothing => exact Nat.le_refl _

/-- A frame that is not the one that is changed, or a name that is not, leads to what it led to. -/
theorem get?_eq (h : s.Effect op next) {frame : Nat} (hframe : frame < s.world.store.size) {name : String}
    (hname : op.name? = some name → frame ≠ (s.environment op.number).frame) :
    Entries.get? name (next.world.store.frameAt frame) = Entries.get? name (s.world.store.frameAt frame) := by
  cases h with
  | @changed changed f made hchanged hself hother =>
    show Entries.get? name ((s.world.store.change _ f).frameAt frame) = _
    by_cases heq : frame = (s.environment op.number).frame
    · have hne : name ≠ changed := fun hsame => hname (hsame ▸ hchanged) heq
      rw [← heq, Store.frameAt_change_self f hframe, hother name hne]
    · rw [Store.frameAt_change_of_ne _ f heq]
  | opened _ hkept => exact congrArg (Entries.get? name) (hkept frame hframe)
  | nothing => rfl

/-- The frame that is changed binds the name to the tool of the operation, or not at all. -/
theorem own (h : s.Effect op next) (hframe : (s.environment op.number).frame < s.world.store.size)
    {name : String} (hname : op.name? = some name) :
    (Entries.get? name (next.frame op.number)).map Prod.snd = op.tool? := by
  cases h with
  | @changed changed f made hchanged hself hother =>
    cases hname.symm.trans hchanged
    show (Entries.get? name ((s.world.store.change (s.environment op.number).frame f).frameAt
      (s.environment op.number).frame)).map Prod.snd = _
    rw [Store.frameAt_change_self f hframe, hself]
  | opened hnone => cases hname.symm.trans hnone
  | nothing hnone => cases hname.symm.trans hnone

end Effect

end Session

/-- How far an operation reaches that takes a session to the next one. -/
structure FrameOperation.Confined (op : FrameOperation) (s next : Session) : Prop where
  /-- The frames that were held are held under the same numbers. -/
  environment_eq : ∀ number < s.held.length, next.environment number = s.environment number
  /-- No frame changes but the one that the operation is done to, and that one at the name only. -/
  get?_eq : ∀ frame < s.world.store.size, ∀ name,
    (op.name? = some name → frame ≠ (s.environment op.number).frame) →
      Entries.get? name (next.world.store.frameAt frame) = Entries.get? name (s.world.store.frameAt frame)
  /-- That one binds the name to the tool of the operation, or no longer. -/
  own : ∀ name, op.name? = some name →
    (Entries.get? name (next.frame op.number)).map Prod.snd = op.tool?
  /-- Inside of it the name is seen as it is there, unless a nearer frame binds it. -/
  seen : ∀ number < s.held.length, ∀ nearer,
    (s.environment number).path = nearer ++ (s.environment op.number).path → ∀ name,
      (∀ frame ∈ nearer, Entries.has name (s.world.store.frameAt frame) = false) →
        next.lookup number name = next.lookup op.number name
  /-- Nothing is different for the frames that are apart from it. -/
  apart : ∀ number < s.held.length, s.outermost number ≠ s.outermost op.number → ∀ name,
    next.lookup number name = s.lookup number name
  /-- What is newly held is not apart from it, unless it is a snapshot. -/
  outermost_eq : (∀ number, op ≠ .snapshot number) → ∀ number < next.held.length, s.held.length ≤ number →
    next.outermost number = s.outermost op.number
  /-- A snapshot shows what is seen at the time, and it is apart from all frames that were held. -/
  snapshot : ∀ number, op = .snapshot number → next.held.length = s.held.length + 1 ∧
    (∀ name, next.lookup s.held.length name = s.lookup number name) ∧
      ∀ other < s.held.length, next.outermost s.held.length ≠ next.outermost other

/-- Where all frames of an environment bind a name to what they bound it to, so does the environment. -/
theorem Frame.find?_map_congr {first second : Nat → Frame} {path : List Nat} {name : String}
    (h : ∀ frame ∈ path, Entries.get? name (first frame) = Entries.get? name (second frame)) :
    Frame.find? name (path.map first) = Frame.find? name (path.map second) := by
  induction path with
  | nil => rfl
  | cons frame outer ih =>
    obtain ⟨hframe, houter⟩ := List.forall_mem_cons.mp h
    rw [List.map_cons, List.map_cons, find?_cons, find?_cons, hframe, ih houter]

/-- Frames that do not bind a name are passed over. -/
theorem Frame.find?_append_of_none {nearer outer : List Frame} {name : String}
    (h : ∀ frame ∈ nearer, Entries.has name frame = false) :
    Frame.find? name (nearer ++ outer) = Frame.find? name outer := by
  induction nearer with
  | nil => rfl
  | cons frame nearer ih =>
    obtain ⟨hframe, hnearer⟩ := List.forall_mem_cons.mp h
    have hnone : Entries.get? name frame = none :=
      Option.isNone_iff_eq_none.mp (Option.isSome_eq_false_iff.mp hframe)
    rw [List.cons_append, find?_cons, ih hnearer, hnone, Option.none_or]

namespace Session.Mirrors

variable {s next : Session} {t : FrameTree} {op : FrameOperation}

theorem lt_size (h : s.Mirrors t) {number : Nat} (hnumber : number < t.held.length) :
    ∀ frame ∈ (s.environment number).path, frame < s.world.store.size := by
  rw [h.frames.size_eq]
  exact (h.path hnumber).lt_length

/-- Frames that have an environment in common have the outermost one in common. -/
theorem outermost_eq_of_mem (h : s.Mirrors t) {number other : Nat} (hnumber : number < t.held.length)
    (hother : other < t.held.length) (hmem : (s.environment other).frame ∈ (s.environment number).path) :
    s.outermost number = s.outermost other := by
  obtain ⟨rest, hrest, hsuffix⟩ := (h.path hnumber).exists_suffix hmem
  rw [h.frame_eq hother] at hrest
  obtain rfl := hrest.unique (h.path hother)
  exact (hsuffix.getLast (List.cons_ne_nil _ _)).symm

/-- What is newly held has the outermost frame of the frame that it was made of, unless it is a snapshot. -/
theorem outermost_eq_of_new (hnext : s.perform op = .ok next)
    (hsnapshot : ∀ number, op ≠ .snapshot number) {number : Nat} (hnumber : number < next.held.length)
    (hnew : s.held.length ≤ number) : next.outermost number = s.outermost op.number := by
  have hadded (added : Store × Environment) (hlt : number < (s.hold added).held.length) :
      (s.hold added).outermost number = added.2.outermost := by
    have hlength : (s.hold added).held.length = s.held.length + 1 := List.length_append
    obtain rfl : number = s.held.length := by omega
    unfold Session.outermost
    rw [environment_hold]
  cases op with
  | child number tools =>
    cases hnext
    exact (hadded _ hnumber).trans (List.getLast_cons (List.cons_ne_nil _ _))
  | snapshot number => exact absurd rfl (hsnapshot number)
  | around inner =>
    cases hnext
    unfold Session.around at hnumber ⊢
    show _ = (s.environment inner).outermost
    generalize s.environment inner = env at hnumber ⊢
    obtain ⟨first, outer⟩ := env
    cases outer with
    | nil => exact absurd hnumber (Nat.not_lt.mpr hnew)
    | cons frame outer =>
      exact (hadded (_, _) hnumber).trans (List.getLast_cons (List.cons_ne_nil _ _)).symm
  | _ =>
    -- the other operations hold on to no new frame
    cases effect_of_perform hnext with
    | changed => exact absurd hnumber (Nat.not_lt.mpr hnew)
    | opened hname => cases hname
    | nothing hname => cases hname

/-- A snapshot of a frame shows what the frame shows, and has an outermost frame of its own. -/
theorem snapshot_apart (h : s.Mirrors t) (number : Nat) :
    (∀ name, (s.snapshot number).lookup s.held.length name = s.lookup number name) ∧
      ∀ other < s.held.length, (s.snapshot number).outermost s.held.length ≠ s.outermost other := by
  have henv : (s.snapshot number).environment s.held.length = (s.world.store.snapshot (s.environment number)).2 :=
    environment_hold s _
  refine ⟨fun name => ?_, fun other hother => ?_⟩
  · unfold Session.lookup Store.lookup Store.binding?
    rw [henv]
    exact congrArg (fun chain => (Frame.find? name chain).map Prod.snd) (Store.chain_snapshot _ _)
  · unfold Session.outermost
    rw [henv]
    -- the frames of the snapshot are new
    have hnew := (@Store.snapshot_grows (fun _ => False) s.world.store (s.environment number)).2 _
      (List.getLast_mem (List.cons_ne_nil _ _))
    have hold := h.lt_size (h.length_eq ▸ hother) _ (List.getLast_mem (List.cons_ne_nil _ _))
    exact Nat.ne_of_gt (Nat.lt_of_lt_of_le hold hnew.1)

/-- Inside of the frame that an operation is done to, a name is seen as it is there, unless a nearer frame binds
it. -/
theorem lookup_inside (h : s.Mirrors t) (heffect : s.Effect op next) (hop : op.number < s.held.length)
    {number : Nat} (hnumber : number < s.held.length) {nearer : List Nat}
    (hpath : (s.environment number).path = nearer ++ (s.environment op.number).path) {name : String}
    (hnearer : ∀ frame ∈ nearer, Entries.has name (s.world.store.frameAt frame) = false) :
    next.lookup number name = next.lookup op.number name := by
  have hsize := h.lt_size (h.length_eq ▸ hnumber)
  -- numbers go down outwards, so the frame that is changed is none of the nearer ones
  have hdown := (h.path (h.length_eq ▸ hnumber)).pairwise
  rw [hpath] at hdown hsize
  have hpassed : ∀ frame ∈ nearer.map next.world.store.frameAt, Entries.has name frame = false := by
    rw [List.forall_mem_map]
    intro frame hframe
    have hne := Nat.ne_of_gt ((List.pairwise_append.mp hdown).2.2 frame hframe _ List.mem_cons_self)
    unfold Entries.has at hnearer ⊢
    rw [heffect.get?_eq (hsize frame (List.mem_append_left _ hframe)) fun _ => hne]
    exact hnearer frame hframe
  refine congrArg (Option.map Prod.snd) ?_
  show Frame.find? name ((next.environment number).path.map _) =
    Frame.find? name ((next.environment op.number).path.map _)
  rw [heffect.environment_eq hnumber, heffect.environment_eq hop, hpath, List.map_append,
    Frame.find?_append_of_none hpassed]

/-- An operation makes no difference for the frames that are apart from the one that it is done to. -/
theorem lookup_apart (h : s.Mirrors t) (heffect : s.Effect op next) (hop : op.number < s.held.length)
    {number : Nat} (hnumber : number < s.held.length) (hapart : s.outermost number ≠ s.outermost op.number)
    (name : String) : next.lookup number name = s.lookup number name := by
  have hsize := h.lt_size (h.length_eq ▸ hnumber)
  refine congrArg (Option.map Prod.snd) ?_
  show Frame.find? name ((next.environment number).path.map _) =
    Frame.find? name ((s.environment number).path.map _)
  rw [heffect.environment_eq hnumber]
  refine Frame.find?_map_congr fun frame hframe => heffect.get?_eq (hsize frame hframe) fun _ heq => ?_
  exact hapart (h.outermost_eq_of_mem (h.length_eq ▸ hnumber) (h.length_eq ▸ hop) (heq ▸ hframe))

/-- **One operation reaches no further than it should.** -/
theorem confined (h : s.Mirrors t) (hnumber : op.number < t.held.length) (hnext : s.perform op = .ok next) :
    op.Confined s next := by
  have heffect := effect_of_perform hnext
  have hop : op.number < s.held.length := h.length_eq.symm ▸ hnumber
  refine ⟨fun _ => heffect.environment_eq, fun _ hframe _ => heffect.get?_eq hframe, ?_, ?_, ?_, ?_, ?_⟩
  · exact fun name => heffect.own (h.lt_size hnumber _ List.mem_cons_self)
  · exact fun number hlt nearer hpath name => h.lookup_inside heffect hop hlt hpath
  · exact fun number hlt => h.lookup_apart heffect hop hlt
  · exact fun hsnapshot number => outermost_eq_of_new hnext hsnapshot
  · rintro number rfl
    cases hnext
    obtain ⟨hlookup, hapart⟩ := h.snapshot_apart number
    refine ⟨List.length_append, hlookup, fun other hother => ?_⟩
    have hsame : (s.snapshot number).outermost other = s.outermost other :=
      congrArg Environment.outermost (heffect.environment_eq hother)
    rw [hsame]
    exact hapart other hother

end Session.Mirrors

/-! ### All operations -/

/-- Some operations can be done one after the other, and each to a frame with another outermost frame than one. -/
def Session.Elsewhere (s : Session) (outermost : Nat) : List FrameOperation → Prop
  | [] => True
  | op :: rest => op.Fits s.held.length ∧ s.outermost op.number ≠ outermost ∧
      ∀ next, s.perform op = .ok next → next.Elsewhere outermost rest

namespace Session.Mirrors

variable {s : Session} {t : FrameTree}

/-- To begin with, a session holds the frame of a tree with one. -/
theorem ofWorld_fresh (tools : Entries Tool) (console : Console) (host : Host) :
    Mirrors (.ofWorld (.fresh tools console host)) (.start tools) := by
  have hempty : Store.empty.Mirrors [] := ⟨rfl, fun number map outer h => by cases h⟩
  have hpush := hempty.push (Frame.mirrors_ofTools 0 tools) none
  exact ⟨⟨hpush.size_eq, hpush.frameAt⟩, .cons (.inside rfl nofun .outside) .nil⟩

/-- **All operations.**  They can be done, and afterwards the frames are those of the tree. -/
theorem performAll (h : s.Mirrors t) {ops : List FrameOperation} (hops : t.Allows ops) :
    ∃ last, ops.foldlM Session.perform s = .ok last ∧ last.Mirrors (ops.foldl FrameTree.perform t) := by
  induction ops generalizing s t with
  | nil => exact ⟨s, rfl, h⟩
  | cons op rest ih =>
    obtain ⟨hfits, hrest⟩ := hops
    obtain ⟨next, hnext, hmirrors⟩ := h.perform hfits
    rw [List.foldlM_cons, hnext]
    exact ih hmirrors hrest

/-- Whatever is done elsewhere makes no difference to what is seen from a frame. -/
theorem lookup_eq_of_elsewhere (h : s.Mirrors t) {number : Nat} (hnumber : number < s.held.length)
    {later : List FrameOperation} (hlater : s.Elsewhere (s.outermost number) later) :
    ∃ last, later.foldlM Session.perform s = .ok last ∧
      ∀ name, last.lookup number name = s.lookup number name := by
  induction later generalizing s t with
  | nil => exact ⟨s, rfl, fun _ => rfl⟩
  | cons op rest ih =>
    obtain ⟨hfits, hapart, hrest⟩ := hlater
    have hfits' : op.Fits t.held.length := h.length_eq ▸ hfits
    obtain ⟨next, hnext, hmirrors⟩ := h.perform hfits'
    have hconfined := h.confined hfits'.1 hnext
    have houtermost : next.outermost number = s.outermost number :=
      congrArg Environment.outermost (hconfined.environment_eq number hnumber)
    have hlength := (effect_of_perform hnext).length_le
    obtain ⟨last, hlast, hlookup⟩ :=
      ih hmirrors (Nat.lt_of_lt_of_le hnumber hlength) (houtermost.symm ▸ hrest next hnext)
    refine ⟨last, ?_, fun name => (hlookup name).trans (hconfined.apart number hnumber hapart.symm name)⟩
    rw [List.foldlM_cons, hnext]
    exact hlast

end Session.Mirrors

/-- **Frames are finite maps inside one another.**  A host starts with one frame and does any operations to the
frames that it holds.  Then they can be done, and what is to be seen from any frame is what the tree of
finite maps says to which the same was done: what names are bound to, which names are bound in the frame itself,
and which names there are, in increasing order.  Whatever is done next

* changes no frame but the one it is done to, and that one at the name only,
* is seen at once from the frames inside of it, where no nearer frame binds the name,
* makes no difference for frames that are apart from it: a snapshot shows what was to be seen when it was made,
  and it is apart from all frames that there were.

So what is done elsewhere makes no difference, however much it is. -/
theorem sessions_show_trees (tools : Entries Tool) (console : Console) (host : Host) {ops : List FrameOperation}
    (hops : (FrameTree.start tools).Allows ops) :
    ∃ s, ops.foldlM Session.perform (.ofWorld (.fresh tools console host)) = .ok s ∧
      s.Shows (ops.foldl FrameTree.perform (.start tools)) ∧
      (∀ op, op.Fits s.held.length → ∃ next, s.perform op = .ok next ∧ op.Confined s next) ∧
      ∀ number < s.held.length, ∀ later, s.Elsewhere (s.outermost number) later →
        ∃ last, later.foldlM Session.perform s = .ok last ∧
          ∀ name, last.lookup number name = s.lookup number name := by
  obtain ⟨s, hrun, hmirrors⟩ := (Session.Mirrors.ofWorld_fresh tools console host).performAll hops
  refine ⟨s, hrun, hmirrors.shows, fun op hfits => ?_, fun number hnumber later hlater => ?_⟩
  · rw [hmirrors.length_eq] at hfits
    obtain ⟨next, hnext, -⟩ := hmirrors.perform hfits
    exact ⟨next, hnext, hmirrors.confined hfits.1 hnext⟩
  · exact hmirrors.lookup_eq_of_elsewhere hnumber hlater

/-- Binds a name in a frame and opens another one inside, makes a snapshot of that, and then binds the name
anew. -/
def rebindings : List FrameOperation :=
  [.define 0 "x" (.constant (.int 1)), .child 0 [("y", .constant .null)], .snapshot 1,
    .define 0 "x" (.constant (.int 2)), .undefine 1 "y"]

/-- The theorem for these operations. -/
theorem sessions_show_trees_rebindings :
    (FrameTree.start ToolSet.builtins).Allows rebindings ∧
      ∃ s, rebindings.foldlM Session.perform (.ofWorld World.plain) = .ok s ∧
        s.Shows (rebindings.foldl FrameTree.perform (.start ToolSet.builtins)) := by
  have hallows : (FrameTree.start ToolSet.builtins).Allows rebindings := by
    refine ⟨⟨by decide, fun _ => by decide⟩, ⟨by decide, nofun⟩, ⟨by decide, nofun⟩, ?_, ?_, trivial⟩
    · exact ⟨by decide +kernel, fun _ => by decide⟩
    · exact ⟨by decide +kernel, nofun⟩
  obtain ⟨s, hrun, hshows, -⟩ := sessions_show_trees ToolSet.builtins (.reading "") ⟨[], [], [], "/"⟩ hallows
  exact ⟨hallows, s, hrun, hshows⟩

end ToolWeave
