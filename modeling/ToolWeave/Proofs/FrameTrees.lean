import Mathlib.Data.Finmap
import Mathlib.Data.List.Forall2
import ToolWeave.Forest
import ToolWeave.Proofs.Stores

/-!
# Trees of finite maps

The bindings of a frame are a finite map from names to tools, and a frame is inside of one other frame or of
none.  A `FrameTree` says just this, with what may be done to frames: a name is bound or no longer bound in one
of them, a frame is opened inside another, and a frame and those around it are copied.

A store has the frames of such a tree if its frames, one after the other, bind what the maps of the tree have
(`Store.Mirrors`).  Environments then are the paths through the tree.

## Main definitions

* `FrameOperation`: what may be done to a frame that is held.
* `FrameTree`: finite maps from names to tools, each inside an earlier one or inside none.
* `Forest.Path`: the numbers from an entry of a forest outwards.
* `Frame.Mirrors`, `Store.Mirrors`: the bindings of frames are those of finite maps.

## Design notes

**Tables that are published.**  A change of a frame does not change the table of its bindings but puts a new
one in its place, so that a frame and a snapshot of it may share a table.  Here a table is a value, which
nobody can change, and a snapshot has values of its own.
-/

namespace ToolWeave

/-! ### Operations on frames -/

/-- What may be done to a frame that is held, by its number. -/
inductive FrameOperation where
  /-- A name is bound to a new tool. -/
  | define (number : Nat) (name : String) (tool : Tool)
  /-- A name is bound to a tool that there is. -/
  | bind (number : Nat) (name : String) (binding : Binding)
  | undefine (number : Nat) (name : String)
  /-- A frame with some tools is opened inside. -/
  | child (number : Nat) (tools : Entries Tool)
  | snapshot (number : Nat)
  /-- The frame around is held as well, if there is one. -/
  | around (number : Nat)

namespace FrameOperation

/-- The number of the frame that an operation is done to. -/
def number : FrameOperation → Nat
  | define number _ _ | bind number _ _ | undefine number _ | child number _ | snapshot number
  | around number => number

/-- The name whose binding an operation changes, if it changes one. -/
def name? : FrameOperation → Option String
  | define _ name _ | bind _ name _ | undefine _ name => some name
  | _ => none

/-- The tool that an operation binds, if it binds one. -/
def tool? : FrameOperation → Option Tool
  | define _ _ tool => some tool
  | bind _ _ binding => some binding.2
  | _ => none

/-- An operation can be done where so many frames are held: its frame is one of them, and it binds no empty
name. -/
def Fits (count : Nat) (op : FrameOperation) : Prop :=
  op.number < count ∧ (op.tool?.isSome = true → op.name? ≠ some "")

end FrameOperation

/-! ### Finite maps inside one another -/

/-- The bindings of a frame as a finite map. -/
abbrev FrameMap : Type := Finmap fun _ : String => Tool

/-- The map of some tools; among tools of one name the last one counts. -/
def FrameMap.ofTools (tools : Entries Tool) : FrameMap :=
  tools.foldl (fun map entry => map.insert entry.1 entry.2) ∅

/-- A forest with entries inside one another added to it, given innermost first, and the number of the innermost
one.  The outermost is added first. -/
def Forest.addAll {α : Type} (forest : Forest α) : List α → Forest α × Option Nat
  | [] => (forest, none)
  | entry :: outer =>
    let (forest, around) := forest.addAll outer
    let (forest, number) := forest.add entry around
    (forest, some number)

/-- Finite maps, each inside an earlier one or inside none, and the numbers of those that are held. -/
structure FrameTree where
  frames : Forest FrameMap
  held : List Nat

namespace FrameTree

/-- One frame with some tools, which is held. -/
def start (tools : Entries Tool) : FrameTree := ⟨[(.ofTools tools, none)], [0]⟩

/-- Which of all frames one that is held is. -/
def frame (t : FrameTree) (number : Nat) : Nat := t.held[number]?.getD 0

/-- The maps of a frame and of those it is inside of, innermost first. -/
def chain (t : FrameTree) (number : Nat) : List FrameMap := t.frames.chain (t.frame number)

/-- The tool that the nearest map binds a name to. -/
def lookup (t : FrameTree) (number : Nat) (name : String) : Option Tool :=
  (t.chain number).findSome? fun map => map.lookup name

/-- Whether the map of a frame itself binds a name. -/
def isLocal (t : FrameTree) (number : Nat) (name : String) : Bool :=
  (t.chain number).head?.any fun map => (map.lookup name).isSome

/-- The map of one frame is changed. -/
def change (t : FrameTree) (number : Nat) (f : FrameMap → FrameMap) : FrameTree :=
  { t with frames := t.frames.modify (t.frame number) f }

/-- Holds on to a new frame. -/
def hold (t : FrameTree) (added : Forest FrameMap × Option Nat) : FrameTree :=
  ⟨added.1, t.held ++ added.2.toList⟩

/-- The frames after an operation on one of them. -/
def perform (t : FrameTree) : FrameOperation → FrameTree
  | .define number name tool => t.change number fun map => map.insert name tool
  | .bind number name binding => t.change number fun map => map.insert name binding.2
  | .undefine number name => t.change number fun map => map.erase name
  | .child number tools =>
    let (frames, added) := t.frames.add (.ofTools tools) (some (t.frame number))
    t.hold (frames, some added)
  | .snapshot number => t.hold (t.frames.addAll (t.chain number))
  | .around number => t.hold (t.frames, t.frames.outer? (t.frame number))

/-- Some operations can be done one after the other. -/
def Allows (t : FrameTree) : List FrameOperation → Prop
  | [] => True
  | op :: rest => op.Fits t.held.length ∧ (t.perform op).Allows rest

end FrameTree

/-! ### Paths through a forest -/

namespace Forest

variable {α : Type} {forest other : Forest α}

/-- The numbers from an entry outwards.  Entries are inside of earlier ones. -/
inductive Path (forest : Forest α) : Option Nat → List Nat → Prop
  | outside : Path forest none []
  | inside {number : Nat} {entry : α} {outer : Option Nat} {rest : List Nat}
      (hcell : forest[number]? = some (entry, outer)) (hlt : ∀ around ∈ outer, around < number)
      (hrest : Path forest outer rest) : Path forest (some number) (number :: rest)

theorem chain_eq {number : Nat} {entry : α} {outer : Option Nat} (hcell : forest[number]? = some (entry, outer))
    (hlt : ∀ around ∈ outer, around < number) : forest.chain number = entry :: outer.elim [] forest.chain := by
  rw [chain, hcell]
  cases outer with
  | none => rfl
  | some around => exact if_pos (hlt around rfl)

namespace Path

variable {start : Option Nat} {path : List Nat}

theorem lt_length (h : forest.Path start path) : ∀ number ∈ path, number < forest.length := by
  induction h with
  | outside => exact List.forall_mem_nil _
  | inside hcell _ _ ih =>
    exact List.forall_mem_cons.mpr ⟨(List.getElem?_eq_some_iff.mp hcell).1, ih⟩

/-- A path begins where it starts. -/
theorem head?_eq (h : forest.Path start path) : path.head? = start := by
  cases h <;> rfl

/-- Numbers go down outwards. -/
theorem pairwise (h : forest.Path start path) : path.Pairwise (· > ·) := by
  induction h with
  | outside => exact .nil
  | @inside number entry outer rest hcell hlt hrest ih =>
    refine List.pairwise_cons.mpr ⟨fun other hother => ?_, ih⟩
    cases hrest with
    | outside => cases hother
    | inside =>
      have hfirst := hlt _ rfl
      rcases List.mem_cons.mp hother with rfl | hother
      · exact hfirst
      · exact Nat.lt_trans ((List.pairwise_cons.mp ih).1 other hother) hfirst

/-- There is one path from an entry. -/
theorem unique {second : List Nat} (h : forest.Path start path) (h' : forest.Path start second) :
    path = second := by
  induction h generalizing second with
  | outside =>
    cases h'
    rfl
  | inside hcell _ _ ih =>
    cases h' with
    | inside hcell' _ hrest' =>
      cases hcell.symm.trans hcell'
      rw [ih hrest']

/-- From any number on, a path is the path from there. -/
theorem exists_suffix (h : forest.Path start path) {number : Nat} (hnumber : number ∈ path) :
    ∃ rest, forest.Path (some number) rest ∧ rest <:+ path := by
  induction h with
  | outside => cases hnumber
  | @inside first entry outer rest hcell hlt hrest ih =>
    rcases List.mem_cons.mp hnumber with rfl | hnumber
    · exact ⟨_, .inside hcell hlt hrest, List.suffix_refl _⟩
    · obtain ⟨tail, htail, hsuffix⟩ := ih hnumber
      exact ⟨tail, htail, hsuffix.trans (List.suffix_cons _ _)⟩

/-- A path stays when entries keep what they are inside of. -/
theorem mono (h : forest.Path start path)
    (hkept : ∀ number < forest.length, (other[number]?).map Prod.snd = (forest[number]?).map Prod.snd) :
    other.Path start path := by
  induction h with
  | outside => exact .outside
  | inside hcell hlt _ ih =>
    have hsame := hkept _ (List.getElem?_eq_some_iff.mp hcell).1
    rw [hcell] at hsame
    obtain ⟨⟨entry, outer⟩, hother, rfl⟩ := Option.map_eq_some_iff.mp hsame
    exact .inside hother hlt ih

theorem append (h : forest.Path start path) (more : Forest α) : Path (forest ++ more) start path := by
  refine h.mono fun number hnumber => ?_
  rw [List.getElem?_append_left hnumber]

theorem modify (h : forest.Path start path) (number : Nat) (f : α → α) :
    (forest.modify number f).Path start path := by
  refine h.mono fun other _ => ?_
  unfold Forest.modify
  rw [List.getElem?_modify]
  cases forest[other]? with
  | none => rfl
  | some cell =>
    show some (if number = other then _ else _ : α × Option Nat).2 = _
    split <;> rfl

end Path

/-- Entries are added after those that there are. -/
theorem exists_addAll_eq (forest : Forest α) (entries : List α) :
    ∃ more, (forest.addAll entries).1 = forest ++ more := by
  induction entries with
  | nil => exact ⟨[], (List.append_nil _).symm⟩
  | cons entry outer ih =>
    obtain ⟨more, hmore⟩ := ih
    refine ⟨more ++ [(entry, (forest.addAll outer).2)], ?_⟩
    show (forest.addAll outer).1 ++ _ = _
    rw [hmore, List.append_assoc]

end Forest

/-! ### Frames and finite maps -/

/-- A frame binds the names that a finite map has, to the same tools. -/
def Frame.Mirrors (frame : Frame) (map : FrameMap) : Prop :=
  ∀ name, (Entries.get? name frame).map Prod.snd = map.lookup name

namespace Frame

variable {frame : Frame} {map : FrameMap}

theorem mirrors_empty : Mirrors [] ∅ := by
  intro name
  rw [Finmap.lookup_empty]
  rfl

theorem Mirrors.put (h : frame.Mirrors map) (name : String) (binding : Binding) :
    Mirrors (Entries.put name binding frame) (map.insert name binding.2) := by
  intro other
  by_cases heq : other = name
  · rw [heq, Entries.get?_put_self, Finmap.lookup_insert]
    rfl
  · rw [Entries.get?_put_of_ne (Ne.symm heq), Finmap.lookup_insert_of_ne map heq]
    exact h other

theorem Mirrors.erase (h : frame.Mirrors map) (name : String) :
    Mirrors (Entries.erase name frame) (map.erase name) := by
  intro other
  by_cases heq : other = name
  · rw [heq, Entries.get?_erase_self, Finmap.lookup_erase]
    rfl
  · rw [Entries.get?_erase_of_ne (Ne.symm heq), Finmap.lookup_erase_ne heq]
    exact h other

theorem Mirrors.has (h : frame.Mirrors map) (name : String) :
    Entries.has name frame = (map.lookup name).isSome := by
  rw [← h name, Option.isSome_map]
  rfl

/-- A frame made of some tools binds what the map of these tools has. -/
theorem mirrors_ofTools (before : Nat) (tools : Entries Tool) :
    Mirrors (Frame.ofTools before tools) (.ofTools tools) := by
  have hfold (made : Nat → String × Tool → String × Binding)
      (hmade : ∀ i entry, (made i entry).1 = entry.1 ∧ (made i entry).2.2 = entry.2) {built : Frame}
      {map : FrameMap} (hbuilt : built.Mirrors map) :
      Mirrors ((tools.mapIdx made).foldl (fun frame entry => Entries.put entry.1 entry.2 frame) built)
        (tools.foldl (fun map entry => map.insert entry.1 entry.2) map) := by
    induction tools generalizing made built map with
    | nil => exact hbuilt
    | cons entry rest ih =>
      obtain ⟨hname, htool⟩ := hmade 0 entry
      have hput := hbuilt.put (made 0 entry).1 (made 0 entry).2
      rw [hname, htool] at hput
      rw [List.mapIdx_cons, List.foldl_cons, List.foldl_cons, hname]
      exact ih _ (fun i => hmade (i + 1)) hput
  exact hfold (fun i entry => (entry.1, (before + i, entry.2))) (fun _ _ => ⟨rfl, rfl⟩) mirrors_empty

/-- What frames around one another bind a name to is what the nearest of their maps has. -/
theorem find?_eq_findSome? {frames : List Frame} {maps : List FrameMap} (h : List.Forall₂ Mirrors frames maps)
    (name : String) : (find? name frames).map Prod.snd = maps.findSome? fun map => map.lookup name := by
  induction h with
  | nil => rfl
  | @cons frame map _ _ hframe _ ih =>
    rw [find?_cons, List.findSome?_cons, ← hframe name, ← ih]
    cases Entries.get? name frame <;> rfl

end Frame

/-- A store has the frames of a forest of finite maps, in the same order. -/
structure Store.Mirrors (store : Store) (forest : Forest FrameMap) : Prop where
  size_eq : store.size = forest.length
  frameAt : ∀ number map outer, forest[number]? = some (map, outer) → (store.frameAt number).Mirrors map

namespace Store.Mirrors

variable {store : Store} {forest : Forest FrameMap}

theorem push (h : store.Mirrors forest) {frame : Frame} {map : FrameMap} (hframe : frame.Mirrors map)
    (outer : Option Nat) : (store.push frame).Mirrors (forest ++ [(map, outer)]) where
  size_eq := by rw [size_push, List.length_append, h.size_eq, List.length_singleton]
  frameAt number other around hcell := by
    rw [frameAt_push, h.size_eq]
    split
    · next hnew =>
      rw [hnew, List.getElem?_concat_length] at hcell
      cases hcell
      exact hframe
    · next hold =>
      have hlt := (List.getElem?_eq_some_iff.mp hcell).1
      rw [List.length_append, List.length_singleton] at hlt
      rw [List.getElem?_append_left (by omega)] at hcell
      exact h.frameAt number other around hcell

theorem change (h : store.Mirrors forest) (number : Nat) {f : Frame → Frame} {g : FrameMap → FrameMap}
    (hf : ∀ frame map, Frame.Mirrors frame map → (f frame).Mirrors (g map)) :
    (store.change number f).Mirrors (forest.modify number g) where
  size_eq := by
    unfold Forest.modify
    rw [size_change, List.length_modify, h.size_eq]
  frameAt other map outer hcell := by
    unfold Forest.modify at hcell
    rw [List.getElem?_modify] at hcell
    obtain ⟨⟨before, around⟩, hbefore, heq⟩ := Option.map_eq_some_iff.mp hcell
    have hframe := h.frameAt other before around hbefore
    by_cases hother : number = other
    · rw [if_pos hother] at heq
      cases heq
      have hlt : number < store.size := by
        rw [h.size_eq, hother]
        exact (List.getElem?_eq_some_iff.mp hbefore).1
      rw [← hother, frameAt_change_self f hlt]
      exact hf _ _ (hother ▸ hframe)
    · rw [if_neg hother] at heq
      cases heq
      rw [frameAt_change_of_ne store f (Ne.symm hother)]
      exact hframe

/-- The frames along a path are those of the maps. -/
theorem chain (h : store.Mirrors forest) {start : Option Nat} {path : List Nat} (hpath : forest.Path start path) :
    List.Forall₂ Frame.Mirrors (path.map store.frameAt) (start.elim [] forest.chain) := by
  induction hpath with
  | outside => exact .nil
  | inside hcell hlt _ ih =>
    show List.Forall₂ _ (_ :: _) (forest.chain _)
    rw [Forest.chain_eq hcell hlt]
    exact .cons (h.frameAt _ _ _ hcell) ih

/-- Frames and maps inside one another are added on both sides, under the same numbers. -/
theorem pushAll (h : store.Mirrors forest) {frames : List Frame} {maps : List FrameMap}
    (hframes : List.Forall₂ Frame.Mirrors frames maps) :
    (store.pushAll frames).1.Mirrors (forest.addAll maps).1 ∧
      (forest.addAll maps).1.Path (forest.addAll maps).2 (store.pushAll frames).2 := by
  induction hframes with
  | nil => exact ⟨h, .outside⟩
  | @cons frame map outer outerMaps hframe _ ih =>
    obtain ⟨hstore, hpath⟩ := ih
    refine ⟨hstore.push hframe _, ?_⟩
    show Forest.Path ((forest.addAll outerMaps).1 ++ [(map, (forest.addAll outerMaps).2)])
      (some (forest.addAll outerMaps).1.length) ((store.pushAll outer).1.size :: (store.pushAll outer).2)
    rw [hstore.size_eq]
    refine .inside List.getElem?_concat_length (fun around haround => ?_) (hpath.append _)
    exact hpath.lt_length around (List.mem_of_mem_head? (hpath.head?_eq.trans haround))

end Store.Mirrors

end ToolWeave
