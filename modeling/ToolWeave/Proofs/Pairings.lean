import Mathlib.Data.List.Forall2
import Mathlib.Order.Defs.PartialOrder
import ToolWeave.Proofs.Stores

/-!
# Stores that are alike

Two runs of one program make their frames under different numbers.  A `Pairing` says which frames of
the one stand for which frames of the other.  Environments are alike if their frames are paired, tools are
alike if they differ in nothing but alike environments, and stores are alike if paired frames bind the
same names to alike tools.

Every operation on stores takes alike stores and environments to alike ones, once the new frames have
been paired with each other.

## Design notes

**Sole pairs.**  A frame may be paired with several: a frame that both runs look names up in stands for
itself, and at the same time for a copy of it.  A change on both sides keeps the stores alike only if the
changed frames are paired with no others (`Pairing.Sole`).  These are the innermost frames of environments,
since no others are ever changed.
-/

namespace ToolWeave

/-- Which frames of one store stand for which frames of another. -/
structure Pairing where
  paired : Nat → Nat → Prop

namespace Pairing

/-- Two frames are paired with each other, and with no others. -/
def Sole (ρ : Pairing) (m n : Nat) : Prop :=
  ρ.paired m n ∧ ∀ a b, ρ.paired a b → (a = m ↔ b = n)

/-- A later pairing has the pairs of the earlier one, and pairs with no others what that did. -/
instance : Preorder Pairing where
  le earlier later :=
    (∀ m n, earlier.paired m n → later.paired m n) ∧ ∀ m n, earlier.Sole m n → later.Sole m n
  le_refl _ := ⟨fun _ _ h => h, fun _ _ h => h⟩
  le_trans _ _ _ hfirst hsecond :=
    ⟨fun m n h => hsecond.1 m n (hfirst.1 m n h), fun m n h => hsecond.2 m n (hfirst.2 m n h)⟩

/-- Some frames stand for themselves. -/
def same (numbers : Nat → Prop) : Pairing where
  paired m n := m = n ∧ numbers m

/-- Two frames are paired with each other, and no longer with any others. -/
def add (ρ : Pairing) (m n : Nat) : Pairing where
  paired a b := (a = m ∧ b = n) ∨ (ρ.paired a b ∧ a ≠ m ∧ b ≠ n)

/-- The pairs are of frames that exist. -/
def Within (ρ : Pairing) (size size' : Nat) : Prop :=
  ∀ m n, ρ.paired m n → m < size ∧ n < size'

theorem sole_same {numbers : Nat → Prop} {number : Nat} (h : numbers number) :
    (same numbers).Sole number number := by
  refine ⟨⟨rfl, h⟩, ?_⟩
  rintro a b ⟨rfl, -⟩
  rfl

theorem sole_add (ρ : Pairing) (m n : Nat) : (ρ.add m n).Sole m n := by
  refine ⟨.inl ⟨rfl, rfl⟩, ?_⟩
  rintro a b (⟨rfl, rfl⟩ | ⟨-, ha, hb⟩)
  · exact iff_of_true rfl rfl
  · exact iff_of_false ha hb

theorem paired_add (ρ : Pairing) (m n : Nat) : (ρ.add m n).paired m n := (sole_add ρ m n).1

/-- Pairing two new frames leaves the others paired as they were. -/
theorem le_add {ρ : Pairing} {m n : Nat} (hρ : ρ.Within m n) : ρ ≤ ρ.add m n := by
  have hpaired {a b : Nat} (h : ρ.paired a b) : (ρ.add m n).paired a b := by
    obtain ⟨ha, hb⟩ := hρ a b h
    exact .inr ⟨h, Nat.ne_of_lt ha, Nat.ne_of_lt hb⟩
  refine ⟨fun a b => hpaired, ?_⟩
  rintro a b ⟨h, hsole⟩
  obtain ⟨ha, hb⟩ := hρ a b h
  refine ⟨hpaired h, ?_⟩
  rintro a' b' (⟨rfl, rfl⟩ | ⟨h', -, -⟩)
  · exact iff_of_false (Nat.ne_of_gt ha) (Nat.ne_of_gt hb)
  · exact hsole a' b' h'

end Pairing

/-! ### Environments, tools and frames -/

/-- The frames of two environments are paired. -/
def Environment.Alike (ρ : Pairing) (env env' : Environment) : Prop :=
  List.Forall₂ ρ.paired env.path env'.path

/-- Two tools of the language that differ in nothing but alike environments. -/
inductive Tool.Alike (ρ : Pairing) : Tool → Tool → Prop
  | builtin (tool : Builtin) : Alike ρ (.builtin tool) (.builtin tool)
  | constant (value : Value) : Alike ρ (.constant value) (.constant value)
  | defined (parameters : List String) (description : String) (body : Value)
      {closure closure' : Environment} (hclosure : closure.Alike ρ closure') :
      Alike ρ (.defined parameters description body closure)
        (.defined parameters description body closure')

/-- Two frames bind the same names to alike tools. -/
def Frame.Alike (ρ : Pairing) (frame frame' : Frame) : Prop :=
  List.Forall₂ (fun entry entry' : String × Binding =>
    entry.1 = entry'.1 ∧ entry.2.2.Alike ρ entry'.2.2) frame frame'

section Mono

variable {ρ σ : Pairing} (hle : ρ ≤ σ)
include hle

theorem Environment.Alike.mono {env env' : Environment} (h : env.Alike ρ env') :
    env.Alike σ env' := List.Forall₂.imp hle.1 h

theorem Tool.Alike.mono {tool tool' : Tool} (h : tool.Alike ρ tool') : tool.Alike σ tool' := by
  cases h with
  | builtin tool => exact .builtin tool
  | constant value => exact .constant value
  | defined parameters description body hclosure =>
    exact .defined parameters description body (hclosure.mono hle)

theorem Frame.Alike.mono {frame frame' : Frame} (h : Frame.Alike ρ frame frame') :
    Frame.Alike σ frame frame' :=
  List.Forall₂.imp (fun _ _ hentry => ⟨hentry.1, hentry.2.mono hle⟩) h

end Mono

namespace Frame

variable {ρ : Pairing} {frame frame' : Frame}

theorem Alike.names (h : Frame.Alike ρ frame frame') :
    Entries.names frame = Entries.names frame' := by
  induction h with
  | nil => rfl
  | cons hentry _ ih =>
    show _ :: Entries.names _ = _ :: Entries.names _
    rw [hentry.1, ih]

theorem Alike.has (h : Frame.Alike ρ frame frame') (name : String) :
    Entries.has name frame = Entries.has name frame' := by
  rw [Bool.eq_iff_iff, Entries.has_iff_mem_names, Entries.has_iff_mem_names, h.names]

theorem Alike.get? (h : Frame.Alike ρ frame frame') (name : String) :
    Option.Rel (fun binding binding' : Binding => binding.2.Alike ρ binding'.2)
      (Entries.get? name frame) (Entries.get? name frame') := by
  induction h with
  | nil => exact .none
  | @cons entry entry' _ _ hentry _ ih =>
    obtain ⟨key, binding⟩ := entry
    obtain ⟨key', binding'⟩ := entry'
    obtain ⟨hkey, hbinding⟩ := hentry
    cases hkey
    rw [Entries.get?_cons, Entries.get?_cons]
    split
    · exact .some hbinding
    · exact ih

theorem Alike.put (h : Frame.Alike ρ frame frame') (name : String) {binding binding' : Binding}
    (hbinding : binding.2.Alike ρ binding'.2) :
    Frame.Alike ρ (Entries.put name binding frame) (Entries.put name binding' frame') := by
  induction h with
  | nil => exact .cons ⟨rfl, hbinding⟩ .nil
  | @cons entry entry' _ _ hentry hrest ih =>
    obtain ⟨key, old⟩ := entry
    obtain ⟨key', old'⟩ := entry'
    obtain ⟨hkey, hold⟩ := hentry
    cases hkey
    unfold Entries.put
    split
    · exact .cons ⟨rfl, hbinding⟩ hrest
    · exact .cons ⟨rfl, hold⟩ ih

theorem Alike.erase (h : Frame.Alike ρ frame frame') (name : String) :
    Frame.Alike ρ (Entries.erase name frame) (Entries.erase name frame') := by
  induction h with
  | nil => exact .nil
  | @cons entry entry' rest rest' hentry _ ih =>
    unfold Entries.erase at ih ⊢
    rw [List.filter_cons, List.filter_cons, hentry.1]
    split
    · exact .cons hentry ih
    · exact ih

theorem Alike.ofList {entries entries' : Frame} (h : Frame.Alike ρ entries entries') :
    Frame.Alike ρ (Entries.ofList entries) (Entries.ofList entries') := by
  have hfold {built built' : Frame} (hbuilt : Frame.Alike ρ built built') :
      Frame.Alike ρ (entries.foldl (fun map entry => Entries.put entry.1 entry.2 map) built)
        (entries'.foldl (fun map entry => Entries.put entry.1 entry.2 map) built') := by
    induction h generalizing built built' with
    | nil => exact hbuilt
    | @cons entry entry' _ _ hentry _ ih =>
      rw [List.foldl_cons, List.foldl_cons, hentry.1]
      exact ih (hbuilt.put _ hentry.2)
  exact hfold .nil

private theorem forall₂_mapIdx {α β : Type} {R : β → β → Prop} {items : List α}
    {f g : Nat → α → β} (h : ∀ i, ∀ item ∈ items, R (f i item) (g i item)) :
    List.Forall₂ R (items.mapIdx f) (items.mapIdx g) := by
  induction items generalizing f g with
  | nil => exact .nil
  | cons item rest ih =>
    rw [List.mapIdx_cons, List.mapIdx_cons]
    refine .cons (h 0 item List.mem_cons_self) (ih fun i other hother => ?_)
    exact h (i + 1) other (List.mem_cons_of_mem _ hother)

/-- Frames made of the same tools are alike, whenever they were made. -/
theorem Alike.ofTools {tools : Entries Tool}
    (htools : ∀ entry ∈ tools, entry.2.Alike ρ entry.2) (before before' : Nat) :
    Frame.Alike ρ (Frame.ofTools before tools) (Frame.ofTools before' tools) :=
  Alike.ofList (forall₂_mapIdx fun _ entry hentry => ⟨rfl, htools entry hentry⟩)

/-- What a name is bound to in alike frames around one another is alike. -/
theorem Alike.find? {frames frames' : List Frame}
    (h : List.Forall₂ (Frame.Alike ρ) frames frames') (name : String) :
    Option.Rel (fun binding binding' : Binding => binding.2.Alike ρ binding'.2)
      (Frame.find? name frames) (Frame.find? name frames') := by
  induction h with
  | nil => exact .none
  | @cons frame frame' _ _ hframe _ ih =>
    rw [Frame.find?_cons, Frame.find?_cons]
    have hget := hframe.get? name
    generalize Entries.get? name frame = found at hget
    generalize Entries.get? name frame' = found' at hget
    cases hget with
    | none => exact ih
    | some hbinding => exact .some hbinding

theorem Alike.visible {frames frames' : List Frame}
    (h : List.Forall₂ (Frame.Alike ρ) frames frames') :
    Frame.visible frames = Frame.visible frames' := by
  have hnames : frames.flatMap Entries.names = frames'.flatMap Entries.names := by
    induction h with
    | nil => rfl
    | cons hframe _ ih => rw [List.flatMap_cons, List.flatMap_cons, hframe.names, ih]
  unfold Frame.visible
  rw [hnames]

end Frame

/-! ### Stores -/

/-- Paired frames exist and are alike. -/
def Store.Alike (ρ : Pairing) (store store' : Store) : Prop :=
  ∀ m n, ρ.paired m n →
    (m < store.size ∧ n < store'.size) ∧ Frame.Alike ρ (store.frameAt m) (store'.frameAt n)

namespace Store

variable {ρ : Pairing} {store store' : Store} {env env' : Environment}

theorem Alike.within (h : store.Alike ρ store') : ρ.Within store.size store'.size :=
  fun m n hpaired => (h m n hpaired).1

/-- Alike environments have alike frames. -/
theorem Alike.chain (h : store.Alike ρ store') (henv : env.Alike ρ env') :
    List.Forall₂ (Frame.Alike ρ) (store.chain env) (store'.chain env') := by
  unfold Store.chain
  rw [List.forall₂_map_left_iff, List.forall₂_map_right_iff]
  exact henv.imp fun m n hpaired => (h m n hpaired).2

theorem Alike.binding? (h : store.Alike ρ store') (henv : env.Alike ρ env') (name : String) :
    Option.Rel (fun binding binding' : Binding => binding.2.Alike ρ binding'.2)
      (store.binding? env name) (store'.binding? env' name) :=
  Frame.Alike.find? (h.chain henv) name

theorem Alike.names (h : store.Alike ρ store') (henv : env.Alike ρ env') :
    store.names env = store'.names env' :=
  Frame.Alike.visible (h.chain henv)

/-- One frame is added to either store, and these are paired. -/
theorem Alike.push (h : store.Alike ρ store') {frame frame' : Frame}
    (hframe : Frame.Alike (ρ.add store.size store'.size) frame frame') :
    (store.push frame).Alike (ρ.add store.size store'.size) (store'.push frame') := by
  rintro m n (⟨rfl, rfl⟩ | ⟨hpaired, hm, hn⟩)
  · rw [size_push, size_push, frameAt_push, frameAt_push, if_pos rfl, if_pos rfl]
    exact ⟨⟨Nat.lt_succ_self _, Nat.lt_succ_self _⟩, hframe⟩
  · obtain ⟨⟨hlt, hlt'⟩, hold⟩ := h m n hpaired
    rw [size_push, size_push, frameAt_push, frameAt_push, if_neg hm, if_neg hn]
    exact ⟨⟨Nat.lt_succ_of_lt hlt, Nat.lt_succ_of_lt hlt'⟩, hold.mono (Pairing.le_add h.within)⟩

/-- Two frames that are paired with no others are changed so that they stay alike. -/
theorem Alike.change (h : store.Alike ρ store') {m n : Nat} (hsole : ρ.Sole m n) {f f' : Frame → Frame}
    (hf : ∀ frame frame', Frame.Alike ρ frame frame' → Frame.Alike ρ (f frame) (f' frame')) :
    (store.change m f).Alike ρ (store'.change n f') := by
  intro a b hother
  obtain ⟨⟨hlt, hlt'⟩, hold⟩ := h a b hother
  rw [size_change, size_change]
  refine ⟨⟨hlt, hlt'⟩, ?_⟩
  -- a pair is the changed one on both sides or on neither
  have hboth := hsole.2 a b hother
  by_cases ha : a = m
  · obtain rfl := hboth.mp ha
    subst ha
    rw [frameAt_change_self f hlt, frameAt_change_self f' hlt']
    exact hf _ _ hold
  · rw [frameAt_change_of_ne store f ha, frameAt_change_of_ne store' f' (mt hboth.mpr ha)]
    exact hold

/-- Alike frames are added on both sides, and all of them are paired. -/
theorem Alike.pushAll (h : store.Alike ρ store') {frames frames' : List Frame}
    (hframes : List.Forall₂ (Frame.Alike ρ) frames frames') :
    ∃ σ, ρ ≤ σ ∧ (store.pushAll frames).1.Alike σ (store'.pushAll frames').1 ∧
      List.Forall₂ σ.paired (store.pushAll frames).2 (store'.pushAll frames').2 := by
  induction hframes with
  | nil => exact ⟨ρ, le_rfl, h, .nil⟩
  | @cons frame frame' outer outer' hframe _ ih =>
    obtain ⟨σ, hle, houter, hnumbers⟩ := ih
    have hadd := Pairing.le_add houter.within
    refine ⟨σ.add _ _, le_trans hle hadd, houter.push (hframe.mono (le_trans hle hadd)), ?_⟩
    refine .cons (Pairing.paired_add σ _ _) ?_
    exact hnumbers.imp hadd.1

/-- Copies of alike environments are alike. -/
theorem Alike.snapshot (h : store.Alike ρ store') (henv : env.Alike ρ env') :
    ∃ σ, ρ ≤ σ ∧ (store.snapshot env).1.Alike σ (store'.snapshot env').1 ∧
      (store.snapshot env).2.Alike σ (store'.snapshot env').2 :=
  h.pushAll (h.chain henv)

/-- New frames made of the same tools inside alike environments. -/
theorem Alike.child (h : store.Alike ρ store') (henv : env.Alike ρ env') {tools : Entries Tool}
    (htools : ∀ σ : Pairing, ∀ entry ∈ tools, entry.2.Alike σ entry.2) :
    ∃ σ, ρ ≤ σ ∧ (store.child env tools).1.Alike σ (store'.child env' tools).1 ∧
      (store.child env tools).2.Alike σ (store'.child env' tools).2 ∧
      σ.Sole (store.child env tools).2.frame (store'.child env' tools).2.frame := by
  have hadd := Pairing.le_add h.within
  refine ⟨ρ.add store.size store'.size, hadd, ?_, ?_, Pairing.sole_add ρ _ _⟩
  · exact h.push (Frame.Alike.ofTools (htools _) store.tools store'.tools)
  · exact .cons (Pairing.paired_add ρ _ _) (henv.mono hadd)

theorem Alike.bind (h : store.Alike ρ store') (hframe : ρ.Sole env.frame env'.frame) (name : String)
    {binding binding' : Binding} (hbinding : binding.2.Alike ρ binding'.2) :
    (store.bind env name binding).Alike ρ (store'.bind env' name binding') :=
  h.change hframe fun _ _ hsame => hsame.put name hbinding

theorem Alike.undefine (h : store.Alike ρ store') (hframe : ρ.Sole env.frame env'.frame) (name : String) :
    (store.undefine env name).Alike ρ (store'.undefine env' name) :=
  h.change hframe fun _ _ hsame => hsame.erase name

/-- Tools made from one program in alike environments. -/
theorem Alike.create (h : store.Alike ρ store') (henv : env.Alike ρ env')
    (hframe : ρ.Sole env.frame env'.frame) (name : String) (parameters : List String)
    (description : String) (body : Value) :
    ∃ σ, ρ ≤ σ ∧ (store.create env name parameters description body).Alike σ
      (store'.create env' name parameters description body) := by
  have hsnapshot := h.snapshot henv
  unfold Store.create
  generalize store.snapshot env = copies at hsnapshot
  generalize store'.snapshot env' = copies' at hsnapshot
  obtain ⟨copied, surroundings⟩ := copies
  obtain ⟨copied', surroundings'⟩ := copies'
  obtain ⟨σ, hle, hcopied, hsurroundings⟩ := hsnapshot
  dsimp only at hcopied hsurroundings ⊢
  have hadd := Pairing.le_add hcopied.within
  -- the tools are alike once the frames are paired that bind them to their own name
  have htool : (Tool.defined parameters description body ⟨copied.size, surroundings.path⟩).Alike
      (σ.add copied.size copied'.size)
      (.defined parameters description body ⟨copied'.size, surroundings'.path⟩) :=
    .defined parameters description body
      (.cons (Pairing.paired_add σ _ _) (hsurroundings.mono hadd))
  have hself (origin origin' : Origin) : Frame.Alike (σ.add copied.size copied'.size)
      [(name, (origin, .defined parameters description body ⟨copied.size, surroundings.path⟩))]
      [(name, (origin', .defined parameters description body
        ⟨copied'.size, surroundings'.path⟩))] := .cons ⟨rfl, htool⟩ .nil
  refine ⟨_, le_trans hle hadd, ?_⟩
  exact (hcopied.push (hself _ _)).bind ((le_trans hle hadd).2 _ _ hframe) name htool

end Store

end ToolWeave
