import ToolWeave.Proofs.NumberOrder
import ToolWeave.Proofs.RoundTrip

/-!
# Comparing values whose fields are in order

Of any three values the results of comparing them fit together (`Value.comparable`), the other way round the
result is the opposite (`Value.orderSorted_swap`), and two values are alike in order exactly if they are
equal (`Value.decided`).  Each of these is by induction on the first value.

## Main definitions

* `Coherent`: three results are those of comparing three things in order.

## Design notes

**Why triples.**  Transitivity alone is no invariant of the walk through two lists: which of the first two
items that differ decides depends on all three lists.  Coherence also says what an equal pair implies for the
other two results, and so it survives comparing first one thing and then another (`Coherent.followed`).

**Why finite.**  Not-a-number compares equal to every number, so it would make all numbers alike.
-/

namespace ToolWeave

/-! ### Orders of three things -/

/-- Three results of comparing are those of three things that are ordered: of the first and the second, of
the second and the third, and of the first and the third. -/
def Coherent (ab bc ac : Ordering) : Prop :=
  (ab = bc → ac = ab) ∧ (ab = .eq → ac = bc) ∧ (bc = .eq → ac = ab)

namespace Coherent

theorem of_trans {α : Type} [Ord α] [Std.TransOrd α] (a b c : α) :
    Coherent (compare a b) (compare b c) (compare a c) := by
  refine ⟨fun h => ?_, Std.TransCmp.congr_left, fun h => (Std.TransCmp.congr_right h).symm⟩
  cases hab : compare a b with
  | lt => exact Std.TransCmp.lt_trans hab (h.symm.trans hab)
  | eq => exact (Std.TransCmp.congr_left hab).trans (h.symm.trans hab)
  | gt => exact Std.TransCmp.gt_trans hab (h.symm.trans hab)

variable {ab bc ac ab' bc' ac' : Ordering}

/-- What is compared second counts only among things that are alike so far. -/
theorem followed (h : Coherent ab bc ac) (h' : ab = .eq → bc = .eq → Coherent ab' bc' ac') :
    Coherent (ab.then ab') (bc.then bc') (ac.then ac') := by
  obtain ⟨hsame, hfirst, hsecond⟩ := h
  cases ab with
  | eq =>
    obtain rfl := hfirst rfl
    cases ac with
    | eq => exact h' rfl rfl
    | lt => exact ⟨fun h => h.symm, fun _ => rfl, nofun⟩
    | gt => exact ⟨fun h => h.symm, fun _ => rfl, nofun⟩
  | lt =>
    cases bc with
    | gt => exact ⟨nofun, nofun, nofun⟩
    | lt =>
      obtain rfl := hsame rfl
      exact ⟨fun _ => rfl, nofun, nofun⟩
    | eq =>
      obtain rfl := hsecond rfl
      exact ⟨fun _ => rfl, nofun, fun _ => rfl⟩
  | gt =>
    cases bc with
    | lt => exact ⟨nofun, nofun, nofun⟩
    | gt =>
      obtain rfl := hsame rfl
      exact ⟨fun _ => rfl, nofun, nofun⟩
    | eq =>
      obtain rfl := hsecond rfl
      exact ⟨fun _ => rfl, nofun, fun _ => rfl⟩

/-- Of three things in order the first is not beyond the third. -/
theorem isLE (h : Coherent ab bc ac) (hab : ab.isLE = true) (hbc : bc.isLE = true) : ac.isLE = true := by
  obtain ⟨hsame, hfirst, hsecond⟩ := h
  cases ab with
  | eq => rwa [hfirst rfl]
  | lt =>
    cases bc with
    | lt => rwa [hsame rfl]
    | eq => rwa [hsecond rfl]
    | gt => cases hbc
  | gt => cases hab

end Coherent

/-! ### Values whose fields are in order -/

theorem Number.order_swap (m n : Number) : n.order m = (m.order n).swap := by
  unfold order
  cases m.place with
  | none => cases n.place <;> rfl
  | some p =>
    cases n.place with
    | none => rfl
    | some q =>
      dsimp only
      unfold placeOrder
      rw [Ordering.swap_then, ← Std.OrientedOrd.eq_swap, ← Std.OrientedOrd.eq_swap]

namespace Value

/-- Values are compared by kind first. -/
theorem orderSorted_eq_then (a b : Value) :
    orderSorted a b = (compare a.kind.rank b.kind.rank).then (orderSorted a b) := by
  cases a <;> cases b <;> rfl

theorem kind_eq_of_rank {a b : Value} (h : compare a.kind.rank b.kind.rank = .eq) : a.kind = b.kind := by
  cases a <;> cases b <;> first | rfl | cases h

section Swapping

theorem orderItems_swap {xs : List Value} (h : ∀ x ∈ xs, ∀ y, orderSorted y x = (orderSorted x y).swap)
    (ys : List Value) : orderItems ys xs = (orderItems xs ys).swap := by
  induction xs generalizing ys with
  | nil => cases ys <;> rfl
  | cons x xs ih =>
    obtain ⟨hx, hxs⟩ := List.forall_mem_cons.mp h
    cases ys with
    | nil => rfl
    | cons y ys => rw [orderItems, orderItems, Ordering.swap_then, hx, ih hxs]

theorem orderContents_swap {xs : Fields}
    (h : ∀ entry ∈ xs, ∀ y, orderSorted y entry.2 = (orderSorted entry.2 y).swap) (ys : Fields) :
    orderContents ys xs = (orderContents xs ys).swap := by
  induction xs generalizing ys with
  | nil => cases ys <;> rfl
  | cons entry xs ih =>
    obtain ⟨hx, hxs⟩ := List.forall_mem_cons.mp h
    cases ys with
    | nil => rfl
    | cons other ys =>
      rw [orderContents, orderContents, Ordering.swap_then, Ordering.swap_then, hx, ih hxs, ← Std.OrientedOrd.eq_swap]

/-- Comparing the other way round gives the opposite. -/
theorem orderSorted_swap (a b : Value) : orderSorted b a = (orderSorted a b).swap := by
  induction a using Value.induction generalizing b with
  | null => cases b <;> rfl
  | bool x =>
    cases b with
    | bool y => cases x <;> cases y <;> rfl
    | _ => rfl
  | number m =>
    cases b with
    | number n => exact m.order_swap n
    | _ => rfl
  | string s =>
    cases b with
    | string t => exact Std.OrientedOrd.eq_swap
    | _ => rfl
  | array items ih =>
    cases b with
    | array others =>
      rw [orderSorted, orderSorted, Ordering.swap_then, orderItems_swap ih, ← Std.OrientedOrd.eq_swap]
    | _ => rfl
  | object fields ih =>
    cases b with
    | object others =>
      rw [orderSorted, orderSorted, Ordering.swap_then, orderContents_swap ih, ← Std.OrientedOrd.eq_swap]
    | _ => rfl

end Swapping

section Coherence

/-- A value is compared coherently with any two others. -/
def Comparable (a : Value) : Prop :=
  ∀ b c : Value, a.isFinite = true → b.isFinite = true → c.isFinite = true →
    Coherent (orderSorted a b) (orderSorted b c) (orderSorted a c)

theorem orderItems_coherent {xs ys zs : List Value} (h : ∀ x ∈ xs, Comparable x) (hxs : allFinite xs = true)
    (hys : allFinite ys = true) (hzs : allFinite zs = true) (hxy : xs.length = ys.length)
    (hyz : ys.length = zs.length) : Coherent (orderItems xs ys) (orderItems ys zs) (orderItems xs zs) := by
  induction xs generalizing ys zs with
  | nil =>
    obtain rfl := List.length_eq_zero_iff.mp hxy.symm
    obtain rfl := List.length_eq_zero_iff.mp hyz.symm
    exact ⟨fun _ => rfl, fun _ => rfl, fun _ => rfl⟩
  | cons x xs ih =>
    obtain ⟨y, ys, rfl⟩ := List.exists_cons_of_length_eq_add_one hxy.symm
    obtain ⟨z, zs, rfl⟩ := List.exists_cons_of_length_eq_add_one hyz.symm
    obtain ⟨hx, hrest⟩ := List.forall_mem_cons.mp h
    obtain ⟨hx', hxs⟩ := Bool.and_eq_true_iff.mp hxs
    obtain ⟨hy', hys⟩ := Bool.and_eq_true_iff.mp hys
    obtain ⟨hz', hzs⟩ := Bool.and_eq_true_iff.mp hzs
    rw [orderItems, orderItems, orderItems]
    exact (hx y z hx' hy' hz').followed fun _ _ =>
      ih hrest hxs hys hzs (Nat.succ.inj hxy) (Nat.succ.inj hyz)

theorem orderContents_coherent {xs ys zs : Fields} (h : ∀ entry ∈ xs, Comparable entry.2)
    (hxs : fieldsFinite xs = true) (hys : fieldsFinite ys = true) (hzs : fieldsFinite zs = true)
    (hxy : xs.length = ys.length) (hyz : ys.length = zs.length) :
    Coherent (orderContents xs ys) (orderContents ys zs) (orderContents xs zs) := by
  induction xs generalizing ys zs with
  | nil =>
    obtain rfl := List.length_eq_zero_iff.mp hxy.symm
    obtain rfl := List.length_eq_zero_iff.mp hyz.symm
    exact ⟨fun _ => rfl, fun _ => rfl, fun _ => rfl⟩
  | cons x xs ih =>
    obtain ⟨y, ys, rfl⟩ := List.exists_cons_of_length_eq_add_one hxy.symm
    obtain ⟨z, zs, rfl⟩ := List.exists_cons_of_length_eq_add_one hyz.symm
    obtain ⟨hx, hrest⟩ := List.forall_mem_cons.mp h
    obtain ⟨hx', hxs⟩ := Bool.and_eq_true_iff.mp hxs
    obtain ⟨hy', hys⟩ := Bool.and_eq_true_iff.mp hys
    obtain ⟨hz', hzs⟩ := Bool.and_eq_true_iff.mp hzs
    rw [orderContents, orderContents, orderContents]
    exact (Coherent.of_trans x.1 y.1 z.1).followed fun _ _ => (hx y.2 z.2 hx' hy' hz').followed fun _ _ =>
      ih hrest hxs hys hzs (Nat.succ.inj hxy) (Nat.succ.inj hyz)

/-- Values of different kinds are compared coherently. -/
theorem comparable_of_kind {a : Value}
    (h : ∀ b c : Value, b.kind = a.kind → c.kind = a.kind → a.isFinite = true → b.isFinite = true →
      c.isFinite = true → Coherent (orderSorted a b) (orderSorted b c) (orderSorted a c)) :
    Comparable a := by
  intro b c ha hb hc
  rw [orderSorted_eq_then a b, orderSorted_eq_then b c, orderSorted_eq_then a c]
  -- kinds are in order by their ranks, so only three values of one kind are left
  refine (Coherent.of_trans _ _ _).followed fun hab hbc => ?_
  have hkind := kind_eq_of_rank hab
  exact h b c hkind.symm ((kind_eq_of_rank hbc).symm.trans hkind.symm) ha hb hc

/-- **Values are compared coherently.** -/
theorem comparable (a : Value) : Comparable a := by
  induction a using Value.induction with
  | null =>
    refine comparable_of_kind fun b c hb hc _ _ _ => ?_
    cases b <;> cases hb
    cases c <;> cases hc
    exact ⟨fun _ => rfl, fun _ => rfl, fun _ => rfl⟩
  | bool x =>
    refine comparable_of_kind fun b c hb hc _ _ _ => ?_
    cases b <;> cases hb
    cases c <;> cases hc
    exact .of_trans _ _ _
  | number m =>
    refine comparable_of_kind fun b c hb hc hm hn hk => ?_
    cases b <;> cases hb
    cases c <;> cases hc
    rw [orderSorted, orderSorted, orderSorted, Number.order_eq_compare hm hn, Number.order_eq_compare hn hk,
      Number.order_eq_compare hm hk]
    exact .of_trans _ _ _
  | string s =>
    refine comparable_of_kind fun b c hb hc _ _ _ => ?_
    cases b <;> cases hb
    cases c <;> cases hc
    exact .of_trans _ _ _
  | array items ih =>
    refine comparable_of_kind fun b c hb hc hxs hys hzs => ?_
    cases b <;> cases hb
    cases c <;> cases hc
    rw [orderSorted, orderSorted, orderSorted]
    exact (Coherent.of_trans _ _ _).followed fun hxy hyz =>
      orderItems_coherent ih hxs hys hzs (Std.LawfulEqOrd.eq_of_compare hxy) (Std.LawfulEqOrd.eq_of_compare hyz)
  | object fields ih =>
    refine comparable_of_kind fun b c hb hc hxs hys hzs => ?_
    cases b <;> cases hb
    cases c <;> cases hc
    rw [orderSorted, orderSorted, orderSorted]
    exact (Coherent.of_trans _ _ _).followed fun hxy hyz =>
      orderContents_coherent ih hxs hys hzs (Std.LawfulEqOrd.eq_of_compare hxy) (Std.LawfulEqOrd.eq_of_compare hyz)

end Coherence

section Equality

/-- A value is alike in order to the finite values that it equals. -/
def Decided (a : Value) : Prop :=
  ∀ b : Value, a.isFinite = true → b.isFinite = true → (orderSorted a b = .eq ↔ equalSorted a b = true)

theorem orderItems_eq_iff {xs ys : List Value} (h : ∀ x ∈ xs, Decided x) (hxs : allFinite xs = true)
    (hys : allFinite ys = true) :
    (compare xs.length ys.length).then (orderItems xs ys) = .eq ↔ equalItems xs ys = true := by
  rw [Ordering.then_eq_eq, Std.LawfulEqCmp.compare_eq_iff_eq]
  induction xs generalizing ys with
  | nil =>
    cases ys with
    | nil => exact iff_of_true ⟨rfl, rfl⟩ rfl
    | cons y ys => exact iff_of_false (fun h => by cases h.1) Bool.false_ne_true
  | cons x xs ih =>
    cases ys with
    | nil => exact iff_of_false (fun h => by cases h.1) Bool.false_ne_true
    | cons y ys =>
      obtain ⟨hx, hrest⟩ := List.forall_mem_cons.mp h
      obtain ⟨hx', hxs⟩ := Bool.and_eq_true_iff.mp hxs
      obtain ⟨hy', hys⟩ := Bool.and_eq_true_iff.mp hys
      -- the lengths come first in the order, and in the equality at the end of the walk
      rw [orderItems, equalItems, Ordering.then_eq_eq, Bool.and_eq_true, ← hx y hx' hy', ← ih hrest hxs hys,
        List.length_cons, List.length_cons, Nat.add_right_cancel_iff]
      exact and_left_comm

theorem orderContents_eq_iff {xs ys : Fields} (h : ∀ entry ∈ xs, Decided entry.2) (hxs : fieldsFinite xs = true)
    (hys : fieldsFinite ys = true) :
    (compare xs.length ys.length).then (orderContents xs ys) = .eq ↔ equalContents xs ys = true := by
  rw [Ordering.then_eq_eq, Std.LawfulEqCmp.compare_eq_iff_eq]
  induction xs generalizing ys with
  | nil =>
    cases ys with
    | nil => exact iff_of_true ⟨rfl, rfl⟩ rfl
    | cons y ys => exact iff_of_false (fun h => by cases h.1) Bool.false_ne_true
  | cons x xs ih =>
    cases ys with
    | nil => exact iff_of_false (fun h => by cases h.1) Bool.false_ne_true
    | cons y ys =>
      obtain ⟨hx, hrest⟩ := List.forall_mem_cons.mp h
      obtain ⟨hx', hxs⟩ := Bool.and_eq_true_iff.mp hxs
      obtain ⟨hy', hys⟩ := Bool.and_eq_true_iff.mp hys
      rw [orderContents, equalContents, Ordering.then_eq_eq, Ordering.then_eq_eq, Bool.and_eq_true, Bool.and_eq_true,
        beq_iff_eq, Std.LawfulEqCmp.compare_eq_iff_eq, ← hx y.2 hx' hy', ← ih hrest hxs hys,
        List.length_cons, List.length_cons, Nat.add_right_cancel_iff]
      exact and_left_comm.trans (and_congr_right fun _ => and_left_comm)

/-- **Values are alike in order exactly if they are equal.** -/
theorem decided (a : Value) : Decided a := by
  have hother {a b : Value} (hkind : a.kind ≠ b.kind) (hequal : equalSorted a b = false) :
      orderSorted a b = .eq ↔ equalSorted a b = true := by
    rw [orderSorted_eq_then, Ordering.then_eq_eq, hequal]
    exact iff_of_false (fun h => hkind (kind_eq_of_rank h.1)) Bool.false_ne_true
  induction a using Value.induction with
  | null =>
    intro b _ _
    cases b with
    | null => exact iff_of_true rfl rfl
    | _ => exact hother (nofun) rfl
  | bool x =>
    intro b _ _
    cases b with
    | bool y => cases x <;> cases y <;> decide
    | _ => exact hother (nofun) rfl
  | number m =>
    intro b hm hn
    cases b with
    | number n =>
      rw [orderSorted, equalSorted, Number.equal_iff hm hn, Number.order_eq_compare hm hn]
      exact Std.LawfulEqCmp.compare_eq_iff_eq
    | _ => exact hother (nofun) rfl
  | string s =>
    intro b _ _
    cases b with
    | string t =>
      rw [orderSorted, equalSorted, beq_iff_eq]
      exact Std.LawfulEqCmp.compare_eq_iff_eq
    | _ => exact hother (nofun) rfl
  | array items ih =>
    intro b hxs hys
    cases b with
    | array others =>
      rw [orderSorted, equalSorted]
      exact orderItems_eq_iff ih hxs hys
    | _ => exact hother (nofun) rfl
  | object fields ih =>
    intro b hxs hys
    cases b with
    | object others =>
      rw [orderSorted, equalSorted]
      exact orderContents_eq_iff ih hxs hys
    | _ => exact hother (nofun) rfl

end Equality

end Value

end ToolWeave
