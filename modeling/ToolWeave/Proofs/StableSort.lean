import Mathlib.Data.List.Perm.Basic
import ToolWeave.Proofs.Comparisons

/-!
# Sorting is stable

Sorted by a total preorder, elements come out in increasing order, and those alike in the order they came
in (`Sorting.sort_stablySorted`).  That determines the result (`Sorting.StablySorted.unique`).

## Main definitions

* `Sorting.StablySorted`: some elements in increasing order, equal ones in the order they came in.

## Design notes

**What has been sorted so far.**  Each part of the algorithm is said to sort stably the elements that it has
taken up to then: the run at the front does, and placing one more element keeps it so.
-/

namespace ToolWeave

namespace Sorting

open Std (TransCmp OrientedCmp)

variable {α β : Type} {cmp : α → α → Ordering}

/-- The elements in increasing order, those alike in the order they came in. -/
structure StablySorted (cmp : α → α → Ordering) (items sorted : List α) : Prop where
  perm : sorted.Perm items
  increasing : sorted.Pairwise fun a b => (cmp a b).isLE = true
  stable : ∀ a ∈ items, sorted.filter (fun b => cmp a b == .eq) = items.filter fun b => cmp a b == .eq

namespace StablySorted

variable {items sorted other : List α}

/-- Elements in order are sorted already. -/
theorem of_increasing (h : items.Pairwise fun a b => (cmp a b).isLE = true) : StablySorted cmp items items :=
  ⟨.refl _, h, fun _ _ => rfl⟩

/-- Images are sorted as their originals are. -/
theorem map_iff {f : β → α} (hf : Function.Injective f) {items sorted : List β} :
    StablySorted cmp (items.map f) (sorted.map f) ↔ StablySorted (fun a b => cmp (f a) (f b)) items sorted := by
  have hfilter (a : β) : (sorted.map f).filter (fun b => cmp (f a) b == .eq) =
        (items.map f).filter (fun b => cmp (f a) b == .eq) ↔
      sorted.filter (fun b => cmp (f a) (f b) == .eq) = items.filter fun b => cmp (f a) (f b) == .eq := by
    rw [List.filter_map, List.filter_map, (List.map_injective_iff.mpr hf).eq_iff]
    rfl
  constructor
  · intro h
    exact ⟨(List.map_perm_map_iff hf).mp h.perm, List.pairwise_map.mp h.increasing,
      fun a ha => (hfilter a).mp (h.stable _ (List.mem_map_of_mem ha))⟩
  · intro h
    refine ⟨h.perm.map f, List.pairwise_map.mpr h.increasing, List.forall_mem_map.mpr fun a ha => ?_⟩
    exact (hfilter a).mpr (h.stable a ha)

section Preorder

variable [TransCmp cmp]

/-- Strictly descending elements are sorted by turning them round. -/
theorem of_descending (h : items.Pairwise fun a b => cmp b a = .lt) : StablySorted cmp items items.reverse := by
  refine ⟨items.reverse_perm, ?_, fun a _ => ?_⟩
  · rw [List.pairwise_reverse]
    exact h.imp fun hlt => by rw [hlt]; rfl
  · -- no two of them are alike, so those alike with one are no more than one
    rw [List.filter_reverse]
    have halike : ∀ b ∈ items.filter (fun b => cmp a b == .eq), cmp a b = .eq := fun b hb =>
      beq_iff_eq.mp (List.mem_filter.mp hb).2
    have hdescending := h.filter fun b => cmp a b == .eq
    match hfilter : items.filter fun b => cmp a b == .eq with
    | [] => rfl
    | [only] => rfl
    | first :: second :: rest =>
      rw [hfilter] at halike hdescending
      have hlt : cmp second first = .lt := List.rel_of_pairwise_cons hdescending List.mem_cons_self
      have hfirst : cmp a first = .eq := halike first (by simp)
      have hsecond : cmp a second = .eq := halike second (by simp)
      rw [← TransCmp.congr_left hsecond, hfirst] at hlt
      cases hlt

/-- The elements alike with any one come out as they came in, also if it is none of them. -/
theorem filter_alike (h : StablySorted cmp items sorted) (a : α) :
    sorted.filter (fun b => cmp a b == .eq) = items.filter fun b => cmp a b == .eq := by
  by_cases hmem : ∃ b ∈ items, cmp a b = .eq
  · obtain ⟨b, hb, heq⟩ := hmem
    have hstable := h.stable b hb
    simp only [← TransCmp.congr_left heq] at hstable
    exact hstable
  · have hnone : ∀ b ∈ items, ¬(cmp a b == .eq) = true := fun b hb heq => hmem ⟨b, hb, beq_iff_eq.mp heq⟩
    rw [List.filter_eq_nil_iff.mpr hnone, List.filter_eq_nil_iff]
    exact fun b hb => hnone b (h.perm.mem_iff.mp hb)

/-- An element goes after those it is not below and before those it is below. -/
theorem insert {element : α} {front back : List α} (h : StablySorted cmp items (front ++ back))
    (hfront : ∀ a ∈ front, cmp element a ≠ .lt) (hback : ∀ a ∈ back, cmp element a = .lt) :
    StablySorted cmp (items ++ [element]) (front ++ element :: back) := by
  obtain ⟨hfronts, hbacks, hacross⟩ := List.pairwise_append.mp h.increasing
  refine ⟨?_, ?_, fun a _ => ?_⟩
  · exact List.perm_middle.trans ((h.perm.cons element).trans (List.perm_append_singleton element items).symm)
  · refine List.pairwise_append.mpr ⟨hfronts, List.pairwise_cons.mpr ⟨fun a ha => ?_, hbacks⟩, ?_⟩
    · rw [hback a ha]
      rfl
    · intro a ha b hb
      rcases List.mem_cons.mp hb with rfl | hb
      · exact OrientedCmp.isGE_iff_isLE.mp (Ordering.isGE_iff_ne_lt.mpr (hfront a ha))
      · exact hacross a ha b hb
  · have halike := h.filter_alike a
    rw [List.filter_append] at halike
    rw [List.filter_append, List.filter_append, List.filter_cons, ← halike]
    by_cases heq : cmp a element = .eq
    · -- whatever comes after the element is above it, hence not alike with it
      have hnone : back.filter (fun b => cmp a b == .eq) = [] := by
        refine List.filter_eq_nil_iff.mpr fun b hb => ?_
        rw [TransCmp.congr_left heq, hback b hb]
        decide
      simp [heq, hnone]
    · simp [heq]

/-- Two lists of the same elements in increasing order, those alike in the same order, are the same. -/
theorem eq_of_filter_alike {xs ys : List α} (hperm : xs.Perm ys)
    (hxs : xs.Pairwise fun a b => (cmp a b).isLE = true)
    (hys : ys.Pairwise fun a b => (cmp a b).isLE = true)
    (halike : ∀ a, xs.filter (fun b => cmp a b == .eq) = ys.filter fun b => cmp a b == .eq) : xs = ys := by
  induction xs generalizing ys with
  | nil => exact hperm.nil_eq
  | cons x xs ih =>
    cases ys with
    | nil => exact absurd hperm.symm.nil_eq (List.cons_ne_nil x xs).symm
    | cons y ys =>
      have hself (a : α) : cmp a a = .eq := Std.ReflCmp.compare_self
      have hle {a : α} {as : List α} (h : (a :: as).Pairwise fun a b => (cmp a b).isLE = true) :
          ∀ b ∈ a :: as, (cmp a b).isLE = true :=
        List.forall_mem_cons.mpr ⟨by rw [hself a]; rfl, (List.pairwise_cons.mp h).1⟩
      -- both are least, hence alike, and the first among those alike is the same in both lists
      have hxy : (cmp x y).isLE = true := hle hxs y (hperm.mem_iff.mpr List.mem_cons_self)
      have hyx : (cmp y x).isLE = true := hle hys x (hperm.mem_iff.mp List.mem_cons_self)
      have heq : cmp x y = .eq := OrientedCmp.isLE_antisymm hxy hyx
      have hfirst := halike x
      rw [List.filter_cons_of_pos (by rw [hself x]; rfl), List.filter_cons_of_pos (by rw [heq]; rfl)] at hfirst
      obtain ⟨rfl, -⟩ := List.cons.inj hfirst
      rw [ih hperm.cons_inv hxs.of_cons hys.of_cons fun a => ?_]
      have hall := halike a
      rw [List.filter_cons, List.filter_cons] at hall
      split at hall
      · exact (List.cons.inj hall).2
      · exact hall

/-- What stably sorted elements look like is determined. -/
theorem unique (h : StablySorted cmp items sorted) (h' : StablySorted cmp items other) : sorted = other :=
  eq_of_filter_alike (h.perm.trans h'.perm.symm) h.increasing h'.increasing fun a =>
    (h.filter_alike a).trans (h'.filter_alike a).symm

end Preorder

end StablySorted

/-! ### The algorithm -/

section Algorithm

variable [TransCmp cmp]

/-- The comparison that an order makes. -/
def strictly (cmp : α → α → Ordering) (a b : α) : Id Bool := pure (cmp a b == .lt)

/-- The run at the front that does not descend, and what is left after it. -/
theorem ascending_spec {last : α} {older : List α} (rest : List α)
    (h : (last :: older).Pairwise fun a b => (cmp b a).isLE = true) :
    ∃ run left, ascending (strictly cmp) last (last :: older) rest = pure (run, left) ∧
      run.Pairwise (fun a b => (cmp a b).isLE = true) ∧ run ++ left = (last :: older).reverse ++ rest := by
  induction rest generalizing last older with
  | nil => exact ⟨_, _, rfl, List.pairwise_reverse.mpr h, by simp⟩
  | cons next rest ih =>
    rw [ascending, strictly, pure_bind]
    by_cases hlt : cmp next last = .lt
    · refine ⟨(last :: older).reverse, next :: rest, by simp [hlt], List.pairwise_reverse.mpr h, rfl⟩
    · have hlast : (cmp last next).isLE = true := OrientedCmp.isGE_iff_isLE.mp (Ordering.isGE_iff_ne_lt.mpr hlt)
      have hall : ∀ a ∈ last :: older, (cmp a next).isLE = true :=
        List.forall_mem_cons.mpr ⟨hlast, fun a ha => TransCmp.isLE_trans ((List.pairwise_cons.mp h).1 a ha) hlast⟩
      obtain ⟨run, left, hrun, hordered, hsame⟩ := ih (List.pairwise_cons.mpr ⟨hall, h⟩)
      refine ⟨run, left, by simpa [hlt] using hrun, hordered, ?_⟩
      rw [hsame]
      simp

/-- The run at the front that strictly descends, turned round, and what is left after it. -/
theorem descending_spec {last : α} {older : List α} (rest : List α)
    (h : (last :: older).Pairwise fun a b => cmp a b = .lt) :
    ∃ run left, descending (strictly cmp) last (last :: older) rest = pure (run, left) ∧
      run.Pairwise (fun a b => cmp a b = .lt) ∧ run.reverse ++ left = (last :: older).reverse ++ rest := by
  induction rest generalizing last older with
  | nil => exact ⟨_, _, rfl, h, rfl⟩
  | cons next rest ih =>
    rw [descending, strictly, pure_bind]
    by_cases hlt : cmp next last = .lt
    · have hall : ∀ a ∈ last :: older, cmp next a = .lt :=
        List.forall_mem_cons.mpr ⟨hlt, fun a ha => TransCmp.lt_trans hlt ((List.pairwise_cons.mp h).1 a ha)⟩
      obtain ⟨run, left, hrun, hordered, hsame⟩ := ih (List.pairwise_cons.mpr ⟨hall, h⟩)
      refine ⟨run, left, by simpa [hlt] using hrun, hordered, ?_⟩
      rw [hsame]
      simp
    · exact ⟨last :: older, next :: rest, by simp [hlt], h, rfl⟩

/-- Binary search: in front of the bounds the element is not below, and from them on it is. -/
theorem place_spec (element : α) {sorted : List α} (h : sorted.Pairwise fun a b => (cmp a b).isLE = true)
    {turns left right : Nat} (hle : left ≤ right) (hturns : right ≤ left + turns) (hright : right ≤ sorted.length)
    (hfront : ∀ a ∈ sorted.take left, cmp element a ≠ .lt) (hback : ∀ a ∈ sorted.drop right, cmp element a = .lt) :
    ∃ position, place (strictly cmp) element sorted turns left right = pure position ∧
      (∀ a ∈ sorted.take position, cmp element a ≠ .lt) ∧ ∀ a ∈ sorted.drop position, cmp element a = .lt := by
  induction turns generalizing left right with
  | zero =>
    obtain rfl : left = right := by omega
    exact ⟨left, rfl, hfront, hback⟩
  | succ turns ih =>
    rw [place]
    by_cases hlt : left < right
    · rw [if_pos hlt]
      have hmiddle : left + (right - left) / 2 < sorted.length := by omega
      generalize hm : left + (right - left) / 2 = middle at hmiddle
      -- the one in the middle has the lesser ones in front of it and the greater ones behind it
      have hsplit : sorted.take middle ++ sorted[middle] :: sorted.drop (middle + 1) = sorted := by simp
      have hordered := h
      rw [← hsplit, List.pairwise_append, List.pairwise_cons] at hordered
      obtain ⟨-, ⟨hgreater, -⟩, hlesser⟩ := hordered
      simp only [List.getElem?_eq_getElem hmiddle, strictly, pure_bind]
      by_cases hbelow : cmp element sorted[middle] = .lt
      · have hbehind : ∀ a ∈ sorted.drop middle, cmp element a = .lt := by
          rw [List.drop_eq_getElem_cons hmiddle]
          exact List.forall_mem_cons.mpr ⟨hbelow, fun a ha => TransCmp.lt_of_lt_of_isLE hbelow (hgreater a ha)⟩
        simpa [hbelow] using ih (by omega) (by omega) (by omega) hfront hbehind
      · have hbefore : ∀ a ∈ sorted.take (middle + 1), cmp element a ≠ .lt := by
          intro a ha habove
          rw [List.take_add_one, List.getElem?_eq_getElem hmiddle, List.mem_append] at ha
          rcases ha with ha | ha
          · exact hbelow (TransCmp.lt_of_lt_of_isLE habove (hlesser a ha _ List.mem_cons_self))
          · obtain rfl := List.mem_singleton.mp ha
            exact hbelow habove
        simpa [hbelow] using ih (by omega) (by omega) hright hbefore hback
    · obtain rfl : left = right := by omega
      exact ⟨left, if_neg hlt, hfront, hback⟩

/-- Inserting an element keeps what has been sorted so far sorted, and adds the element to it. -/
theorem insert_spec {items sorted : List α} (h : StablySorted cmp items sorted) (element : α) :
    ∃ more, insert (strictly cmp) sorted element = pure more ∧ StablySorted cmp (items ++ [element]) more := by
  have hbound : sorted.length ≤ 0 + sorted.length := by omega
  obtain ⟨position, hplace, hfront, hback⟩ :=
    place_spec element h.increasing (Nat.zero_le _) hbound (Nat.le_refl _) (by simp) (by simp)
  refine ⟨sorted.take position ++ element :: sorted.drop position, ?_, ?_⟩
  · rw [insert, hplace, pure_bind]
  · rw [← sorted.take_append_drop position] at h
    exact h.insert hfront hback

theorem insertAll_spec {items sorted : List α} (h : StablySorted cmp items sorted) (rest : List α) :
    ∃ all, rest.foldlM (insert (strictly cmp)) sorted = pure all ∧ StablySorted cmp (items ++ rest) all := by
  induction rest generalizing items sorted with
  | nil => exact ⟨sorted, rfl, by rwa [List.append_nil]⟩
  | cons element rest ih =>
    obtain ⟨more, hmore, hsorted⟩ := insert_spec h element
    obtain ⟨all, hall, hstable⟩ := ih hsorted
    refine ⟨all, ?_, by simpa using hstable⟩
    rw [List.foldlM_cons, hmore, pure_bind, hall]

/-- Sorting by a total preorder is stable. -/
theorem sort_spec (items : List α) :
    StablySorted cmp items (Id.run (sort (strictly cmp) items)) := by
  match items with
  | [] => exact .of_increasing .nil
  | [only] => exact .of_increasing (List.pairwise_singleton _ only)
  | first :: second :: rest =>
    rw [sort, strictly, pure_bind]
    by_cases hlt : cmp second first = .lt
    · have hpair : [second, first].Pairwise fun a b => cmp a b = .lt := by simpa using hlt
      obtain ⟨run, left, hrun, hordered, hsame⟩ := descending_spec rest hpair
      -- the run was met from its greatest element down
      have hdescending : run.reverse.Pairwise fun a b => cmp b a = .lt := List.pairwise_reverse.mpr hordered
      have hrunSorted : StablySorted cmp run.reverse run := by
        simpa using StablySorted.of_descending hdescending
      obtain ⟨all, hall, hsorted⟩ := insertAll_spec hrunSorted left
      rw [hsame] at hsorted
      simpa [hlt, hrun, hall] using hsorted
    · have hle : (cmp first second).isLE = true := OrientedCmp.isGE_iff_isLE.mp (Ordering.isGE_iff_ne_lt.mpr hlt)
      have hpair : [second, first].Pairwise fun a b => (cmp b a).isLE = true := by simpa using hle
      obtain ⟨run, left, hrun, hordered, hsame⟩ := ascending_spec rest hpair
      obtain ⟨all, hall, hsorted⟩ := insertAll_spec (.of_increasing hordered) left
      rw [hsame] at hsorted
      simpa [hlt, hrun, hall] using hsorted

end Algorithm

/-! ### Orders of the elements alone -/

section Preordered

variable {items : List α}

/-- Comparing is a total preorder of some elements. -/
def Preordered (cmp : α → α → Ordering) (items : List α) : Prop :=
  TransCmp fun a b : {item // item ∈ items} => cmp a b

/-- **Sorting by a total preorder of the elements gives what is stably sorted, and nothing else is.** -/
theorem sort_stablySorted (h : Preordered cmp items) (sorted : List α) :
    StablySorted cmp items sorted ↔ sorted = Id.run (sort (strictly cmp) items) := by
  have : TransCmp fun a b : {item // item ∈ items} => cmp a b := h
  -- everything happens among the members of the list, where the order is total
  have hmembers (members : List {item // item ∈ items}) :
      StablySorted cmp items (members.map Subtype.val) ↔
        StablySorted (fun a b : {item // item ∈ items} => cmp a b) items.attach members := by
    rw [← StablySorted.map_iff Subtype.val_injective, items.attach_map_subtype_val]
  have hsort : Id.run (sort (strictly cmp) items) =
      (Id.run (sort (strictly fun a b : {item // item ∈ items} => cmp a b) items.attach)).map Subtype.val := by
    rw [sort_attach]
    rfl
  rw [hsort]
  constructor
  · intro hsorted
    obtain ⟨members, rfl⟩ : ∃ members : List {item // item ∈ items}, members.map Subtype.val = sorted :=
      ⟨sorted.attachWith _ fun a ha => hsorted.perm.mem_iff.mp ha, List.attachWith_map_subtype_val _⟩
    rw [((hmembers members).mp hsorted).unique (sort_spec items.attach)]
  · rintro rfl
    exact (hmembers _).mpr (sort_spec items.attach)

end Preordered

end Sorting

end ToolWeave
