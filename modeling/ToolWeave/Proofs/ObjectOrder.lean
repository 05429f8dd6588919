import ToolWeave.Proofs.TotalOrder

/-!
# The order of objects

Objects are compared by the number of their fields first.  Of two with equally many, the names are gone through in
increasing order, and as long as both have the same name the contents under it are compared before the next name is
(`Value.order_objects`).

## Main definitions

* `Value.sortedNames`: the names of an object in increasing order.
* `Value.shared`: what two lists have in common at the front.
* `Value.contentOrder`, `Value.orderUnder`: the order of the contents of two objects under one name and under several.

## Design notes

**Contents before names.**  The names do not all come before the contents: under the names that both have in common at
the front, the contents are compared before the first two names that differ.  So objects with different names are in the
order of their names only if the contents there do not differ in order, or differ the same way.
-/

namespace ToolWeave

namespace Value

/-! ### Names and contents -/

/-- The names of an object in increasing order. -/
def sortedNames (fields : Fields) : List String := (Entries.names fields).mergeSort fun a b => decide (a ≤ b)

/-- What two lists have in common at the front. -/
def shared : List String → List String → List String
  | k :: ks, l :: ls => if k = l then k :: shared ks ls else []
  | _, _ => []

/-- The content that an object has under a name. -/
def contentUnder (fields : Fields) (name : String) : Value := (Entries.get? name fields).getD .null

/-- The order of what two objects have under a name. -/
def contentOrder (xs ys : Fields) (name : String) : Ordering := order (contentUnder xs name) (contentUnder ys name)

/-- The order of what two objects have under some names: that under the first name where they differ in order. -/
def orderUnder (xs ys : Fields) : List String → Ordering
  | [] => .eq
  | name :: rest => (contentOrder xs ys name).then (orderUnder xs ys rest)

theorem shared_self (names : List String) : shared names names = names := by
  induction names with
  | nil => rfl
  | cons name rest ih => rw [shared, if_pos rfl, ih]

/-- What decides is not overruled. -/
theorem then_eq_left {a b : Ordering} (h : a ≠ .eq) : a.then b = a := by
  cases a with
  | eq => exact absurd rfl h
  | lt => rfl
  | gt => rfl

/-- Either all contents are alike in order, or the first ones that are not decide. -/
theorem orderUnder_cases (xs ys : Fields) (names : List String) :
    ((∀ name ∈ names, contentOrder xs ys name = .eq) ∧ orderUnder xs ys names = .eq) ∨
      ∃ before name after, names = before ++ name :: after ∧ (∀ earlier ∈ before, contentOrder xs ys earlier = .eq) ∧
        contentOrder xs ys name ≠ .eq ∧ orderUnder xs ys names = contentOrder xs ys name := by
  induction names with
  | nil => exact .inl ⟨nofun, rfl⟩
  | cons name rest ih =>
    by_cases hname : contentOrder xs ys name = .eq
    · have hrest : orderUnder xs ys (name :: rest) = orderUnder xs ys rest := by
        rw [orderUnder, hname]
        rfl
      rw [hrest]
      rcases ih with ⟨hall, hunder⟩ | ⟨before, first, after, rfl, hbefore, hfirst, hunder⟩
      · exact .inl ⟨List.forall_mem_cons.mpr ⟨hname, hall⟩, hunder⟩
      · exact .inr ⟨name :: before, first, after, rfl, List.forall_mem_cons.mpr ⟨hname, hbefore⟩, hfirst, hunder⟩
    · refine .inr ⟨[], name, rest, rfl, nofun, hname, ?_⟩
      rw [orderUnder, then_eq_left hname]

/-- The fields of an object in order have its names in increasing order. -/
theorem names_ordered (fields : Fields) : Entries.names (ordered fields) = sortedNames fields := by
  have hnames : Entries.names (sortContents fields) = Entries.names fields := by
    rw [sortContents_eq_map]
    exact List.map_map
  rw [sortedNames, ← hnames]
  exact List.map_mergeSort fun _ _ _ _ => rfl

theorem mem_sortedNames {fields : Fields} {name : String} : name ∈ sortedNames fields ↔ name ∈ Entries.names fields :=
  (List.mergeSort_perm _ _).mem_iff

/-- The names of an object, when they come in increasing order. -/
theorem sortedNames_eq_of_perm {fields : Fields} {names : List String} (hperm : (Entries.names fields).Perm names)
    (hsorted : names.Pairwise (· ≤ ·)) : sortedNames fields = names := by
  rw [← names_ordered]
  exact ((names_ordered_perm fields).trans hperm).eq_of_pairwise (fun a b _ _ hab hba => String.le_antisymm hab hba)
    (names_ordered_pairwise fields) hsorted

/-- The fields of an object in order hold what it has under their names. -/
theorem content_of_mem_ordered {fields : Fields} (h : (Entries.names fields).Nodup) {entry : String × Value}
    (hentry : entry ∈ ordered fields) : entry.2 = (contentUnder fields entry.1).sortFields := by
  rw [(ordered_perm fields).mem_iff, List.mem_map] at hentry
  obtain ⟨⟨name, content⟩, hmem, rfl⟩ := hentry
  rw [contentUnder, (Entries.get?_eq_some_iff h).mpr hmem]
  rfl

/-! ### The order -/

/-- The walk through two lists of fields compares contents as long as the names are the same, and then names. -/
theorem orderContents_eq {xs ys us vs : Fields} (hlength : us.length = vs.length)
    (hus : ∀ entry ∈ us, entry.2 = (contentUnder xs entry.1).sortFields)
    (hvs : ∀ entry ∈ vs, entry.2 = (contentUnder ys entry.1).sortFields) :
    orderContents us vs =
      (orderUnder xs ys (shared (Entries.names us) (Entries.names vs))).then
        (compare (Entries.names us) (Entries.names vs)) := by
  induction us generalizing vs with
  | nil =>
    obtain rfl := List.length_eq_zero_iff.mp hlength.symm
    rfl
  | cons u us ih =>
    obtain ⟨v, vs, rfl⟩ := List.exists_cons_of_length_eq_add_one hlength.symm
    obtain ⟨hu, hus⟩ := List.forall_mem_cons.mp hus
    obtain ⟨hv, hvs⟩ := List.forall_mem_cons.mp hvs
    rw [orderContents, ih (Nat.succ.inj hlength) hus hvs]
    show _ = (orderUnder xs ys (shared (u.1 :: Entries.names us) (v.1 :: Entries.names vs))).then
      (compare (u.1 :: Entries.names us) (v.1 :: Entries.names vs))
    rw [shared, List.compare_cons_cons]
    by_cases hname : u.1 = v.1
    · rw [if_pos hname, orderUnder, contentOrder, order, ← hu, hname, ← hv, Ordering.then_assoc]
      rw [Std.compare_self]
      rfl
    · have hnames : compare u.1 v.1 ≠ .eq := fun heq => hname (Std.LawfulEqCmp.eq_of_compare heq)
      rw [if_neg hname, orderUnder, then_eq_left hnames, Ordering.eq_then, then_eq_left hnames]

/-- The order of two objects: how many fields they have, then what they have under the names in common at the front,
and then all their names. -/
theorem order_object {xs ys : Fields} (hxs : (Entries.names xs).Nodup) (hys : (Entries.names ys).Nodup) :
    order (object xs) (object ys) =
      (compare xs.length ys.length).then
        ((orderUnder xs ys (shared (sortedNames xs) (sortedNames ys))).then
          (compare (sortedNames xs) (sortedNames ys))) := by
  have hlength (fields : Fields) : (ordered fields).length = fields.length :=
    (ordered_perm fields).length_eq.trans (List.length_map _)
  show (compare (ordered xs).length (ordered ys).length).then (orderContents (ordered xs) (ordered ys)) = _
  rw [hlength, hlength]
  by_cases hsize : compare xs.length ys.length = .eq
  · have hsame : (ordered xs).length = (ordered ys).length := by
      rw [hlength, hlength, Std.LawfulEqCmp.eq_of_compare hsize]
    rw [orderContents_eq hsame (fun _ => content_of_mem_ordered hxs) (fun _ => content_of_mem_ordered hys),
      names_ordered, names_ordered]
  · rw [then_eq_left hsize, then_eq_left hsize]

/-- Objects with the same names have them in the same increasing order. -/
theorem sortedNames_eq_iff {xs ys : Fields} (hxs : (Entries.names xs).Nodup) (hys : (Entries.names ys).Nodup) :
    sortedNames xs = sortedNames ys ↔ ∀ name, name ∈ Entries.names xs ↔ name ∈ Entries.names ys := by
  constructor
  · intro h name
    rw [← mem_sortedNames, h, mem_sortedNames]
  · intro h
    rw [← names_ordered, ← names_ordered]
    exact names_ordered_eq hxs hys h

theorem then_eq_right_iff {a b : Ordering} : a.then b = b ↔ a = .eq ∨ a = b := by
  cases a <;> cases b <;> decide

/-- **Objects are ordered by size, then by the contents under the names in common at the front, then by name.**  With
different numbers of fields these numbers decide.  With the same names, the first name under which the contents are not
alike in order decides, and without one the objects are alike.  With as many fields but other names, the names in
increasing order decide exactly if the contents under the names in common at the front are alike in order, or if the
first ones that are not are in the same order as the names. -/
theorem order_objects {xs ys : Fields} (hxs : (Entries.names xs).Nodup) (hys : (Entries.names ys).Nodup) :
    (xs.length ≠ ys.length → order (object xs) (object ys) = compare xs.length ys.length) ∧
    ((∀ name, name ∈ Entries.names xs ↔ name ∈ Entries.names ys) →
      ((∀ name ∈ Entries.names xs, contentOrder xs ys name = .eq) ∧ order (object xs) (object ys) = .eq) ∨
      ∃ before name after, sortedNames xs = before ++ name :: after ∧
        (∀ earlier ∈ before, contentOrder xs ys earlier = .eq) ∧ contentOrder xs ys name ≠ .eq ∧
          order (object xs) (object ys) = contentOrder xs ys name) ∧
    (xs.length = ys.length → (¬ ∀ name, name ∈ Entries.names xs ↔ name ∈ Entries.names ys) →
      let front := orderUnder xs ys (shared (sortedNames xs) (sortedNames ys))
      let names := compare (sortedNames xs) (sortedNames ys)
      names ≠ .eq ∧ order (object xs) (object ys) = front.then names ∧
        (order (object xs) (object ys) = names ↔ front = .eq ∨ front = names)) := by
  rw [order_object hxs hys]
  refine ⟨fun hsize => ?_, fun hsame => ?_, fun hsize hother => ?_⟩
  · exact then_eq_left fun heq => hsize (Std.LawfulEqCmp.eq_of_compare heq)
  · have hnames := (sortedNames_eq_iff hxs hys).mpr hsame
    have hsize : xs.length = ys.length := by
      have hlength := congrArg List.length hnames
      rwa [sortedNames, sortedNames, List.length_mergeSort, List.length_mergeSort, Entries.names, Entries.names,
        List.length_map, List.length_map] at hlength
    rw [hsize, ← hnames, shared_self, Std.compare_self, Std.compare_self, Ordering.then_eq, Ordering.eq_then]
    rcases orderUnder_cases xs ys (sortedNames xs) with ⟨hall, hunder⟩ | h
    · exact .inl ⟨fun name hname => hall name (mem_sortedNames.mpr hname), hunder⟩
    · exact .inr h
  · rw [hsize, Std.compare_self, Ordering.eq_then]
    refine ⟨fun heq => hother ?_, rfl, then_eq_right_iff⟩
    exact (sortedNames_eq_iff hxs hys).mp (Std.LawfulEqCmp.eq_of_compare heq)

/-- The order of objects with other names, where these decide, and with the same names, where a content does. -/
theorem order_objects_sample :
    order (object [("b", .int 0), ("a", .int 1)]) (object [("c", .int 0), ("a", .int 1)]) = .lt ∧
      ∃ before name after, ["a", "b"] = before ++ name :: after ∧
        order (object [("b", .int 0), ("a", .int 1)]) (object [("a", .int 1), ("b", .int 3)]) =
          contentOrder [("b", .int 0), ("a", .int 1)] [("a", .int 1), ("b", .int 3)] name := by
  have hab : sortedNames [("b", .int 0), ("a", .int 1)] = ["a", "b"] := sortedNames_eq_of_perm (by decide) (by decide)
  have hac : sortedNames [("c", .int 0), ("a", .int 1)] = ["a", "c"] := sortedNames_eq_of_perm (by decide) (by decide)
  constructor
  · obtain ⟨-, -, hother⟩ := @order_objects [("b", .int 0), ("a", .int 1)] [("c", .int 0), ("a", .int 1)]
      (by decide) (by decide)
    obtain ⟨-, -, hnames⟩ := hother rfl (fun h => absurd ((h "b").mp (by decide)) (by decide))
    rw [hab, hac] at hnames
    exact hnames.mpr (.inl (by decide +kernel))
  · obtain ⟨-, hsame, -⟩ := @order_objects [("b", .int 0), ("a", .int 1)] [("a", .int 1), ("b", .int 3)]
      (by decide) (by decide)
    rcases hsame (fun name => by simp [Entries.names, or_comm]) with ⟨hall, -⟩ | ⟨before, name, after, hsplit, -, -, h⟩
    · exact absurd (hall "b" (by decide)) (by decide +kernel)
    · exact ⟨before, name, after, hab.symm.trans hsplit, h⟩

/-- Objects with different names whose order is not that of their names. -/
theorem order_objects_contents :
    order (object [("a", .int 2), ("b", .int 0)]) (object [("a", .int 1), ("c", .int 0)]) = .gt ∧
      compare (sortedNames [("a", .int 2), ("b", .int 0)]) (sortedNames [("a", .int 1), ("c", .int 0)]) = .lt := by
  have hab : sortedNames [("a", .int 2), ("b", .int 0)] = ["a", "b"] := sortedNames_eq_of_perm (by decide) (by decide)
  have hac : sortedNames [("a", .int 1), ("c", .int 0)] = ["a", "c"] := sortedNames_eq_of_perm (by decide) (by decide)
  rw [order_object (by decide) (by decide), hab, hac]
  exact ⟨by decide +kernel, by decide⟩

end Value

end ToolWeave
