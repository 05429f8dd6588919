import Mathlib.Data.List.Forall2
import ToolWeave.Proofs.ValueOrder

/-!
# The order and the equality of values

Values are ordered totally, and those alike in order are equal (`Value.total_order`).  Equality is blind to
the order of fields: objects are equal if they have the same names and equal contents under each
(`Value.equal_object_iff`).

## Design notes

**Two descriptions of equality.**  The definition puts the fields of both objects into order and then walks
them side by side.  Looking up the names of one object in the other comes to the same, provided that no
object has a name twice.
-/

namespace ToolWeave

namespace Value

/-! ### Fields in order -/

theorem sortItems_eq_map (items : List Value) : sortItems items = items.map sortFields := by
  induction items with
  | nil => rfl
  | cons item rest ih => rw [sortItems, ih, List.map_cons]

theorem sortContents_eq_map (fields : Fields) :
    sortContents fields = fields.map fun entry => (entry.1, entry.2.sortFields) := by
  induction fields with
  | nil => rfl
  | cons entry rest ih => rw [sortContents, ih, List.map_cons]

/-- The fields of an object when they are in order. -/
def ordered (fields : Fields) : Fields := (sortContents fields).mergeSort fun a b => decide (a.1 ≤ b.1)

theorem ordered_perm (fields : Fields) :
    (ordered fields).Perm (fields.map fun entry => (entry.1, entry.2.sortFields)) := by
  rw [← sortContents_eq_map]
  exact List.mergeSort_perm _ _

/-- Putting fields into order keeps all numbers. -/
theorem isFinite_sortFields (v : Value) : v.sortFields.isFinite = v.isFinite := by
  rw [Bool.eq_iff_iff]
  induction v using Value.induction with
  | array items ih =>
    rw [sortFields, isFinite, isFinite, Json.allFinite_iff, Json.allFinite_iff, sortItems_eq_map, List.forall_mem_map]
    exact forall₂_congr ih
  | object fields ih =>
    rw [sortFields, isFinite, isFinite, Json.fieldsFinite_iff, Json.fieldsFinite_iff]
    show (∀ entry ∈ ordered fields, _) ↔ _
    simp only [(ordered_perm fields).mem_iff, List.forall_mem_map]
    exact forall₂_congr ih
  | _ => exact Iff.rfl

theorem names_ordered_perm (fields : Fields) : (Entries.names (ordered fields)).Perm (Entries.names fields) := by
  have hmap := (ordered_perm fields).map Prod.fst
  rw [List.map_map] at hmap
  exact hmap

/-- Names in order come in increasing order. -/
theorem names_ordered_pairwise (fields : Fields) : (Entries.names (ordered fields)).Pairwise (· ≤ ·) := by
  have hsorted : (ordered fields).Pairwise fun a b => decide (a.1 ≤ b.1) = true := by
    refine List.pairwise_mergeSort (fun a b c hab hbc => ?_) (fun a b => ?_) _
    · exact decide_eq_true (String.le_trans (of_decide_eq_true hab) (of_decide_eq_true hbc))
    · rw [Bool.or_eq_true, decide_eq_true_iff, decide_eq_true_iff]
      exact String.le_total _ _
  exact List.pairwise_map.mpr (hsorted.imp fun h => of_decide_eq_true h)

/-- Objects with the same names have them in the same order. -/
theorem names_ordered_eq {xs ys : Fields} (hxs : (Entries.names xs).Nodup) (hys : (Entries.names ys).Nodup)
    (h : ∀ name, name ∈ Entries.names xs ↔ name ∈ Entries.names ys) :
    Entries.names (ordered xs) = Entries.names (ordered ys) := by
  have hperm : (Entries.names (ordered xs)).Perm (Entries.names (ordered ys)) :=
    ((names_ordered_perm xs).trans ((List.perm_ext_iff_of_nodup hxs hys).mpr h)).trans (names_ordered_perm ys).symm
  -- two lists of the same elements, both in increasing order, are the same list
  exact hperm.eq_of_pairwise (fun a b _ _ hab hba => String.le_antisymm hab hba) (names_ordered_pairwise xs)
    (names_ordered_pairwise ys)

/-! ### Equality -/

theorem equalItems_iff {xs ys : List Value} :
    equalItems xs ys = true ↔ List.Forall₂ (fun x y => equalSorted x y = true) xs ys := by
  induction xs generalizing ys with
  | nil => cases ys <;> simp [equalItems]
  | cons x xs ih => cases ys <;> simp [equalItems, ih]

theorem equalContents_iff {xs ys : Fields} : equalContents xs ys = true ↔
    List.Forall₂ (fun x y => x.1 = y.1 ∧ equalSorted x.2 y.2 = true) xs ys := by
  induction xs generalizing ys with
  | nil => cases ys <;> simp [equalContents]
  | cons x xs ih => cases ys <;> simp [equalContents, ih, and_assoc]

/-- Arrays are equal if their items are, one by one. -/
theorem equal_array_iff {xs ys : List Value} :
    equal (array xs) (array ys) = true ↔ List.Forall₂ (fun x y => equal x y = true) xs ys := by
  show equalItems (sortItems xs) (sortItems ys) = true ↔ _
  rw [equalItems_iff, sortItems_eq_map, sortItems_eq_map, List.forall₂_map_left_iff, List.forall₂_map_right_iff]
  rfl

section Fields

variable {R : Value → Value → Prop} {xs ys : Fields}

theorem names_eq_of_forall₂ (h : List.Forall₂ (fun x y => x.1 = y.1 ∧ R x.2 y.2) xs ys) :
    Entries.names xs = Entries.names ys := by
  induction h with
  | nil => rfl
  | cons hfirst _ ih => exact congrArg₂ List.cons hfirst.1 ih

/-- Among different names, fields that are compared one by one are compared by name. -/
theorem rel_of_forall₂ (h : List.Forall₂ (fun x y => x.1 = y.1 ∧ R x.2 y.2) xs ys)
    (hys : (Entries.names ys).Nodup) {name : String} {x y : Value} (hx : (name, x) ∈ xs)
    (hy : (name, y) ∈ ys) : R x y := by
  induction h with
  | nil => cases hx
  | @cons first other xs ys hfirst hrest ih =>
    obtain ⟨hother, hdistinct⟩ := List.nodup_cons.mp hys
    have hnames := names_eq_of_forall₂ hrest
    rcases List.mem_cons.mp hx with rfl | hx
    · rcases List.mem_cons.mp hy with rfl | hy
      · exact hfirst.2
      · have hname : name ∈ Entries.names ys := List.mem_map_of_mem hy
        exact absurd (hfirst.1 ▸ hname) hother
    · have hname : name ∈ Entries.names ys := hnames ▸ List.mem_map_of_mem hx
      rcases List.mem_cons.mp hy with rfl | hy
      · exact absurd hname hother
      · exact ih hdistinct hx hy

theorem forall₂_of_rel (hnames : Entries.names xs = Entries.names ys)
    (h : ∀ name x y, (name, x) ∈ xs → (name, y) ∈ ys → R x y) :
    List.Forall₂ (fun x y => x.1 = y.1 ∧ R x.2 y.2) xs ys := by
  induction xs generalizing ys with
  | nil =>
    cases ys with
    | nil => exact .nil
    | cons other ys => cases hnames
  | cons first xs ih =>
    cases ys with
    | nil => cases hnames
    | cons other ys =>
      obtain ⟨name, x⟩ := first
      obtain ⟨name', y⟩ := other
      obtain ⟨hname, hrest⟩ := List.cons.inj hnames
      obtain rfl : name = name' := hname
      refine .cons ⟨rfl, h name x y List.mem_cons_self List.mem_cons_self⟩ (ih hrest fun key a b ha hb => ?_)
      exact h key a b (List.mem_cons_of_mem _ ha) (List.mem_cons_of_mem _ hb)

/-- **Objects are equal if they have the same names and equal contents under each.** -/
theorem equal_object_iff (hxs : (Entries.names xs).Nodup) (hys : (Entries.names ys).Nodup) :
    equal (object xs) (object ys) = true ↔
      (∀ name, name ∈ Entries.names xs ↔ name ∈ Entries.names ys) ∧
        ∀ name x y, Entries.get? name xs = some x → Entries.get? name ys = some y → equal x y = true := by
  have hmem {fields : Fields} {name : String} {v : Value} :
      (name, v) ∈ ordered fields ↔ ∃ w, (name, w) ∈ fields ∧ w.sortFields = v := by
    rw [(ordered_perm fields).mem_iff, List.mem_map]
    constructor
    · rintro ⟨⟨key, w⟩, hw, heq⟩
      cases heq
      exact ⟨w, hw, rfl⟩
    · rintro ⟨w, hw, rfl⟩
      exact ⟨(name, w), hw, rfl⟩
  -- side by side the names agree, and then looking a name up finds the contents that were side by side
  show equalContents (ordered xs) (ordered ys) = true ↔ _
  rw [equalContents_iff]
  constructor
  · intro h
    have hnames := names_eq_of_forall₂ (R := fun x y => equalSorted x y = true) h
    refine ⟨fun name => ?_, fun name x y hx hy => ?_⟩
    · rw [← (names_ordered_perm xs).mem_iff, hnames, (names_ordered_perm ys).mem_iff]
    · have hdistinct : (Entries.names (ordered ys)).Nodup := (names_ordered_perm ys).nodup_iff.mpr hys
      exact rel_of_forall₂ (R := fun x y => equalSorted x y = true) h hdistinct
        (hmem.mpr ⟨x, Entries.mem_of_get? hx, rfl⟩) (hmem.mpr ⟨y, Entries.mem_of_get? hy, rfl⟩)
  · rintro ⟨hsame, hcontents⟩
    refine forall₂_of_rel (R := fun x y => equalSorted x y = true) (names_ordered_eq hxs hys hsame) ?_
    intro name _ _ hleft hright
    obtain ⟨x, hx, rfl⟩ := hmem.mp hleft
    obtain ⟨y, hy, rfl⟩ := hmem.mp hright
    exact hcontents name x y ((Entries.get?_eq_some_iff hxs).mpr hx) ((Entries.get?_eq_some_iff hys).mpr hy)

end Fields

/-! ### The order -/

theorem order_swap (a b : Value) : order b a = (order a b).swap := orderSorted_swap _ _

theorem order_coherent {a b c : Value} (ha : a.isFinite = true) (hb : b.isFinite = true) (hc : c.isFinite = true) :
    Coherent (order a b) (order b c) (order a c) := by
  rw [← isFinite_sortFields] at ha hb hc
  exact comparable _ _ _ ha hb hc

theorem order_eq_iff {a b : Value} (ha : a.isFinite = true) (hb : b.isFinite = true) :
    order a b = .eq ↔ equal a b = true := by
  rw [← isFinite_sortFields] at ha hb
  exact decided _ _ ha hb

theorem order_self (a : Value) : order a a = .eq := by
  have hswap := order_swap a a
  cases h : order a a with
  | eq => rfl
  | lt =>
    rw [h] at hswap
    cases hswap
  | gt =>
    rw [h] at hswap
    cases hswap

theorem kind_sortFields (v : Value) : v.sortFields.kind = v.kind := by cases v <;> rfl

theorem kind_eq_of_equal {a b : Value} (h : equal a b = true) : a.kind = b.kind := by
  rw [← kind_sortFields a, ← kind_sortFields b]
  unfold equal at h
  generalize a.sortFields = a at h
  generalize b.sortFields = b at h
  cases a <;> cases b <;> first | rfl | cases h

theorem sign_swap (o : Ordering) : sign o.swap = -sign o := by cases o <;> rfl

theorem sign_nonpos_iff (o : Ordering) : sign o ≤ 0 ↔ o.isLE = true := by cases o <;> decide

theorem sign_eq_zero_iff (o : Ordering) : sign o = 0 ↔ o = .eq := by cases o <;> decide

/-- Equality of JSON values is an equivalence. -/
theorem equal_equivalence : Equivalence fun a b : { v : Value // v.isFinite = true } => equal a.1 b.1 = true where
  refl a := (order_eq_iff a.2 a.2).mp (order_self a.1)
  symm {a b} h := by
    rw [← order_eq_iff b.2 a.2, order_swap, (order_eq_iff a.2 b.2).mpr h]
    rfl
  trans {a b c} h h' := by
    rw [← order_eq_iff a.2 b.2] at h
    rw [← order_eq_iff b.2 c.2] at h'
    rw [← order_eq_iff a.2 c.2, (order_coherent a.2 b.2 c.2).2.1 h, h']

/-- **JSON values are ordered totally, and those alike in order are equal.**  Comparing gives minus one, zero
or one, the opposite the other way round, and it is transitive; zero means that the values are equal.
Equality is an equivalence that looks at arrays item by item and at objects name by name, in whatever order
the names come, and that keeps kinds apart, booleans and numbers among them.  Numbers of either kind are
compared by the rational numbers that they are. -/
theorem total_order :
    (∀ a b : Value, (sign (order a b) = -1 ∨ sign (order a b) = 0 ∨ sign (order a b) = 1) ∧
      sign (order b a) = -sign (order a b)) ∧
    (∀ a b c : Value, a.isFinite = true → b.isFinite = true → c.isFinite = true →
      sign (order a b) ≤ 0 → sign (order b c) ≤ 0 → sign (order a c) ≤ 0) ∧
    (∀ a b : Value, a.isFinite = true → b.isFinite = true → (sign (order a b) = 0 ↔ equal a b = true)) ∧
    (Equivalence fun a b : { v : Value // v.isFinite = true } => equal a.1 b.1 = true) ∧
    (∀ xs ys : List Value, equal (array xs) (array ys) = true ↔ List.Forall₂ (fun x y => equal x y = true) xs ys) ∧
    (∀ xs ys : Fields, (Entries.names xs).Nodup → (Entries.names ys).Nodup →
      (equal (object xs) (object ys) = true ↔
        (∀ name, name ∈ Entries.names xs ↔ name ∈ Entries.names ys) ∧
          ∀ name x y, Entries.get? name xs = some x → Entries.get? name ys = some y → equal x y = true)) ∧
    (∀ a b : Value, equal a b = true → a.kind = b.kind) ∧
    ∀ m n : Number, m.isFinite = true → n.isFinite = true →
      order (number m) (number n) = compare m.exact n.exact ∧
        (equal (number m) (number n) = true ↔ m.exact = n.exact) := by
  refine ⟨fun a b => ⟨?_, ?_⟩, fun a b c ha hb hc hab hbc => ?_, fun a b ha hb => ?_, equal_equivalence,
    fun xs ys => equal_array_iff, fun xs ys => equal_object_iff, fun a b => kind_eq_of_equal, fun m n hm hn => ?_⟩
  · cases order a b <;> simp [sign]
  · rw [order_swap, sign_swap]
  · rw [sign_nonpos_iff] at hab hbc ⊢
    exact (order_coherent ha hb hc).isLE hab hbc
  · rw [sign_eq_zero_iff]
    exact order_eq_iff ha hb
  · exact ⟨Number.order_eq_compare hm hn, Number.equal_iff hm hn⟩

/-- The fields of an object. -/
def sampleFields : Fields := [("a", .int 1), ("b", .array [.bool true])]

/-- The same fields in another order, with a double for an integer. -/
def otherFields : Fields := [("b", .array [.bool true]), ("a", .double (Double.ofInt 1))]

theorem equal_of_lookup {name : String} {x y : Value} (hx : Entries.get? name sampleFields = some x)
    (hy : Entries.get? name otherFields = some y) : equal x y = true := by
  have hmem := Entries.mem_of_get? hx
  have hother := Entries.mem_of_get? hy
  simp only [sampleFields, List.mem_cons, Prod.mk.injEq, List.not_mem_nil, or_false] at hmem
  simp only [otherFields, List.mem_cons, Prod.mk.injEq, List.not_mem_nil, or_false] at hother
  rcases hmem with ⟨rfl, rfl⟩ | ⟨rfl, rfl⟩
  · rcases hother with ⟨heq, -⟩ | ⟨-, rfl⟩
    · exact absurd heq (by decide)
    · decide +kernel
  · rcases hother with ⟨-, rfl⟩ | ⟨heq, -⟩
    · decide +kernel
    · exact absurd heq (by decide)

/-- The theorem at two objects that differ in the order of their fields and the spelling of a number, and at
a string, which comes after both. -/
theorem total_order_sample :
    equal (object sampleFields) (object otherFields) = true ∧
      sign (order (object sampleFields) (object otherFields)) = 0 ∧
      sign (order (object sampleFields) (string "")) ≤ 0 ∧
      (Number.int 1).exact = (Number.double (Double.ofInt 1)).exact := by
  obtain ⟨-, htrans, hzero, -, -, hobject, -, hnumber⟩ := total_order
  have hfinite : (object sampleFields).isFinite = true := by decide
  have hother : (object otherFields).isFinite = true := by decide +kernel
  have hnames (name : String) : name ∈ Entries.names sampleFields ↔ name ∈ Entries.names otherFields := by
    simp [Entries.names, sampleFields, otherFields, or_comm]
  have hequal : equal (object sampleFields) (object otherFields) = true :=
    (hobject _ _ (by decide) (by decide)).mpr ⟨hnames, fun _ _ _ => equal_of_lookup⟩
  have halike := (hzero _ _ hfinite hother).mpr hequal
  refine ⟨hequal, halike, ?_, ?_⟩
  · exact htrans _ (object otherFields) _ hfinite hother rfl halike.le (by decide +kernel)
  · exact (hnumber (.int 1) (.double (Double.ofInt 1)) rfl (by decide +kernel)).2.mp (by decide +kernel)

end Value

end ToolWeave
