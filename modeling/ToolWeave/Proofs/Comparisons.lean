import ToolWeave.Sorting

/-!
# Sorting asks about its elements only

Sorting looks at the elements through the comparison alone.  So sorting the images of some elements is
sorting the elements by their images, with the same questions in the same order.  And two ways of sorting
are related as their questions are, if asking one thing after another keeps the relation
(`Sorting.sort_related`); so what holds of each question holds of sorting (`Sorting.sort_closed`).  That is
said of families of questions, so that it also holds of sorting in several ways at once.
-/

namespace ToolWeave

namespace Sorting

section Map

variable {m : Type → Type} [Monad m] [LawfulMonad m] {α β : Type}
variable (below : β → β → m Bool) (f : α → β)

theorem ascending_map (last : α) (run rest : List α) :
    ascending below (f last) (run.map f) (rest.map f) =
      Prod.map (List.map f) (List.map f) <$>
        ascending (fun a b => below (f a) (f b)) last run rest := by
  induction rest generalizing last run with
  | nil => simp [ascending]
  | cons next rest ih =>
    rw [List.map_cons, ascending, ascending, map_bind]
    refine bind_congr fun answer => ?_
    split
    · simp
    · rw [← List.map_cons, ih]

theorem descending_map (last : α) (run rest : List α) :
    descending below (f last) (run.map f) (rest.map f) =
      Prod.map (List.map f) (List.map f) <$>
        descending (fun a b => below (f a) (f b)) last run rest := by
  induction rest generalizing last run with
  | nil => simp [descending]
  | cons next rest ih =>
    rw [List.map_cons, descending, descending, map_bind]
    refine bind_congr fun answer => ?_
    split
    · rw [← List.map_cons, ih]
    · simp

omit [LawfulMonad m] in
theorem place_map (element : α) (sorted : List α) (turns left right : Nat) :
    place below (f element) (sorted.map f) turns left right =
      place (fun a b => below (f a) (f b)) element sorted turns left right := by
  induction turns generalizing left right with
  | zero => rfl
  | succ turns ih =>
    rw [place, place]
    split
    · dsimp only
      rw [List.getElem?_map]
      cases sorted[left + (right - left) / 2]? with
      | none => rfl
      | some other =>
        refine bind_congr fun answer => ?_
        rw [ih, ih]
    · rfl

theorem insert_map (sorted : List α) (element : α) :
    insert below (sorted.map f) (f element) =
      List.map f <$> insert (fun a b => below (f a) (f b)) sorted element := by
  rw [insert, insert, place_map, List.length_map, map_bind]
  refine bind_congr fun position => ?_
  simp

theorem foldlM_insert_map (sorted rest : List α) :
    (rest.map f).foldlM (insert below) (sorted.map f) =
      List.map f <$> rest.foldlM (insert fun a b => below (f a) (f b)) sorted := by
  induction rest generalizing sorted with
  | nil => simp
  | cons element rest ih =>
    rw [List.map_cons, List.foldlM_cons, List.foldlM_cons, insert_map, bind_map_left, map_bind]
    refine bind_congr fun sorted => ?_
    rw [ih]

/-- Sorting images is sorting by images. -/
theorem sort_map (items : List α) :
    sort below (items.map f) =
      List.map f <$> sort (fun a b => below (f a) (f b)) items := by
  match items with
  | [] => simp [sort]
  | [only] => simp [sort]
  | first :: second :: rest =>
    rw [List.map_cons, List.map_cons, sort, sort, map_bind]
    -- the first answer tells which way the run goes that the elements start with
    refine bind_congr fun answer => ?_
    split
    · have hrun := descending_map below f second [second, first] rest
      rw [List.map_cons, List.map_cons, List.map_nil] at hrun
      rw [hrun, bind_map_left, map_bind]
      refine bind_congr fun parts => ?_
      exact foldlM_insert_map below f parts.1 parts.2
    · have hrun := ascending_map below f second [second, first] rest
      rw [List.map_cons, List.map_cons, List.map_nil] at hrun
      rw [hrun, bind_map_left, map_bind]
      refine bind_congr fun parts => ?_
      exact foldlM_insert_map below f parts.1 parts.2

/-- Sorting asks about members of the list only. -/
theorem sort_attach (below : α → α → m Bool) (items : List α) :
    sort below items =
      List.map Subtype.val <$> sort (fun a b : {item // item ∈ items} => below a b) items.attach := by
  rw [← sort_map, List.attach_map_subtype_val]

end Map

/-! ### Questions one after the other -/

section Related

variable {m n : Type → Type} [Monad m] [Monad n] {ι α : Type}
  {holds : {β : Type} → (ι → m β) → n β → Prop}
  (hpure : ∀ {β : Type} (b : β), holds (fun _ => pure b) (pure b))
  (hbind : ∀ {β γ : Type} {x : ι → m β} {y : n β} {f : ι → β → m γ} {g : β → n γ},
    holds x y → (∀ b, holds (fun i => f i b) (g b)) → holds (fun i => x i >>= f i) (y >>= g))
  {below : ι → α → α → m Bool} {other : α → α → n Bool}
  (hbelow : ∀ a b, holds (fun i => below i a b) (other a b))

include hpure hbind hbelow

theorem ascending_related (last : α) (run rest : List α) :
    holds (fun i => ascending (below i) last run rest) (ascending other last run rest) := by
  induction rest generalizing last run with
  | nil => exact hpure _
  | cons next rest ih =>
    refine hbind (hbelow next last) fun answer => ?_
    cases answer with
    | true => exact hpure _
    | false => exact ih next _

theorem descending_related (last : α) (run rest : List α) :
    holds (fun i => descending (below i) last run rest) (descending other last run rest) := by
  induction rest generalizing last run with
  | nil => exact hpure _
  | cons next rest ih =>
    refine hbind (hbelow next last) fun answer => ?_
    cases answer with
    | true => exact ih next _
    | false => exact hpure _

theorem place_related (element : α) (sorted : List α) (turns left right : Nat) :
    holds (fun i => place (below i) element sorted turns left right)
      (place other element sorted turns left right) := by
  induction turns generalizing left right with
  | zero => exact hpure _
  | succ turns ih =>
    simp only [place]
    split
    · cases sorted[left + (right - left) / 2]? with
      | none => exact hpure _
      | some found =>
        refine hbind (hbelow element found) fun answer => ?_
        cases answer with
        | true => exact ih left _
        | false => exact ih _ right
    · exact hpure _

theorem insert_related (sorted : List α) (element : α) :
    holds (fun i => insert (below i) sorted element) (insert other sorted element) :=
  hbind (place_related hpure hbind hbelow element sorted _ _ _) fun _ => hpure _

theorem insertAll_related (sorted rest : List α) :
    holds (fun i => rest.foldlM (insert (below i)) sorted) (rest.foldlM (insert other) sorted) := by
  induction rest generalizing sorted with
  | nil => exact hpure _
  | cons element rest ih =>
    simp only [List.foldlM_cons]
    exact hbind (insert_related hpure hbind hbelow sorted element) ih

/-- Sorting in one way is related to sorting in another as the questions are. -/
theorem sort_related (items : List α) :
    holds (fun i => sort (below i) items) (sort other items) := by
  match items with
  | [] => exact hpure _
  | [only] => exact hpure _
  | first :: second :: rest =>
    refine hbind (hbelow second first) fun answer => ?_
    cases answer with
    | true =>
      exact hbind (descending_related hpure hbind hbelow second _ rest) fun parts =>
        insertAll_related hpure hbind hbelow parts.1 parts.2
    | false =>
      exact hbind (ascending_related hpure hbind hbelow second _ rest) fun parts =>
        insertAll_related hpure hbind hbelow parts.1 parts.2

end Related

/-- What holds of every question holds of sorting. -/
theorem sort_closed {m : Type → Type} [Monad m] {ι α : Type} {holds : {β : Type} → (ι → m β) → Prop}
    (hpure : ∀ {β : Type} (b : β), holds fun _ => pure b)
    (hbind : ∀ {β γ : Type} {x : ι → m β} {f : ι → β → m γ}, holds x → (∀ b, holds fun i => f i b) →
      holds fun i => x i >>= f i)
    {below : ι → α → α → m Bool} (hbelow : ∀ a b, holds fun i => below i a b) (items : List α) :
    holds fun i => sort (below i) items :=
  -- the other way of sorting does not matter
  @sort_related m Id _ _ ι α (fun x _ => holds x) hpure hbind below (fun _ _ => pure true) hbelow items

end Sorting

end ToolWeave
