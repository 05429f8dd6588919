/-!
# Named entries

A list of pairs of a name and a content stands for a finite map that remembers the order in which
its names came.  Objects, frames of bindings, tool sets and configurations are all such lists.
Names are strings nearly everywhere, but the operations only ask that they can be told apart.

## Main definitions

* `Entries.get?`: the content of a name.
* `Entries.put`: a name keeps its place and takes the new content; a new name goes last.
* `Entries.erase`: the entries without a name.
-/

namespace ToolWeave

/-- A finite map from names to contents, in order of first arrival. -/
abbrev Entries (α : Type) : Type := List (String × α)

namespace Entries

variable {κ : Type} [DecidableEq κ] {α : Type}

/-- The content of the first entry of a name. -/
def get? (name : κ) : List (κ × α) → Option α
  | [] => none
  | (key, content) :: rest => if key = name then some content else get? name rest

/-- Whether a name has an entry. -/
def has (name : κ) (entries : List (κ × α)) : Bool := (get? name entries).isSome

/-- The names, in order. -/
def names (entries : Entries α) : List String := entries.map Prod.fst

/-- Gives a name a content: in place if it has an entry, else as the last entry. -/
def put (name : κ) (content : α) : List (κ × α) → List (κ × α)
  | [] => [(name, content)]
  | (key, old) :: rest =>
    if key = name then (key, content) :: rest else (key, old) :: put name content rest

/-- The entries without those of a name. -/
def erase (name : κ) (entries : List (κ × α)) : List (κ × α) :=
  entries.filter fun entry => entry.1 ≠ name

/-- The entries put one after the other into an empty map. -/
def ofList (entries : List (κ × α)) : List (κ × α) :=
  entries.foldl (fun map entry => put entry.1 entry.2 map) []

@[simp] theorem get?_nil (name : κ) : get? name ([] : List (κ × α)) = none := rfl

/-- The first entry of a name decides. -/
theorem get?_cons (name key : κ) (content : α) (rest : List (κ × α)) :
    get? name ((key, content) :: rest) = if key = name then some content else get? name rest := rfl

@[simp] theorem get?_put_self (name : κ) (content : α) (entries : List (κ × α)) :
    get? name (put name content entries) = some content := by
  induction entries with
  | nil => simp [put, get?]
  | cons entry rest ih =>
    obtain ⟨key, old⟩ := entry
    by_cases h : key = name <;> simp [put, get?, h, ih]

/-- Putting one name leaves the others alone. -/
theorem get?_put_of_ne {name other : κ} (h : other ≠ name) (content : α)
    (entries : List (κ × α)) : get? name (put other content entries) = get? name entries := by
  induction entries with
  | nil => simp [put, get?, h]
  | cons entry rest ih =>
    obtain ⟨key, old⟩ := entry
    by_cases hk : key = other
    · subst hk; simp [put, get?, h]
    · simp [put, get?, hk, ih]

@[simp] theorem get?_erase_self (name : κ) (entries : List (κ × α)) :
    get? name (erase name entries) = none := by
  induction entries with
  | nil => rfl
  | cons entry rest ih =>
    obtain ⟨key, old⟩ := entry
    by_cases h : key = name
    · simpa [erase, h] using ih
    · simpa [erase, h, get?] using ih

/-- Erasing one name leaves the others alone. -/
theorem get?_erase_of_ne {name other : κ} (h : other ≠ name) (entries : List (κ × α)) :
    get? name (erase other entries) = get? name entries := by
  induction entries with
  | nil => rfl
  | cons entry rest ih =>
    obtain ⟨key, old⟩ := entry
    by_cases hk : key = other
    · subst hk; simpa [erase, get?, h] using ih
    · by_cases hn : key = name
      · subst hn; simp [erase, get?, hk]
      · simpa [erase, get?, hk, hn] using ih

/-- What comes first is found first. -/
theorem get?_append (name : κ) (before after : List (κ × α)) :
    get? name (before ++ after) = (get? name before).or (get? name after) := by
  induction before with
  | nil => rfl
  | cons entry before ih =>
    obtain ⟨key, content⟩ := entry
    rw [List.cons_append, get?_cons, get?_cons, ih]
    split <;> rfl

/-- Names in increasing order, each once. -/
def sortedNames (names : List String) : List String :=
  (names.mergeSort fun a b => decide (a ≤ b)).eraseReps

/-! ### Membership -/

section Membership

variable {name : String} {content : α} {entries : Entries α} {entry : String × α}

theorem has_iff_mem_names : has name entries = true ↔ name ∈ names entries := by
  unfold has
  induction entries with
  | nil => simp [names]
  | cons entry rest ih =>
    obtain ⟨key, content⟩ := entry
    rw [get?_cons]
    by_cases hkey : key = name
    · simp [names, hkey]
    · rw [if_neg hkey, ih]
      simp [names, Ne.symm hkey]

theorem has_of_get? (h : get? name entries = some content) : has name entries = true := by
  unfold has
  rw [h]
  rfl

theorem mem_of_get? (h : get? name entries = some content) : (name, content) ∈ entries := by
  induction entries with
  | nil => cases h
  | cons entry rest ih =>
    obtain ⟨key, first⟩ := entry
    rw [get?_cons] at h
    split at h
    · next hkey =>
      cases h
      rw [hkey]
      exact List.mem_cons_self
    · exact List.mem_cons_of_mem _ (ih h)

/-- Among different names, an entry is what its name leads to. -/
theorem get?_eq_some_iff (h : (names entries).Nodup) :
    get? name entries = some content ↔ (name, content) ∈ entries := by
  refine ⟨mem_of_get?, fun hmem => ?_⟩
  induction entries with
  | nil => cases hmem
  | cons entry rest ih =>
    obtain ⟨key, first⟩ := entry
    obtain ⟨hkey, hrest⟩ := List.nodup_cons.mp h
    rw [get?_cons]
    rcases List.mem_cons.mp hmem with heq | hmem
    · cases heq
      exact if_pos rfl
    · have hname : name ∈ names rest := List.mem_map_of_mem hmem
      rw [if_neg (by rintro rfl; exact hkey hname)]
      exact ih hrest hmem

/-- Whatever is there after a put was there before or was put. -/
theorem mem_of_mem_put (h : entry ∈ put name content entries) :
    entry ∈ entries ∨ entry = (name, content) := by
  induction entries with
  | nil => exact .inr (List.mem_singleton.mp h)
  | cons first rest ih =>
    obtain ⟨key, old⟩ := first
    unfold put at h
    split at h
    · next hkey =>
      rcases List.mem_cons.mp h with rfl | h
      · exact .inr (by rw [hkey])
      · exact .inl (List.mem_cons_of_mem _ h)
    · rcases List.mem_cons.mp h with rfl | h
      · exact .inl List.mem_cons_self
      · rcases ih h with h | h
        · exact .inl (List.mem_cons_of_mem _ h)
        · exact .inr h

theorem mem_of_mem_erase (h : entry ∈ erase name entries) : entry ∈ entries :=
  (List.mem_filter.mp h).1

theorem mem_of_mem_ofList {given : Entries α} (h : entry ∈ ofList given) : entry ∈ given := by
  have hfold (rest built : Entries α)
      (hmem : entry ∈ rest.foldl (fun map entry => put entry.1 entry.2 map) built) :
      entry ∈ built ∨ entry ∈ rest := by
    induction rest generalizing built with
    | nil => exact .inl hmem
    | cons first rest ih =>
      rcases ih _ hmem with hmem | hmem
      · rcases mem_of_mem_put hmem with hmem | rfl
        · exact .inl hmem
        · exact .inr List.mem_cons_self
      · exact .inr (List.mem_cons_of_mem _ hmem)
  rcases hfold given [] h with h | h
  · cases h
  · exact h

end Membership

end Entries

end ToolWeave
