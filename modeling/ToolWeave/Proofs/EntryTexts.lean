import ToolWeave.Proofs.Placeholders
import ToolWeave.Proofs.Settings

/-!
# Placeholders in entries

Placeholders are replaced in some texts of an entry: those of its command, those that its variables are set to, and its
directory (`Placeholder.entryTexts`).  Nothing else of an entry changes (`Placeholder.expandEntry_expands`).  An entry
with a variable that is not set is left out with a warning, and the configuration is what it is without the entry
(`Config.placeholders_replaced`).

## Main definitions

* `Placeholder.entryTexts`: the texts of an entry in which placeholders are replaced.
* `Placeholder.mapEntry`: an entry with other texts in their places.
* `Placeholder.ExpandsEntry`: what becomes of an entry.
* `Loading.Comes`, `Loading.Adds`: a computation comes to something whatever was warned of before; and it does what
  another one does, but for some warnings more.
* `Config.droppedNotes`: what is said of an entry with a variable that is not set.

## Design notes

**One entry less.**  That an entry is left out on its own is said by comparing two runs: one on a mapping with the
entry, and one on the same mapping without it.
-/

namespace ToolWeave

open Document

/-! ### Lists of outcomes -/

theorem faultOf?_mapM {ε α β : Type} (f : α → Except ε β) (items : List α) :
    faultOf? (items.mapM f) = items.findSome? fun item => faultOf? (f item) := by
  induction items with
  | nil => rfl
  | cons item rest ih =>
    rw [List.mapM_cons, Config.findSome?_cons_or, ← ih]
    exact faultOf?_bind _ _ fun first _ => faultOf?_map _ (rest.mapM f)

theorem mapM_eq_ok {ε α β : Type} {f : α → Except ε β} {g : α → β} {items : List α}
    (h : ∀ item ∈ items, f item = .ok (g item)) : items.mapM f = .ok (items.map g) := by
  induction items with
  | nil => rfl
  | cons item rest ih =>
    obtain ⟨hitem, hrest⟩ := List.forall_mem_cons.mp h
    rw [List.mapM_cons, hitem, ih hrest]
    rfl

theorem findSome?_filterMap {α β γ : Type} (f : α → Option β) (g : β → Option γ) (items : List α) :
    (items.filterMap f).findSome? g = items.findSome? fun item => (f item).bind g := by
  rw [← List.head?_filterMap, List.filterMap_filterMap, List.head?_filterMap]

theorem findSome?_flatMap {α β γ : Type} (f : α → List β) (g : β → Option γ) (items : List α) :
    (items.flatMap f).findSome? g = items.findSome? fun item => (f item).findSome? g := by
  induction items with
  | nil => rfl
  | cons item rest ih => rw [List.flatMap_cons, List.findSome?_append, Config.findSome?_cons_or, ih]

theorem findSome?_congr {α β : Type} {f g : α → Option β} {items : List α} (h : ∀ item ∈ items, f item = g item) :
    items.findSome? f = items.findSome? g := by
  rw [← List.head?_filterMap, List.filterMap_congr h, List.head?_filterMap]

namespace Placeholder

variable {valueOf? : String → Option String} {f : String → String}

/-! ### Fields -/

/-- The text that a document is, if it is one. -/
def textOf? : Document → Option String
  | .scalar (.string text) => some text
  | _ => none

/-- The texts of a field in which placeholders are replaced, in order: those of a command, those that variables are set
to, and a directory. -/
def fieldTexts (name : Scalar) (content : Document) : List String :=
  match name, content with
  | .string "command", .list items => items.filterMap textOf?
  | .string "env", .mapping entries => entries.filterMap fun entry => textOf? entry.2
  | .string "cwd", d => (textOf? d).toList
  | _, _ => []

/-- A document with another text if it is one. -/
def mapText (f : String → String) : Document → Document
  | .scalar (.string text) => .scalar (.string (f text))
  | d => d

/-- The content of a field with other texts in the places of those in which placeholders are replaced. -/
def mapField (f : String → String) (name : Scalar) (content : Document) : Document :=
  match name, content with
  | .string "command", .list items => .list (items.map (mapText f))
  | .string "env", .mapping entries => .mapping (entries.map fun entry => (entry.1, mapText f entry.2))
  | .string "cwd", d => mapText f d
  | _, d => d

theorem faultOf?_expandText (d : Document) :
    faultOf? (expandText valueOf? d) = (textOf? d).bind fun text => faultOf? (expand valueOf? text) := by
  cases d with
  | scalar value =>
    cases value with
    | string text => exact faultOf?_map _ _
    | _ => rfl
  | _ => rfl

theorem expandText_eq_ok {d : Document} (h : ∀ text, textOf? d = some text → expand valueOf? text = .ok (f text)) :
    expandText valueOf? d = .ok (mapText f d) := by
  cases d with
  | scalar value =>
    cases value with
    | string text =>
      show (expand valueOf? text).map (fun expanded => Document.scalar (.string expanded)) = _
      rw [h text rfl]
      rfl
    | _ => rfl
  | _ => rfl

theorem faultOf?_expandField (name : Scalar) (content : Document) :
    faultOf? (expandField valueOf? name content) =
      (fieldTexts name content).findSome? fun text => faultOf? (expand valueOf? text) := by
  unfold expandField
  split
  · next items =>
    refine (faultOf?_map _ _).trans ?_
    rw [faultOf?_mapM, fieldTexts, findSome?_filterMap]
    simp only [faultOf?_expandText]
  · next entries =>
    refine (faultOf?_map _ _).trans ?_
    rw [faultOf?_mapM, fieldTexts, findSome?_filterMap]
    refine congrArg (fun fault => entries.findSome? fault) (funext fun entry => ?_)
    exact (faultOf?_map _ _).trans (faultOf?_expandText entry.2)
  · rw [faultOf?_expandText, fieldTexts]
    cases textOf? content with
    | none => rfl
    | some text => exact (List.findSome?_singleton).symm
  · next hcwd hcommand henv =>
    rw [fieldTexts] <;> trivial

theorem expandField_eq_ok {name : Scalar} {content : Document}
    (h : ∀ text ∈ fieldTexts name content, expand valueOf? text = .ok (f text)) :
    expandField valueOf? name content = .ok (mapField f name content) := by
  unfold expandField
  split
  · next items =>
    rw [mapM_eq_ok fun item hitem => expandText_eq_ok fun text htext =>
      h text (List.mem_filterMap.mpr ⟨item, hitem, htext⟩)]
    rfl
  · next entries =>
    have hentry (entry : Scalar × Document) (hmem : entry ∈ entries) :
        (do return (entry.1, ← expandText valueOf? entry.2) : Except Unset (Scalar × Document)) =
          .ok (entry.1, mapText f entry.2) := by
      rw [expandText_eq_ok fun text htext => h text (List.mem_filterMap.mpr ⟨entry, hmem, htext⟩)]
      rfl
    rw [mapM_eq_ok hentry]
    rfl
  · exact expandText_eq_ok fun text htext => h text (Option.mem_toList.mpr htext)
  · next hcwd hcommand henv =>
    rw [mapField] <;> assumption

/-! ### Entries -/

/-- The texts of an entry in which placeholders are replaced, in order. -/
def entryTexts (fields : Mapping) : List String :=
  ["command", "env", "cwd"].flatMap fun name => ((lookup name fields).map (fieldTexts (.string name))).getD []

/-- An entry with other texts in the places of those in which placeholders are replaced. -/
def mapEntry (f : String → String) (fields : Mapping) : Mapping :=
  fields.map fun field => (field.1, mapField f field.1 field.2)

/-- What becomes of an entry: there is an outcome exactly if all texts can be expanded, then they are put in their
places and nothing else changes, and otherwise the first fault counts. -/
structure ExpandsEntry (valueOf? : String → Option String) (fields : Mapping) : Prop where
  succeeds : (∃ expanded, expandEntry valueOf? (.mapping fields) = .ok expanded) ↔
    ∀ text ∈ entryTexts fields, ∃ expanded, expand valueOf? text = .ok expanded
  replaced : ∀ f : String → String, (∀ text ∈ entryTexts fields, expand valueOf? text = .ok (f text)) →
    expandEntry valueOf? (.mapping fields) = .ok (.mapping (mapEntry f fields))
  fault : faultOf? (expandEntry valueOf? (.mapping fields)) =
    (entryTexts fields).findSome? fun text => faultOf? (expand valueOf? text)

/-- An entry with the placeholders of one field replaced. -/
def replaceField (valueOf? : String → Option String) (fields : Mapping) (name : String) : Except Unset Mapping :=
  match lookup name fields with
  | none => .ok fields
  | some content => do
    return Entries.put (.string name) (← expandField valueOf? (.string name) content) fields

theorem expandEntry_mapping (fields : Mapping) : expandEntry valueOf? (.mapping fields) =
    (expandedFields.foldlM (replaceField valueOf?) fields).map .mapping := rfl

/-- The fault of a field, if there is one. -/
def fieldFault? (valueOf? : String → Option String) (fields : Mapping) (name : String) : Option Unset :=
  (lookup name fields).bind fun content => faultOf? (expandField valueOf? (.string name) content)

section Fields

variable {fields changed : Mapping} {name : String}

/-- A field has the first fault of its texts. -/
theorem fieldFault?_eq : fieldFault? valueOf? fields name =
    (((lookup name fields).map (fieldTexts (.string name))).getD []).findSome? fun text =>
      faultOf? (expand valueOf? text) := by
  unfold fieldFault?
  cases lookup name fields with
  | none => rfl
  | some content => exact faultOf?_expandField (.string name) content

theorem mem_entryTexts {content : Document} {text : String} (hname : name ∈ expandedFields)
    (hcontent : lookup name fields = some content) (htext : text ∈ fieldTexts (.string name) content) :
    text ∈ entryTexts fields := by
  refine List.mem_flatMap.mpr ⟨name, hname, ?_⟩
  rw [hcontent]
  exact htext

theorem faultOf?_replaceField : faultOf? (replaceField valueOf? fields name) = fieldFault? valueOf? fields name := by
  unfold replaceField fieldFault?
  cases lookup name fields with
  | none => rfl
  | some content => exact faultOf?_map _ _

/-- Other fields are left alone. -/
theorem lookup_replaceField {other : String} (h : replaceField valueOf? fields name = .ok changed)
    (hother : other ≠ name) : lookup other changed = lookup other fields := by
  unfold replaceField at h
  cases hname : lookup name fields with
  | none =>
    rw [hname] at h
    cases h
    rfl
  | some content =>
    rw [hname] at h
    dsimp only at h
    cases hfield : expandField valueOf? (.string name) content with
    | error unset =>
      rw [hfield] at h
      cases h
    | ok replaced =>
      rw [hfield] at h
      cases h
      exact Entries.get?_put_of_ne (fun hsame => hother (Scalar.string.inj hsame).symm) replaced fields

theorem faultOf?_replaceFields {names : List String} (hnames : names.Nodup) (fields : Mapping) :
    faultOf? (names.foldlM (replaceField valueOf?) fields) = names.findSome? (fieldFault? valueOf? fields) := by
  induction names generalizing fields with
  | nil => rfl
  | cons name rest ih =>
    obtain ⟨hname, hrest⟩ := List.nodup_cons.mp hnames
    rw [List.foldlM_cons, Config.findSome?_cons_or, ← faultOf?_replaceField]
    refine faultOf?_bind _ _ fun changed hchanged => ?_
    rw [ih hrest changed]
    refine findSome?_congr fun other hother => ?_
    unfold fieldFault?
    rw [lookup_replaceField hchanged fun hsame => hname (hsame ▸ hother)]

/-- An entry with other texts in some fields. -/
def mapAmong (f : String → String) (changing : List String) (fields : Mapping) : Mapping :=
  fields.map fun field =>
    if field.1 ∈ changing.map Scalar.string then (field.1, mapField f field.1 field.2) else field

theorem names_mapAmong (changing : List String) : names (mapAmong f changing fields) = names fields := by
  unfold names mapAmong
  rw [List.map_map]
  refine List.map_congr_left fun field _ => ?_
  dsimp only [Function.comp_apply]
  split <;> rfl

theorem mapAmong_singleton_cons (key : Scalar) (old : Document) : mapAmong f [name] ((key, old) :: fields) =
    if key = .string name then (key, mapField f key old) :: mapAmong f [name] fields
    else (key, old) :: mapAmong f [name] fields := by
  unfold mapAmong
  rw [List.map_cons]
  simp only [List.map_cons, List.map_nil, List.mem_singleton]
  split <;> rfl

/-- An entry without the field stays as it is. -/
theorem mapAmong_eq_self (h : .string name ∉ names fields) : mapAmong f [name] fields = fields := by
  induction fields with
  | nil => rfl
  | cons field rest ih =>
    obtain ⟨key, old⟩ := field
    rw [mapAmong_singleton_cons, if_neg (List.ne_of_not_mem_cons h).symm, ih (List.not_mem_of_not_mem_cons h)]

/-- What a field is given takes the place of what it had. -/
theorem put_eq_mapAmong {content : Document} (hnames : (names fields).Nodup)
    (h : lookup name fields = some content) :
    Entries.put (.string name) (mapField f (.string name) content) fields = mapAmong f [name] fields := by
  unfold lookup at h
  induction fields with
  | nil => cases h
  | cons field rest ih =>
    obtain ⟨key, old⟩ := field
    obtain ⟨hkey, hrest⟩ := List.nodup_cons.mp hnames
    rw [Entries.get?_cons] at h
    rw [Entries.put, mapAmong_singleton_cons]
    split at h
    · next hsame =>
      subst hsame
      cases h
      rw [if_pos rfl, if_pos rfl, mapAmong_eq_self hkey]
    · next hother => rw [if_neg hother, if_neg hother, ih hrest h]

theorem not_mem_names_of_lookup (h : lookup name fields = none) : .string name ∉ names fields := by
  rw [lookup_eq_get?, get?_eq_none_iff] at h
  exact fun hmem => h _ hmem rfl

theorem mapAmong_mapAmong {rest : List String} (h : name ∉ rest) :
    mapAmong f rest (mapAmong f [name] fields) = mapAmong f (name :: rest) fields := by
  unfold mapAmong
  rw [List.map_map]
  refine List.map_congr_left fun field _ => ?_
  by_cases hfield : field.1 = .string name
  · simp [hfield, h]
  · simp [hfield]

theorem replaceField_eq_ok (hnames : (names fields).Nodup)
    (h : ∀ content, lookup name fields = some content →
      ∀ text ∈ fieldTexts (.string name) content, expand valueOf? text = .ok (f text)) :
    replaceField valueOf? fields name = .ok (mapAmong f [name] fields) := by
  unfold replaceField
  cases hname : lookup name fields with
  | none => rw [mapAmong_eq_self (not_mem_names_of_lookup hname)]
  | some content =>
    dsimp only
    rw [expandField_eq_ok (h content hname), ← put_eq_mapAmong hnames hname]
    rfl

/-- **The placeholders of several fields** are replaced one field after the other. -/
theorem replaceFields_eq_ok {changing : List String} (hchanging : changing.Nodup) (hnames : (names fields).Nodup)
    (h : ∀ name ∈ changing, ∀ content, lookup name fields = some content →
      ∀ text ∈ fieldTexts (.string name) content, expand valueOf? text = .ok (f text)) :
    changing.foldlM (replaceField valueOf?) fields = .ok (mapAmong f changing fields) := by
  induction changing generalizing fields with
  | nil => exact congrArg Except.ok (List.map_id'' (fun field => if_neg List.not_mem_nil) fields).symm
  | cons name rest ih =>
    obtain ⟨hname, hrest⟩ := List.nodup_cons.mp hchanging
    obtain ⟨hfirst, hlater⟩ := List.forall_mem_cons.mp h
    have hreplaced := replaceField_eq_ok hnames hfirst
    rw [List.foldlM_cons, hreplaced]
    rw [← mapAmong_mapAmong hname]
    refine ih hrest (by rwa [names_mapAmong]) fun other hother content hcontent => hlater other hother content ?_
    rwa [lookup_replaceField hreplaced fun hsame => hname (hsame ▸ hother)] at hcontent

/-- Only three fields can hold texts in which placeholders are replaced. -/
theorem mapAmong_expandedFields : mapAmong f expandedFields fields = mapEntry f fields := by
  unfold mapAmong mapEntry
  refine List.map_congr_left fun field _ => ?_
  obtain ⟨key, content⟩ := field
  dsimp only
  split
  · rfl
  · next hkey =>
    have hother {name : String} (hname : name ∈ expandedFields) : key ≠ .string name := fun hsame =>
      hkey (hsame ▸ List.mem_map_of_mem hname)
    refine congrArg _ (mapField.eq_4 f key content ?_ ?_ ?_).symm
    · exact hother (by decide)
    · exact fun _ hcommand _ => hother (by decide) hcommand
    · exact fun _ henv _ => hother (by decide) henv

end Fields

/-- The first fault of its texts is the fault of an entry. -/
theorem faultOf?_expandEntry (fields : Mapping) : faultOf? (expandEntry valueOf? (.mapping fields)) =
    (entryTexts fields).findSome? fun text => faultOf? (expand valueOf? text) := by
  rw [expandEntry_mapping, faultOf?_map, faultOf?_replaceFields (by decide), entryTexts, findSome?_flatMap]
  exact findSome?_congr fun name _ => fieldFault?_eq

/-- **The placeholders of an entry** are replaced in its texts and nowhere else. -/
theorem expandEntry_expands {fields : Mapping} (h : (names fields).Nodup) : ExpandsEntry valueOf? fields := by
  refine ⟨?_, fun f hf => ?_, faultOf?_expandEntry fields⟩
  · rw [← faultOf?_eq_none_iff, faultOf?_expandEntry, List.findSome?_eq_none_iff]
    simp only [faultOf?_eq_none_iff]
  · have hfields : expandedFields.foldlM (replaceField valueOf?) fields = .ok (mapAmong f expandedFields fields) :=
      replaceFields_eq_ok (by decide) h fun name hname content hcontent text htext =>
        hf text (mem_entryTexts hname hcontent htext)
    rw [expandEntry_mapping, hfields, mapAmong_expandedFields]
    rfl

/-- A variable that is not set is the fault of an entry with a placeholder for it. -/
theorem expandEntry_eq_error {fields : Mapping} {text : String} (htext : text ∈ entryTexts fields) {spot : Spot}
    (hspot : spot.In text.toList) (hunset : valueOf? spot.name = none) :
    ∃ unset, expandEntry valueOf? (.mapping fields) = .error unset := by
  cases hentry : expandEntry valueOf? (.mapping fields) with
  | error unset => exact ⟨unset, rfl⟩
  | ok expanded =>
    have hfault : faultOf? (expandEntry valueOf? (.mapping fields)) = none :=
      faultOf?_eq_none_iff.mpr ⟨expanded, hentry⟩
    rw [faultOf?_expandEntry] at hfault
    have hfine := faultOf?_eq_none_iff.mp (List.findSome?_eq_none_iff.mp hfault text htext)
    have hfound : Found text.toList (spotsFrom 0 text.toList) := found_iff.mpr rfl
    obtain ⟨value, hvalue⟩ := (expand_expands hfound).succeeds.mp hfine spot (hfound.mem_iff.mpr hspot)
    rw [hunset] at hvalue
    cases hvalue

/-- The fault of an entry names a variable that is not set. -/
theorem unset_of_expandEntry {fields : Mapping} {unset : Unset}
    (h : expandEntry valueOf? (.mapping fields) = .error unset) : valueOf? unset.variableName = none := by
  have hfault := faultOf?_eq_some_iff.mpr h
  rw [faultOf?_expandEntry] at hfault
  obtain ⟨text, -, hexpand⟩ := List.exists_of_findSome?_eq_some hfault
  rw [(expand_expands (found_iff.mpr rfl)).fault] at hexpand
  obtain ⟨spot, -, hunset⟩ := List.exists_of_findSome?_eq_some hexpand
  exact Spot.unset_of_unset? hunset

end Placeholder

/-! ### Computations with more warnings -/

namespace Loading

variable {α β : Type} {x y : Loading α} {f g : α → Loading β} {notes : List String}

/-- A computation comes to something that does not depend on what was warned of before. -/
def Comes (x : Loading α) : Prop := ∃ crash a told, x.Gives crash a told

/-- A computation comes to what another one comes to, and gives some warnings more on the way. -/
def Adds (x : Loading α) (notes : List String) (y : Loading α) : Prop :=
  ∃ crash a first rest, y.Gives crash a (first ++ rest) ∧ x.Gives crash a (first ++ (notes ++ rest))

theorem Comes.bind (hx : x.Comes) (hf : ∀ a, (f a).Comes) : Comes (x >>= f) := by
  obtain ⟨_, a, _, hx⟩ := hx
  obtain ⟨_, b, _, hf⟩ := hf a
  exact ⟨_, b, _, hx.bind fun _ => hf⟩

theorem Adds.bind (h : x.Adds notes y) (hf : ∀ a, (f a).Comes) : Adds (x >>= f) notes (y >>= f) := by
  obtain ⟨crash, a, first, rest, hy, hx⟩ := h
  obtain ⟨second, b, told, hf⟩ := hf a
  refine ⟨crash.or second, b, first, rest ++ told, ?_, ?_⟩
  · rw [← List.append_assoc]
    exact hy.bind fun _ => hf
  · rw [← List.append_assoc, ← List.append_assoc, List.append_assoc first]
    exact hx.bind fun _ => hf

/-- What comes before two computations does not matter. -/
theorem Comes.adds (hx : x.Comes) (h : ∀ a, (f a).Adds notes (g a)) : Adds (x >>= f) notes (x >>= g) := by
  obtain ⟨crash, a, told, hx⟩ := hx
  obtain ⟨second, b, first, rest, hg, hf⟩ := h a
  refine ⟨crash.or second, b, told ++ first, rest, ?_, ?_⟩
  · rw [List.append_assoc]
    exact hx.bind fun _ => hg
  · rw [List.append_assoc]
    exact hx.bind fun _ => hf

end Loading

namespace Config

open Placeholder (Unset expandEntry entryTexts)

variable {α : Type} {host : Host} {part : String} {build : String → Document → Except EntryFault (Option α)}

/-! ### Sections without an entry -/

/-- What is said of an entry with a variable that is not set: nothing if it has no name. -/
def droppedNotes (part : String) (key : Scalar) (unset : Unset) : List String :=
  match key with
  | .string name => if name = "" then [] else ["skipping " ++ part ++ "." ++ name ++ ": " ++ unset.message]
  | _ => []

theorem droppedNotes_of_nameless {key : Scalar} {unset : Unset} (h : ∀ name, ¬ IsName key name) :
    droppedNotes part key unset = [] := by
  cases key with
  | string name => exact if_pos (by_contra fun hne => h name ⟨rfl, hne⟩)
  | _ => rfl

/-- A key is a name, or it is none. -/
theorem isName_or (key : Scalar) : (∃ name, IsName key name) ∨ ∀ name, ¬ IsName key name := by
  rw [← not_exists]
  exact em _

theorem comes_entriesOf (entries : Mapping) (before : Entries α) :
    (entriesOf host part build entries before).Comes := by
  induction entries generalizing before with
  | nil => exact ⟨none, before, [], Loading.gives_pure before⟩
  | cons entry rest ih =>
    obtain ⟨key, content⟩ := entry
    rcases isName_or key with ⟨name, hname⟩ | hnameless
    · rw [entriesOf_of_name host part before hname]
      cases entryOf host build name content with
      | built item => exact ih _
      | refused reason => exact Loading.Comes.bind ⟨none, (), _, Loading.gives_warn _⟩ fun _ => ih before
      | crashed cause => exact ⟨some cause, before, [], Loading.gives_throw cause before []⟩
    · rw [entriesOf_of_nameless host part before hnameless]
      exact ih before

/-- The entries of a section are gone through one after the other. -/
theorem entriesOf_append (entries more : Mapping) (before : Entries α) :
    entriesOf host part build (entries ++ more) before =
      entriesOf host part build entries before >>= entriesOf host part build more := by
  induction entries generalizing before with
  | nil => rfl
  | cons entry rest ih =>
    obtain ⟨key, content⟩ := entry
    rw [List.cons_append]
    rcases isName_or key with ⟨name, hname⟩ | hnameless
    · rw [entriesOf_of_name host part before hname, entriesOf_of_name host part before hname]
      cases entryOf host build name content with
      | built item => exact ih _
      | refused reason =>
        dsimp only
        rw [bind_assoc]
        exact congrArg _ (funext fun _ => ih before)
      | crashed cause => rfl
    · rw [entriesOf_of_nameless host part before hnameless, entriesOf_of_nameless host part before hnameless]
      exact ih before

/-- An entry with a variable that is not set comes to nothing but a warning. -/
theorem adds_of_unset {key : Scalar} {content : Document} {unset : Unset} (rest : Mapping) (before : Entries α)
    (h : expandEntry host.valueOf? content = .error unset) :
    (entriesOf host part build ((key, content) :: rest) before).Adds (droppedNotes part key unset)
      (entriesOf host part build rest before) := by
  have hcomes : (entriesOf host part build rest before).Comes := comes_entriesOf rest before
  obtain ⟨crash, built, told, hrest⟩ := hcomes
  refine ⟨crash, built, [], told, hrest, ?_⟩
  rcases isName_or key with ⟨name, hname⟩ | hnameless
  · rw [entriesOf_of_name host part before hname]
    obtain ⟨rfl, hne⟩ := hname
    unfold entryOf droppedNotes
    rw [h]
    dsimp only
    rw [if_neg hne]
    exact (Loading.gives_warn _).bind fun _ => hrest
  · rw [entriesOf_of_nameless host part before hnameless, droppedNotes_of_nameless hnameless]
    exact hrest

theorem adds_entriesOf {key : Scalar} {content : Document} {unset : Unset} (before after : Mapping)
    (h : expandEntry host.valueOf? content = .error unset) (built : Entries α) :
    (entriesOf host part build (before ++ (key, content) :: after) built).Adds (droppedNotes part key unset)
      (entriesOf host part build (before ++ after) built) := by
  rw [entriesOf_append, entriesOf_append]
  exact (comes_entriesOf before built).adds fun built => adds_of_unset after built h

theorem comes_sectionOf (merged : Mapping) : (sectionOf host part build merged).Comes := by
  have hignored : Loading.Comes (do
      Loading.warn ("ignoring " ++ part ++ ": expected a mapping of name to settings")
      return ([] : Entries α)) :=
    Loading.Comes.bind ⟨none, (), _, Loading.gives_warn _⟩ fun _ => ⟨none, [], _, Loading.gives_pure []⟩
  unfold sectionOf
  split
  · exact ⟨none, [], _, Loading.gives_pure []⟩
  · exact ⟨none, [], _, Loading.gives_pure []⟩
  · exact comes_entriesOf _ _
  · exact hignored

/-! ### Configurations without an entry -/

/-- Some layers with other entries in a section. -/
def Layers.withSection (layers : Layers) (part : String) (entries : Mapping) : Layers :=
  { layers with merged := Document.put (.string part) (.mapping entries) layers.merged }

theorem lookup_put {name part : String} {content : Document} {merged : Mapping} :
    lookup name (Document.put (.string part) content merged) =
      if part = name then some content else lookup name merged := by
  rw [lookup_eq_get?, lookup_eq_get?, get?_put]
  simp only [key_eq_string_iff, Scalar.string.injEq]

section Mapping

variable {merged other : Mapping}

theorem adds_sectionOf {key : Scalar} {content : Document} {unset : Unset} {before after : Mapping}
    (hwith : lookup part merged = some (.mapping (before ++ (key, content) :: after)))
    (hwithout : lookup part other = some (.mapping (before ++ after)))
    (h : expandEntry host.valueOf? content = .error unset) :
    (sectionOf host part build merged).Adds (droppedNotes part key unset) (sectionOf host part build other) := by
  unfold sectionOf
  rw [hwith, hwithout]
  exact adds_entriesOf before after h []

/-- A configuration depends on what a mapping has under six names. -/
theorem depthOf_congr (h : lookup "max_depth" merged = lookup "max_depth" other) : depthOf merged = depthOf other := by
  unfold depthOf
  rw [h]

theorem remoteTimeoutOf_congr (h : lookup "remote_timeout" merged = lookup "remote_timeout" other) :
    remoteTimeoutOf merged = remoteTimeoutOf other := by
  unfold remoteTimeoutOf
  rw [h]

theorem logLevelOf_congr (h : lookup "log_level" merged = lookup "log_level" other) :
    logLevelOf merged = logLevelOf other := by
  unfold logLevelOf
  rw [h]

theorem sectionOf_congr (name : String) (h : lookup name merged = lookup name other) :
    sectionOf host name build merged = sectionOf host name build other := by
  unfold sectionOf
  rw [h]

theorem preloadOf_congr {directory : String} (h : lookup "preload" merged = lookup "preload" other) :
    preloadOf directory merged = preloadOf directory other := by
  unfold preloadOf
  rw [h]

end Mapping

/-- **One entry is dropped** and nothing else. -/
theorem adds_ofMapping (directory : String) {layers : Layers} {key : Scalar} {content : Document} {unset : Unset}
    {before after : Mapping} (hpart : part = "process_tools" ∨ part = "remote_servers")
    (hsection : lookup part layers.merged = some (.mapping (before ++ (key, content) :: after)))
    (h : expandEntry host.valueOf? content = .error unset) :
    (ofMapping host directory layers).Adds (droppedNotes part key unset)
      (ofMapping host directory (layers.withSection part (before ++ after))) := by
  have hwithout : lookup part (layers.withSection part (before ++ after)).merged = some (.mapping (before ++ after)) :=
    lookup_put.trans (if_pos rfl)
  have hother {name : String} (hne : part ≠ name) :
      lookup name layers.merged = lookup name (layers.withSection part (before ++ after)).merged :=
    (lookup_put.trans (if_neg hne)).symm
  have hdepth (merged : Mapping) : (depthOf merged).Comes :=
    let ⟨depth, told, hgives, _⟩ := gives_depthOf merged
    ⟨none, depth, told, hgives⟩
  have hlimit (merged : Mapping) : (remoteTimeoutOf merged).Comes :=
    let ⟨crash, limit, told, hgives, _⟩ := delimits_remoteTimeoutOf merged
    ⟨crash, limit, told, hgives⟩
  have hpreload (merged : Mapping) : (preloadOf directory merged).Comes :=
    let ⟨paths, told, hgives⟩ := gives_preloadOf merged directory
    ⟨none, paths, told, hgives⟩
  unfold ofMapping
  dsimp only
  rcases hpart with rfl | rfl
  · rw [depthOf_congr (hother (by decide)), remoteTimeoutOf_congr (hother (by decide)),
      logLevelOf_congr (hother (by decide)), preloadOf_congr (hother (by decide)),
      sectionOf_congr "remote_servers" (hother (by decide))]
    refine (hdepth _).adds fun depth => (hlimit _).adds fun limit => ?_
    refine (adds_sectionOf hsection hwithout h).bind fun commands => ?_
    exact (comes_sectionOf _).bind fun servers => (hpreload _).bind fun paths => ⟨none, _, [], Loading.gives_pure _⟩
  · rw [depthOf_congr (hother (by decide)), remoteTimeoutOf_congr (hother (by decide)),
      logLevelOf_congr (hother (by decide)), preloadOf_congr (hother (by decide)),
      sectionOf_congr "process_tools" (hother (by decide))]
    refine (hdepth _).adds fun depth => (hlimit _).adds fun limit => (comes_sectionOf _).adds fun commands => ?_
    refine (adds_sectionOf hsection hwithout h).bind fun servers => ?_
    exact (hpreload _).bind fun paths => ⟨none, _, [], Loading.gives_pure _⟩

/-- What is built of an entry is built of the entry with its placeholders replaced. -/
theorem entryOf_eq_built_iff {name : String} {content : Document} {item : α} :
    entryOf host build name content = .built item ↔
      ∃ replaced, expandEntry host.valueOf? content = .ok replaced ∧ build name replaced = .ok (some item) := by
  unfold entryOf
  cases expandEntry host.valueOf? content with
  | error unset => exact iff_of_false nofun nofun
  | ok replaced =>
    dsimp only
    constructor
    · intro h
      refine ⟨replaced, rfl, ?_⟩
      split at h
      · next built hbuild =>
        cases h
        exact hbuild
      all_goals cases h
    · rintro ⟨same, hsame, hbuild⟩
      cases hsame
      rw [hbuild]

/-- **Placeholders are replaced.**  Each text has one outcome of a search from the left, which decides what becomes of
it; the texts of an entry are expanded and nothing else changes; what is built is built of the result; and an entry with
a placeholder for a variable that is not set is dropped on its own, with a warning if it has a name. -/
theorem placeholders_replaced (host : Host) :
    (∀ text : String, ∃! spots, Placeholder.Found text.toList spots) ∧
    (∀ (text : String) (spots : List Placeholder.Spot), Placeholder.Found text.toList spots →
      Placeholder.Expands host.valueOf? text spots) ∧
    (∀ fields : Mapping, (names fields).Nodup → Placeholder.ExpandsEntry host.valueOf? fields) ∧
    (∀ content : Document, content.isMapping = false → expandEntry host.valueOf? content = .ok content) ∧
    (∀ (α : Type) (build : String → Document → Except EntryFault (Option α)) (name : String) (content : Document)
      (item : α), entryOf host build name content = .built item ↔
        ∃ replaced, expandEntry host.valueOf? content = .ok replaced ∧ build name replaced = .ok (some item)) ∧
    ∀ (directory : String) (layers : Layers) (part : String) (before after fields : Mapping) (key : Scalar),
      (part = "process_tools" ∨ part = "remote_servers") →
      lookup part layers.merged = some (.mapping (before ++ (key, .mapping fields) :: after)) →
      ∀ text ∈ entryTexts fields, ∀ spot : Placeholder.Spot, spot.In text.toList →
        host.valueOf? spot.name = none →
        ∃ unset : Unset, expandEntry host.valueOf? (.mapping fields) = .error unset ∧
          host.valueOf? unset.variableName = none ∧
          (ofMapping host directory layers).Adds (droppedNotes part key unset)
            (ofMapping host directory (layers.withSection part (before ++ after))) := by
  refine ⟨fun text => ?_, fun text spots => Placeholder.expand_expands, fun fields => Placeholder.expandEntry_expands,
    fun content hcontent => ?_, fun α build name content item => entryOf_eq_built_iff, ?_⟩
  · exact ⟨_, Placeholder.found_iff.mpr rfl, fun others => Placeholder.found_iff.mp⟩
  · cases content with
    | mapping fields => cases hcontent
    | _ => rfl
  · intro directory layers part before after fields key hpart hsection text htext spot hspot hunset
    obtain ⟨unset, herror⟩ := Placeholder.expandEntry_eq_error htext hspot hunset
    exact ⟨unset, herror, Placeholder.unset_of_expandEntry herror, adds_ofMapping directory hpart hsection herror⟩

/-- Two variables are set, and the value of one of them looks like a placeholder. -/
def sampleHost : Host := ⟨[], [], [("A", "1$\x7bB\x7d"), ("B", "2")], "/"⟩

/-- A text with placeholders and with what is none. -/
def sampleText : String := "$$\x7bA\x7d$\x7b\x7d$\x7bA$\x7bB\x7d$\x7b"

/-- An entry with a placeholder in its command and one elsewhere. -/
def fullEntry : Mapping :=
  [(.string "command", .list [.scalar (.string "$\x7bB\x7d"), .scalar (.number (.int 1))]),
    (.string "description", .scalar (.string "$\x7bB\x7d"))]

/-- An entry with a placeholder for a variable that is not set. -/
def lostEntry : Mapping :=
  [(.string "command", .list [.scalar (.string "x")]), (.string "cwd", .scalar (.string "/$\x7bC\x7d"))]

/-- Some layers with both entries. -/
def sampleLayers : Layers :=
  ⟨[(.string "process_tools",
    .mapping [(.string "full", .mapping fullEntry), (.string "lost", .mapping lostEntry)])], []⟩

/-- Of two entries one is expanded, and the other one is dropped. -/
theorem placeholders_replaced_sample :
    Placeholder.Found sampleText.toList [⟨1, ['A']⟩, ⟨11, ['B']⟩] ∧
    Placeholder.expand sampleHost.valueOf? sampleText = .ok "$1$\x7bB\x7d$\x7b\x7d$\x7bA2$\x7b" ∧
    (names fullEntry).Nodup ∧
    expandEntry sampleHost.valueOf? (.mapping fullEntry) = .ok (.mapping
      [(.string "command", .list [.scalar (.string "2"), .scalar (.number (.int 1))]),
        (.string "description", .scalar (.string "$\x7bB\x7d"))]) ∧
    lookup "process_tools" sampleLayers.merged =
      some (.mapping ([(.string "full", .mapping fullEntry)] ++ (.string "lost", .mapping lostEntry) :: [])) ∧
    "/$\x7bC\x7d" ∈ entryTexts lostEntry ∧ Placeholder.Spot.In ⟨1, ['C']⟩ "/$\x7bC\x7d".toList ∧
    sampleHost.valueOf? "C" = none ∧
    (ofMapping sampleHost "/" sampleLayers).Adds
      ["skipping process_tools.lost: placeholder '$\x7bC\x7d' not found in environment"]
      (ofMapping sampleHost "/" (sampleLayers.withSection "process_tools" [(.string "full", .mapping fullEntry)])) := by
  obtain ⟨-, htexts, hentries, -, -, hdropped⟩ := placeholders_replaced sampleHost
  have hfound : Placeholder.Found sampleText.toList [⟨1, ['A']⟩, ⟨11, ['B']⟩] :=
    Placeholder.found_iff.mpr (by decide +kernel)
  have hexpand : Placeholder.expand sampleHost.valueOf? sampleText = .ok "$1$\x7bB\x7d$\x7b\x7d$\x7bA2$\x7b" :=
    ((htexts sampleText _ hfound).filled (fun name => (sampleHost.valueOf? name).getD "") (by decide)).trans
      (congrArg Except.ok (by decide +kernel))
  have hnames : (names fullEntry).Nodup := by decide
  have hone : Placeholder.expand sampleHost.valueOf? "$\x7bB\x7d" = .ok "2" :=
    ((htexts "$\x7bB\x7d" [⟨0, ['B']⟩] (Placeholder.found_iff.mpr (by decide +kernel))).filled (fun _ => "2")
      (by decide)).trans (congrArg Except.ok (by decide +kernel))
  have hfull := (hentries fullEntry hnames).replaced (fun _ => "2") (List.forall_mem_singleton.mpr hone)
  have hlost : "/$\x7bC\x7d" ∈ entryTexts lostEntry := by decide +kernel
  have hspot : Placeholder.Spot.In ⟨1, ['C']⟩ "/$\x7bC\x7d".toList :=
    ⟨⟨by decide, List.forall_mem_singleton.mpr (by decide)⟩, [], by decide +kernel⟩
  obtain ⟨unset, herror, -, hadds⟩ := hdropped "/" sampleLayers "process_tools" [(.string "full", .mapping fullEntry)]
    [] lostEntry (.string "lost") (.inl rfl) rfl _ hlost _ hspot (by decide)
  have hunset : unset.variableName = "C" := by
    have hfault : (faultOf? (expandEntry sampleHost.valueOf? (.mapping lostEntry))).map Unset.variableName =
        some "C" := by
      decide +kernel
    rw [herror] at hfault
    exact Option.some.inj hfault
  have hnotes : droppedNotes "process_tools" (.string "lost") unset =
      ["skipping process_tools.lost: placeholder '$\x7bC\x7d' not found in environment"] := by
    unfold droppedNotes Unset.message
    rw [hunset]
    decide
  rw [hnotes] at hadds
  exact ⟨hfound, hexpand, hnames, hfull, rfl, hlost, hspot, by decide, hadds⟩

end Config

end ToolWeave
