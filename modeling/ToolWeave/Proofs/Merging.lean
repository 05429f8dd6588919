import Mathlib.Data.List.Nodup
import Mathlib.Order.Compare
import ToolWeave.Config.Document

/-!
# One mapping over another

Configurations are merged mapping by mapping: where both sides hold a mapping their entries come together,
and everywhere else the later side wins as a whole.  What stands at a path of a merged mapping is said once
(`Document.at?_mergeOver`), and from it follows everything that merging promises (`Document.merge_merged`).

## Main definitions

* `Scalar.Key`, `Scalar.key`: what a scalar is as the key of an entry.
* `Document.Keyed`: no mapping of a document has two entries of one key.
* `Document.at?`: what stands at a path of keys.
* `Document.Blocks`: something that is no mapping stands on the way to a path.
* `Document.Merged`: one mapping is another one put over a third.

## Design notes

**Who has to be keyed.**  A mapping that is read has one entry for each key.  Merging goes through the entries of
the later side one by one, so it is the later side that has to be like that; of the earlier side only the first
entry of a key is ever looked at.
-/

namespace ToolWeave

/-! ### Keys -/

namespace Scalar

/-- What a scalar is as the key of an entry: the place of a number, the time of a moment on the universal clock,
and otherwise the scalar itself. -/
inductive Key where
  | number (place : Option (Int × Int))
  | instant (microseconds : Int)
  | plain (scalar : Scalar)
  deriving DecidableEq

/-- A moment as a key. -/
def Key.ofMoment (m : Moment) : Key :=
  match m.offset with
  | some ahead => .instant (m.microseconds - 60000000 * ahead)
  | none => .plain (moment m)

/-- A scalar as a key.  A truth value counts as zero or one. -/
def key : Scalar → Key
  | number n => .number n.place
  | bool b => .number (Number.int (if b then 1 else 0)).place
  | moment m => .ofMoment m
  | s => .plain s

end Scalar

theorem Number.placeOrder_eq_iff {p q : Int × Int} : placeOrder p q = .eq ↔ p = q := by
  unfold placeOrder
  rw [Ordering.then_eq_eq, Std.compare_eq_iff_eq, Std.compare_eq_iff_eq, Prod.ext_iff]

/-- Only one number has no place. -/
theorem Number.place_eq_none_iff {n : Number} : n.place = none ↔ n = .double .nan := by
  cases n with
  | int i => exact iff_of_false nofun nofun
  | double d =>
    cases d with
    | finite negative code => exact iff_of_false nofun nofun
    | infinite negative => cases negative <;> exact iff_of_false nofun nofun
    | nan => exact iff_of_true rfl rfl

theorem Number.same_iff {m n : Number} : (m.equal n || m == n) = true ↔ m.place = n.place := by
  rw [Bool.or_eq_true, beq_iff_eq]
  unfold equal
  cases hm : m.place with
  | none =>
    rw [place_eq_none_iff] at hm
    subst hm
    rw [eq_comm (a := none), place_eq_none_iff, eq_comm (a := n)]
    exact or_iff_right Bool.false_ne_true
  | some p =>
    cases hn : n.place with
    | none =>
      refine iff_of_false ?_ nofun
      rintro (h | rfl)
      · cases h
      · rw [hm] at hn
        cases hn
    | some q =>
      rw [beq_iff_eq, placeOrder_eq_iff, Option.some.injEq, or_iff_left_iff_imp]
      rintro rfl
      rw [hm] at hn
      exact Option.some.inj hn

open Scalar in
theorem Moment.same_iff {a b : Moment} : a.same b = true ↔ Key.ofMoment a = Key.ofMoment b := by
  unfold same Key.ofMoment
  cases ha : a.offset with
  | none =>
    cases hb : b.offset with
    | none => simp
    | some q => simp
  | some p =>
    cases hb : b.offset with
    | none => simp
    | some q => simp

namespace Scalar

/-- A moment is the same key as nothing but a moment. -/
theorem Key.ofMoment_eq_plain {m : Moment} {s : Scalar} (h : ofMoment m = .plain s) : s = moment m := by
  unfold ofMoment at h
  split at h
  · cases h
  · cases h
    rfl

theorem Key.ofMoment_ne_number (m : Moment) (place : Option (Int × Int)) : ofMoment m ≠ .number place := by
  unfold ofMoment
  split <;> exact nofun

theorem key_of_count? {s : Scalar} {n : Number} (h : s.count? = some n) : s.key = .number n.place := by
  cases s <;> cases h <;> rfl

theorem key_ne_number {s : Scalar} (h : s.count? = none) (place : Option (Int × Int)) : s.key ≠ .number place := by
  cases s with
  | bool b => cases h
  | number n => cases h
  | moment m => exact Key.ofMoment_ne_number m place
  | null => exact nofun
  | string text => exact nofun
  | date d => exact nofun

theorem key_eq_plain {s : Scalar} (hcount : s.count? = none) (hmoment : ∀ m, s ≠ moment m) : s.key = .plain s := by
  cases s with
  | bool b => cases hcount
  | number n => cases hcount
  | moment m => exact absurd rfl (hmoment m)
  | null => rfl
  | string text => rfl
  | date d => rfl

/-- What is no number is known by its key, moments on different clocks aside. -/
theorem eq_of_key_eq {a b : Scalar} (ha : a.count? = none) (hb : b.count? = none)
    (hmoments : ∀ s t, a = moment s → b = moment t → False) (h : a.key = b.key) : a = b := by
  by_cases hmoment : ∃ s, a = moment s
  · obtain ⟨s, rfl⟩ := hmoment
    rw [key_eq_plain hb fun t ht => hmoments s t rfl ht] at h
    exact (Key.ofMoment_eq_plain h).symm
  · rw [key_eq_plain ha (not_exists.mp hmoment)] at h
    by_cases hother : ∃ t, b = moment t
    · obtain ⟨t, rfl⟩ := hother
      exact Key.ofMoment_eq_plain h.symm
    · rw [key_eq_plain hb (not_exists.mp hother)] at h
      exact Key.plain.inj h

/-- Scalars index the same entry exactly if they are the same key. -/
theorem same_iff {a b : Scalar} : a.same b = true ↔ a.key = b.key := by
  unfold same
  cases ha : a.count? with
  | some m =>
    rw [key_of_count? ha]
    cases hb : b.count? with
    | some n =>
      rw [key_of_count? hb, Key.number.injEq]
      exact Number.same_iff
    | none => exact iff_of_false Bool.false_ne_true (key_ne_number hb _).symm
  | none =>
    cases hb : b.count? with
    | some n =>
      rw [key_of_count? hb]
      exact iff_of_false Bool.false_ne_true (key_ne_number ha _)
    | none =>
      dsimp only
      split
      · exact Moment.same_iff
      next hmoments =>
        rw [beq_iff_eq]
        exact ⟨congrArg key, eq_of_key_eq ha hb hmoments⟩

end Scalar

namespace Document

/-! ### Mappings that are keyed -/

/-- The names of the entries of a mapping, in order. -/
def names (entries : Mapping) : List Scalar := entries.map Prod.fst

theorem names_cons (name : Scalar) (content : Document) (rest : Mapping) :
    names ((name, content) :: rest) = name :: names rest := rfl

/-- Whether a document is a mapping. -/
def isMapping : Document → Bool
  | mapping _ => true
  | _ => false

mutual

/-- No mapping that keys lead to has two entries of one key. -/
def Keyed : Document → Prop
  | mapping entries => ((names entries).map Scalar.key).Nodup ∧ ContentsKeyed entries
  | _ => True

/-- All contents of some entries are keyed. -/
def ContentsKeyed : List (Scalar × Document) → Prop
  | [] => True
  | (_, content) :: rest => content.Keyed ∧ ContentsKeyed rest

end

theorem contentsKeyed_iff {entries : Mapping} : ContentsKeyed entries ↔ ∀ entry ∈ entries, entry.2.Keyed := by
  induction entries with
  | nil => exact iff_of_true trivial nofun
  | cons entry rest ih => rw [ContentsKeyed, ih, List.forall_mem_cons]

/-- A mapping with an entry in front is keyed if the entry is, the rest is, and the key does not come again. -/
theorem keyed_cons {name : Scalar} {content : Document} {rest : Mapping} :
    (mapping ((name, content) :: rest)).Keyed ↔
      (∀ other ∈ names rest, other.key ≠ name.key) ∧ content.Keyed ∧ (mapping rest).Keyed := by
  simp only [Keyed, ContentsKeyed, names, List.map_cons, List.nodup_cons, List.mem_map, not_exists, not_and]
  tauto

/-! ### Entries by their keys -/

section Entries

variable (name : Scalar) (content : Document) (entries : Mapping)

@[simp]
theorem get?_nil : get? name [] = none := rfl

/-- The first entry of a key decides. -/
theorem get?_cons (key : Scalar) :
    get? name ((key, content) :: entries) = if key.key = name.key then some content else get? name entries := by
  unfold get?
  rw [List.find?_cons]
  by_cases h : key.key = name.key
  · rw [if_pos h, Scalar.same_iff.mpr h]
    rfl
  · rw [if_neg h, Bool.eq_false_iff.mpr (mt Scalar.same_iff.mp h)]

theorem put_cons (key : Scalar) (old : Document) :
    put name content ((key, old) :: entries) =
      if key.key = name.key then (key, content) :: entries else (key, old) :: put name content entries := by
  rw [put]
  simp only [Scalar.same_iff]

theorem get?_eq_none_iff : get? name entries = none ↔ ∀ other ∈ names entries, other.key ≠ name.key := by
  induction entries with
  | nil => exact iff_of_true rfl nofun
  | cons entry rest ih =>
    obtain ⟨key, content⟩ := entry
    rw [get?_cons, names_cons, List.forall_mem_cons]
    by_cases h : key.key = name.key
    · exact iff_of_false (by rw [if_pos h]; exact nofun) fun hall => hall.1 h
    · rw [if_neg h, ih, and_iff_right h]

/-- What is put is found under its key, and nothing else changes. -/
theorem get?_put (other : Scalar) :
    get? other (put name content entries) =
      if name.key = other.key then some content else get? other entries := by
  induction entries with
  | nil => exact get?_cons other content [] name
  | cons entry rest ih =>
    obtain ⟨key, old⟩ := entry
    rw [put_cons, get?_cons]
    by_cases h : key.key = name.key
    · rw [if_pos h, get?_cons, h]
      split <;> rfl
    · rw [if_neg h, get?_cons, ih]
      by_cases hother : key.key = other.key
      · rw [if_pos hother, if_pos hother, if_neg fun hname => h (hother.trans hname.symm)]
      · rw [if_neg hother, if_neg hother]

/-- A name that is put keeps the place of its key, or it comes last. -/
theorem names_put :
    names (put name content entries) =
      if get? name entries = none then names entries ++ [name] else names entries := by
  induction entries with
  | nil => rfl
  | cons entry rest ih =>
    obtain ⟨key, old⟩ := entry
    rw [put_cons, get?_cons]
    by_cases h : key.key = name.key
    · rw [if_pos h, if_pos h, if_neg (Option.some_ne_none _)]
      rfl
    · rw [if_neg h, if_neg h]
      show key :: names (put name content rest) = _
      rw [ih]
      split <;> rfl

variable {name content entries}

/-- A scalar finds what any other scalar of its key finds. -/
theorem get?_congr {other : Scalar} (h : name.key = other.key) : get? name entries = get? other entries := by
  induction entries with
  | nil => rfl
  | cons entry rest ih =>
    obtain ⟨key, content⟩ := entry
    rw [get?_cons, get?_cons, ih, h]

/-- What is put under a new key comes last. -/
theorem put_of_none (h : get? name entries = none) : put name content entries = entries ++ [(name, content)] := by
  induction entries with
  | nil => rfl
  | cons entry rest ih =>
    obtain ⟨key, old⟩ := entry
    rw [get?_cons] at h
    rw [put_cons]
    split at h
    · cases h
    · next hkey => rw [if_neg hkey, ih h, List.cons_append]

/-- To put what is there changes nothing. -/
theorem put_of_get? (h : get? name entries = some content) : put name content entries = entries := by
  induction entries with
  | nil => cases h
  | cons entry rest ih =>
    obtain ⟨key, old⟩ := entry
    rw [get?_cons] at h
    rw [put_cons]
    split at h
    · next hkey =>
      cases h
      exact if_pos hkey
    · next hkey => rw [if_neg hkey, ih h]

theorem mem_of_get? (h : get? name entries = some content) :
    ∃ entry ∈ entries, entry.1.key = name.key ∧ entry.2 = content := by
  induction entries with
  | nil => cases h
  | cons entry rest ih =>
    obtain ⟨key, first⟩ := entry
    rw [get?_cons] at h
    split at h
    · next hkey =>
      cases h
      exact ⟨_, List.mem_cons_self, hkey, rfl⟩
    · obtain ⟨entry, hmem, hentry⟩ := ih h
      exact ⟨entry, List.mem_cons_of_mem _ hmem, hentry⟩

/-- Among different keys every entry is found. -/
theorem get?_of_mem (hkeys : ((names entries).map Scalar.key).Nodup) {entry : Scalar × Document} (h : entry ∈ entries) :
    get? entry.1 entries = some entry.2 := by
  induction entries with
  | nil => cases h
  | cons first rest ih =>
    obtain ⟨key, content⟩ := first
    obtain ⟨hkey, hrest⟩ := List.nodup_cons.mp hkeys
    rw [get?_cons]
    rcases List.mem_cons.mp h with rfl | h
    · exact if_pos rfl
    · have hother : entry.1.key ∈ (names rest).map Scalar.key := List.mem_map_of_mem (List.mem_map_of_mem h)
      rw [if_neg fun heq : key.key = entry.1.key => hkey (heq ▸ hother), ih hrest h]

theorem Keyed.of_get? (hkeyed : (mapping entries).Keyed) (h : get? name entries = some content) : content.Keyed := by
  obtain ⟨entry, hmem, -, rfl⟩ := mem_of_get? h
  exact contentsKeyed_iff.mp hkeyed.2 entry hmem

end Entries

/-! ### Merging -/

/-- The entries that a mapping is put over. -/
def under : Option Document → Mapping
  | some (mapping entries) => entries
  | _ => []

theorem mergeOver_none (d : Document) : mergeOver none d = d := by cases d <;> rfl

theorem mergeOver_of_not_mapping (old : Option Document) {d : Document} (h : d.isMapping = false) :
    mergeOver old d = d := by
  cases d with
  | mapping entries => cases h
  | scalar value => rfl
  | list items => rfl

theorem merge_cons (base : Mapping) (name : Scalar) (content : Document) (rest : Mapping) :
    merge base ((name, content) :: rest) = merge (put name (mergeOver (get? name base) content) base) rest := rfl

/-- **An entry of the merged mapping** is the later content over the earlier one, or the earlier one alone. -/
theorem get?_merge (base : Mapping) {entries : Mapping} (h : (mapping entries).Keyed) (name : Scalar) :
    get? name (merge base entries) =
      match get? name entries with
      | some content => some (mergeOver (get? name base) content)
      | none => get? name base := by
  induction entries generalizing base with
  | nil => rfl
  | cons entry rest ih =>
    obtain ⟨key, content⟩ := entry
    obtain ⟨hkey, -, hrest⟩ := keyed_cons.mp h
    rw [merge_cons, ih _ hrest, get?_cons, get?_put]
    by_cases hname : key.key = name.key
    · -- the key does not come again, so what is put now stays
      have hnone : get? name rest = none :=
        (get?_eq_none_iff name rest).mpr fun other hother => hname ▸ hkey other hother
      rw [hnone, if_pos hname, if_pos hname, get?_congr hname]
    · rw [if_neg hname, if_neg hname]

/-- **The names of the merged mapping** are those of the earlier one, then the new ones of the later one. -/
theorem names_merge (base : Mapping) {entries : Mapping} (h : (mapping entries).Keyed) :
    names (merge base entries) = names base ++ (names entries).filter fun name => (get? name base).isNone := by
  induction entries generalizing base with
  | nil => exact (List.append_nil _).symm
  | cons entry rest ih =>
    obtain ⟨key, content⟩ := entry
    obtain ⟨hkey, -, hrest⟩ := keyed_cons.mp h
    have hlater : (names rest).filter
          (fun name => (get? name (put key (mergeOver (get? key base) content) base)).isNone) =
        (names rest).filter fun name => (get? name base).isNone := by
      refine List.filter_congr fun name hname => ?_
      rw [get?_put, if_neg (hkey name hname).symm]
    rw [merge_cons, ih _ hrest, hlater, names_put, names_cons, List.filter_cons]
    cases hget : get? key base with
    | none => simp
    | some old => simp

theorem merge_nil (base : Mapping) : merge base [] = base := rfl

/-- Entries whose keys are new come behind the others. -/
theorem merge_of_new {base entries : Mapping} (h : (mapping entries).Keyed)
    (hnew : ∀ name ∈ names entries, get? name base = none) : merge base entries = base ++ entries := by
  induction entries generalizing base with
  | nil => exact (List.append_nil base).symm
  | cons entry rest ih =>
    obtain ⟨key, content⟩ := entry
    obtain ⟨hkey, -, hrest⟩ := keyed_cons.mp h
    rw [names_cons, List.forall_mem_cons] at hnew
    rw [merge_cons, hnew.1, mergeOver_none, put_of_none hnew.1, ih hrest, List.append_assoc]
    · rfl
    · intro name hname
      rw [← put_of_none hnew.1, get?_put, if_neg (hkey name hname).symm]
      exact hnew.2 name hname

/-- A mapping over nothing is itself. -/
theorem nil_merge {entries : Mapping} (h : (mapping entries).Keyed) : merge [] entries = entries :=
  merge_of_new h fun _ _ => rfl

/-- A mapping is put over the entries that it replaces. -/
theorem mergeOver_mapping (old : Option Document) {entries : Mapping} (h : (mapping entries).Keyed) :
    mergeOver old (mapping entries) = mapping (merge (under old) entries) := by
  have hnew : mapping entries = mapping (merge [] entries) := by rw [nil_merge h]
  cases old with
  | none => exact hnew
  | some d =>
    cases d with
    | mapping base => rfl
    | scalar value => exact hnew
    | list items => exact hnew

/-- Entries that are there already change nothing. -/
theorem merge_of_present {base entries : Mapping}
    (h : ∀ entry ∈ entries, ∃ content, get? entry.1 base = some content ∧ mergeOver (some content) entry.2 = content) :
    merge base entries = base := by
  induction entries with
  | nil => rfl
  | cons entry rest ih =>
    obtain ⟨key, later⟩ := entry
    obtain ⟨⟨content, hget, hsame⟩, hrest⟩ := List.forall_mem_cons.mp h
    rw [merge_cons, hget, hsame, put_of_get? hget]
    exact ih hrest

mutual

/-- To put a document over something again changes nothing. -/
theorem mergeOver_again (old : Option Document) : (d : Document) → d.Keyed →
    mergeOver (some (mergeOver old d)) d = mergeOver old d
  | scalar _, _ => rfl
  | list _, _ => rfl
  | mapping entries, h => by
    rw [mergeOver_mapping old h, mergeOver_mapping _ h, under, merge_of_present]
    intro entry hmem
    refine ⟨_, ?_, contents_again entries h.2 entry hmem (get? entry.1 (under old))⟩
    rw [get?_merge _ h, get?_of_mem h.1 hmem]

/-- The contents of a mapping change nothing if they are put over something again. -/
theorem contents_again : (entries : Mapping) → ContentsKeyed entries →
    ∀ entry ∈ entries, ∀ old, mergeOver (some (mergeOver old entry.2)) entry.2 = mergeOver old entry.2
  | [], _, _, hmem, _ => nomatch hmem
  | (_, content) :: rest, h, entry, hmem, old => by
    rcases List.mem_cons.mp hmem with rfl | hmem
    · exact mergeOver_again old content h.1
    · exact contents_again rest h.2 entry hmem old

end

/-- To put a mapping over something again changes nothing. -/
theorem merge_again (base : Mapping) {entries : Mapping} (h : (mapping entries).Keyed) :
    merge (merge base entries) entries = merge base entries := by
  have hagain := mergeOver_again (some (mapping base)) (mapping entries) h
  rw [mergeOver_mapping _ h, mergeOver_mapping _ h] at hagain
  exact Document.mapping.inj hagain

theorem nodup_merge {base entries : Mapping} (hbase : ((names base).map Scalar.key).Nodup)
    (h : (mapping entries).Keyed) : ((names (merge base entries)).map Scalar.key).Nodup := by
  rw [names_merge base h, List.map_append]
  refine hbase.append (h.1.sublist (List.filter_sublist.map _)) ?_
  intro key hfirst hsecond
  obtain ⟨first, hbefore, hkey⟩ := List.mem_map.mp hfirst
  obtain ⟨second, hafter, hkey'⟩ := List.mem_map.mp hsecond
  obtain ⟨-, hnew⟩ := List.mem_filter.mp hafter
  exact (get?_eq_none_iff second base).mp (Option.isNone_iff_eq_none.mp hnew) first hbefore (hkey.trans hkey'.symm)

mutual

/-- Nothing that is keyed stops being so when something keyed is put over it. -/
theorem keyed_mergeOver {old : Option Document} (hold : ∀ d, old = some d → d.Keyed) : (d : Document) → d.Keyed →
    (mergeOver old d).Keyed
  | scalar _, _ => trivial
  | list _, _ => trivial
  | mapping entries, h => by
    have hunder : (mapping (under old)).Keyed := by
      unfold under
      split
      · exact hold _ rfl
      · exact ⟨List.nodup_nil, trivial⟩
    have hnames := nodup_merge hunder.1 h
    rw [mergeOver_mapping old h]
    refine ⟨hnames, contentsKeyed_iff.mpr fun entry hmem => ?_⟩
    have hget := get?_of_mem hnames hmem
    rw [get?_merge _ h] at hget
    split at hget
    · next content hlater =>
      obtain ⟨later, hmem, -, rfl⟩ := mem_of_get? hlater
      rw [← Option.some.inj hget]
      exact keyed_contents entries h.2 later hmem _ fun d hd => hunder.of_get? hd
    · exact hunder.of_get? hget

/-- The contents of a keyed mapping are keyed whatever they are put over. -/
theorem keyed_contents : (entries : Mapping) → ContentsKeyed entries → ∀ entry ∈ entries, ∀ old : Option Document,
    (∀ d, old = some d → d.Keyed) → (mergeOver old entry.2).Keyed
  | [], _, _, hmem, _, _ => nomatch hmem
  | (_, content) :: rest, h, entry, hmem, old, hold => by
    rcases List.mem_cons.mp hmem with rfl | hmem
    · exact keyed_mergeOver hold content h.1
    · exact keyed_contents rest h.2 entry hmem old hold

end

/-! ### Paths -/

/-- What stands at a path of keys. -/
def at? : List Scalar → Document → Option Document
  | [], d => some d
  | name :: path, mapping entries => (get? name entries).bind (at? path)
  | _ :: _, _ => none

/-- On the way to a path stands something that is no mapping. -/
def Blocks (d : Document) (path : List Scalar) : Prop :=
  ∃ before after, path = before ++ after ∧ after ≠ [] ∧
    ∃ content, at? before d = some content ∧ content.isMapping = false

theorem at?_cons (name : Scalar) (path : List Scalar) (entries : Mapping) :
    at? (name :: path) (mapping entries) = (get? name entries).bind (at? path) := rfl

/-- Behind a key stands what stands there in the entries that are replaced. -/
theorem bind_at?_cons (old : Option Document) (name : Scalar) (path : List Scalar) :
    old.bind (at? (name :: path)) = (get? name (under old)).bind (at? path) := by
  cases old with
  | none => rfl
  | some d => cases d <;> rfl

theorem blocks_cons_of_not_mapping (name : Scalar) (path : List Scalar) {d : Document} (h : d.isMapping = false) :
    d.Blocks (name :: path) :=
  ⟨[], name :: path, rfl, List.cons_ne_nil _ _, d, rfl, h⟩

theorem blocks_cons (name : Scalar) (path : List Scalar) (entries : Mapping) :
    (mapping entries).Blocks (name :: path) ↔ ∃ content, get? name entries = some content ∧ content.Blocks path := by
  constructor
  · rintro ⟨before, after, hpath, hafter, content, hcontent, hmapping⟩
    cases before with
    | nil =>
      cases hcontent
      cases hmapping
    | cons first before =>
      obtain ⟨rfl, rfl⟩ := List.cons.inj hpath
      obtain ⟨inner, hinner, hcontent⟩ := Option.bind_eq_some_iff.mp hcontent
      exact ⟨inner, hinner, before, after, rfl, hafter, content, hcontent, hmapping⟩
  · rintro ⟨inner, hinner, before, after, rfl, hafter, content, hcontent, hmapping⟩
    exact ⟨name :: before, after, rfl, hafter, content, by rw [at?_cons, hinner]; exact hcontent, hmapping⟩

open Classical in
/-- **What stands at a path after merging.**  What the later side holds there, put over what the earlier side holds
there; and where the later side holds nothing, what the earlier side holds, unless something that is no mapping has
come on the way. -/
theorem at?_mergeOver (path : List Scalar) (old : Option Document) {d : Document} (h : d.Keyed) :
    at? path (mergeOver old d) =
      match at? path d with
      | some content => some (mergeOver (old.bind (at? path)) content)
      | none => if d.Blocks path then none else old.bind (at? path) := by
  induction path generalizing old d with
  | nil => cases old <;> rfl
  | cons name path ih =>
    cases d with
    | scalar value => exact (if_pos (blocks_cons_of_not_mapping name path rfl)).symm
    | list items => exact (if_pos (blocks_cons_of_not_mapping name path rfl)).symm
    | mapping entries =>
      rw [mergeOver_mapping old h, at?_cons, at?_cons, get?_merge _ h, bind_at?_cons, blocks_cons]
      cases hget : get? name entries with
      | none => exact (if_neg fun ⟨_, hcontent, _⟩ => nomatch hcontent).symm
      | some content =>
        simp only [Option.bind_some, Option.some.injEq, exists_eq_left']
        exact ih _ (h.of_get? hget)

/-! ### What merging promises -/

/-- The names of the mapping that stands at a path, none if there is none. -/
def namesAt (path : List Scalar) (entries : Mapping) : List Scalar :=
  match at? path (mapping entries) with
  | some (mapping inner) => names inner
  | _ => []

/-- One mapping is a later one put over an earlier one. -/
structure Merged (earlier later merged : Mapping) : Prop where
  /-- What is no mapping in the later one stands. -/
  replaces : ∀ path d, d.isMapping = false → at? path (mapping later) = some d → at? path (mapping merged) = some d
  /-- What is no mapping in the earlier one stands where the later one holds nothing, neither there nor, mappings
  aside, on the way. -/
  keeps : ∀ path d, d.isMapping = false → at? path (mapping earlier) = some d → at? path (mapping later) = none →
    ¬ (mapping later).Blocks path → at? path (mapping merged) = some d
  /-- Nothing else stands anywhere that is no mapping. -/
  adds_nothing : ∀ path d, d.isMapping = false → at? path (mapping merged) = some d →
    at? path (mapping later) = some d ∨
      at? path (mapping earlier) = some d ∧ at? path (mapping later) = none ∧ ¬ (mapping later).Blocks path
  /-- Mappings stand where the later one holds one, and where the earlier one does and the later one nothing. -/
  levels : ∀ path, (∃ entries, at? path (mapping merged) = some (mapping entries)) ↔
    (∃ entries, at? path (mapping later) = some (mapping entries)) ∨
      (∃ entries, at? path (mapping earlier) = some (mapping entries)) ∧ at? path (mapping later) = none ∧
        ¬ (mapping later).Blocks path
  /-- In each mapping the names of the earlier one come first, in its order and spelling, and then the new ones of
  the later one in the order of that. -/
  order : ∀ path entries, at? path (mapping merged) = some (mapping entries) →
    names entries = namesAt path earlier ++
      (namesAt path later).filter fun name => (namesAt path earlier).all fun other => other.key != name.key
  /-- No key comes twice. -/
  keyed : (mapping earlier).Keyed → (mapping merged).Keyed

theorem isMapping_mergeOver (old : Option Document) (d : Document) : (mergeOver old d).isMapping = d.isMapping := by
  cases d with
  | scalar value => rfl
  | list items => rfl
  | mapping entries =>
    cases old with
    | none => rfl
    | some old => cases old <;> rfl

theorem isMapping_iff {d : Document} : d.isMapping = true ↔ ∃ entries, d = mapping entries := by
  cases d with
  | mapping entries => exact iff_of_true rfl ⟨entries, rfl⟩
  | scalar value => exact iff_of_false Bool.false_ne_true nofun
  | list items => exact iff_of_false Bool.false_ne_true nofun

theorem Keyed.at? {path : List Scalar} {d content : Document} (hkeyed : d.Keyed) (h : d.at? path = some content) :
    content.Keyed := by
  induction path generalizing d with
  | nil =>
    cases h
    exact hkeyed
  | cons name path ih =>
    cases d with
    | scalar value => cases h
    | list items => cases h
    | mapping entries =>
      obtain ⟨inner, hinner, h⟩ := Option.bind_eq_some_iff.mp h
      exact ih (hkeyed.of_get? hinner) h

theorem namesAt_eq (path : List Scalar) (entries : Mapping) :
    namesAt path entries = names (under (at? path (mapping entries))) := by
  unfold namesAt under
  split <;> rfl

section Merge

variable (earlier : Mapping) {later : Mapping} (h : (mapping later).Keyed)

include h

/-- At every path either the later mapping holds something, or it holds nothing and lets through or hides what the
earlier one holds. -/
theorem at?_merge_cases (path : List Scalar) :
    (∃ d, at? path (mapping later) = some d ∧
      at? path (mapping (merge earlier later)) = some (mergeOver (at? path (mapping earlier)) d)) ∨
    (at? path (mapping later) = none ∧ ¬ (mapping later).Blocks path ∧
      at? path (mapping (merge earlier later)) = at? path (mapping earlier)) ∨
    (at? path (mapping later) = none ∧ (mapping later).Blocks path ∧
      at? path (mapping (merge earlier later)) = none) := by
  have hat := at?_mergeOver path (some (mapping earlier)) h
  cases hlater : at? path (mapping later) with
  | some d =>
    rw [hlater] at hat
    exact .inl ⟨d, rfl, hat⟩
  | none =>
    rw [hlater] at hat
    by_cases hblocks : (mapping later).Blocks path
    · exact .inr (.inr ⟨rfl, hblocks, hat.trans (if_pos hblocks)⟩)
    · exact .inr (.inl ⟨rfl, hblocks, hat.trans (if_neg hblocks)⟩)

theorem merge_order {path : List Scalar} {entries : Mapping}
    (hmerged : at? path (mapping (merge earlier later)) = some (mapping entries)) :
    names entries = namesAt path earlier ++
      (namesAt path later).filter fun name => (namesAt path earlier).all fun other => other.key != name.key := by
  rw [namesAt_eq, namesAt_eq]
  rcases at?_merge_cases earlier h path with ⟨d, hlater, hat⟩ | ⟨hlater, -, hat⟩ | ⟨-, -, hat⟩
  · rw [hmerged] at hat
    have hsame := Option.some.inj hat
    obtain ⟨inner, rfl⟩ := isMapping_iff.mp ((isMapping_mergeOver _ d).symm.trans (congrArg isMapping hsame).symm)
    have hinner := h.at? hlater
    rw [mergeOver_mapping _ hinner] at hsame
    rw [Document.mapping.inj hsame, names_merge _ hinner, hlater]
    refine congrArg _ (List.filter_congr fun name _ => ?_)
    rw [Bool.eq_iff_iff, Option.isNone_iff_eq_none, get?_eq_none_iff, List.all_eq_true]
    simp only [bne_iff_ne]
  · rw [hmerged] at hat
    rw [← hat, hlater]
    exact (List.append_nil _).symm
  · rw [hmerged] at hat
    cases hat

/-- **Merging puts the later mapping over the earlier one.** -/
theorem merge_merged : Merged earlier later (merge earlier later) where
  replaces path d hd hlater := by
    rcases at?_merge_cases earlier h path with ⟨other, hother, hat⟩ | ⟨hnone, -⟩ | ⟨hnone, -⟩
    · rw [hlater] at hother
      cases hother
      rw [hat, mergeOver_of_not_mapping _ hd]
    · rw [hlater] at hnone
      cases hnone
    · rw [hlater] at hnone
      cases hnone
  keeps path d hd hearlier hlater hfree := by
    rcases at?_merge_cases earlier h path with ⟨other, hother, -⟩ | ⟨-, -, hat⟩ | ⟨-, hblocks, -⟩
    · rw [hlater] at hother
      cases hother
    · exact hat.trans hearlier
    · exact absurd hblocks hfree
  adds_nothing path d hd hmerged := by
    rcases at?_merge_cases earlier h path with ⟨other, hother, hat⟩ | ⟨hlater, hfree, hat⟩ | ⟨-, -, hat⟩
    · rw [hmerged] at hat
      have hsame := Option.some.inj hat
      rw [hsame, isMapping_mergeOver] at hd
      rw [mergeOver_of_not_mapping _ hd] at hsame
      exact .inl (hsame ▸ hother)
    · exact .inr ⟨hat ▸ hmerged, hlater, hfree⟩
    · rw [hmerged] at hat
      cases hat
  levels path := by
    rcases at?_merge_cases earlier h path with ⟨d, hlater, hat⟩ | ⟨hlater, hfree, hat⟩ | ⟨hlater, hblocks, hat⟩
    · simp only [hlater, hat, Option.some.injEq, ← isMapping_iff, isMapping_mergeOver, reduceCtorEq, false_and,
        and_false, or_false]
    · simp [hlater, hfree, hat]
    · simp [hlater, hblocks, hat]
  order path entries := merge_order earlier h
  keyed hearlier := keyed_mergeOver (fun d hd => Option.some.inj hd ▸ hearlier) (mapping later) h

end Merge

end Document

end ToolWeave
