import Mathlib.Data.List.Sort
import Mathlib.Data.List.TakeWhile
import ToolWeave.Config.Placeholder

/-!
# Placeholders in texts

A text is searched for placeholders from the left, each time from where the last one ended
(`Placeholder.Found`).  There is one outcome of such a search, and no placeholder is missed, since two of them never
overlap (`Placeholder.Spot.In.stop_le_start`).  A text is expanded by putting values in their places, and everything
else stays (`Placeholder.fill`): this comes to nothing exactly if a variable is not set, the first one being named
(`Placeholder.expand_expands`).

## Main definitions

* `Placeholder.written`: a placeholder as it is written.
* `Placeholder.Spot`, `Placeholder.Spot.In`: a place in a text, and that a placeholder stands there.
* `Placeholder.Found`: the leftmost placeholders that do not overlap.
* `Placeholder.fill`: a text with values in the places of its placeholders.
* `Placeholder.Expands`: what becomes of a text with placeholders at some spots.

## Design notes

**Positions.**  Spots are positions in the whole text.  The proofs read a part of it at the end, which starts at a
position, so that what is left after a placeholder is again such a part.
-/

namespace ToolWeave

/-- Why an outcome is none, if it is none. -/
def faultOf? {ε α : Type} : Except ε α → Option ε
  | .error fault => some fault
  | .ok _ => none

theorem faultOf?_eq_none_iff {ε α : Type} {outcome : Except ε α} :
    faultOf? outcome = none ↔ ∃ a, outcome = .ok a := by
  cases outcome with
  | error fault => exact iff_of_false nofun nofun
  | ok a => exact iff_of_true rfl ⟨a, rfl⟩

theorem faultOf?_eq_some_iff {ε α : Type} {outcome : Except ε α} {fault : ε} :
    faultOf? outcome = some fault ↔ outcome = .error fault := by
  cases outcome with
  | error other => exact ⟨fun h => congrArg _ (Option.some.inj h), fun h => congrArg _ (Except.error.inj h)⟩
  | ok a => exact iff_of_false nofun nofun

/-- Of two parts the first fault counts. -/
theorem faultOf?_bind {ε α β : Type} (outcome : Except ε α) (next : α → Except ε β) {second : Option ε}
    (h : ∀ a, outcome = .ok a → faultOf? (next a) = second) :
    faultOf? (outcome >>= next) = (faultOf? outcome).or second := by
  cases outcome with
  | error fault => rfl
  | ok a => exact h a rfl

theorem faultOf?_map {ε α β : Type} (f : α → β) (outcome : Except ε α) :
    faultOf? (outcome.map f) = faultOf? outcome := by
  cases outcome <;> rfl

namespace Placeholder

/-! ### Placeholders at the front -/

/-- Some characters are a word: there is at least one, and all are characters of words. -/
structure IsWord (word : List Char) : Prop where
  given : word ≠ []
  made : ∀ c ∈ word, Text.isWord c = true

/-- A placeholder as it is written: a dollar sign, and a word in braces. -/
def written (word : List Char) : List Char := '$' :: '\x7b' :: (word ++ ['\x7d'])

/-- There is a dollar sign only at the front of a placeholder. -/
theorem dollar_not_mem_braced {word : List Char} (h : IsWord word) : '$' ∉ '\x7b' :: (word ++ ['\x7d']) := by
  intro hmem
  rcases List.mem_cons.mp hmem with hc | hmem
  · cases hc
  rcases List.mem_append.mp hmem with hmem | hmem
  · exact absurd (h.made _ hmem) (by decide)
  · exact absurd (List.mem_singleton.mp hmem) (by decide)

/-- **The placeholder at the front** is one exactly if the characters begin as it is written. -/
theorem at?_eq_some_iff {cs word rest : List Char} :
    at? cs = some (word, rest) ↔ IsWord word ∧ cs = written word ++ rest := by
  constructor
  · intro h
    unfold at? at h
    split at h
    next after =>
      have hword : after.takeWhile Text.isWord ++ after.drop (after.takeWhile Text.isWord).length = after :=
        List.prefix_iff_eq_append.mp (List.takeWhile_prefix _)
      dsimp only at h
      split at h
      next tail htail =>
        split at h
        · cases h
        next hgiven =>
          cases h
          refine ⟨⟨by simpa using hgiven, fun c hc => List.mem_takeWhile_imp hc⟩, ?_⟩
          rw [htail] at hword
          simp [written, hword]
      · cases h
    · cases h
  · rintro ⟨hword, rfl⟩
    have hbrace : Text.isWord '\x7d' = false := by decide
    have htake : (word ++ '\x7d' :: rest).takeWhile Text.isWord = word := by
      rw [List.takeWhile_append_of_pos hword.made, List.takeWhile_cons_of_neg (by rw [hbrace]; decide),
        List.append_nil]
    have hgiven : word.isEmpty = false := by simpa using hword.given
    show at? ('$' :: '\x7b' :: ((word ++ ['\x7d']) ++ rest)) = _
    rw [List.append_assoc, List.singleton_append]
    unfold at?
    simp only [htake, List.drop_left, hgiven, Bool.false_eq_true, if_false]

section Steps

variable {valueOf? : String → Option String} {cs word rest : List Char}

/-- A placeholder is replaced, and what comes after it is expanded. -/
theorem expandChars_of_placeholder (h : at? cs = some (word, rest)) :
    expandChars valueOf? cs =
      match valueOf? (String.ofList word) with
      | none => .error ⟨String.ofList word⟩
      | some value => (expandChars valueOf? rest).map (value.toList ++ ·) := by
  rw [expandChars]
  split
  · next other after hat =>
    cases h.symm.trans hat
    cases valueOf? (String.ofList word) <;> rfl
  · next hat => cases h.symm.trans hat

theorem expandChars_nil : expandChars valueOf? [] = .ok [] := by
  rw [expandChars]
  rfl

/-- A character that no placeholder begins with stays. -/
theorem expandChars_of_character {c : Char} (h : at? (c :: rest) = none) :
    expandChars valueOf? (c :: rest) = (expandChars valueOf? rest).map (c :: ·) := by
  rw [expandChars]
  split
  · next word after hat => cases h.symm.trans hat
  · rfl

end Steps

/-! ### Placeholders in a text -/

/-- A place in a text, and a word. -/
structure Spot where
  start : Nat
  word : List Char
  deriving DecidableEq

namespace Spot

variable {spot other : Spot} {cs : List Char}

/-- The position after a placeholder with the word at the place. -/
def stop (spot : Spot) : Nat := spot.start + (written spot.word).length

/-- The name of the variable that is asked for. -/
def name (spot : Spot) : String := String.ofList spot.word

/-- A placeholder stands at the place. -/
def In (spot : Spot) (cs : List Char) : Prop :=
  IsWord spot.word ∧ ∃ rest, cs.drop spot.start = written spot.word ++ rest

/-- What stands in a text from a place on. -/
theorem In.getElem?_add (h : spot.In cs) {i : Nat} (hi : i < (written spot.word).length) :
    cs[spot.start + i]? = (written spot.word)[i]? := by
  obtain ⟨-, rest, hrest⟩ := h
  rw [← List.getElem?_drop, hrest, List.getElem?_append_left hi]

/-- **Placeholders do not overlap.** -/
theorem In.stop_le_start (hspot : spot.In cs) (hother : other.In cs) (h : spot.start < other.start) :
    spot.stop ≤ other.start := by
  by_contra hstop
  unfold stop at hstop
  obtain ⟨i, hi⟩ : ∃ i, other.start = spot.start + (i + 1) := ⟨other.start - spot.start - 1, by omega⟩
  -- the other one begins with a dollar sign, which would be within this one
  have hdollar : cs[other.start]? = some '$' := hother.getElem?_add (i := 0) (Nat.succ_pos _)
  rw [hi, hspot.getElem?_add (by omega)] at hdollar
  exact dollar_not_mem_braced hspot.1 (List.mem_of_getElem? hdollar)

theorem In.eq_of_start_eq (hspot : spot.In cs) (hother : other.In cs) (h : spot.start = other.start) :
    spot = other := by
  obtain ⟨start, word⟩ := spot
  obtain ⟨_, more⟩ := other
  obtain rfl : start = _ := h
  obtain ⟨hword, rest, hrest⟩ := hspot
  obtain ⟨hmore, last, hlast⟩ := hother
  have hsame := (at?_eq_some_iff.mpr ⟨hword, hrest⟩).symm.trans (at?_eq_some_iff.mpr ⟨hmore, hlast⟩)
  cases hsame
  rfl

end Spot

/-- Some spots are the leftmost placeholders that do not overlap: each comes after the one before has ended, and a
placeholder that is none of them begins within one that begins earlier. -/
structure Found (cs : List Char) (spots : List Spot) : Prop where
  stand : ∀ spot ∈ spots, spot.In cs
  apart : spots.Pairwise fun spot next => spot.stop ≤ next.start
  leftmost : ∀ other : Spot, other.In cs →
    other ∈ spots ∨ ∃ spot ∈ spots, spot.start < other.start ∧ other.start < spot.stop

/-- The spots of the placeholders in some characters that come at a position of a text. -/
def spotsFrom (here : Nat) (cs : List Char) : List Spot :=
  match _found : at? cs with
  | some (word, rest) => ⟨here, word⟩ :: spotsFrom (here + (written word).length) rest
  | none =>
    match cs with
    | [] => []
    | _ :: rest => spotsFrom (here + 1) rest
  termination_by cs.length
  decreasing_by
    · exact length_lt_of_at? _found
    · simp

section Search

variable {cs whole : List Char} {here : Nat} {spots : List Spot}

/-- What is left of a text after some of what is left. -/
theorem drop_add_of_eq {first rest : List Char} (h : whole.drop here = first ++ rest) :
    whole.drop (here + first.length) = rest := by
  rw [← List.drop_drop, h, List.drop_left]

theorem drop_succ_of_eq {c : Char} {rest : List Char} (h : whole.drop here = c :: rest) :
    whole.drop (here + 1) = rest :=
  drop_add_of_eq (show whole.drop here = [c] ++ rest from h)

/-- Where no placeholder is at the front, there is none at the position. -/
theorem start_ne_of_at?_eq_none {spot : Spot} (h : whole.drop here = cs) (hnone : at? cs = none)
    (hspot : spot.In whole) : spot.start ≠ here := by
  rintro rfl
  obtain ⟨hword, rest, hrest⟩ := hspot
  rw [← h, at?_eq_some_iff.mpr ⟨hword, hrest⟩] at hnone
  cases hnone

/-- **A search from the left misses nothing**, and finds nothing else. -/
theorem mem_spotsFrom (h : whole.drop here = cs) {spot : Spot} :
    spot ∈ spotsFrom here cs ↔ here ≤ spot.start ∧ spot.In whole := by
  fun_induction spotsFrom here cs with
  | case1 here cs word rest hat ih =>
    obtain ⟨hword, rfl⟩ := at?_eq_some_iff.mp hat
    have hfirst : Spot.In ⟨here, word⟩ whole := ⟨hword, rest, h⟩
    rw [List.mem_cons, ih (drop_add_of_eq h)]
    constructor
    · rintro (rfl | ⟨hstart, hspot⟩)
      · exact ⟨le_rfl, hfirst⟩
      · exact ⟨by omega, hspot⟩
    · rintro ⟨hstart, hspot⟩
      rcases hstart.eq_or_lt with heq | hlt
      · exact .inl (hspot.eq_of_start_eq hfirst heq.symm)
      · exact .inr ⟨hfirst.stop_le_start hspot hlt, hspot⟩
  | case2 here hat =>
    refine iff_of_false List.not_mem_nil ?_
    rintro ⟨hstart, -, rest, hrest⟩
    have hlength : whole.length ≤ here := List.drop_eq_nil_iff.mp h
    rw [List.drop_eq_nil_of_le (hlength.trans hstart)] at hrest
    cases hrest
  | case3 here c rest hat ih =>
    rw [ih (drop_succ_of_eq h)]
    refine and_congr_left fun hspot => ⟨fun hstart => by omega, fun hstart => ?_⟩
    have hne := start_ne_of_at?_eq_none h hat hspot
    omega

theorem pairwise_spotsFrom (h : whole.drop here = cs) :
    (spotsFrom here cs).Pairwise fun spot next => spot.stop ≤ next.start := by
  fun_induction spotsFrom here cs with
  | case1 here cs word rest hat ih =>
    obtain ⟨-, rfl⟩ := at?_eq_some_iff.mp hat
    have hrest := drop_add_of_eq h
    exact List.pairwise_cons.mpr ⟨fun next hnext => ((mem_spotsFrom hrest).mp hnext).1, ih hrest⟩
  | case2 here hat => exact .nil
  | case3 here c rest hat ih => exact ih (drop_succ_of_eq h)

/-- The leftmost placeholders that do not overlap are all there are. -/
theorem Found.mem_iff (h : Found cs spots) {spot : Spot} : spot ∈ spots ↔ spot.In cs := by
  refine ⟨h.stand spot, fun hspot => ?_⟩
  rcases h.leftmost spot hspot with hmem | ⟨first, hfirst, hstart, hstop⟩
  · exact hmem
  · exact absurd hstop (not_lt.mpr ((h.stand first hfirst).stop_le_start hspot hstart))

theorem Spot.start_lt_stop (spot : Spot) : spot.start < spot.stop :=
  Nat.lt_add_of_pos_right (Nat.succ_pos _)

/-- **There is one outcome of a search from the left.** -/
theorem found_iff : Found cs spots ↔ spots = spotsFrom 0 cs := by
  have hmem {spot : Spot} : spot ∈ spotsFrom 0 cs ↔ spot.In cs := by
    rw [mem_spotsFrom (List.drop_zero (l := cs)), and_iff_right (Nat.zero_le _)]
  have hapart := pairwise_spotsFrom (List.drop_zero (l := cs))
  constructor
  · intro h
    have horder {xs : List Spot} (hxs : xs.Pairwise fun spot next => spot.stop ≤ next.start) :
        xs.Pairwise fun spot next => spot.start < next.start :=
      hxs.imp fun hstop => (Spot.start_lt_stop _).trans_le hstop
    have : Std.Antisymm fun spot next : Spot => spot.start < next.start :=
      ⟨fun _ _ hlt hgt => absurd hlt hgt.asymm⟩
    have : Std.Irrefl fun spot next : Spot => spot.start < next.start := ⟨fun _ => lt_irrefl _⟩
    exact (horder h.apart).eq_of_mem_iff (horder hapart) fun spot => h.mem_iff.trans hmem.symm
  · rintro rfl
    exact ⟨fun _ => hmem.mp, hapart, fun _ hother => .inl (hmem.mpr hother)⟩

end Search

/-! ### Texts with values in them -/

/-- What stands in a text from a position on, with values in the places of the placeholders at some spots. -/
def fill (values : String → String) (cs : List Char) : (here : Nat) → List Spot → List Char
  | here, [] => cs.drop here
  | here, spot :: rest =>
    (cs.drop here).take (spot.start - here) ++ ((values spot.name).toList ++ fill values cs spot.stop rest)

/-- The fault of a spot whose variable is not set. -/
def Spot.unset? (valueOf? : String → Option String) (spot : Spot) : Option Unset :=
  match valueOf? spot.name with
  | none => some ⟨spot.name⟩
  | some _ => none

/-- What becomes of a text with placeholders at some spots: there is an outcome exactly if all variables are set, then
their values are filled in, and otherwise the first variable that is not set is named. -/
structure Expands (valueOf? : String → Option String) (text : String) (spots : List Spot) : Prop where
  succeeds : (∃ expanded, expand valueOf? text = .ok expanded) ↔
    ∀ spot ∈ spots, ∃ value, valueOf? spot.name = some value
  filled : ∀ values : String → String, (∀ spot ∈ spots, valueOf? spot.name = some (values spot.name)) →
    expand valueOf? text = .ok (String.ofList (fill values text.toList 0 spots))
  fault : faultOf? (expand valueOf? text) = spots.findSome? (Spot.unset? valueOf?)

section Fill

variable {cs whole : List Char} {here : Nat} {spots : List Spot} {valueOf? : String → Option String}

/-- A character that no spot is at stays. -/
theorem fill_eq_cons (values : String → String) {c : Char} {rest : List Char} (h : whole.drop here = c :: rest)
    (hspots : ∀ spot ∈ spots, here + 1 ≤ spot.start) :
    fill values whole here spots = c :: fill values whole (here + 1) spots := by
  have hrest := drop_succ_of_eq h
  cases spots with
  | nil => exact h.trans (congrArg _ hrest.symm)
  | cons spot more =>
    obtain ⟨n, hn⟩ := Nat.exists_eq_add_of_le (hspots spot List.mem_cons_self)
    have hwidth : spot.start - here = n + 1 := by omega
    have hless : spot.start - (here + 1) = n := by omega
    rw [fill, fill, hwidth, hless, h, hrest]
    rfl

/-- **Values are filled in** at the spots where placeholders are found. -/
theorem expandChars_filled {values : String → String} (h : whole.drop here = cs)
    (hset : ∀ spot ∈ spotsFrom here cs, valueOf? spot.name = some (values spot.name)) :
    expandChars valueOf? cs = .ok (fill values whole here (spotsFrom here cs)) := by
  fun_induction spotsFrom here cs with
  | case1 here cs word rest hat ih =>
    obtain ⟨-, rfl⟩ := at?_eq_some_iff.mp hat
    obtain ⟨hvalue, hrest⟩ := List.forall_mem_cons.mp hset
    have hvalue : valueOf? (String.ofList word) = some (values (String.ofList word)) := hvalue
    rw [expandChars_of_placeholder hat, hvalue, ih (drop_add_of_eq h) hrest, fill, Nat.sub_self]
    rfl
  | case2 here hat => rw [expandChars_nil, fill, h]
  | case3 here c rest hat ih =>
    have hrest := drop_succ_of_eq h
    rw [expandChars_of_character hat, ih hrest hset,
      fill_eq_cons values h fun spot hspot => ((mem_spotsFrom hrest).mp hspot).1]
    rfl

/-- **The first variable that is not set** is the fault. -/
theorem faultOf?_expandChars (here : Nat) (cs : List Char) :
    faultOf? (expandChars valueOf? cs) = (spotsFrom here cs).findSome? (Spot.unset? valueOf?) := by
  fun_induction spotsFrom here cs with
  | case1 here cs word rest hat ih =>
    rw [expandChars_of_placeholder hat, List.findSome?_cons]
    unfold Spot.unset? Spot.name
    dsimp only
    cases valueOf? (String.ofList word) with
    | none => rfl
    | some value => exact (faultOf?_map _ _).trans ih
  | case2 here hat =>
    rw [expandChars_nil]
    rfl
  | case3 here c rest hat ih =>
    rw [expandChars_of_character hat, faultOf?_map]
    exact ih

theorem Spot.unset?_eq_none_iff {spot : Spot} :
    spot.unset? valueOf? = none ↔ ∃ value, valueOf? spot.name = some value := by
  unfold unset?
  cases valueOf? spot.name with
  | none => exact iff_of_false nofun nofun
  | some value => exact iff_of_true rfl ⟨value, rfl⟩

theorem Spot.unset_of_unset? {spot : Spot} {unset : Unset} (h : spot.unset? valueOf? = some unset) :
    valueOf? unset.variableName = none := by
  unfold unset? at h
  cases hvalue : valueOf? spot.name with
  | none =>
    rw [hvalue] at h
    cases h
    exact hvalue
  | some value =>
    rw [hvalue] at h
    cases h

/-- **A text is expanded** at the placeholders that a search from the left finds. -/
theorem expand_expands {text : String} (h : Found text.toList spots) : Expands valueOf? text spots := by
  obtain rfl := found_iff.mp h
  have hfault : faultOf? (expand valueOf? text) = (spotsFrom 0 text.toList).findSome? (Spot.unset? valueOf?) :=
    (faultOf?_map _ _).trans (faultOf?_expandChars 0 text.toList)
  refine ⟨?_, fun values hset => ?_, hfault⟩
  · rw [← faultOf?_eq_none_iff, hfault, List.findSome?_eq_none_iff]
    simp only [Spot.unset?_eq_none_iff]
  · unfold expand
    rw [expandChars_filled List.drop_zero hset]
    rfl

end Fill

end Placeholder

end ToolWeave
