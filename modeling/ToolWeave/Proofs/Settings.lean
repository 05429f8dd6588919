import ToolWeave.Proofs.Layers
import ToolWeave.Proofs.NumberOrder

/-!
# Settings that are loaded

What holds of every configuration that is loaded, and when none is.  Each entry of a section is kept if it can be
used, or reported if it cannot, or has no name (`Config.Accounted`); the numbers of a configuration are positive, and they are finite unless the
files say otherwise (`Config.Settled`).  Loading comes to nothing only if a file crashes, or if an integer that is
asked for as a number of seconds has no nearest double (`Config.load_settles`).

## Main definitions

* `Double.IsPositive`: a finite number greater than zero.
* `Document.Immense`, `Document.Boundless`: a document is an integer without a nearest double, or no finite number.
* `CommandEntry.Usable`, `ServerEntry.Usable`: what an entry has to say; `CommandEntry.Fits`, `ServerEntry.Fits`: what
  it becomes.
* `Config.Accounted`: what has become of each entry of a section.
* `Config.Settled`: what holds of a configuration that is loaded.
* `Config.Overstated`: a number of seconds that is asked for is too large.

## Design notes

**Two kinds of entries.**  Commands and servers are read by different rules.  What the walk through a section needs
of either is the same and said once (`Config.Builder`).
-/

namespace ToolWeave

/-! ### Numbers of seconds -/

namespace Double

/-- A number is finite and greater than zero. -/
def IsPositive (d : Double) : Prop := d.isFinite = true ∧ 0 < d.exact

/-- Finite magnitudes but zero are positive. -/
theorem isPositive_finite {code : Fin codes} (h : code.val ≠ 0) : (finite false code).IsPositive := by
  refine ⟨rfl, ?_⟩
  show 0 < exactMagnitude code
  rw [exactMagnitude_eq]
  exact mul_pos (Nat.cast_pos.mpr (magnitude_pos (Nat.pos_of_ne_zero h))) least_pos

/-- The code of one. -/
def oneCode : Fin codes := ⟨1023 * block, by decide⟩

theorem exactMagnitude_oneCode : exactMagnitude oneCode = 1 := by
  have hblocks : (oneCode : Nat) / block = 1023 := by decide
  have hfraction : (oneCode : Nat) % block = 0 := by decide
  unfold exactMagnitude
  rw [hblocks, hfraction, if_neg (by decide)]
  norm_num

/-- What is nearest to a number that is not less than one is not zero. -/
theorem ne_zero_of_nearest {x : ℚ} {negative : Bool} {code : Fin codes} (hx : 1 ≤ x)
    (h : Nearest false x (finite negative code)) : code.val ≠ 0 := by
  intro hzero
  have hmagnitude : exactMagnitude code = 0 := by
    rw [exactMagnitude_eq, hzero]
    exact zero_mul least
  have hother : oneCode ≠ code := fun heq => absurd (congrArg Fin.val heq) (by rw [hzero]; decide)
  have hnear := h.2.2 oneCode hother
  rw [hmagnitude, exactMagnitude_oneCode, abs_of_nonpos (by linarith), abs_of_nonpos (by linarith)] at hnear
  rcases hnear with hnear | ⟨hnear, -⟩ <;> linarith

/-- Magnitudes that are too large are far away. -/
theorem lt_tooLarge (x : ℚ) (hx : x ≤ 2 ^ 53) : x < tooLarge := by
  have hpower : (1 : ℚ) ≤ 2 ^ 970 := one_le_pow₀ one_le_two
  unfold tooLarge
  rw [show 1024 = 970 + 54 from rfl, pow_add]
  generalize (2 : ℚ) ^ 970 = power at hpower ⊢
  linarith

/-- An integer greater than zero is rounded to a positive number, or too large. -/
theorem ofInt_of_pos {i : Int} (h : 0 < i) :
    (tooLarge ≤ i ∧ ofInt i = infinite false) ∨ (¬ tooLarge ≤ i ∧ (ofInt i).IsPositive) := by
  have hcast : ((i.natAbs : ℚ) / (1 : Nat)) = i := by
    rw [Nat.cast_one, div_one, Nat.cast_natAbs, abs_of_pos h]
  have hnearest := ofRatio_nearest false i.natAbs Nat.one_pos
  rw [hcast] at hnearest
  have hofInt : ofInt i = ofRatio false i.natAbs 1 := by
    unfold ofInt
    rw [decide_eq_false (not_lt.mpr h.le)]
  rw [hofInt]
  cases hd : ofRatio false i.natAbs 1 with
  | finite negative code =>
    rw [hd] at hnearest
    obtain rfl : negative = false := hnearest.1
    have hone : (1 : ℚ) ≤ i := by exact_mod_cast h
    exact .inr ⟨not_le.mpr hnearest.2.1, isPositive_finite (ne_zero_of_nearest hone hnearest)⟩
  | infinite negative =>
    rw [hd] at hnearest
    obtain rfl : negative = false := hnearest.1
    exact .inl ⟨hnearest.2, rfl⟩
  | nan =>
    rw [hd] at hnearest
    exact hnearest.elim

end Double

namespace Document

/-- A document is an integer that is too large for a double. -/
def Immense (d : Option Document) : Prop :=
  ∃ i : Int, d = some (.scalar (.number (.int i))) ∧ Double.tooLarge ≤ i

/-- A document is a number that is not finite. -/
def Boundless (d : Option Document) : Prop :=
  ∃ x : Double, d = some (.scalar (.number (.double x))) ∧ x.isFinite = false

theorem isPositive_of_finite {n : Number} (hfinite : n.isFinite = true) (h : isPositive n = true) : 0 < n.exact := by
  have horder : n.order (.int 0) = .gt := by
    cases n with
    | int i => exact eq_of_beq h
    | double x =>
      cases x with
      | nan => cases hfinite
      | finite negative code => exact eq_of_beq h
      | infinite negative => cases hfinite
  rw [Number.order_eq_compare hfinite rfl, compare_gt_iff_gt] at horder
  simpa [Number.exact] using horder

theorem bounded_of_isPositive {cause : Overflow} {x : Double} (h : x.IsPositive) : Number.bounded cause x = .ok x := by
  cases x with
  | infinite negative => cases h.1
  | finite negative code => rfl
  | nan => rfl

/-- An integer greater than zero has a positive double, or is too large. -/
theorem convert_of_pos {i : Int} (h : 0 < i) :
    (Double.tooLarge ≤ i ∧ Number.convert i = .error .conversion) ∨
      (¬ Double.tooLarge ≤ i ∧ ∃ x, Number.convert i = .ok x ∧ x.IsPositive) := by
  unfold Number.convert
  rcases Double.ofInt_of_pos h with ⟨hlarge, hinfinite⟩ | ⟨hsmall, hpositive⟩
  · rw [hinfinite]
    exact .inl ⟨hlarge, rfl⟩
  · exact .inr ⟨hsmall, _, bounded_of_isPositive hpositive, hpositive⟩

/-- **A number of seconds greater than zero** becomes a positive double, unless it is an integer that is too large,
or no finite number, which stays what it is. -/
theorem seconds_cases {n : Number} (h : isPositive n = true) :
    (Immense (some (.scalar (.number n))) ∧ n.toDouble = .error .conversion) ∨
    (¬ Immense (some (.scalar (.number n))) ∧ ∃ x, n.toDouble = .ok x ∧
      (Boundless (some (.scalar (.number n))) ∧ x.isFinite = false ∨
        ¬ Boundless (some (.scalar (.number n))) ∧ x.IsPositive)) := by
  cases n with
  | int i =>
    have hpos : 0 < i := by
      have hexact : (0 : ℚ) < i := isPositive_of_finite (n := .int i) rfl h
      exact Int.cast_pos.mp hexact
    rcases convert_of_pos hpos with ⟨hlarge, hconvert⟩ | ⟨hsmall, x, hconvert, hpositive⟩
    · exact .inl ⟨⟨i, rfl, hlarge⟩, hconvert⟩
    · refine .inr ⟨?_, x, hconvert, .inr ⟨?_, hpositive⟩⟩
      · rintro ⟨j, hj, hlarge⟩
        cases hj
        exact hsmall hlarge
      · rintro ⟨x, hx, -⟩
        cases hx
  | double x =>
    refine .inr ⟨?_, x, rfl, ?_⟩
    · rintro ⟨i, hi, -⟩
      cases hi
    · cases hfinite : x.isFinite with
      | false => exact .inl ⟨⟨x, rfl, hfinite⟩, rfl⟩
      | true =>
        refine .inr ⟨?_, hfinite, isPositive_of_finite (n := .double x) hfinite h⟩
        rintro ⟨y, hy, hinfinite⟩
        cases hy
        rw [hfinite] at hinfinite
        cases hinfinite

/-- An integer that is too large is greater than zero. -/
theorem isPositive_of_immense {n : Number} (h : Immense (some (.scalar (.number n)))) : isPositive n = true := by
  obtain ⟨i, hi, hlarge⟩ := h
  cases hi
  have hexact : (Number.int 0).exact < (Number.int i).exact := by
    show ((0 : Int) : ℚ) < i
    rw [Int.cast_zero]
    exact Double.tooLarge_pos.trans_le hlarge
  have horder : (Number.int i).order (.int 0) = .gt := by
    rw [Number.order_eq_compare rfl rfl, compare_gt_iff_gt]
    exact hexact
  show ((Number.int i).order (.int 0) == .gt) = true
  rw [horder]
  rfl

/-! ### Time limits of entries -/

/-- A time limit is what a document makes of it: positive, or not finite because the document says so. -/
def Timely (said : Option Document) (timeout : Option Double) : Prop :=
  ∀ t, timeout = some t → Boundless said ∧ t.isFinite = false ∨ ¬ Boundless said ∧ t.IsPositive

/-- What a document says gives a time limit, unless it is an integer that is too large. -/
def GivesSeconds (said : Option Document) (outcome : Except EntryFault (Option Double)) : Prop :=
  Immense said ∧ outcome = .error (.overflow .conversion) ∨
    ¬ Immense said ∧ ∃ timeout, outcome = .ok timeout ∧ Timely said timeout

theorem givesSeconds_none {said : Option Document} (h : ¬ Immense said) :
    GivesSeconds said ((none : Option Number).mapM secondsOf) :=
  .inr ⟨h, none, rfl, nofun⟩

theorem givesSeconds_number {n : Number} (h : isPositive n = true) :
    GivesSeconds (some (.scalar (.number n))) ((some n).mapM secondsOf) := by
  have hmapM : (some n).mapM secondsOf = (n.toDouble.mapError EntryFault.overflow).map some := rfl
  rw [hmapM]
  rcases seconds_cases h with ⟨himmense, hdouble⟩ | ⟨hsmall, x, hdouble, hx⟩
  · exact .inl ⟨himmense, by rw [hdouble]; rfl⟩
  · refine .inr ⟨hsmall, some x, by rw [hdouble]; rfl, fun t ht => ?_⟩
    cases ht
    exact hx

theorem isPositive_usual : isPositive CommandEntry.usualTimeout = true := by decide +kernel

theorem givesSeconds_usual : GivesSeconds none ((some CommandEntry.usualTimeout).mapM secondsOf) := by
  rcases givesSeconds_number isPositive_usual with ⟨⟨i, hi, hlarge⟩, -⟩ |
    ⟨-, timeout, houtcome, htimely⟩
  · cases hi
    exact absurd hlarge (not_le.mpr (Double.lt_tooLarge 120 (by norm_num)))
  · refine .inr ⟨nofun, timeout, houtcome, fun t ht => ?_⟩
    rcases htimely t ht with ⟨⟨x, hx, -⟩, -⟩ | ⟨-, hpositive⟩
    · cases hx
    · exact .inr ⟨nofun, hpositive⟩

theorem textless_of_variablesOf {env : Option Document} {fault : EntryFault} (h : variablesOf env = .error fault) :
    ∃ cause, fault = .textless cause := by
  unfold variablesOf at h
  split at h
  · split at h <;> cases h
    exact ⟨_, rfl⟩
  · cases h

/-- What building an entry comes to: an entry that fits if it is usable, unless its time limit is too large. -/
def Builds {α : Type} (usable immense : Prop) (Fits : α → Prop) : Except EntryFault (Option α) → Prop
  | .ok (some item) => usable ∧ ¬ immense ∧ Fits item
  | .ok none => ¬ usable
  | .error (.textless _) => ¬ usable
  | .error (.overflow _) => usable ∧ immense

/-- An entry is made of its variables and its time limit, and it crashes only on an integer that is too large. -/
theorem builds_of_seconds {α : Type} {usable : Prop} {Fits : α → Prop} {said : Option Document}
    {outcome : Except EntryFault (Option Double)} (h : GivesSeconds said outcome) (env : Option Document)
    (make : Entries String → Option Double → α) (husable : usable ↔ ∃ vars, variablesOf env = .ok vars)
    (hfits : ∀ vars timeout, Timely said timeout → Fits (make vars timeout)) :
    Builds usable (Immense said) Fits (do
      let vars ← variablesOf env
      return some (make vars (← outcome))) := by
  cases hvars : variablesOf env with
  | error fault =>
    obtain ⟨cause, rfl⟩ := textless_of_variablesOf hvars
    intro h
    obtain ⟨vars, htexts⟩ := husable.mp h
    rw [hvars] at htexts
    cases htexts
  | ok vars =>
    have hmade : usable := husable.mpr ⟨vars, hvars⟩
    rcases h with ⟨himmense, rfl⟩ | ⟨hsmall, timeout, rfl, htimely⟩
    · exact ⟨hmade, himmense⟩
    · exact ⟨hmade, hsmall, hfits vars timeout htimely⟩

/-! ### Words -/

theorem words?_ne_nil {d : Option Document} {words : List String} (h : words? d = some words) : words ≠ [] := by
  unfold words? at h
  split at h
  next first rest =>
    rw [List.mapM_cons] at h
    obtain ⟨word, -, h⟩ := Option.bind_eq_some_iff.mp h
    obtain ⟨words, -, h⟩ := Option.bind_eq_some_iff.mp h
    cases h
    exact List.cons_ne_nil _ _
  · cases h

/-! ### Names as texts -/

/-- A text is the same key as nothing else. -/
theorem key_eq_string_iff {key : Scalar} {name : String} : key.key = (Scalar.string name).key ↔ key = .string name := by
  refine ⟨fun h => ?_, fun h => h ▸ rfl⟩
  cases key with
  | moment m => exact (Scalar.Key.ofMoment_eq_plain h).symm
  | null => cases h
  | bool b => cases h
  | number n => cases h
  | date day => cases h
  | string text => exact Scalar.Key.plain.inj h

theorem lookup_eq_get? (name : String) (entries : Mapping) : lookup name entries = get? (.string name) entries := by
  unfold lookup
  induction entries with
  | nil => rfl
  | cons entry rest ih =>
    obtain ⟨key, content⟩ := entry
    rw [Entries.get?_cons, get?_cons, ih]
    simp only [key_eq_string_iff]

end Document

/-! ### Entries -/

open Document

/-- An entry has its name, the command that is said, and a time limit that makes sense. -/
structure CommandEntry.Fits (name : String) (fields : Mapping) (e : CommandEntry) : Prop where
  named : e.name = name
  said : words? (lookup "command" fields) = some e.words
  commanded : e.words ≠ []
  timely : Timely (lookup "timeout" fields) e.timeout

/-- An entry has its name, the command that is said, and a time limit that makes sense. -/
structure ServerEntry.Fits (name : String) (fields : Mapping) (e : ServerEntry) : Prop where
  named : e.name = name
  said : words? (lookup "command" fields) = some e.words
  commanded : e.words ≠ []
  timely : Timely (lookup "timeout" fields) e.timeout

/-- An entry can be used: it has a command, its directory and time limit make sense, and its variables have texts. -/
structure CommandEntry.Usable (fields : Mapping) : Prop where
  commanded : words? (lookup "command" fields) ≠ none
  placed : textSetting (lookup "cwd" fields) ≠ .senseless
  limited : lookup "timeout" fields = none ∨ lookup "timeout" fields = some (.scalar .null) ∨
    ∃ n, lookup "timeout" fields = some (.scalar (.number n)) ∧ isPositive n = true
  texts : ∃ vars, variablesOf (lookup "env" fields) = .ok vars

/-- An entry can be used: it has a command, and its variables have texts. -/
structure ServerEntry.Usable (fields : Mapping) : Prop where
  commanded : words? (lookup "command" fields) ≠ none
  texts : ∃ vars, variablesOf (lookup "env" fields) = .ok vars

namespace Config

/-- What the entries of a section are built by: which can be used, and what holds of all that is built. -/
structure Builder {α : Type} (build : String → Document → Except EntryFault (Option α)) (Usable : Mapping → Prop)
    (Fits : String → Mapping → α → Prop) : Prop where
  builds : ∀ name fields, Builds (Usable fields) (Immense (lookup "timeout" fields)) (Fits name fields)
    (build name (.mapping fields))
  leaves_out : ∀ name d, d.isMapping = false → build name d = .ok none

/-- Commands are built by their document. -/
theorem builder_commands : Builder CommandEntry.ofDocument? CommandEntry.Usable CommandEntry.Fits where
  leaves_out name d hd := by
    cases d with
    | mapping fields => cases hd
    | _ => rfl
  builds name fields := by
    unfold CommandEntry.ofDocument?
    dsimp only
    split
    · next hwords => exact fun h => h.commanded hwords
    · next hplace _ => exact fun h => h.placed hplace
    next _ words hwords hplace =>
    have hsaid : words? (lookup "command" fields) ≠ none := by
      rw [hwords]
      exact Option.some_ne_none words
    have hentry (directory : Option String) (description : String) {outcome : Except EntryFault (Option Double)}
        (hlimit : lookup "timeout" fields = none ∨ lookup "timeout" fields = some (.scalar .null) ∨
          ∃ n, lookup "timeout" fields = some (.scalar (.number n)) ∧ isPositive n = true)
        (h : GivesSeconds (lookup "timeout" fields) outcome) :
        Builds (CommandEntry.Usable fields) (Immense (lookup "timeout" fields)) (CommandEntry.Fits name fields) (do
          let vars ← variablesOf (lookup "env" fields)
          return some ⟨name, words, directory, vars, ← outcome, description⟩) :=
      builds_of_seconds h (lookup "env" fields)
        (fun vars timeout => CommandEntry.mk name words directory vars timeout description)
        ⟨fun h => h.texts, fun htexts => ⟨hsaid, hplace, hlimit, htexts⟩⟩
        fun vars timeout htimely => ⟨rfl, hwords, words?_ne_nil hwords, htimely⟩
    have hlimited (h : CommandEntry.Usable fields) := h.limited
    cases htimeout : lookup "timeout" fields with
    | none =>
      rw [htimeout] at hentry
      rw [Option.getD_none]
      dsimp only
      rw [if_pos isPositive_usual]
      exact hentry _ _ (.inl rfl) givesSeconds_usual
    | some d =>
      rw [htimeout] at hentry hlimited
      cases d with
      | list items => exact fun h => by simpa using hlimited h
      | mapping entries => exact fun h => by simpa using hlimited h
      | scalar value =>
        cases value with
        | null => exact hentry _ _ (.inr (.inl rfl)) (givesSeconds_none nofun)
        | number n =>
          rw [Option.getD_some]
          dsimp only
          split
          · next hpositive => exact hentry _ _ (.inr (.inr ⟨n, rfl, hpositive⟩)) (givesSeconds_number hpositive)
          · next hpositive => exact fun h => hpositive (by simpa using hlimited h)
        | bool b => exact fun h => by simpa using hlimited h
        | string text => exact fun h => by simpa using hlimited h
        | date day => exact fun h => by simpa using hlimited h
        | moment time => exact fun h => by simpa using hlimited h

/-- Servers are built by their document. -/
theorem builder_servers : Builder ServerEntry.ofDocument? ServerEntry.Usable ServerEntry.Fits where
  leaves_out name d hd := by
    cases d with
    | mapping fields => cases hd
    | _ => rfl
  builds name fields := by
    unfold ServerEntry.ofDocument?
    dsimp only
    split
    · next hwords => exact fun h => h.commanded hwords
    next _ words hwords =>
    have hsaid : words? (lookup "command" fields) ≠ none := by
      rw [hwords]
      exact Option.some_ne_none words
    have hentry (directory heading : Option String) {outcome : Except EntryFault (Option Double)}
        (h : GivesSeconds (lookup "timeout" fields) outcome) :
        Builds (ServerEntry.Usable fields) (Immense (lookup "timeout" fields)) (ServerEntry.Fits name fields) (do
          let vars ← variablesOf (lookup "env" fields)
          return some ⟨name, words, directory, vars, ← outcome, heading⟩) :=
      builds_of_seconds h (lookup "env" fields)
        (fun vars timeout => ServerEntry.mk name words directory vars timeout heading)
        ⟨fun h => h.texts, fun htexts => ⟨hsaid, htexts⟩⟩
        fun vars timeout htimely => ⟨rfl, hwords, words?_ne_nil hwords, htimely⟩
    split
    · next n htimeout =>
      rw [htimeout] at hentry ⊢
      split
      · next hpositive => exact hentry _ _ (givesSeconds_number hpositive)
      · next hpositive => exact hentry _ _ (givesSeconds_none fun h => hpositive (isPositive_of_immense h))
    · next htimeout => exact hentry _ _ (givesSeconds_none fun ⟨i, hi, _⟩ => htimeout _ hi)

/-! ### Sections -/

section Section

variable {α : Type} {build : String → Document → Except EntryFault (Option α)}
  {Usable : Mapping → Prop} {Fits : String → Mapping → α → Prop}

/-- A name of an entry that counts: a text that is not empty. -/
def IsName (key : Scalar) (name : String) : Prop := key = .string name ∧ name ≠ ""

/-- An entry of a section is to be used: with its placeholders replaced it is a mapping that can be. -/
def Offers (host : Host) (Usable : Mapping → Prop) (content : Document) (fields : Mapping) : Prop :=
  Placeholder.expandEntry host.valueOf? content = .ok (.mapping fields) ∧ Usable fields

/-- What has become of the entries of a section, one after the other: each is kept if it can be used, or reported if
it cannot, or has no name. -/
inductive Accounted (host : Host) (part : String) (Usable : Mapping → Prop) (Fits : String → Mapping → α → Prop) :
    Mapping → Entries α → List String → Prop where
  | done : Accounted host part Usable Fits [] [] []
  | kept {key : Scalar} {name : String} {content : Document} {fields : Mapping} {item : α} {rest : Mapping}
      {built : Entries α} {told : List String} (hname : IsName key name) (hoffers : Offers host Usable content fields)
      (hfits : Fits name fields item) (hrest : Accounted host part Usable Fits rest built told) :
      Accounted host part Usable Fits ((key, content) :: rest) ((name, item) :: built) told
  | reported {key : Scalar} {name : String} {content : Document} {rest : Mapping} {built : Entries α}
      {told : List String} (hname : IsName key name) (hrefused : ∀ fields, ¬ Offers host Usable content fields)
      (reason : String) (hrest : Accounted host part Usable Fits rest built told) :
      Accounted host part Usable Fits ((key, content) :: rest) built
        (("skipping " ++ part ++ "." ++ name ++ ": " ++ reason) :: told)
  | nameless {key : Scalar} {content : Document} {rest : Mapping} {built : Entries α} {told : List String}
      (hname : ∀ name, ¬ IsName key name) (hrest : Accounted host part Usable Fits rest built told) :
      Accounted host part Usable Fits ((key, content) :: rest) built told

/-- An entry with a name can be used, only that its time limit is an integer that is too large. -/
def Overflowing (host : Host) (Usable : Mapping → Prop) (entries : Mapping) : Prop :=
  ∃ entry ∈ entries, (∃ name, IsName entry.1 name) ∧ ∃ fields, Offers host Usable entry.2 fields ∧
    Immense (lookup "timeout" fields)

theorem overflowing_cons {host : Host} {key : Scalar} {content : Document} {rest : Mapping} :
    Overflowing host Usable ((key, content) :: rest) ↔
      ((∃ name, IsName key name) ∧ ∃ fields, Offers host Usable content fields ∧ Immense (lookup "timeout" fields)) ∨
      Overflowing host Usable rest := by
  unfold Overflowing
  rw [List.exists_mem_cons_iff]

/-- An entry offers one mapping at most. -/
theorem Offers.unique {host : Host} {content : Document} {fields others : Mapping}
    (h : Offers host Usable content fields) (hothers : Offers host Usable content others) : others = fields := by
  have hsame := h.1.symm.trans hothers.1
  cases hsame
  rfl

/-- What becomes of an entry with a name. -/
theorem entryOf_cases (host : Host) (hbuild : Builder build Usable Fits) (name : String) (content : Document) :
    match entryOf host build name content with
    | .built item => ∃ fields, Offers host Usable content fields ∧ ¬ Immense (lookup "timeout" fields) ∧
        Fits name fields item
    | .refused _ => ∀ fields, ¬ Offers host Usable content fields
    | .crashed _ => ∃ fields, Offers host Usable content fields ∧ Immense (lookup "timeout" fields) := by
  unfold entryOf Offers
  cases Placeholder.expandEntry host.valueOf? content with
  | error unset => exact fun _ ⟨hfields, _⟩ => nomatch hfields
  | ok d =>
    dsimp only
    by_cases hd : d.isMapping = true
    · obtain ⟨fields, rfl⟩ := isMapping_iff.mp hd
      have hbuilds := hbuild.builds name fields
      have hrefused (h : ¬ Usable fields) (others : Mapping) :
          ¬ ((.ok (.mapping fields) : Except Placeholder.Unset Document) = .ok (.mapping others) ∧ Usable others) := by
        rintro ⟨hsame, hothers⟩
        cases hsame
        exact h hothers
      cases hentry : build name (.mapping fields) with
      | ok result =>
        rw [hentry] at hbuilds
        cases result with
        | none => exact hrefused hbuilds
        | some item => exact ⟨fields, ⟨rfl, hbuilds.1⟩, hbuilds.2⟩
      | error fault =>
        rw [hentry] at hbuilds
        cases fault with
        | textless cause => exact hrefused hbuilds
        | overflow cause => exact ⟨fields, ⟨rfl, hbuilds.1⟩, hbuilds.2⟩
    · rw [hbuild.leaves_out name d (Bool.eq_false_iff.mpr hd)]
      rintro fields ⟨hfields, -⟩
      cases hfields
      exact hd rfl

section Entries

variable (host : Host) (part : String) {key : Scalar} {name : String} {content : Document} {rest : Mapping}
  (before : Entries α)

theorem entriesOf_of_nameless (h : ∀ name, ¬ IsName key name) :
    entriesOf host part build ((key, content) :: rest) before = entriesOf host part build rest before := by
  cases key with
  | string name =>
    by_cases hempty : name = ""
    · exact if_pos hempty
    · exact absurd ⟨rfl, hempty⟩ (h name)
  | _ => rfl

theorem entriesOf_of_name (h : IsName key name) :
    entriesOf host part build ((key, content) :: rest) before =
      match entryOf host build name content with
      | .built item => entriesOf host part build rest (Entries.put name item before)
      | .refused reason => do
        Loading.warn ("skipping " ++ part ++ "." ++ name ++ ": " ++ reason)
        entriesOf host part build rest before
      | .crashed cause => throw cause := by
  obtain ⟨rfl, hne⟩ := h
  exact if_neg hne

end Entries

/-- **The entries of a section** are each kept if they can be used, or reported if they cannot, or have no name, unless
the time limit of one is too large an integer. -/
theorem gives_entriesOf (host : Host) (part : String) (hbuild : Builder build Usable Fits) {entries : Mapping}
    (before : Entries α) (hkeys : ((names entries).map Scalar.key).Nodup)
    (hnew : ∀ name, .string name ∈ names entries → name ∉ Entries.names before) :
    ∃ crash built told, (entriesOf host part build entries before).Gives crash (before ++ built) told ∧
      (crash ≠ none ↔ Overflowing host Usable entries) ∧
      (crash = none → Accounted host part Usable Fits entries built told) := by
  induction entries generalizing before with
  | nil =>
    refine ⟨none, [], [], ?_, iff_of_false (fun h => h rfl) nofun, fun _ => .done⟩
    rw [List.append_nil]
    exact Loading.gives_pure before
  | cons entry rest ih =>
    obtain ⟨key, content⟩ := entry
    obtain ⟨hkey, hrest⟩ := List.nodup_cons.mp hkeys
    have hold (name : String) (hname : .string name ∈ names rest) : name ∉ Entries.names before :=
      hnew name (List.mem_cons_of_mem _ hname)
    rw [overflowing_cons]
    by_cases hnamed : ∃ name, IsName key name
    · obtain ⟨name, hname⟩ := hnamed
      have hentry := entryOf_cases host hbuild name content
      rw [entriesOf_of_name host part before hname]
      cases hverdict : entryOf host build name content with
      | built item =>
        rw [hverdict] at hentry
        obtain ⟨fields, hoffers, hsmall, hfits⟩ := hentry
        obtain ⟨rfl, -⟩ := id hname
        have hput : Entries.put name item before = before ++ [(name, item)] :=
          Entries.put_of_not_mem (hnew name List.mem_cons_self)
        have hother (other : String) (hmem : .string other ∈ names rest) :
            other ∉ Entries.names (before ++ [(name, item)]) := by
          unfold Entries.names
          rw [List.map_append, List.mem_append, not_or]
          refine ⟨hold other hmem, fun hsame => hkey ?_⟩
          obtain rfl : other = name := List.mem_singleton.mp hsame
          exact List.mem_map_of_mem hmem
        obtain ⟨crash, built, told, hgives, hcrash, htold⟩ := ih _ hrest hother
        have hfine : ¬ ((∃ other, IsName (.string name) other) ∧ ∃ others, Offers host Usable content others ∧
            Immense (lookup "timeout" others)) := by
          rintro ⟨-, others, hothers, himmense⟩
          rw [hoffers.unique hothers] at himmense
          exact hsmall himmense
        dsimp only
        rw [hput, or_iff_right hfine]
        rw [List.append_assoc] at hgives
        exact ⟨crash, _, told, hgives, hcrash, fun h => .kept hname hoffers hfits (htold h)⟩
      | refused reason =>
        rw [hverdict] at hentry
        obtain ⟨crash, built, told, hgives, hcrash, htold⟩ := ih before hrest hold
        rw [or_iff_right fun ⟨_, fields, hoffers, _⟩ => hentry fields hoffers]
        exact ⟨crash, built, _, (Loading.gives_warn _).bind fun _ => hgives, hcrash,
          fun h => .reported hname hentry reason (htold h)⟩
      | crashed cause =>
        rw [hverdict] at hentry
        exact ⟨some cause, [], [], Loading.gives_throw cause _ _,
          iff_of_true (Option.some_ne_none cause) (.inl ⟨⟨name, hname⟩, hentry⟩), nofun⟩
    · have hnameless (name : String) (hname : IsName key name) : False := hnamed ⟨name, hname⟩
      obtain ⟨crash, built, told, hgives, hcrash, htold⟩ := ih before hrest hold
      rw [entriesOf_of_nameless host part before hnameless, or_iff_right fun h => hnamed h.1]
      exact ⟨crash, built, told, hgives, hcrash, fun h => .nameless hnameless (htold h)⟩

/-- The entries of a section of a mapping, none if it is no mapping. -/
def sectionEntries (part : String) (merged : Mapping) : Mapping :=
  match lookup part merged with
  | some (.mapping entries) => entries
  | _ => []

/-- A section has a warning of its own if it is no mapping. -/
theorem gives_sectionOf (host : Host) (part : String) (hbuild : Builder build Usable Fits) {merged : Mapping}
    (hkeyed : (Document.mapping merged).Keyed) :
    ∃ crash built heading told, (sectionOf host part build merged).Gives crash built (heading ++ told) ∧
      (crash ≠ none ↔ Overflowing host Usable (sectionEntries part merged)) ∧
      (crash = none → Accounted host part Usable Fits (sectionEntries part merged) built told) := by
  have hnothing : ¬ Overflowing host Usable [] := nofun
  unfold sectionOf sectionEntries
  cases hpart : lookup part merged with
  | none =>
    exact ⟨none, [], [], [], Loading.gives_pure [], iff_of_false (fun h => h rfl) hnothing, fun _ => .done⟩
  | some d =>
    cases d with
    | mapping entries =>
      rw [lookup_eq_get?] at hpart
      obtain ⟨crash, built, told, hgives, hcrash, htold⟩ :=
        gives_entriesOf host part hbuild [] (hkeyed.of_get? hpart).1 fun _ _ => List.not_mem_nil
      exact ⟨crash, built, [], told, hgives, hcrash, htold⟩
    | list items =>
      exact ⟨none, [], _, [], (Loading.gives_warn _).bind fun _ => Loading.gives_pure [],
        iff_of_false (fun h => h rfl) hnothing, fun _ => .done⟩
    | scalar value =>
      have hignored : ∃ heading, Loading.Gives (do
          Loading.warn ("ignoring " ++ part ++ ": expected a mapping of name to settings")
          return []) none ([] : Entries α) (heading ++ []) :=
        ⟨_, (Loading.gives_warn _).bind fun _ => Loading.gives_pure []⟩
      obtain ⟨heading, hignored⟩ := hignored
      cases value with
      | null => exact ⟨none, [], [], [], Loading.gives_pure [], iff_of_false (fun h => h rfl) hnothing, fun _ => .done⟩
      | _ => exact ⟨none, [], heading, [], hignored, iff_of_false (fun h => h rfl) hnothing, fun _ => .done⟩

end Section

/-! ### The other settings -/

section Single

variable (merged : Mapping)

/-- There is a limit on the depth of calls. -/
theorem gives_depthOf : ∃ depth told, (depthOf merged).Gives none depth told ∧ 1 ≤ depth := by
  have husual : (1 : Int) ≤ usual.maxDepth := by decide
  have hignored : ∃ told, Loading.Gives (do
      Loading.warn "ignoring max_depth: expected a positive integer"
      return usual.maxDepth) none usual.maxDepth told :=
    ⟨_, (Loading.gives_warn _).bind fun _ => Loading.gives_pure _⟩
  obtain ⟨told, hignored⟩ := hignored
  unfold depthOf
  dsimp only
  split
  · exact ⟨_, _, Loading.gives_pure _, husual⟩
  · exact ⟨_, _, Loading.gives_pure _, husual⟩
  · split
    · next hpositive => exact ⟨_, _, Loading.gives_pure _, hpositive⟩
    · exact ⟨_, _, hignored, husual⟩
  · exact ⟨_, _, hignored, husual⟩

theorem isPositive_usual_remoteTimeout : usual.remoteTimeout.IsPositive := by
  unfold usual
  dsimp only
  rcases Double.ofInt_of_pos (i := 30) (by decide) with ⟨hlarge, -⟩ | ⟨-, hpositive⟩
  · exact absurd hlarge (not_le.mpr (Double.lt_tooLarge _ (by norm_num)))
  · exact hpositive

/-- A time limit of requests is what a mapping makes of it: positive, or infinite because the mapping says so. -/
def Limits (said : Option Document) (limit : Double) : Prop :=
  said = some (.scalar (.number (.double (.infinite false)))) ∧ limit = .infinite false ∨
    said ≠ some (.scalar (.number (.double (.infinite false)))) ∧ limit.IsPositive

/-- Of the numbers that are not finite one is greater than zero. -/
theorem eq_infinite {x : Double} (hpositive : isPositive (.double x) = true) (hnan : Number.double x ≠ .double .nan)
    (hinfinite : x.isFinite = false) : x = .infinite false := by
  cases x with
  | finite negative code => cases hinfinite
  | nan => exact absurd rfl hnan
  | infinite negative =>
    cases negative with
    | false => rfl
    | true => exact absurd hpositive (by decide +kernel)

/-- What a computation gives for a time limit, or that it crashes, is what a document makes of it. -/
def Delimits (said : Option Document) (loading : Loading Double) : Prop :=
  ∃ crash limit told, loading.Gives crash limit told ∧ (crash ≠ none ↔ Immense said) ∧
    (crash = none → Limits said limit)

theorem delimits_usual {said : Option Document} (hsmall : ¬ Immense said)
    (hfinite : said ≠ some (.scalar (.number (.double (.infinite false))))) {loading : Loading Double}
    {told : List String} (h : loading.Gives none usual.remoteTimeout told) : Delimits said loading :=
  ⟨none, _, _, h, iff_of_false (fun h => h rfl) hsmall, fun _ => .inr ⟨hfinite, isPositive_usual_remoteTimeout⟩⟩

theorem gives_ignored_remoteTimeout : Loading.Gives (do
    Loading.warn "ignoring remote_timeout: expected a positive number"
    return usual.remoteTimeout) none usual.remoteTimeout
      (["ignoring remote_timeout: expected a positive number"] ++ []) :=
  (Loading.gives_warn _).bind fun _ => Loading.gives_pure _

theorem delimits_number {n : Number} (hnan : n ≠ .double .nan) :
    Delimits (some (.scalar (.number n))) (if isPositive n then converted n.toDouble else do
      Loading.warn "ignoring remote_timeout: expected a positive number"
      return usual.remoteTimeout) := by
  split
  next hpositive =>
    rcases seconds_cases hpositive with ⟨himmense, hdouble⟩ | ⟨hsmall, x, hdouble, hx⟩
    · rw [hdouble]
      exact ⟨_, usual.remoteTimeout, [], Loading.gives_throw _ _ _,
        iff_of_true (Option.some_ne_none _) himmense, nofun⟩
    · rw [hdouble]
      refine ⟨none, x, [], Loading.gives_pure x, iff_of_false (fun h => h rfl) hsmall, fun _ => ?_⟩
      rcases hx with ⟨⟨y, hy, hinfinite⟩, -⟩ | ⟨hfinite, hx⟩
      · cases hy
        cases hdouble
        obtain rfl := eq_infinite hpositive hnan hinfinite
        exact .inl ⟨rfl, rfl⟩
      · exact .inr ⟨fun h => hfinite ⟨_, h, rfl⟩, hx⟩
  next hnegative =>
    refine delimits_usual (fun h => hnegative (isPositive_of_immense h)) (fun h => ?_) gives_ignored_remoteTimeout
    cases h
    exact hnegative (by decide +kernel)

/-- There is a limit on the time of requests, unless it is an integer that is too large. -/
theorem delimits_remoteTimeoutOf : Delimits (lookup "remote_timeout" merged) (remoteTimeoutOf merged) := by
  have hignored {d : Document} (hsmall : ¬ Immense (some d))
      (hfinite : some d ≠ some (.scalar (.number (.double (.infinite false))))) : Delimits (some d) (do
        Loading.warn "ignoring remote_timeout: expected a positive number"
        return usual.remoteTimeout) := delimits_usual hsmall hfinite gives_ignored_remoteTimeout
  unfold remoteTimeoutOf
  dsimp only
  cases lookup "remote_timeout" merged with
  | none => exact delimits_usual (by nofun) (by nofun) (Loading.gives_pure _)
  | some d =>
    cases d with
    | list items => exact hignored nofun nofun
    | mapping entries => exact hignored nofun nofun
    | scalar value =>
      cases value with
      | null => exact delimits_usual (by nofun) (by nofun) (Loading.gives_pure _)
      | bool b => exact hignored nofun nofun
      | string text => exact hignored nofun nofun
      | date day => exact hignored nofun nofun
      | moment time => exact hignored nofun nofun
      | number n =>
        cases n with
        | int i => exact delimits_number nofun
        | double x =>
          cases x with
          | nan => exact hignored nofun nofun
          | finite negative code => exact delimits_number nofun
          | infinite negative => exact delimits_number nofun

theorem gives_mapM {α β : Type} {f : α → Loading β} (items : List α) (h : ∀ a, ∃ b told, (f a).Gives none b told) :
    ∃ results told, (items.mapM f).Gives none results told := by
  induction items with
  | nil => exact ⟨[], [], Loading.gives_pure []⟩
  | cons item rest ih =>
    obtain ⟨b, first, hb⟩ := h item
    obtain ⟨results, more, hrest⟩ := ih
    rw [List.mapM_cons]
    exact ⟨_, _, hb.bind fun _ => hrest.bind fun _ => Loading.gives_pure (b :: results)⟩

theorem exists_gives_bind {α β : Type} {x : Loading α} {f : α → Loading β} (hx : ∃ a told, x.Gives none a told)
    (hf : ∀ a, ∃ b told, (f a).Gives none b told) : ∃ b told, (x >>= f).Gives none b told := by
  obtain ⟨a, first, hx⟩ := hx
  obtain ⟨b, more, hf⟩ := hf a
  exact ⟨b, _, hx.bind fun _ => hf⟩

/-- The program files never stand in the way. -/
theorem gives_preloadOf (directory : String) :
    ∃ paths told, (preloadOf directory merged).Gives none paths told := by
  unfold preloadOf
  split
  · exact ⟨[], [], Loading.gives_pure []⟩
  next items hpreload =>
    refine exists_gives_bind (gives_mapM items fun item => ?_) fun paths => ⟨_, [], Loading.gives_pure _⟩
    dsimp only
    split
    · split
      · exact ⟨none, _, (Loading.gives_warn _).bind fun _ => Loading.gives_pure none⟩
      · exact ⟨_, [], Loading.gives_pure _⟩
    · exact ⟨none, _, (Loading.gives_warn _).bind fun _ => Loading.gives_pure none⟩
  · exact ⟨[], _, (Loading.gives_warn _).bind fun _ => Loading.gives_pure []⟩

end Single

/-! ### Configurations -/

/-- What holds of a configuration that is loaded from a mapping with some warnings. -/
structure Settled (host : Host) (merged : Mapping) (config : Config) (said : List String) : Prop where
  deep : 1 ≤ config.maxDepth
  limited : Limits (lookup "remote_timeout" merged) config.remoteTimeout
  accounted : ∃ before tools between servers after, said = before ++ tools ++ between ++ servers ++ after ∧
    Accounted host "process_tools" CommandEntry.Usable CommandEntry.Fits (sectionEntries "process_tools" merged)
      config.commands tools ∧
    Accounted host "remote_servers" ServerEntry.Usable ServerEntry.Fits (sectionEntries "remote_servers" merged)
      config.servers servers

/-- A number of seconds that is asked for is an integer that is too large. -/
def Overstated (host : Host) (merged : Mapping) : Prop :=
  Immense (lookup "remote_timeout" merged) ∨
    Overflowing host CommandEntry.Usable (sectionEntries "process_tools" merged) ∨
    Overflowing host ServerEntry.Usable (sectionEntries "remote_servers" merged)

/-- A mapping gives a configuration unless a number of seconds is an integer that is too large. -/
theorem gives_ofMapping (host : Host) (directory : String) (layers : Layers)
    (hkeyed : (Document.mapping layers.merged).Keyed) :
    ∃ crash config said, (ofMapping host directory layers).Gives crash config said ∧
      (crash ≠ none ↔ Overstated host layers.merged) ∧ (crash = none → Settled host layers.merged config said) := by
  obtain ⟨depth, said₁, hdepth, hdeep⟩ := gives_depthOf layers.merged
  obtain ⟨crash₂, limit, said₂, hlimit, hcrash₂, hlimits⟩ := delimits_remoteTimeoutOf layers.merged
  obtain ⟨crash₃, commands, heading₃, tools, hcommands, hcrash₃, htools⟩ :=
    gives_sectionOf host "process_tools" builder_commands hkeyed
  obtain ⟨crash₄, servers, heading₄, told, hservers, hcrash₄, htold⟩ :=
    gives_sectionOf host "remote_servers" builder_servers hkeyed
  obtain ⟨paths, said₅, hpaths⟩ := gives_preloadOf layers.merged directory
  have hgives : (ofMapping host directory layers).Gives _ _ _ :=
    hdepth.bind fun _ => hlimit.bind fun _ => hcommands.bind fun _ => hservers.bind fun _ => hpaths.bind fun _ =>
      Loading.gives_pure
        (Config.mk depth limit (logLevelOf layers.merged) commands servers paths layers.loadedFrom)
  have hcrash (h : crash₂.or (crash₃.or crash₄) = none) : crash₂ = none ∧ crash₃ = none ∧ crash₄ = none := by
    rw [Option.or_eq_none_iff, Option.or_eq_none_iff] at h
    exact h
  rw [Option.none_or, Option.none_or, Option.or_none] at hgives
  refine ⟨_, _, _, hgives, ?_, fun h => ?_⟩
  · unfold Overstated
    rw [← hcrash₂, ← hcrash₃, ← hcrash₄, Ne, Option.or_eq_none_iff, Option.or_eq_none_iff, not_and_or, not_and_or]
  · obtain ⟨hnone₂, hnone₃, hnone₄⟩ := hcrash h
    refine ⟨hdeep, hlimits hnone₂, said₁ ++ (said₂ ++ heading₃), tools, heading₄, told, said₅ ++ [], ?_,
      htools hnone₃, htold hnone₄⟩
    simp only [List.append_assoc]

/-- Warnings that were given before do not matter. -/
theorem Settled.after {host : Host} {merged : Mapping} {config : Config} {said : List String}
    (h : Settled host merged config said) (earlier : List String) : Settled host merged config (earlier ++ said) := by
  obtain ⟨before, tools, between, servers, after, rfl, htools, hservers⟩ := h.accounted
  refine ⟨h.deep, h.limited, earlier ++ before, tools, between, servers, after, ?_, htools, hservers⟩
  simp only [List.append_assoc]

/-- Keyed mappings put over one another are keyed. -/
theorem keyed_foldl_merge {files : List (String × Mapping)} (h : ∀ file ∈ files, (Document.mapping file.2).Keyed)
    {base : Mapping} (hbase : (Document.mapping base).Keyed) :
    (Document.mapping (files.foldl (fun merged file => Document.merge merged file.2) base)).Keyed := by
  refine List.foldlRecOn (motive := fun merged => (Document.mapping merged).Keyed) files _ hbase ?_
  exact fun merged hmerged file hmem => (Document.merge_merged merged (h file hmem)).keyed hmerged

/-- **Loading settles everything.**  It comes to no configuration exactly if a file crashes, the explicit path makes
no sense, or a number of seconds is an integer that is too large; otherwise it gives a configuration whose limits are
positive, with the entries of the merged mapping, each of which is kept if it can be used, or reported if it cannot,
or has no name. -/
theorem load_settles (host : Host) (directory : String) (explicit : Option String) (isolated : Bool)
    (warnings : List String) :
    let merged := (sources host directory explicit isolated).foldl (fun merged file => Document.merge merged file.2) []
    ((crash? host directory explicit isolated ≠ none ∨ Overstated host merged) ∧
      ∃ cause more, (load host directory explicit isolated).run warnings = (.error cause, warnings ++ more)) ∨
    ((crash? host directory explicit isolated = none ∧ ¬ Overstated host merged) ∧
      ∃ config said, (load host directory explicit isolated).run warnings = (.ok config, warnings ++ said) ∧
        Settled host merged config said) := by
  intro merged
  have hkeyed : (Document.mapping merged).Keyed :=
    keyed_foldl_merge (fun _ => keyed_of_mem_sources) ⟨List.nodup_nil, trivial⟩
  have hload := run_load host directory explicit isolated warnings
  obtain ⟨crash, config, said, hgives, hcrash, hsettled⟩ :=
    gives_ofMapping host directory (layersOf host directory explicit isolated) hkeyed
  cases hearly : crash? host directory explicit isolated with
  | some cause =>
    rw [hearly] at hload
    obtain ⟨more, hload⟩ := hload
    exact .inl ⟨.inl (Option.some_ne_none cause), cause, more, hload⟩
  | none =>
    rw [hearly] at hload
    dsimp only at hload
    have hmapping := hgives (warnings ++ notes host directory explicit isolated)
    rw [hload]
    cases crash with
    | some cause =>
      obtain ⟨more, hmapping⟩ := hmapping
      rw [List.append_assoc] at hmapping
      exact .inl ⟨.inr (hcrash.mp (Option.some_ne_none cause)), cause, _, hmapping⟩
    | none =>
      dsimp only at hmapping
      rw [List.append_assoc] at hmapping
      refine .inr ⟨⟨rfl, fun h => hcrash.mpr h rfl⟩, config, _, hmapping, ?_⟩
      exact (hsettled rfl).after (notes host directory explicit isolated)

/-! ### Some files -/

/-- What comes of a text in an explicit file. -/
def loaded (text : String) : Except Crash Config × List String :=
  (load (Host.single "/settings.json" text) "/" (some "/settings.json") true).run []

/-- A text that is a mapping gives what its mapping gives. -/
theorem loaded_eq {text : String} (h : (jsonMapping? text).isSome = true) :
    loaded text = (ofMapping (Host.single "/settings.json" text) "/"
      ⟨Document.merge [] ((jsonMapping? text).getD []), ["/settings.json"]⟩).run [] := by
  obtain ⟨entries, hentries⟩ := Option.isSome_iff_exists.mp h
  have hload := run_load (Host.single "/settings.json" text) "/" (some "/settings.json") true []
  unfold layersOf Layers.overAll at hload
  rw [crash?_json hentries, sources_json hentries, notes_json hentries] at hload
  rw [hentries]
  exact hload

/-- A tool that is all right, and one that has no command. -/
def toolsText : String :=
  "\x7b\"process_tools\": \x7b\"good\": \x7b\"command\": [\"x\"], \"timeout\": 2.5\x7d, \"bad\": 3\x7d\x7d"

/-- Of two tools one is kept, and the other one is reported. -/
theorem load_settles_tools : ∃ config said,
    loaded toolsText = (.ok config, said) ∧
      Settled (Host.single "/settings.json" toolsText) (Document.merge [] ((jsonMapping? toolsText).getD []))
        config said ∧
      config.commands.map Prod.fst = ["good"] ∧ said = ["skipping process_tools.bad: invalid entry"] := by
  have hread : (jsonMapping? toolsText).isSome = true := by decide +kernel
  obtain ⟨entries, hentries⟩ := Option.isSome_iff_exists.mp hread
  have hresult : (loaded toolsText).1.toOption.map (fun config => config.commands.map Prod.fst) = some ["good"] ∧
      (loaded toolsText).2 = ["skipping process_tools.bad: invalid entry"] := by
    rw [loaded_eq hread]
    decide +kernel
  have hsettles := load_settles (Host.single "/settings.json" toolsText) "/" (some "/settings.json") true []
  rw [sources_json hentries] at hsettles
  unfold loaded at hresult ⊢
  rw [hentries]
  rcases hsettles with ⟨-, cause, more, hrun⟩ | ⟨-, config, said, hrun, hsettled⟩
  · rw [hrun] at hresult
    cases hresult.1
  · rw [hrun] at hresult
    exact ⟨config, said, hrun, hsettled, Option.some.inj hresult.1, hresult.2⟩

/-- A text that is given by its characters is read from these. -/
theorem jsonMapping?_ofList (cs : List Char) : jsonMapping? (String.ofList cs) =
    match Json.readChars .lenient (Text.unifyLines cs) with
    | .ok v =>
      match Document.ofValue v with
      | .mapping entries => some entries
      | _ => none
    | .error _ => none := by
  unfold jsonMapping? jsonDocument Json.readText
  rw [String.toList_ofList, String.toList_ofList]
  cases hread : Json.readChars .lenient (Text.unifyLines cs) with
  | ok v =>
    dsimp only
    generalize Document.ofValue v = d
    cases d <;> rfl
  | error fault => cases fault <;> rfl

/-- A time limit with more than three hundred digits. -/
def longText : String :=
  String.ofList ("\x7b\"process_tools\": \x7b\"t\": \x7b\"command\": [\"x\"], \"timeout\": 1".toList ++
    List.replicate 309 '0' ++ "\x7d\x7d\x7d".toList)

/-- An integer with more than three hundred digits is no number of seconds. -/
theorem loaded_longText : ∃ cause, (loaded longText).1 = .error cause ∧ cause.name = "OverflowError" := by
  have hread : (jsonMapping? longText).isSome = true := by
    unfold longText
    rw [jsonMapping?_ofList]
    decide +kernel
  have hname : (match (loaded longText).1 with
      | .error cause => cause.name
      | .ok _ => "") = "OverflowError" := by
    rw [loaded_eq hread]
    unfold longText
    rw [jsonMapping?_ofList]
    decide +kernel
  cases hlong : (loaded longText).1 with
  | error cause =>
    rw [hlong] at hname
    exact ⟨cause, rfl, hname⟩
  | ok config =>
    rw [hlong] at hname
    exact absurd hname (show "" ≠ "OverflowError" by decide)

/-- A limit may be infinite, and that of a tool no number at all; a long integer lets everything fail; and an entry
without a name is left out without a word. -/
theorem load_unsettled :
    (loaded "\x7b\"remote_timeout\": 1e400\x7d").1.toOption.map (fun config => config.remoteTimeout.isFinite) =
      some false ∧
    (loaded "\x7b\"process_tools\": \x7b\"t\": \x7b\"command\": [\"x\"], \"timeout\": NaN\x7d\x7d\x7d").1.toOption.map
      (fun config => config.commands.map fun entry => entry.2.timeout) = some [some .nan] ∧
    (∃ cause, (loaded longText).1 = .error cause ∧ cause.name = "OverflowError") ∧
    (loaded "\x7b\"process_tools\": \x7b\"\": \x7b\"command\": [\"x\"]\x7d\x7d\x7d").1.toOption.map
      (fun config => config.commands.map Prod.fst) = some [] ∧
    (loaded "\x7b\"process_tools\": \x7b\"\": \x7b\"command\": [\"x\"]\x7d\x7d\x7d").2 = [] := by
  refine ⟨?_, ?_, loaded_longText, ?_⟩
  · rw [loaded_eq (by decide +kernel)]
    decide +kernel
  · rw [loaded_eq (by decide +kernel)]
    decide +kernel
  · rw [loaded_eq (by decide +kernel)]
    decide +kernel

end Config

end ToolWeave
