import ToolWeave.Proofs.Actions
import ToolWeave.Proofs.Comparisons
import ToolWeave.Proofs.Domains
import ToolWeave.Proofs.Shapes

/-!
# Runs stay in their domain

A run that starts in a state of a domain, of a program that belongs to it, stays in the domain: whatever it
invokes, it invokes with tools and inputs of the domain and in states of the domain, and how it ends belongs
to the domain as well (`Domain.evaluate_stays`, `Domain.reach_serves`).

## Main definitions

* `Domain.Stays`: runs do the same from states of a domain, and stay in it.
* `Domain.Serves`: so do invocations of tools of the domain.

## Design notes

**Families.**  `Domain.Stays` speaks about a family of runs that all do the same, from states of the domain
at least.  Elsewhere they may differ.  So a program is known to invoke nothing outside of its domain if it
cannot tell apart two ways of invoking tools that differ only there.

**What a run gives.**  Of the value of a run any property may be said, so that parts of a program can pass on
what they know: that a list consists of values of the domain, that fields have the names they were asked for,
that what was sorted was there before.
-/

namespace ToolWeave

namespace Domain

variable {ι : Type}

/-- From states of a domain some runs do the same.  They lead to states of the domain, and end there with a
value that has a property or fail there. -/
def Stays (D : Domain) {α : Type} (P : α → Prop) (x : ι → Run α) : Prop :=
  ∀ world, D.HasWorld world → ∃ outcome after,
    (∀ i, x i world = (outcome, after)) ∧ D.Ends P outcome ∧ D.HasWorld after

variable {D : Domain}

namespace Stays

variable {α β : Type} {P : α → Prop} {Q : β → Prop}

/-- One and the same run. -/
theorem of_run {x : Run α} (h : ∀ world, D.HasWorld world → D.Ends P (x world).1 ∧ D.HasWorld (x world).2) :
    D.Stays P fun _ : ι => x := fun world hworld => ⟨_, _, fun _ => rfl, h world hworld⟩

theorem congr {x y : ι → Run α} (hx : D.Stays P x) (h : ∀ i, y i = x i) : D.Stays P y := by
  rwa [funext h]

/-- Some of the runs, or the same run more than once. -/
theorem comp {x : ι → Run α} (hx : D.Stays P x) {κ : Type} (f : κ → ι) : D.Stays P fun j => x (f j) := by
  intro world hworld
  obtain ⟨outcome, after, hsame, hends⟩ := hx world hworld
  exact ⟨outcome, after, fun j => hsame (f j), hends⟩

theorem pure {a : α} (h : P a) : D.Stays P fun _ : ι => (Pure.pure a : Run α) :=
  .of_run fun _ hworld => ⟨h, hworld⟩

theorem fail {e : ToolError} (h : D.values e.payload) : D.Stays P fun _ : ι => (throw e : Run α) :=
  .of_run fun _ hworld => ⟨h, hworld⟩

theorem ofExcept {outcome : Except ToolError α} (h : D.Ends P outcome) :
    D.Stays P fun _ : ι => Run.ofExcept outcome := by
  refine .of_run fun world hworld => ?_
  rw [Run.ofExcept_apply]
  exact ⟨h, hworld⟩

theorem bind {x : ι → Run α} {f : ι → α → Run β} (hx : D.Stays P x)
    (hf : ∀ a, P a → D.Stays Q fun i => f i a) : D.Stays Q fun i => x i >>= f i := by
  intro world hworld
  obtain ⟨outcome, between, hsame, hends, hbetween⟩ := hx world hworld
  cases outcome with
  | error e => exact ⟨.error e, between, fun i => Run.bind_of_error (hsame i) _, hends, hbetween⟩
  | ok a =>
    obtain ⟨outcome, after, hrest, hafter⟩ := hf a hends between hbetween
    exact ⟨outcome, after, fun i => (Run.bind_of_ok (hsame i) _).trans (hrest i), hafter⟩

theorem lookup (name : String) :
    D.Stays (fun found => ∀ tool, found = some tool → D.HasTool tool) fun _ : ι => Run.lookup name :=
  .of_run fun _ hworld => ⟨fun _ htool => hworld.lookup htool, hworld⟩

theorem record {step : Step} (hstep : D.HasStep step) : D.Stays (fun _ => True) fun _ : ι => Run.record step :=
  .of_run fun _ hworld => ⟨trivial, hworld.record hstep⟩

theorem environment : D.Stays (fun env => ∀ number ∈ env.path, D.frames number) fun _ : ι => Run.environment :=
  .of_run fun _ hworld => ⟨hworld.environment, hworld⟩

theorem checkScopes : D.Stays (fun _ => True) fun _ : ι => Run.checkScopes := by
  refine .of_run fun world hworld => ?_
  rw [Run.checkScopes_apply]
  refine ⟨?_, hworld⟩
  unfold Scope.check
  split
  · exact trivial
  · exact values_cancelled _

theorem inside {outer : Environment} (houter : ∀ number ∈ outer.path, D.frames number) {constants : Fields}
    (hconstants : ∀ entry ∈ constants, D.values entry.2) {x : ι → Run α} (hx : D.Stays P x) :
    D.Stays P fun i => Run.inside outer constants (x i) := by
  intro world hworld
  obtain ⟨outcome, after, hsame, hends, hafter⟩ := hx _ (hworld.enter houter hconstants)
  refine ⟨outcome, { after with environment := world.environment }, fun i => ?_, hends, ?_⟩
  · dsimp only
    rw [Run.inside_apply, hsame i]
  · exact ⟨hafter.store, hworld.environment, hafter.steps⟩

theorem capture {x : ι → Run α} (hx : D.Stays P x) : D.Stays (D.Ends P) fun i => Run.capture (x i) := by
  intro world hworld
  obtain ⟨outcome, after, hsame, hends, hafter⟩ := hx world hworld
  refine ⟨.ok outcome, after, fun i => ?_, hends, hafter⟩
  dsimp only
  rw [Run.capture_apply, hsame i]

theorem ofGet : D.Stays D.HasWorld fun _ : ι => (get : Run World) :=
  .of_run fun _ hworld => ⟨hworld, hworld⟩

theorem ofSet {after : World} (h : D.HasWorld after) : D.Stays (fun _ => True) fun _ : ι => (set after : Run Unit) :=
  .of_run fun _ _ => ⟨trivial, h⟩

theorem ofModify {f : World → World} (h : ∀ world, D.HasWorld world → D.HasWorld (f world)) :
    D.Stays (fun _ => True) fun _ : ι => (modify f : Run Unit) :=
  .of_run fun world hworld => ⟨trivial, h world hworld⟩

/-- What is sorted consists of what was to be sorted. -/
theorem sort_of_mem {below : ι → Value → Value → Run Bool} {items : List Value}
    (hbelow : ∀ a ∈ items, ∀ b ∈ items, D.Stays (fun _ => True) fun i => below i a b) :
    D.Stays (fun sorted => ∀ item ∈ sorted, item ∈ items) fun i => Sorting.sort (below i) items := by
  -- sorted as members of the list, the items come out as members of it
  have hsort : D.Stays (fun _ => True) fun i =>
      Sorting.sort (fun a b : {item // item ∈ items} => below i a.1 b.1) items.attach :=
    @Sorting.sort_closed _ _ _ _ (fun x => D.Stays (fun _ => True) x) (fun _ => .pure trivial)
      (fun hx hf => hx.bind fun b _ => hf b) _ (fun a b => hbelow a.1 a.2 b.1 b.2) items.attach
  simp only [Sorting.sort_attach _ items, map_eq_pure_bind]
  refine hsort.bind fun sorted _ => .pure fun item hitem => ?_
  obtain ⟨found, -, rfl⟩ := List.mem_map.mp hitem
  exact found.2

end Stays

/-! ### Forms -/

/-- Tools of a domain are invoked with inputs of the domain, in the same way by all of some families. -/
structure Serves (D : Domain) (reach : ι → Reach) : Prop where
  call : ∀ tool input, D.HasTool tool → D.values input → D.Stays D.values fun i => (reach i).call tool input
  again : ∀ starter tool input, D.HasTool tool → D.values input →
    D.Stays D.values fun i => (reach i).again starter tool input

theorem Serves.comp {reach : ι → Reach} (hreach : D.Serves reach) {κ : Type} (f : κ → ι) :
    D.Serves fun j => reach (f j) where
  call tool input htool h := (hreach.call tool input htool h).comp f
  again starter tool input htool h := (hreach.again starter tool input htool h).comp f

section Parts

open Form

variable {reach : ι → Reach}

theorem runSequence_stays {items : List Form} (h : ∀ item ∈ items, D.Stays D.values fun i => item.run (reach i))
    {before : Value} (hbefore : D.values before) :
    D.Stays D.values fun i => runSequence (reach i) before items := by
  induction items generalizing before with
  | nil => exact .pure hbefore
  | cons item rest ih =>
    obtain ⟨hitem, hrest⟩ := List.forall_mem_cons.mp h
    exact hitem.bind fun value hvalue => ih hrest hvalue

theorem runItems_stays {items : List Form} (h : ∀ item ∈ items, D.Stays D.values fun i => item.run (reach i)) :
    D.Stays (fun values => ∀ value ∈ values, D.values value) fun i => runItems (reach i) items := by
  induction items with
  | nil => exact .pure fun _ hvalue => by cases hvalue
  | cons item rest ih =>
    obtain ⟨hitem, hrest⟩ := List.forall_mem_cons.mp h
    exact hitem.bind fun value hvalue => (ih hrest).bind fun values hvalues =>
      .pure (List.forall_mem_cons.mpr ⟨hvalue, hvalues⟩)

theorem runFields_stays {fields : List (String × Form)}
    (h : ∀ entry ∈ fields, D.Stays D.values fun i => entry.2.run (reach i)) :
    D.Stays (fun values => Entries.names values = Entries.names fields ∧ ∀ entry ∈ values, D.values entry.2)
      fun i => runFields (reach i) fields := by
  induction fields with
  | nil => exact .pure ⟨rfl, fun _ hvalue => by cases hvalue⟩
  | cons entry rest ih =>
    obtain ⟨name, item⟩ := entry
    obtain ⟨hitem, hrest⟩ := List.forall_mem_cons.mp h
    exact hitem.bind fun value hvalue => (ih hrest).bind fun values hvalues =>
      .pure ⟨congrArg (name :: ·) hvalues.1, List.forall_mem_cons.mpr ⟨hvalue, hvalues.2⟩⟩

variable (hreach : D.Serves reach)

include hreach

/-- A tool is looked up and called. -/
theorem calling_stays (name : String) {unbound : ToolError} (hunbound : D.values unbound.payload) {input : Value}
    (hinput : D.values input) :
    D.Stays D.values (fun i => do
      match ← Run.lookup name with
      | none => throw unbound
      | some tool =>
        Run.checkScopes
        (reach i).call tool input) := by
  refine (Stays.lookup name).bind fun found hfound => ?_
  cases found with
  | none => exact .fail hunbound
  | some tool => exact Stays.checkScopes.bind fun _ _ => hreach.call tool input (hfound tool rfl) hinput

theorem definition_stays (name : String) (parameters : List String) {body : Value} (hbody : D.values body) :
    D.Stays D.values fun i => (definition name parameters body).run (reach i) := by
  have hrequest : D.values (definitionRequest name parameters body) :=
    D.closed.object (by simp [Entries.names]) (by simpa using hbody)
  refine (Stays.lookup _).bind fun found hfound => ?_
  cases found with
  | none => exact .fail (values_unknownTool _)
  | some tool =>
    exact Stays.checkScopes.bind fun _ _ => hreach.again .definition tool _ (hfound tool rfl) hrequest

/-- An object that has a shape, both readings of whose fields are fine. -/
theorem ofShape_stays (shape : Shape) {fields : Fields} (hfields : ∀ entry ∈ fields, D.values entry.2)
    (hparts : ∀ entry ∈ fields, D.Stays D.values (fun i => (readings entry.2).program.run (reach i)) ∧
      D.Stays D.values fun i => (readings entry.2).data.run (reach i)) :
    D.Stays D.values fun i => (ofShape shape fields (fieldReadings fields)).run (reach i) := by
  have hprogram (name : String) :
      D.Stays D.values fun i => (programIn name (fieldReadings fields)).run (reach i) := by
    unfold programIn
    rw [get?_fieldReadings]
    cases hfound : Entries.get? name fields with
    | none => exact .pure D.values_null
    | some content => exact (hparts _ (Entries.mem_of_get? hfound)).1
  have hdata (name : String) :
      D.Stays D.values fun i => (dataIn name (fieldReadings fields)).run (reach i) := by
    unfold dataIn
    rw [get?_fieldReadings]
    cases hfound : Entries.get? name fields with
    | none => exact .pure D.values_null
    | some content => exact (hparts _ (Entries.mem_of_get? hfound)).2
  cases shape with
  | reference => exact calling_stays hreach _ (values_unboundName _) D.values_null
  | call => exact (hdata "input").bind fun input hinput => calling_stays hreach _ (values_unknownTool _) hinput
  | sequence => exact hprogram "do"
  | binding =>
    refine (hdata "value").bind fun value hvalue => Stays.environment.bind fun env henv => ?_
    exact .inside henv (List.forall_mem_singleton.mpr hvalue) (hprogram "in")
  | definition => exact definition_stays hreach _ _ (values_getD hfields "body")
  | quote => exact .pure (values_getD hfields "quote")

/-- Values of the domain are run in the domain, in both positions. -/
theorem readings_stays {v : Value} (hv : D.values v) :
    D.Stays D.values (fun i => (readings v).program.run (reach i)) ∧
      D.Stays D.values fun i => (readings v).data.run (reach i) := by
  induction v using Value.induction with
  | array items ih =>
    have hitems := D.closed.array_iff.mp hv
    rw [readings, itemReadings_eq_map]
    dsimp only
    constructor
    · refine runSequence_stays (fun form hform => ?_) D.values_null
      rw [List.map_map] at hform
      obtain ⟨item, hitem, rfl⟩ := List.mem_map.mp hform
      exact (ih item hitem (hitems item hitem)).1
    · unfold ofItems
      split
      · exact .pure hv
      · refine (runItems_stays fun form hform => ?_).bind fun values hvalues => .pure (D.closed.array_iff.mpr hvalues)
        rw [List.map_map] at hform
        obtain ⟨item, hitem, rfl⟩ := List.mem_map.mp hform
        exact (ih item hitem (hitems item hitem)).2
  | object fields ih =>
    have hfields := D.closed.contents hv
    have hparts := fun entry hentry => ih entry hentry (hfields entry hentry)
    rw [readings]
    split
    · next shape _ => exact ⟨ofShape_stays hreach shape hfields hparts, ofShape_stays hreach shape hfields hparts⟩
    · -- without a shape an object is read alike in both positions, and keeps its names
      have hcontents : D.Stays D.values fun i => (ofContents fields (fieldReadings fields)).run (reach i) := by
        unfold ofContents
        split
        · exact .pure hv
        · rw [fieldReadings_eq_map, List.map_map]
          refine (runFields_stays fun entry hentry => ?_).bind fun values hvalues =>
            .pure (D.closed.renew hv ?_ hvalues.2)
          · obtain ⟨field, hfield, rfl⟩ := List.mem_map.mp hentry
            exact (hparts field hfield).2
          · rw [hvalues.1]
            unfold Entries.names
            rw [List.map_map]
            rfl
      exact ⟨hcontents, hcontents⟩
  | _ => exact ⟨.pure hv, .pure hv⟩

/-- A program of the domain is evaluated in the domain. -/
theorem evaluate_stays {program : Value} (h : D.values program) :
    D.Stays D.values fun i => Run.evaluate (reach i) program := by
  unfold Run.evaluate
  split
  · exact (readings_stays hreach h).1
  · exact .fail (values_report _ _ (by simp))

end Parts

end Domain

end ToolWeave
