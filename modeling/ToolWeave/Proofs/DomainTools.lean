import ToolWeave.Proofs.DomainRuns

/-!
# Tools stay in their domain

What a tool of the language makes of an input is made of parts of the input, of what it finds bound, and of
values that belong to every domain.  So invocations that start in a domain stay in it, however deep they nest
(`Domain.reach_serves`), and nobody who watches them sees anything else (`Domain.watchedReach_serves`).

## Main definitions

* `Domain.watchedReach`: invocations that are watched, each where it begins and where it ends.

## Design notes

**Alarms.**  What is true throughout an evaluation is said by watching it.  An alarm goes off, and then
anything may happen, if an invocation begins or ends with something that does not belong to the domain, in a
state that does not, or in frames that bind something else.  That nothing else ever happens is to say that
the watched evaluation is the evaluation, whatever the alarm would do.  Between these moments frames are only
made, and nothing that they bind is lost, so nothing goes unnoticed.
-/

namespace ToolWeave

/-- The values that are sorted are the values there were. -/
theorem Comparison.mem_of_mem_sort {items : List Value} {item : Value} (h : item ∈ Comparison.sort items) :
    item ∈ items := by
  have hitems : items.attach.map Subtype.val = items := List.attach_map_subtype_val items
  unfold Comparison.sort at h
  rw [← hitems, Sorting.sort_map] at h
  obtain ⟨found, -, rfl⟩ := List.mem_map.mp h
  exact found.2

namespace Domain

variable {ι : Type} {D : Domain}

/-! ### Arithmetic -/

section Arithmetic

theorem numbers_ends (tool : String) (length : Option Nat) {input : Value} (h : D.values input) :
    D.Ends (fun _ => True) (Arithmetic.numbers tool length input) :=
  (array_ends tool length h).bind fun _ _ => .mapM fun _ _ => number_ends _ _ _

theorem finite_ends (tool : String) (result : Except Overflow Number) :
    D.Ends D.values (Arithmetic.finite tool result) := by
  unfold Arithmetic.finite
  cases result with
  | error cause => exact values_crash _
  | ok n =>
    dsimp only
    split
    · next hfinite => exact D.closed.number n hfinite
    · exact values_report _ _ (by simp)

theorem add_ends {input : Value} (h : D.values input) : D.Ends D.values (Arithmetic.add input) :=
  (numbers_ends "add" none h).bind fun _ _ => finite_ends _ _

theorem multiply_ends {input : Value} (h : D.values input) : D.Ends D.values (Arithmetic.multiply input) :=
  (numbers_ends "multiply" none h).bind fun _ _ => finite_ends _ _

theorem subtract_ends {input : Value} (h : D.values input) : D.Ends D.values (Arithmetic.subtract input) := by
  refine (numbers_ends "subtract" (some 2) h).bind fun numbers _ => ?_
  split
  · exact finite_ends _ _
  · exact values_mismatch _ _ _

theorem divide_ends {input : Value} (h : D.values input) : D.Ends D.values (Arithmetic.divide input) := by
  refine (numbers_ends "divide" (some 2) h).bind fun numbers _ => ?_
  split
  · split
    · exact values_report _ _ (by simp)
    · exact finite_ends _ _
  · exact values_mismatch _ _ _

end Arithmetic

/-! ### Bindings -/

section Bindings

open Bindings

theorem parameterNames_ends (given : Value) : D.Ends (fun _ => True) (parameterNames given) := by
  unfold parameterNames
  dsimp only
  split
  · exact trivial
  split
  · refine .mapM fun item _ => ?_
    split
    · split
      · exact values_report _ _ (by simp)
      · exact trivial
    · exact values_report _ _ (by simp)
  · exact values_report _ _ (by simp)

theorem descriptionText_ends (given : Value) : D.Ends (fun _ => True) (descriptionText given) := by
  unfold descriptionText
  split
  · exact trivial
  split
  · exact trivial
  · exact values_report _ _ (by simp)

theorem request_ends {input : Value} (h : D.values input) :
    D.Ends (fun request => D.values request.body) (request input) := by
  refine (object_ends "define" ["name", "body"] h).bind fun fields hfields => ?_
  refine (string_ends _ _ _).bind fun name _ => ?_
  split
  · exact values_report _ _ (by simp)
  refine (parameterNames_ends _).bind fun parameters _ => ?_
  refine (descriptionText_ends _).bind fun description _ => ?_
  by_cases hreserved : parameters.contains inputName = true
  · rw [if_pos hreserved]
    exact values_report _ _ (by simp)
  rw [if_neg hreserved]
  by_cases hrepeated : (!decide parameters.Nodup) = true
  · rw [if_pos hrepeated]
    exact values_report _ _ (by simp)
  · rw [if_neg hrepeated]
    exact values_getD hfields "body"

theorem define_stays {input : Value} (h : D.values input) : D.Stays D.values fun _ : ι => define input := by
  refine (Stays.ofExcept (request_ends h)).bind fun request hbody => ?_
  refine (Stays.ofModify fun world hworld => ?_).bind fun _ _ => .pure (D.values_string _)
  exact hworld.restore (hworld.store.create hworld.environment _ _ _ hbody)

theorem undefine_stays {input : Value} (h : D.values input) : D.Stays D.values fun _ : ι => undefine input := by
  refine (Stays.ofExcept (object_ends _ _ h)).bind fun fields _ => ?_
  refine (Stays.ofExcept (string_ends _ _ _)).bind fun name _ => ?_
  refine Stays.ofGet.bind fun world hworld => ?_
  have hafter := hworld.store.undefine (hworld.environment _ List.mem_cons_self) name
  exact (Stays.ofSet (hworld.restore hafter)).bind fun _ _ => .pure (D.values_bool _)

theorem rebind_stays {input : Value} (h : D.values input) : D.Stays D.values fun _ : ι => rebind input := by
  refine (Stays.ofExcept (object_ends _ _ h)).bind fun fields _ => ?_
  refine (Stays.ofExcept (string_ends _ _ _)).bind fun name _ => ?_
  refine (Stays.ofExcept (string_ends _ _ _)).bind fun source _ => ?_
  split
  · exact .fail (values_report _ _ (by simp))
  refine Stays.ofGet.bind fun world hworld => ?_
  split
  · exact .fail (values_unknownTool _)
  · next binding hbinding =>
    have hafter := hworld.store.bind (hworld.environment _ List.mem_cons_self) name
      (hworld.store.binding? hworld.environment hbinding)
    exact (Stays.ofSet (hworld.restore hafter)).bind fun _ _ => .pure (D.values_string _)

theorem listTools_stays : D.Stays D.values fun _ : ι => listTools := by
  refine Stays.ofGet.bind fun world _ => .pure (D.closed.object (List.pairwise_singleton _ _) ?_)
  exact List.forall_mem_singleton.mpr (D.values_strings _)

end Bindings

/-! ### The console -/

section Console

open ConsoleTools

theorem textOf_ends (input : Value) : D.Ends (fun _ => True) (textOf input) := by
  unfold textOf
  split
  · exact trivial
  split
  · exact trivial
  · exact values_crash _

theorem print_stays {input : Value} (h : D.values input) : D.Stays D.values fun _ : ι => print input := by
  refine (Stays.ofExcept (textOf_ends input)).bind fun text _ => Stays.ofGet.bind fun world _ => ?_
  split
  · refine (Stays.ofModify fun _ hworld => ?_).bind fun _ _ => .pure h
    exact ⟨hworld.store, hworld.environment, hworld.steps⟩
  · exact .fail (values_report _ _ (by simp))

theorem readLine_stays : D.Stays D.values fun _ : ι => readLine := by
  refine Stays.ofGet.bind fun world _ => ?_
  dsimp only
  split
  · refine (Stays.ofModify fun _ hworld => ?_).bind fun _ _ => .pure ?_
    · exact ⟨hworld.store, hworld.environment, hworld.steps⟩
    · exact D.closed.object (by simp [Entries.names]) (by simp)
  · exact .fail (values_report _ _ (by simp))

end Console

/-! ### Tools that invoke others -/

section Control

open Control

theorem branch_ends {input : Value} (h : D.values input) : D.Ends D.values (branch input) := by
  refine (object_ends _ _ h).bind fun fields hfields => ?_
  dsimp only
  split
  · exact values_report _ _ (by simp)
  · exact (bool_ends _ _ _).bind fun condition _ => values_getD hfields _

theorem values_outcomeValue {outcome : Except ToolError Value} (h : D.Ends D.values outcome) :
    D.values (outcomeValue outcome) := by
  cases outcome with
  | ok value =>
    have hvalue : D.values value := h
    exact D.closed.object (by simp [Entries.names]) (by simpa using hvalue)
  | error e =>
    have he : D.values e.toValue := values_toValue h
    exact D.closed.object (by simp [Entries.names]) (by simpa using he)

variable {reach : ι → Reach} (hreach : D.Serves reach)

include hreach

theorem attempt_stays {input : Value} (h : D.values input) : D.Stays D.values fun i => attempt (reach i) input := by
  refine (Stays.ofExcept (object_ends _ _ h)).bind fun fields hfields => ?_
  refine (Stays.ofExcept (string_ends _ _ _)).bind fun name _ => ?_
  refine (Stays.lookup name).bind fun found hfound => ?_
  cases found with
  | none => exact .pure (values_outcomeValue (values_unknownTool name))
  | some tool =>
    have hagain := hreach.again .other tool _ (hfound tool rfl) (values_getD hfields "input")
    refine hagain.capture.bind fun outcome houtcome => ?_
    cases outcome with
    | ok value => exact .pure (values_outcomeValue houtcome)
    | error e =>
      dsimp only
      split
      · exact .fail houtcome
      · exact .pure (values_outcomeValue houtcome)

theorem below_stays (name : String) {tool : Tool} (htool : D.HasTool tool) {a b : Value} (ha : D.values a)
    (hb : D.values b) : D.Stays (fun _ => True) fun i => below (reach i) name tool a b := by
  have hpair : D.values (.array [a, b]) := by
    refine D.closed.array_iff.mpr ?_
    simpa using ⟨ha, hb⟩
  refine (hreach.again .other tool _ htool hpair).bind fun answer _ => ?_
  split
  · exact .pure trivial
  · exact .fail (values_report _ _ (by simp))

theorem sort_stays {input : Value} (h : D.values input) : D.Stays D.values fun i => sort (reach i) input := by
  have hsorted (items : List Value) (hitems : ∀ item ∈ items, D.values item) :
      D.values (.array (Comparison.sort items)) :=
    D.closed.array_iff.mpr fun item hitem => hitems item (Comparison.mem_of_mem_sort hitem)
  unfold sort
  split
  · exact .pure (hsorted _ (D.closed.array_iff.mp h))
  split
  · exact .fail (values_report _ _ (by simp))
  · next array harray =>
    refine (Stays.ofExcept (array_ends _ _ (values_field h harray))).bind fun items hitems => ?_
    split
    · exact .pure (hsorted items hitems)
    · refine (Stays.ofExcept (string_ends _ _ _)).bind fun name _ => ?_
      refine (Stays.lookup name).bind fun found hfound => ?_
      cases found with
      | none => exact .fail (values_unknownTool name)
      | some tool =>
        refine (Stays.sort_of_mem fun a ha b hb => ?_).bind fun sorted hsorted => .pure ?_
        · exact below_stays hreach name (hfound tool rfl) (hitems a ha) (hitems b hb)
        · exact D.closed.array_iff.mpr fun item hitem => hitems item (hsorted item hitem)

theorem builtin_stays (tool : Builtin) {input : Value} (h : D.values input) :
    D.Stays D.values fun i => tool.act (reach i) input := by
  cases tool with
  | define => exact define_stays h
  | undefine => exact undefine_stays h
  | rebind => exact rebind_stays h
  | listTools => exact listTools_stays
  | print => exact print_stays h
  | readLine => exact readLine_stays
  | compare => exact .ofExcept ((pair_ends "compare" h).bind fun _ _ => D.values_int _)
  | equals => exact .ofExcept ((pair_ends "equals" h).bind fun _ _ => D.values_bool _)
  | sort => exact sort_stays hreach h
  | add => exact .ofExcept (add_ends h)
  | multiply => exact .ofExcept (multiply_ends h)
  | subtract => exact .ofExcept (subtract_ends h)
  | divide => exact .ofExcept (divide_ends h)
  | evaluate => exact evaluate_stays hreach h
  | choose => exact (Stays.ofExcept (branch_ends h)).bind fun _ hbranch => evaluate_stays hreach hbranch
  | attempt => exact attempt_stays hreach h

end Control

/-! ### Invocations -/

theorem inputFields_ends (parameters : List String) {input : Value} (h : D.values input) :
    D.Ends (fun constants => ∀ entry ∈ constants, D.values entry.2) (Tool.inputFields parameters input) := by
  unfold Tool.inputFields
  dsimp only
  split
  · exact List.forall_mem_singleton.mpr h
  split
  · next fields =>
    have hfields := D.closed.contents h
    split
    · refine List.forall_mem_cons.mpr ⟨h, fun entry hentry => ?_⟩
      obtain ⟨name, -, rfl⟩ := List.mem_map.mp hentry
      exact values_getD hfields name
    · exact values_report _ _ (by simp)
  · exact values_report _ _ (by simp)

theorem act_stays {reach : ι → Reach} (hreach : D.Serves reach) {tool : Tool} (htool : D.HasTool tool)
    {input : Value} (h : D.values input) : D.Stays D.values fun i => tool.act (reach i) input := by
  cases tool with
  | builtin tool => exact builtin_stays hreach tool h
  | constant value => exact .pure htool
  | defined parameters description body closure =>
    refine (Stays.ofExcept (inputFields_ends parameters h)).bind fun constants hconstants => ?_
    exact .inside htool.2 hconstants (readings_stays hreach htool.1).1
  | _ => cases htool

theorem perform_stays {reach : ι → Reach} (hreach : D.Serves reach) (starter : Starter) {tool : Tool}
    (htool : D.HasTool tool) {input : Value} (h : D.values input) :
    D.Stays D.values fun i => tool.perform starter (reach i) input := by
  have hbegan : D.HasStep (.began starter tool input) := ⟨htool, h⟩
  have hended : D.HasStep .ended := trivial
  refine (Stays.record hbegan).bind fun _ _ => ?_
  refine (act_stays hreach htool h).capture.bind fun outcome houtcome => ?_
  refine (Stays.record hended).bind fun _ _ => ?_
  refine (Stays.ofExcept houtcome).bind fun result hresult => ?_
  unfold Tool.checked
  split
  · exact .pure hresult
  · exact .fail (values_report _ _ (by simp))

/-- A call that is refused is noted. -/
theorem call_zero_stays (room limit : Nat) {tool : Tool} (htool : D.HasTool tool) {input : Value}
    (h : D.values input) : D.Stays D.values fun _ : ι => Run.call room limit 0 tool input := by
  have hrefused : D.HasStep (.refused tool input) := ⟨htool, h⟩
  exact (Stays.record hrefused).bind fun _ _ => .fail (values_report _ _ (by simp))

/-! ### Watched invocations -/

section Watch

variable (D) (alarm : Run Value)

open Classical in
/-- The invocation of a tool, watched: the alarm goes off unless the tool, its input and the state belong to
the domain, and so do its end and the state at the end. -/
noncomputable def watch (tool : Tool) (input : Value) (invocation : Run Value) : Run Value := fun world =>
  if D.HasTool tool ∧ D.values input ∧ D.HasWorld world ∧
      D.Ends D.values (invocation world).1 ∧ D.HasWorld (invocation world).2 then
    invocation world
  else alarm world

/-- Invocations at one depth, watched. -/
noncomputable def watchedAt (deeper : Tool → Value → Run Value) :
    (room : Nat) → Starter → Tool → Value → Run Value
  | 0, _, _, _ => throw Crash.nesting.toError
  | room + 1, starter, tool, input =>
    D.watch alarm tool input (tool.perform starter ⟨deeper, watchedAt deeper room⟩ input)

/-- Calls when so many further calls may nest, watched. -/
noncomputable def watchedCall (room limit : Nat) : (left : Nat) → Tool → Value → Run Value
  | 0, tool, input => Run.call room limit 0 tool input
  | left + 1, tool, input => D.watchedAt alarm (watchedCall room limit left) room .call tool input

/-- How tools are invoked where so many further calls may nest, watched. -/
noncomputable def watchedReach (room limit left : Nat) : Reach :=
  ⟨D.watchedCall alarm room limit left, D.watchedAt alarm (D.watchedCall alarm room limit left) room⟩

variable {D}

/-- In the domain a watched run does what the run does. -/
theorem Stays.watch {tool : Tool} (htool : D.HasTool tool) {input : Value} (h : D.values input)
    {invocation : Bool → Run Value} (hinvocation : D.Stays D.values invocation) :
    D.Stays D.values fun watched : Bool =>
      bif watched then D.watch alarm tool input (invocation true) else invocation false := by
  intro world hworld
  obtain ⟨outcome, after, hsame, hends, hafter⟩ := hinvocation world hworld
  refine ⟨outcome, after, fun watched => ?_, hends, hafter⟩
  cases watched with
  | false => exact hsame false
  | true =>
    have hquiet : D.HasTool tool ∧ D.values input ∧ D.HasWorld world ∧
        D.Ends D.values (invocation true world).1 ∧ D.HasWorld (invocation true world).2 := by
      rw [hsame true]
      exact ⟨htool, h, hworld, hends, hafter⟩
    exact (if_pos hquiet).trans (hsame true)

/-- Two ways to invoke tools, side by side: one that is watched and one that is not. -/
theorem watchedAt_stays {watchedDeeper deeper : Tool → Value → Run Value}
    (hdeeper : ∀ tool input, D.HasTool tool → D.values input →
      D.Stays D.values fun watched : Bool => bif watched then watchedDeeper tool input else deeper tool input)
    (room : Nat) (starter : Starter) {tool : Tool} (htool : D.HasTool tool) {input : Value} (h : D.values input) :
    D.Stays D.values fun watched : Bool =>
      bif watched then D.watchedAt alarm watchedDeeper room starter tool input
      else Run.invokeAt deeper room starter tool input := by
  induction room generalizing starter tool input with
  | zero =>
    have hnesting : D.Stays D.values fun _ : Bool => (throw Crash.nesting.toError : Run Value) :=
      .fail (values_crash _)
    refine hnesting.congr fun watched => ?_
    cases watched <;> rfl
  | succ room ih =>
    -- watched or not, the tool itself is performed in one and the same way
    let reach : Bool → Reach := fun watched =>
      ⟨fun tool input => bif watched then watchedDeeper tool input else deeper tool input,
        fun starter tool input =>
          bif watched then D.watchedAt alarm watchedDeeper room starter tool input
          else Run.invokeAt deeper room starter tool input⟩
    have hserves : D.Serves reach := ⟨hdeeper, fun starter tool input htool h => ih starter htool h⟩
    exact (perform_stays hserves starter htool h).watch alarm htool h

theorem watchedCall_stays (room limit left : Nat) {tool : Tool} (htool : D.HasTool tool) {input : Value}
    (h : D.values input) :
    D.Stays D.values fun watched : Bool =>
      bif watched then D.watchedCall alarm room limit left tool input
      else Run.call room limit left tool input := by
  induction left generalizing tool input with
  | zero =>
    refine (call_zero_stays room limit htool h).congr fun watched => ?_
    cases watched <;> rfl
  | succ left ih => exact watchedAt_stays alarm (fun tool input htool h => ih htool h) room .call htool h

theorem watchedReach_serves (room limit left : Nat) :
    D.Serves fun watched : Bool =>
      bif watched then D.watchedReach alarm room limit left else Run.reach room limit left where
  call tool input htool h := by
    refine (watchedCall_stays alarm room limit left htool h).congr fun watched => ?_
    cases watched <;> rfl
  again starter tool input htool h := by
    refine (watchedAt_stays alarm (fun tool input htool h => watchedCall_stays alarm room limit left htool h) room
      starter htool h).congr fun watched => ?_
    cases watched <;> rfl

end Watch

/-- Invocations that nobody watches do the same. -/
theorem reach_serves (room limit left : Nat) : D.Serves fun _ : ι => Run.reach room limit left :=
  (watchedReach_serves (throw Crash.nesting.toError) room limit left).comp fun _ => false

/-- What is invoked from outside stays in the domain. -/
theorem named_stays (limit : Nat) (name : String) {input : Value} (h : D.values input) :
    D.Stays D.values fun _ : ι => Run.named limit name input := by
  refine (Stays.lookup name).bind fun found hfound => ?_
  cases found with
  | none => exact .fail (values_unknownTool name)
  | some tool => exact (reach_serves Run.reentries limit limit).again .other tool input (hfound tool rfl) h

end Domain

end ToolWeave
