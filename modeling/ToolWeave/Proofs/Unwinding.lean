import ToolWeave.Proofs.Journals

/-!
# What becomes of an error

Many layers of the interpreter see an error on its way: the forms around, the tools that are in progress,
sorting in the order of a tool, and `try`.  None of them changes it.  An error that is raised ends one
invocation in progress after the other, until one is left that is of `try` and catches it, or until the run
has failed with it (`errors_unwind`).  A cancellation is never caught.

## Main definitions

* `inProgress`: the invocations that have begun in a journal and have not ended.
* `Escapes`: after an error is raised all invocations in progress end with it.
* `Caught`: they do so up to the latest one of `try`, which gives the kind and the payload of the error.

## Design notes

**Nothing happens in between.**  A journal notes every form that is run and every tool that is invoked, so
`Unwinds` is a statement about what a journal does not have.  The states in which the invocations end are
the state in which the error was raised, but for the environment, which each invocation gives back, and the
trace: nothing was written and no frame was changed.
-/

namespace ToolWeave

/-- An invocation in progress: which tool is invoked, and whether it is `try` and runs the tool that it
was asked to run. -/
structure Invocation where
  tool : Tool
  trying : Bool

/-- The invocations in progress after an event, the latest first. -/
def Event.onto : Event → List Invocation → List Invocation
  | began tool _, stack => ⟨tool, false⟩ :: stack
  | tries, top :: outer => { top with trying := true } :: outer
  | ended _ _, _ :: outer => outer
  | _, stack => stack

/-- The invocations in progress after a journal, from those in progress before. -/
def progressed (stack : List Invocation) (journal : List Event) : List Invocation :=
  journal.foldl (fun stack event => event.onto stack) stack

/-- The invocations in progress after a journal, the latest first. -/
def inProgress (journal : List Event) : List Invocation := progressed [] journal

/-- All that a journal notes is that invocations end, one for each of some, with an error and in states
the same as one. -/
structure Unwinds (e : ToolError) (world : World) (stack : List Invocation) (journal : List Event) :
    Prop where
  length_eq : journal.length = stack.length
  ended : ∀ event ∈ journal, ∃ after, event = .ended (.error e) after ∧ world.Same after

/-- After an error is raised there is nothing but the ends of all invocations in progress.  None of these
is of `try` running a tool, unless the error is a cancellation. -/
structure Escapes (e : ToolError) (world : World) (stack : List Invocation) (journal : List Event) :
    Prop where
  unwinds : Unwinds e world stack journal
  passes : ∀ invocation ∈ stack, invocation.trying = true → e.kind = .cancelled

/-- After an error is raised there is nothing but the ends of the invocations begun since the latest one of
`try` that runs a tool, and then that one ends and tells of the error. -/
structure Caught (e : ToolError) (world : World) (stack : List Invocation) (journal : List Event) :
    Prop where
  kind_ne : e.kind ≠ .cancelled
  returns : ∃ inside outer unwinding after rest,
    stack = inside ++ ⟨.builtin .attempt, true⟩ :: outer ∧
    (∀ invocation ∈ inside, invocation.trying = false) ∧
    journal = unwinding ++ .ended (.ok (Control.outcomeValue (.error e))) after :: rest ∧
    Unwinds e world inside unwinding ∧ world.Same after

/-! ### Parts of journals -/

theorem progressed_append (stack : List Invocation) (first second : List Event) :
    progressed stack (first ++ second) = progressed (progressed stack first) second :=
  List.foldl_append

theorem progressed_cons (stack : List Invocation) (event : Event) (journal : List Event) :
    progressed stack (event :: journal) = progressed (event.onto stack) journal := rfl

theorem progressed_bracket (stack : List Invocation) (first : Event) (journal : List Event) (last : Event) :
    progressed stack (first :: journal ++ [last]) = last.onto (progressed (first.onto stack) journal) := by
  rw [List.cons_append, progressed_cons, progressed_append]
  rfl

/-- What has a place in two journals one after the other has it in one of them. -/
theorem split_append {first second before after : List Event} {event : Event}
    (h : first ++ second = before ++ event :: after) :
    (∃ more, first = before ++ event :: more ∧ after = more ++ second) ∨
      ∃ since, before = first ++ since ∧ second = since ++ event :: after := by
  rcases List.append_eq_append_iff.mp h with ⟨since, hbefore, hsecond⟩ | ⟨more, hfirst, hafter⟩
  · exact .inr ⟨since, hbefore, hsecond⟩
  · cases more with
    | nil => exact .inr ⟨[], by rw [hfirst, List.append_nil, List.append_nil], hafter.symm⟩
    | cons other more =>
      cases hafter
      exact .inl ⟨more, hfirst, rfl⟩

/-- What is noted inside a bracket. -/
theorem split_bracket {first last event : Event} {journal before after : List Event}
    (h : first :: journal ++ [last] = before ++ event :: after) (hfirst : first ≠ event) (hlast : last ≠ event) :
    ∃ since more, before = first :: since ∧ journal = since ++ event :: more ∧ after = more ++ [last] := by
  cases before with
  | nil => exact absurd (List.cons.inj h).1 hfirst
  | cons other since =>
    obtain ⟨rfl, hrest⟩ := List.cons.inj h
    rcases split_append hrest with ⟨more, hjournal, hafter⟩ | ⟨between, -, hend⟩
    · exact ⟨since, more, rfl, hjournal, hafter⟩
    · cases between with
      | nil => exact absurd (List.cons.inj hend).1 hlast
      | cons next between => simp at hend

theorem split_attempt {first second last event : Event} {journal before after : List Event}
    (h : first :: second :: journal ++ [last] = before ++ event :: after) (hfirst : first ≠ event)
    (hsecond : second ≠ event) (hlast : last ≠ event) :
    ∃ since more, before = first :: second :: since ∧ journal = since ++ event :: more ∧
      after = more ++ [last] := by
  cases before with
  | nil => exact absurd (List.cons.inj h).1 hfirst
  | cons other before =>
    obtain ⟨rfl, hrest⟩ := List.cons.inj h
    obtain ⟨since, more, rfl, hin, hafter⟩ := split_bracket hrest hsecond hlast
    exact ⟨since, more, rfl, hin, hafter⟩

section Invocations

variable {e : ToolError} {world : World} {stack : List Invocation} {journal : List Event}

theorem Unwinds.append {invocation : Invocation} {after : World} (h : Unwinds e world stack journal)
    (hsame : world.Same after) :
    Unwinds e world (stack ++ [invocation]) (journal ++ [.ended (.error e) after]) where
  length_eq := by rw [List.length_append, List.length_append, h.length_eq]; rfl
  ended event hevent := by
    rcases List.mem_append.mp hevent with hevent | hevent
    · exact h.ended event hevent
    · exact ⟨after, List.mem_singleton.mp hevent, hsame⟩

theorem Escapes.nil : Escapes e world [] [] where
  unwinds := ⟨rfl, fun event hevent => by cases hevent⟩
  passes invocation hinvocation := by cases hinvocation

/-- An invocation around fails as well. -/
theorem Escapes.append {invocation : Invocation} {after : World} (h : Escapes e world stack journal)
    (hsame : world.Same after) (hpasses : invocation.trying = true → e.kind = .cancelled) :
    Escapes e world (stack ++ [invocation]) (journal ++ [.ended (.error e) after]) where
  unwinds := h.unwinds.append hsame
  passes other hother := by
    rcases List.mem_append.mp hother with hother | hother
    · exact h.passes other hother
    · rw [List.mem_singleton.mp hother]
      exact hpasses

/-- More invocations around and more events later make no difference. -/
theorem Caught.append (h : Caught e world stack journal) (around : List Invocation) (later : List Event) :
    Caught e world (stack ++ around) (journal ++ later) := by
  obtain ⟨hkind, inside, outer, unwinding, after, rest, rfl, hinside, rfl, hunwinds, hsame⟩ := h
  refine ⟨hkind, inside, outer ++ around, unwinding, after, rest ++ later, ?_, hinside, ?_, hunwinds, hsame⟩
  · rw [List.append_assoc, List.cons_append]
  · rw [List.append_assoc, List.cons_append]

/-- The invocation of `try` around catches what escapes from the tool it runs. -/
theorem Escapes.caught {after : World} (h : Escapes e world stack journal) (hkind : e.kind ≠ .cancelled)
    (hsame : world.Same after) :
    Caught e world (stack ++ [⟨.builtin .attempt, true⟩])
      (journal ++ [.ended (.ok (Control.outcomeValue (.error e))) after]) := by
  refine ⟨hkind, stack, [], journal, after, [], rfl, fun invocation hinvocation => ?_, rfl, h.unwinds, hsame⟩
  rw [← Bool.not_eq_true]
  exact fun htrying => hkind (h.passes invocation hinvocation htrying)

end Invocations

/-! ### Stories -/

namespace Story

variable {fate : Option (ToolError × World)} {journal : List Event}

/-- A story leaves the invocations in progress as it found them. -/
theorem progressed_eq (h : Story fate journal) (stack : List Invocation) : progressed stack journal = stack := by
  induction h generalizing stack with
  | nil => rfl
  | form f => rfl
  | raised e world => rfl
  | append _ _ ihfirst ihsecond => rw [progressed_append, ihfirst, ihsecond]
  | gave tool input value after _ ih => rw [progressed_bracket, ih]; rfl
  | failed tool input _ _ ih => rw [progressed_bracket, ih]; rfl
  | tried input value after _ ih => rw [progressed_bracket, progressed_cons, ih]; rfl
  | caught input _ _ _ ih => rw [progressed_bracket, progressed_cons, ih]; rfl
  | cancelled input _ _ _ ih => rw [progressed_bracket, progressed_cons, ih]; rfl

/-- Whatever is raised in a story is either caught inside, or it is the fate of the story and escapes. -/
theorem meets (h : Story fate journal) {before after : List Event} {e : ToolError} {world : World}
    (hjournal : journal = before ++ .raised e world :: after) (stack : List Invocation) :
    ∃ inner, progressed stack before = inner ++ stack ∧
      (Caught e world inner after ∨ fate = some (e, world) ∧ Escapes e world inner after) := by
  induction h generalizing before after stack with
  | nil => simp at hjournal
  | form f =>
    cases before with
    | nil => simp at hjournal
    | cons first before => simp at hjournal
  | raised other raisedIn =>
    cases before with
    | nil =>
      cases hjournal
      exact ⟨[], rfl, .inr ⟨rfl, .nil⟩⟩
    | cons first before => simp at hjournal
  | append hfirst hsecond ihfirst ihsecond =>
    -- What comes first has no fate, so what was raised in it was caught in it.
    rcases split_append hjournal with ⟨more, hin, rfl⟩ | ⟨since, rfl, hin⟩
    · obtain ⟨inner, hinner, hcaught | ⟨hfate, -⟩⟩ := ihfirst hin stack
      · exact ⟨inner, hinner, .inl (by simpa using hcaught.append [] _)⟩
      · cases hfate
    · rw [progressed_append, hfirst.progressed_eq]
      exact ihsecond hin stack
  | gave tool input value ended h ih =>
    obtain ⟨since, more, rfl, hin, rfl⟩ := split_bracket hjournal (by simp) (by simp)
    obtain ⟨inner, hinner, hcaught | ⟨hfate, -⟩⟩ := ih hin (⟨tool, false⟩ :: stack)
    · exact ⟨inner ++ [_], hinner.trans (List.append_cons ..), .inl (hcaught.append _ _)⟩
    · cases hfate
  | failed tool input h hsame ih =>
    obtain ⟨since, more, rfl, hin, rfl⟩ := split_bracket hjournal (by simp) (by simp)
    obtain ⟨inner, hinner, hmet⟩ := ih hin (⟨tool, false⟩ :: stack)
    refine ⟨inner ++ [_], hinner.trans (List.append_cons ..), ?_⟩
    rcases hmet with hcaught | ⟨hfate, hescapes⟩
    · exact .inl (hcaught.append _ _)
    · cases hfate
      exact .inr ⟨rfl, hescapes.append hsame fun htrying => by cases htrying⟩
  | tried input value ended h ih =>
    obtain ⟨since, more, rfl, hin, rfl⟩ := split_attempt hjournal (by simp) (by simp) (by simp)
    obtain ⟨inner, hinner, hcaught | ⟨hfate, -⟩⟩ := ih hin (⟨.builtin .attempt, true⟩ :: stack)
    · exact ⟨inner ++ [_], hinner.trans (List.append_cons ..), .inl (hcaught.append _ _)⟩
    · cases hfate
  | caught input h hkind hsame ih =>
    obtain ⟨since, more, rfl, hin, rfl⟩ := split_attempt hjournal (by simp) (by simp) (by simp)
    obtain ⟨inner, hinner, hmet⟩ := ih hin (⟨.builtin .attempt, true⟩ :: stack)
    refine ⟨inner ++ [_], hinner.trans (List.append_cons ..), .inl ?_⟩
    rcases hmet with hcaught | ⟨hfate, hescapes⟩
    · exact hcaught.append _ _
    · cases hfate
      exact hescapes.caught hkind hsame
  | cancelled input h hkind hsame ih =>
    obtain ⟨since, more, rfl, hin, rfl⟩ := split_attempt hjournal (by simp) (by simp) (by simp)
    obtain ⟨inner, hinner, hmet⟩ := ih hin (⟨.builtin .attempt, true⟩ :: stack)
    refine ⟨inner ++ [_], hinner.trans (List.append_cons ..), ?_⟩
    rcases hmet with hcaught | ⟨hfate, hescapes⟩
    · exact .inl (hcaught.append _ _)
    · cases hfate
      exact .inr ⟨rfl, hescapes.append hsame fun _ => hkind⟩

/-- The fate of a story was raised in it, and escapes. -/
theorem exists_escapes (h : Story fate journal) {e : ToolError} {world : World} (hfate : fate = some (e, world))
    (stack : List Invocation) :
    ∃ before after inner, journal = before ++ .raised e world :: after ∧
      progressed stack before = inner ++ stack ∧ Escapes e world inner after := by
  induction h generalizing stack with
  | nil => cases hfate
  | form f => cases hfate
  | raised other raisedIn =>
    cases hfate
    exact ⟨[], [], [], rfl, rfl, .nil⟩
  | append hfirst _ _ ih =>
    obtain ⟨before, after, inner, rfl, hinner, hescapes⟩ := ih hfate stack
    refine ⟨_, after, inner, (List.append_assoc ..).symm, ?_, hescapes⟩
    rw [progressed_append, hfirst.progressed_eq]
    exact hinner
  | gave => cases hfate
  | failed tool input _ hsame ih =>
    cases hfate
    obtain ⟨before, after, inner, rfl, hinner, hescapes⟩ := ih rfl (⟨tool, false⟩ :: stack)
    exact ⟨.began tool input :: before, _, _, List.append_assoc (.began tool input :: before) (_ :: after) _,
      hinner.trans (List.append_cons ..), hescapes.append hsame fun htrying => by cases htrying⟩
  | tried => cases hfate
  | caught => cases hfate
  | cancelled input _ hkind hsame ih =>
    cases hfate
    obtain ⟨before, after, inner, rfl, hinner, hescapes⟩ := ih rfl (⟨.builtin .attempt, true⟩ :: stack)
    exact ⟨.began (.builtin .attempt) input :: .tries :: before, _, _,
      List.append_assoc (.began (.builtin .attempt) input :: .tries :: before) (_ :: after) _,
      hinner.trans (List.append_cons ..), hescapes.append hsame fun _ => hkind⟩

end Story

/-! ### Programs -/

theorem Accounts.exists_story {α : Type} {journal : List Event} {outcome : Except ToolError α} {after : World}
    (h : Accounts journal outcome after) :
    ∃ fate, Story fate journal ∧ ∀ e raisedIn, fate = some (e, raisedIn) →
      outcome = .error e ∧ raisedIn.Same after := by
  cases outcome with
  | ok a => exact ⟨none, h, fun _ _ hfate => by cases hfate⟩
  | error e =>
    obtain ⟨raisedIn, hstory, hsame⟩ := h
    refine ⟨some (e, raisedIn), hstory, fun _ _ hfate => ?_⟩
    cases hfate
    exact ⟨rfl, hsame⟩

/-- **What becomes of an error.**  Wherever an error is raised while a program is run, one of two things
is the case.  Either the run fails with this very error, or it is not a cancellation and the invocation of
`try` that was begun last and runs a tool gives the kind and the payload of the error as its value.  Until
then all that happens is that invocations end: no form is run, no tool is invoked, and the state is the one
in which the error was raised.  A run fails only in this way. -/
theorem errors_unwind (room limit left : Nat) (program : Value) (world : World) :
    let told := Journaled.evaluate (Journaled.reach room limit left) program world
    let done := Run.evaluate (Run.reach room limit left) program world
    told.1 = done ∧
      (∀ before e raisedIn after, told.2 = before ++ .raised e raisedIn :: after →
        (done.1 = .error e ∧ raisedIn.Same done.2 ∧ Escapes e raisedIn (inProgress before) after) ∨
          Caught e raisedIn (inProgress before) after) ∧
      (∀ e, done.1 = .error e → ∃ before raisedIn after,
        told.2 = before ++ .raised e raisedIn :: after ∧ raisedIn.Same done.2 ∧
          Escapes e raisedIn (inProgress before) after) := by
  have htells := Tells.evaluate (Tells.invocations room limit left) program
  intro told done
  have haccounts : Accounts told.2 done.1 done.2 := htells.accounts world
  refine ⟨htells.run_eq world, ?_, ?_⟩
  · intro before e raisedIn after hjournal
    obtain ⟨fate, hstory, hfate⟩ := haccounts.exists_story
    obtain ⟨inner, hinner, hmet⟩ := hstory.meets hjournal []
    rw [List.append_nil] at hinner
    rw [← hinner] at hmet
    rcases hmet with hcaught | ⟨hfails, hescapes⟩
    · exact .inr hcaught
    · obtain ⟨hdone, hsame⟩ := hfate e raisedIn hfails
      exact .inl ⟨hdone, hsame, hescapes⟩
  · intro e hfails
    rw [hfails] at haccounts
    obtain ⟨raisedIn, hstory, hsame⟩ := haccounts
    obtain ⟨before, after, inner, hjournal, hinner, hescapes⟩ := hstory.exists_escapes rfl []
    rw [List.append_nil] at hinner
    rw [← hinner] at hescapes
    exact ⟨before, raisedIn, after, hjournal, hsame, hescapes⟩

/-- A program in which `try` runs a tool that does not exist. -/
def attemptUnknown : Value :=
  .object [("call", .string "try"), ("input", .object [("quote", .object [("tool", .string "nope")])])]

/-- The error is caught. -/
theorem errors_unwind_caught :
    ∃ before raisedIn after,
      (Journaled.evaluate (Journaled.reach 5 5 5) attemptUnknown World.plain).2 =
        before ++ .raised (.unknownTool "nope") raisedIn :: after ∧
      Caught (.unknownTool "nope") raisedIn (inProgress before) after := by
  obtain ⟨before, raisedIn, after, hraised⟩ : ∃ before raisedIn after,
      (Journaled.evaluate (Journaled.reach 5 5 5) attemptUnknown World.plain).2 =
        before ++ .raised (.unknownTool "nope") raisedIn :: after :=
    ⟨[.form _, .form _, .began _ _, .tries], _, [.ended _ _], rfl⟩
  refine ⟨before, raisedIn, after, hraised, ?_⟩
  refine ((errors_unwind 5 5 5 attemptUnknown World.plain).2.1 _ _ _ _ hraised).resolve_left fun hfails => ?_
  have hdone := congrArg Except.isOk hfails.1
  revert hdone
  decide +kernel

end ToolWeave
