import Mathlib.Logic.Relation
import ToolWeave.Proofs.Actions
import ToolWeave.Proofs.StableSort
import ToolWeave.Proofs.TotalOrder

/-!
# What the tool that sorts gives

Given an array, the tool that sorts gives what is stably sorted in the order of values; and given a tool that
compares, what is stably sorted in the order of its answers.  A comparison that fails, or that is answered
with something else than a number, is the last one, and its failure is that of the whole.  All this is
`Control.sorts_stably`.

## Main definitions

* `Run.Yields`: from some states on, a computation always gives one value.
* `Control.Compares`: a tool is asked about two of some items.
* `Control.Stops`: how an answer stops the sorting.
-/

namespace ToolWeave

/-! ### The order of values -/

namespace Value

/-- JSON values are preordered. -/
theorem preordered {items : List Value} (h : ∀ item ∈ items, item.isFinite = true) :
    Sorting.Preordered order items where
  eq_swap {a b} := order_swap b.1 a.1
  isLE_trans {a b c} := (order_coherent (h a.1 a.2) (h b.1 b.2) (h c.1 c.2)).isLE

/-- An order is the sign of the number that stands for it. -/
theorem compare_sign (o : Ordering) : compare (Number.int (sign o)).exact 0 = o := by cases o <;> rfl

end Value

/-- The sign of a number tells how it compares with zero. -/
theorem Number.order_zero {n : Number} (h : n.isFinite = true) : n.order (.int 0) = compare n.exact 0 :=
  Number.order_eq_compare h rfl

/-! ### Answers to all comparisons -/

namespace Run

variable {α β : Type} {invariant : World → Prop}

/-- From every state of some kind a computation gives one value, in a state of that kind. -/
def Yields (invariant : World → Prop) (x : Run α) (a : α) : Prop :=
  ∀ before, invariant before → ∃ after, x before = (.ok a, after) ∧ invariant after

theorem Yields.bind {x : Run α} {f : α → Run β} {a : α} {b : β} (hx : Yields invariant x a)
    (hf : Yields invariant (f a) b) : Yields invariant (x >>= f) b := by
  intro before hbefore
  obtain ⟨between, hfirst, hbetween⟩ := hx before hbefore
  obtain ⟨after, hrest, hafter⟩ := hf between hbetween
  exact ⟨after, by rw [bind_of_ok hfirst, hrest], hafter⟩

theorem Yields.pure (a : α) : Yields invariant (Pure.pure a) a := fun before hbefore => ⟨before, rfl, hbefore⟩

/-- Where all questions are answered as an order does, sorting is sorting in that order. -/
theorem Yields.sort {below : Value → Value → Run Bool} {items : List Value} {cmp : Value → Value → Ordering}
    (h : ∀ a ∈ items, ∀ b ∈ items, Yields invariant (below a b) (cmp a b == .lt)) :
    Yields invariant (Sorting.sort below items) (Id.run (Sorting.sort (Sorting.strictly cmp) items)) := by
  rw [Sorting.sort_attach below, Sorting.sort_attach (Sorting.strictly cmp), map_eq_pure_bind]
  refine Yields.bind ?_ (.pure _)
  exact @Sorting.sort_related Run Id _ _ Unit {item // item ∈ items} (fun x y => Yields invariant (x ()) (Id.run y))
    .pure (fun hx hf => hx.bind (hf _)) (fun _ a b => below a b) (fun a b => Sorting.strictly cmp a b)
    (fun a b => h a.1 a.2 b.1 b.2) items.attach

end Run

namespace Control

/-! ### Comparisons one after the other -/

section Comparisons

variable (reach : Reach) (name : String) (tool : Tool) (items : List Value)

/-- A tool is asked about two of some items. -/
def Compares (before : World) (answer : Except ToolError Value) (after : World) : Prop :=
  ∃ a ∈ items, ∃ b ∈ items, reach.again .other tool (.array [a, b]) before = (answer, after)

/-- A tool is asked any number of times, and every time it answers with a number. -/
def ComparesAll : World → World → Prop :=
  Relation.ReflTransGen fun before after => ∃ n, Compares reach tool items before (.ok (.number n)) after

/-- While an invariant holds, a tool answers comparisons of items with numbers that have the signs of an
order. -/
def AnswersAs (cmp : Value → Value → Ordering) (invariant : World → Prop) : Prop :=
  ∀ a ∈ items, ∀ b ∈ items, ∀ before, invariant before →
    ∃ n after, reach.again .other tool (.array [a, b]) before = (.ok (.number n), after) ∧ invariant after ∧
      n.isFinite = true ∧ compare n.exact 0 = cmp a b

/-- How an answer of a tool stops the sorting. -/
inductive Stops : Except ToolError Value → ToolError → Prop
  | failed (e : ToolError) : Stops (.error e) e
  | noNumber (answer : Value) (h : ∀ n, answer ≠ .number n) :
    Stops (.ok answer) (.toolFailure "compare tool must return a number"
      [("tool", .string name), ("got", .string answer.kind.name)])

variable {reach name tool items}

theorem below_of_number (name : String) {a b : Value} {before after : World} {n : Number}
    (h : reach.again .other tool (.array [a, b]) before = (.ok (.number n), after)) :
    below reach name tool a b before = (.ok (n.order (.int 0) == .lt), after) := by
  unfold below
  rw [Run.bind_of_ok h]
  rfl

theorem below_of_stops {a b : Value} {before after : World} {answer : Except ToolError Value} {e : ToolError}
    (h : reach.again .other tool (.array [a, b]) before = (answer, after)) (hstops : Stops name answer e) :
    below reach name tool a b before = (.error e, after) := by
  unfold below
  cases hstops with
  | failed e => rw [Run.bind_of_error h]
  | noNumber answer hanswer =>
    rw [Run.bind_of_ok h]
    cases answer with
    | number n => exact absurd rfl (hanswer n)
    | _ => rfl

/-- An answer is a number, or it stops the sorting. -/
theorem number_or_stops (name : String) (answer : Except ToolError Value) :
    (∃ n, answer = .ok (.number n)) ∨ ∃ e, Stops name answer e := by
  rcases answer with e | answer
  · exact .inr ⟨e, .failed e⟩
  · by_cases hnumber : ∃ n, answer = .number n
    · obtain ⟨n, rfl⟩ := hnumber
      exact .inl ⟨n, rfl⟩
    · exact .inr ⟨_, .noNumber answer fun n heq => hnumber ⟨n, heq⟩⟩

variable (reach name tool items) in
/-- A computation is nothing but comparisons: it ends with a value if all were answered with numbers, and
else with the failure of the first that was not, in the state which that one left. -/
def Consults {α : Type} (x : Run α) : Prop :=
  ∀ world, (∃ a after, x world = (.ok a, after) ∧ ComparesAll reach tool items world after) ∨
    ∃ before answer e after, ComparesAll reach tool items world before ∧
      Compares reach tool items before answer after ∧ Stops name answer e ∧ x world = (.error e, after)

theorem Consults.pure {α : Type} (a : α) : Consults reach name tool items (Pure.pure a) :=
  fun world => .inl ⟨a, world, rfl, .refl⟩

theorem Consults.bind {α β : Type} {x : Run α} {f : α → Run β} (hx : Consults reach name tool items x)
    (hf : ∀ a, Consults reach name tool items (f a)) : Consults reach name tool items (x >>= f) := by
  intro world
  rcases hx world with ⟨a, between, hfirst, hall⟩ | ⟨before, answer, e, after, hall, hlast, hstops, hends⟩
  · rw [Run.bind_of_ok hfirst]
    rcases hf a between with ⟨b, after, hrest, hmore⟩ | ⟨before, answer, e, after, hmore, hlast, hstops, hends⟩
    · exact .inl ⟨b, after, hrest, hall.trans hmore⟩
    · exact .inr ⟨before, answer, e, after, hall.trans hmore, hlast, hstops, hends⟩
  · exact .inr ⟨before, answer, e, after, hall, hlast, hstops, Run.bind_of_error hends f⟩

theorem below_consults {a b : Value} (ha : a ∈ items) (hb : b ∈ items) :
    Consults reach name tool items (below reach name tool a b) := by
  intro world
  have hcompares : Compares reach tool items world (reach.again .other tool (.array [a, b]) world).1
      (reach.again .other tool (.array [a, b]) world).2 := ⟨a, ha, b, hb, rfl⟩
  rcases number_or_stops name (reach.again .other tool (.array [a, b]) world).1 with ⟨n, hn⟩ | ⟨e, hstops⟩
  · have hends := below_of_number name (Prod.ext hn rfl)
    exact .inl ⟨_, _, hends, .single ⟨n, hn ▸ hcompares⟩⟩
  · exact .inr ⟨world, _, e, _, .refl, hcompares, hstops, below_of_stops rfl hstops⟩

/-- Sorting is nothing but comparisons. -/
theorem sort_consults : Consults reach name tool items (Sorting.sort (below reach name tool) items) := by
  rw [Sorting.sort_attach, map_eq_pure_bind]
  refine Consults.bind ?_ fun _ => .pure _
  exact @Sorting.sort_closed Run _ Unit {item // item ∈ items} (fun x => Consults reach name tool items (x ()))
    .pure (fun hx hf => hx.bind hf) (fun _ a b => below reach name tool a b)
    (fun a b => below_consults a.2 b.2) items.attach

end Comparisons

/-! ### The tool -/

section Tool

variable {reach : Reach} {input : Value} {items : List Value} {world : World}

/-- What has a field is an object. -/
theorem exists_fields {name : String} {content : Value} (h : input.field? name = some content) :
    ∃ fields, input = .object fields := by
  cases input with
  | object fields => exact ⟨fields, rfl⟩
  | _ => cases h

/-- Without a comparator the tool sorts in the order of values. -/
theorem sort_plain (harray : input.field? "array" = some (.array items))
    (hplain : (input.field? "compare_tool").bind Value.nonNull? = none) :
    sort reach input world = (.ok (.array (Comparison.sort items)), world) := by
  obtain ⟨fields, rfl⟩ := exists_fields harray
  unfold sort
  simp only [harray, hplain, Expect.array]
  rfl

/-- An input asks to sort some items by the answers of the tool of a name. -/
structure SortsBy (input : Value) (items : List Value) (name : String) (tool : Tool) (world : World) : Prop where
  array : input.field? "array" = some (.array items)
  comparator : input.field? "compare_tool" = some (.string name)
  bound : world.lookup name = some tool

section SortsBy

variable {name : String} {tool : Tool}

theorem SortsBy.sort_eq (h : SortsBy input items name tool world) (reach : Reach) :
    sort reach input world =
      ((Sorting.sort (below reach name tool) items world).1.map .array,
        (Sorting.sort (below reach name tool) items world).2) := by
  obtain ⟨fields, rfl⟩ := exists_fields h.array
  unfold sort
  simp only [h.array, h.comparator, Expect.array, Option.bind_some, Value.nonNull?, Expect.string]
  rw [Run.bind_of_ok (Run.ofExcept_apply _ _), Run.bind_of_ok (Run.ofExcept_apply _ _),
    Run.lookup_bind_of_some h.bound]
  exact Run.map_apply _ _ world

/-- If the tool answers as an order does, its answers sort in that order. -/
theorem SortsBy.agrees (h : SortsBy input items name tool world) {cmp : Value → Value → Ordering}
    {invariant : World → Prop} (hanswers : AnswersAs reach tool items cmp invariant) (hworld : invariant world) :
    ∃ after, sort reach input world = (.ok (.array (Id.run (Sorting.sort (Sorting.strictly cmp) items))), after) ∧
      invariant after := by
  have hyields : ∀ a ∈ items, ∀ b ∈ items, Run.Yields invariant (below reach name tool a b) (cmp a b == .lt) := by
    intro a ha b hb before hbefore
    obtain ⟨n, after, hanswer, hafter, hfinite, hsign⟩ := hanswers a ha b hb before hbefore
    refine ⟨after, ?_, hafter⟩
    rw [below_of_number name hanswer, Number.order_zero hfinite, hsign]
  obtain ⟨after, hsorted, hafter⟩ := Run.Yields.sort hyields world hworld
  refine ⟨after, ?_, hafter⟩
  rw [h.sort_eq, hsorted]
  rfl

/-- The tool makes one comparison after the other until one of them stops it. -/
theorem SortsBy.consults (h : SortsBy input items name tool world) (reach : Reach) :
    (∃ sorted after, sort reach input world = (.ok (.array sorted), after) ∧
      ComparesAll reach tool items world after) ∨
    ∃ before answer e after, ComparesAll reach tool items world before ∧
      Compares reach tool items before answer after ∧ Stops name answer e ∧
      sort reach input world = (.error e, after) := by
  rw [h.sort_eq]
  rcases sort_consults world with ⟨sorted, after, hends, hall⟩ |
      ⟨before, answer, e, after, hall, hlast, hstops, hends⟩
  · exact .inl ⟨sorted, after, by rw [hends]; rfl, hall⟩
  · exact .inr ⟨before, answer, e, after, hall, hlast, hstops, by rw [hends]; rfl⟩

end SortsBy

/-- The tool that compares answers as the order of values does, and leaves nothing behind but its trace. -/
theorem compare_answersAs (deeper : Tool → Value → Run Value) (room : Nat) (items : List Value) (world : World) :
    AnswersAs ⟨deeper, Run.invokeAt deeper (room + 1)⟩ (.builtin .compare) items Value.order fun state =>
      ∃ trace, state = { world with trace := trace } := by
  rintro a - b - _ ⟨trace, rfl⟩
  let left := Step.ended :: .began .other (.builtin .compare) (.array [a, b]) :: trace
  refine ⟨.int (Value.sign (a.order b)), { world with trace := left }, ?_, ⟨left, rfl⟩, rfl, Value.compare_sign _⟩
  show Run.invokeAt deeper (room + 1) .other (.builtin .compare) (.array [a, b]) _ = _
  rw [Run.invokeAt, Tool.perform_apply]
  rfl

end Tool

/-- **Sorting gives what is stably sorted.**  An array comes back in the order of values, whether it is the
input itself, a field of it without a comparator, or a field of it with `compare` for a comparator.  With a
comparator that answers all comparisons as a total preorder of the items, it comes back in that order.  And
whatever the comparator, the tool makes one comparison after the other until all is sorted, or until one of
them fails or is answered with something else than a number, which is the last one then and decides the
failure. -/
theorem sorts_stably :
    (∀ items : List Value, (∀ item ∈ items, item.isFinite = true) →
      ∃ sorted, (∀ other, Sorting.StablySorted Value.order items other ↔ other = sorted) ∧
        (∀ reach world, Builtin.act reach .sort (.array items) world = (.ok (.array sorted), world)) ∧
        (∀ reach world input, input.field? "array" = some (.array items) →
          (input.field? "compare_tool").bind Value.nonNull? = none →
          Builtin.act reach .sort input world = (.ok (.array sorted), world)) ∧
        ∀ deeper room world input name, SortsBy input items name (.builtin .compare) world →
          ∃ trace, Builtin.act ⟨deeper, Run.invokeAt deeper (room + 1)⟩ .sort input world =
            (.ok (.array sorted), { world with trace := trace })) ∧
    (∀ reach input items name tool world, SortsBy input items name tool world →
      ∀ cmp invariant, Sorting.Preordered cmp items → AnswersAs reach tool items cmp invariant → invariant world →
      ∃ sorted after, Builtin.act reach .sort input world = (.ok (.array sorted), after) ∧
        invariant after ∧ ∀ other, Sorting.StablySorted cmp items other ↔ other = sorted) ∧
    ∀ reach input items name tool world, SortsBy input items name tool world →
      (∃ sorted after, Builtin.act reach .sort input world = (.ok (.array sorted), after) ∧
        ComparesAll reach tool items world after) ∨
      ∃ before answer e after, ComparesAll reach tool items world before ∧
        Compares reach tool items before answer after ∧ Stops name answer e ∧
        Builtin.act reach .sort input world = (.error e, after) := by
  refine ⟨fun items hitems => ⟨Comparison.sort items, ?_, ?_, ?_, ?_⟩, ?_, ?_⟩
  · exact Sorting.sort_stablySorted (Value.preordered hitems)
  · intro reach world
    rfl
  · intro reach world input harray hplain
    exact sort_plain harray hplain
  · intro deeper room world input name h
    obtain ⟨after, hends, trace, rfl⟩ := h.agrees (compare_answersAs deeper room items world) ⟨world.trace, rfl⟩
    exact ⟨trace, hends⟩
  · intro reach input items name tool world h cmp invariant hcmp hanswers hworld
    obtain ⟨after, hends, hafter⟩ := h.agrees hanswers hworld
    exact ⟨_, after, hends, hafter, Sorting.sort_stablySorted hcmp⟩
  · intro reach input items name tool world h
    exact h.consults reach

/-- On integers the tool that subtracts answers as the order of values does. -/
theorem subtract_answersAs (deeper : Tool → Value → Run Value) (room : Nat) (integers : List Int) :
    AnswersAs ⟨deeper, Run.invokeAt deeper (room + 1)⟩ (.builtin .subtract) (integers.map .int) Value.order
      fun _ => True := by
  intro a ha b hb before _
  obtain ⟨m, -, rfl⟩ := List.mem_map.mp ha
  obtain ⟨n, -, rfl⟩ := List.mem_map.mp hb
  refine ⟨.int (m - n), _, rfl, trivial, rfl, ?_⟩
  calc compare (Number.int (m - n)).exact 0
    _ = compare ((m : ℚ) - n) 0 := by rw [Number.exact, Int.cast_sub]
    _ = compare (m : ℚ) n := by rw [← cmp_eq_compare, ← cmp_eq_compare, cmp_sub_zero]
    _ = (Number.int m).order (.int n) := (Number.order_eq_compare (m := .int m) (n := .int n) rfl rfl).symm

/-- Items out of order. -/
def sampleItems : List Value := [3, 1, 2].map .int

/-- An input that asks to sort them with a comparator. -/
def sampleInput (name : String) : Value := .object [("array", .array sampleItems), ("compare_tool", .string name)]

/-- The theorem at these items, in the order of values, by differences, and with a comparator that gives no
numbers. -/
theorem sorts_stably_sample :
    (∃ sorted, Sorting.StablySorted Value.order sampleItems sorted ∧
      (Builtin.act (Run.top 64) .sort (.array sampleItems) World.plain).1 = .ok (.array sorted) ∧
      (Builtin.act (Run.top 64) .sort (sampleInput "compare") World.plain).1 = .ok (.array sorted) ∧
      (Builtin.act (Run.top 64) .sort (sampleInput "subtract") World.plain).1 = .ok (.array sorted)) ∧
    ∃ before answer e after, ComparesAll (Run.top 64) (.builtin .equals) sampleItems World.plain before ∧
      Compares (Run.top 64) (.builtin .equals) sampleItems before answer after ∧ Stops "equals" answer e ∧
      Builtin.act (Run.top 64) .sort (sampleInput "equals") World.plain = (.error e, after) := by
  obtain ⟨hvalues, hpreorder, hstops⟩ := sorts_stably
  have hitems : ∀ item ∈ sampleItems, item.isFinite = true := by decide
  have hcompare : SortsBy (sampleInput "compare") sampleItems "compare" (.builtin .compare) World.plain :=
    ⟨rfl, rfl, rfl⟩
  have hsubtract : SortsBy (sampleInput "subtract") sampleItems "subtract" (.builtin .subtract) World.plain :=
    ⟨rfl, rfl, rfl⟩
  have hequals : SortsBy (sampleInput "equals") sampleItems "equals" (.builtin .equals) World.plain :=
    ⟨rfl, rfl, rfl⟩
  obtain ⟨sorted, hsorted, harray, -, hnamed⟩ := hvalues sampleItems hitems
  obtain ⟨trace, htool⟩ := hnamed _ 999 _ _ _ hcompare
  obtain ⟨other, after, hother, -, hdetermined⟩ := hpreorder (Run.top 64) _ _ _ _ _ hsubtract _ _
    (Value.preordered hitems) (subtract_answersAs _ 999 [3, 1, 2]) trivial
  obtain rfl := (hsorted other).mp ((hdetermined other).mpr rfl)
  refine ⟨⟨other, (hsorted other).mpr rfl, ?_, ?_, ?_⟩, ?_⟩
  · rw [harray]
  · exact congrArg Prod.fst htool
  · rw [hother]
  · rcases hstops (Run.top 64) _ _ _ _ _ hequals with ⟨sorted, after, hends, -⟩ | hends
    · have hfails : (Builtin.act (Run.top 64) .sort (sampleInput "equals") World.plain).1.isOk = false := rfl
      rw [hends] at hfails
      cases hfails
    · exact hends

end Control

end ToolWeave
