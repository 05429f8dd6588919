import ToolWeave.Proofs.Laws

/-!
# What runs do to the console

Programs print and read, and that is all that they do to the text streams: what has been printed stays, and
what has been read is gone (`Run.program_console`, `Run.named_console`).

## Main definitions

* `Console.Later`: the streams at a later time.
-/

namespace ToolWeave

/-! ### Streams -/

/-- The streams at a later time: more has been printed and more has been read. -/
structure Console.Later (before after : Console) : Prop where
  printed : ∃ own, after.printed = before.printed ++ own
  input : ∃ read, before.input = read ++ after.input

namespace Console.Later

variable {first second third : Console}

theorem refl (console : Console) : Later console console where
  printed := ⟨"", String.append_empty.symm⟩
  input := ⟨[], rfl⟩

theorem trans (h : Later first second) (h' : Later second third) : Later first third where
  printed := by
    obtain ⟨own, hown⟩ := h.printed
    obtain ⟨more, hmore⟩ := h'.printed
    exact ⟨own ++ more, by rw [hmore, hown, String.append_assoc]⟩
  input := by
    obtain ⟨read, hread⟩ := h.input
    obtain ⟨more, hmore⟩ := h'.input
    exact ⟨read ++ more, by rw [hread, hmore, List.append_assoc]⟩

theorem of_eq (h : second = first) : Later first second := h ▸ refl first

theorem length_le (h : Later first second) : second.input.length ≤ first.input.length := by
  obtain ⟨read, hread⟩ := h.input
  rw [hread, List.length_append]
  exact Nat.le_add_left _ _

end Console.Later

namespace ConsoleTools

/-- A line and what comes after it make up what is read from. -/
theorem cutLine_append (cs : List Char) : (cutLine cs).1 ++ (cutLine cs).2 = cs := by
  have hline : cs.takeWhile (· ≠ '\n') ++ cs.drop (cs.takeWhile (· ≠ '\n')).length = cs :=
    List.prefix_iff_eq_append.mp (List.takeWhile_prefix _)
  unfold cutLine
  dsimp only
  split
  · next c rest hrest =>
    rw [hrest] at hline
    rw [List.append_assoc]
    exact hline
  · next hrest =>
    rw [hrest] at hline
    exact hline

/-- Of characters at least one is taken as a line. -/
theorem cutLine_length_lt {cs : List Char} (h : cs ≠ []) : (cutLine cs).2.length < cs.length := by
  have hall := congrArg List.length (cutLine_append cs)
  rw [List.length_append] at hall
  have hline : (cutLine cs).1 ≠ [] := by
    intro hnil
    unfold cutLine at hnil
    dsimp only at hnil
    split at hnil
    · simp at hnil
    · next hrest =>
      change cs.takeWhile _ = [] at hnil
      rw [hnil] at hrest
      exact h hrest
  have hpos := List.length_pos_iff.mpr hline
  omega

end ConsoleTools

/-! ### Runs -/

/-- What takes no part in printing and reading leaves the streams alone. -/
theorem Run.Own.console {α : Type} {action : Run α} (haction : Run.Own action) (world : World) :
    world.console.Later (action world).2.console := by
  cases haction with
  | checkScopes =>
    rw [Run.checkScopes_apply]
    exact .refl _
  | define input =>
    rcases Bindings.define_cases input with ⟨e, h⟩ | ⟨request, h⟩
    · rw [h]
      exact .refl _
    · rw [h]
      exact .refl _
  | undefine input =>
    rcases Bindings.undefine_cases input with ⟨e, h⟩ | ⟨name, h⟩
    · rw [h]
      exact .refl _
    · rw [h]
      exact .refl _
  | rebind input =>
    rcases Bindings.rebind_cases input with ⟨e, h⟩ | ⟨name, source, h⟩
    · rw [h]
      exact .refl _
    · rw [h]
      split <;> exact .refl _
  | listTools => exact .refl _
  | print input =>
    rcases ConsoleTools.print_cases input with ⟨e, h⟩ | ⟨text, h⟩
    · rw [h]
      exact .refl _
    · rw [h]
      split
      · exact ⟨⟨text ++ "\n", String.append_assoc ..⟩, ⟨[], rfl⟩⟩
      · exact .refl _
  | readLine =>
    rw [ConsoleTools.readLine_apply]
    split
    · exact ⟨⟨"", String.append_empty.symm⟩, _, (ConsoleTools.cutLine_append _).symm⟩
    · exact .refl _

theorem Run.Foreign.console_eq {α : Type} {action : Run α} (haction : Run.Foreign action) (world : World) :
    (action world).2.console = world.console := by
  cases haction with
  | command c input =>
    obtain ⟨now, host, hafter⟩ := c.run_state input world
    rw [hafter]
  | remote server name input =>
    obtain ⟨now, servers, hafter⟩ := Remote.call_state server name input world
    rw [hafter]
  | _ => rfl

theorem Run.Simple.console {α : Type} {action : Run α} (haction : Run.Simple action) (world : World) :
    world.console.Later (action world).2.console := by
  cases haction with
  | own haction => exact haction.console world
  | foreign haction => exact .of_eq (haction.console_eq world)
  | _ => exact .refl _

theorem Run.bind_console {α β : Type} {x : Run α} {f : α → Run β}
    (hx : ∀ world : World, world.console.Later (x world).2.console)
    (hf : ∀ a, ∀ world : World, world.console.Later (f a world).2.console) (world : World) :
    world.console.Later ((x >>= f) world).2.console := by
  have hfirst := hx world
  rw [Run.bind_apply]
  rcases hrun : x world with ⟨e | a, between⟩
  · rw [hrun] at hfirst
    exact hfirst
  · rw [hrun] at hfirst
    exact hfirst.trans (hf a between)

/-- Runs print and read. -/
def Law.prints : Law Unit Law.Stage :=
  .uniform (fun x => ∀ world : World, world.console.Later (x () world).2.console)
    (fun haction => haction.console)
    (fun hx hf => Run.bind_console hx hf)
    (fun outer constants hx world => hx (world.enter outer constants))

theorem Law.prints_untraced : Law.prints.Untraced where
  captures _ _ _ hx world := hx world
  record _ _ world := .refl world.console

namespace Run

variable (limit : Nat) (world : World)

/-- **A program prints and reads.** -/
theorem program_console (program : Value) :
    world.console.Later (Run.program limit program world).2.console :=
  (Law.prints_untraced.invokes limit).evaluate reentries limit () program world

/-- **An invocation prints and reads.** -/
theorem named_console (name : String) (input : Value) :
    world.console.Later (Run.named limit name input world).2.console := by
  unfold named
  cases hlookup : world.lookup name with
  | none =>
    rw [lookup_bind_of_none hlookup]
    exact .refl _
  | some tool =>
    rw [lookup_bind_of_some hlookup]
    have halike : Law.prints.alike () fun _ => tool := ⟨tool, rfl⟩
    exact (Law.prints_untraced.invokes limit).again reentries limit reentries () _ halike .other input world

end Run

end ToolWeave
