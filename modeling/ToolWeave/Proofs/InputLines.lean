import Mathlib.Data.List.DropRight
import ToolWeave.Proofs.Consoles

/-!
# Reading lines

A text is read piece by piece: it is cut after each line feed, and each time a line is asked for, the next piece is
taken, or an empty one when there is none left (`ConsoleTools.read_lines`).  What is told of a piece is its line and
whether it ended in a line feed.  The pieces can be told from the answers, but for the carriage returns at their ends.

## Main definitions

* `ConsoleTools.pieces`: a text cut after each line feed.
* `ConsoleTools.Tells`: what an answer tells of a piece.
* `ConsoleTools.unended`: a piece without its line end, which is a line feed or a carriage return and a line feed.

## Design notes

**Line ends.**  An answer leaves out all carriage returns at the end of a piece, not only the one that belongs to a line
end.  So what it tells is the piece without its line end exactly if no other carriage return is there.
-/

namespace ToolWeave

/-- The state with some text left to be read. -/
def World.left (world : World) (cs : List Char) : World := { world with console.input := cs }

namespace ConsoleTools

/-! ### Pieces -/

/-- A text cut after each line feed. -/
def pieces : List Char → List (List Char)
  | [] => []
  | c :: rest =>
    if c = '\n' then [c] :: pieces rest
    else
      match pieces rest with
      | [] => [[c]]
      | piece :: more => (c :: piece) :: more

/-- The piece of a text that is read after so many others: an empty one if there are no more. -/
def pieceAt (cs : List Char) (i : Nat) : List Char := (pieces cs)[i]?.getD []

/-- Of a text without line feeds there is one piece, if there is any. -/
theorem pieces_of_not_mem {cs : List Char} (h : '\n' ∉ cs) : pieces cs = if cs = [] then [] else [cs] := by
  induction cs with
  | nil => rfl
  | cons c rest ih =>
    rw [pieces, if_neg (List.ne_of_not_mem_cons h).symm, ih (List.not_mem_of_not_mem_cons h),
      if_neg (List.cons_ne_nil c rest)]
    cases rest <;> rfl

/-- The first piece ends with the first line feed. -/
theorem pieces_append {line : List Char} (h : '\n' ∉ line) (rest : List Char) :
    pieces (line ++ '\n' :: rest) = (line ++ ['\n']) :: pieces rest := by
  induction line with
  | nil => rfl
  | cons c line ih =>
    rw [List.cons_append, pieces, if_neg (List.ne_of_not_mem_cons h).symm, ih (List.not_mem_of_not_mem_cons h)]
    rfl

/-- The pieces of a text make it up. -/
theorem flatten_pieces (cs : List Char) : (pieces cs).flatten = cs := by
  induction cs with
  | nil => rfl
  | cons c rest ih =>
    rw [pieces]
    split
    · rw [List.flatten_cons, ih]
      rfl
    · cases hrest : pieces rest with
      | nil =>
        rw [hrest] at ih
        rw [← ih]
        rfl
      | cons piece more =>
        rw [hrest] at ih
        rw [← ih]
        rfl

/-- A text is a line without a line feed, or such a line with one and then the rest. -/
theorem cutLine_cases (cs : List Char) :
    ('\n' ∉ cs ∧ cutLine cs = (cs, [])) ∨
      ∃ line rest, '\n' ∉ line ∧ cs = line ++ '\n' :: rest ∧ cutLine cs = (line ++ ['\n'], rest) := by
  have hline : '\n' ∉ cs.takeWhile (· ≠ '\n') := fun hmem => by simpa using List.mem_takeWhile_imp hmem
  have hall : cs.takeWhile (· ≠ '\n') ++ cs.drop (cs.takeWhile (· ≠ '\n')).length = cs :=
    List.prefix_iff_eq_append.mp (List.takeWhile_prefix _)
  unfold cutLine
  dsimp only
  cases hdrop : cs.drop (cs.takeWhile (· ≠ '\n')).length with
  | nil =>
    rw [hdrop, List.append_nil] at hall
    rw [hall] at hline ⊢
    exact .inl ⟨hline, rfl⟩
  | cons c rest =>
    -- what stopped the line is a line feed
    have hc : c = '\n' := by
      have hstop := List.head?_dropWhile_not (· ≠ '\n') cs
      rw [← List.append_cancel_left (hall.trans List.takeWhile_append_dropWhile.symm), hdrop] at hstop
      simpa using hstop
    subst hc
    rw [hdrop] at hall
    exact .inr ⟨_, rest, hline, hall.symm, rfl⟩

/-- **The line that is read is the next piece**, or empty if there is none. -/
theorem cutLine_pieces (cs : List Char) :
    (cutLine cs).1 = (pieces cs).headD [] ∧ pieces (cutLine cs).2 = (pieces cs).tail := by
  rcases cutLine_cases cs with ⟨hcs, hcut⟩ | ⟨line, rest, hline, rfl, hcut⟩
  · rw [hcut, pieces_of_not_mem hcs]
    split
    · next hempty =>
      rw [hempty]
      exact ⟨rfl, rfl⟩
    · exact ⟨rfl, rfl⟩
  · rw [hcut, pieces_append hline]
    exact ⟨rfl, rfl⟩

/-- A piece has line feeds only at its end. -/
theorem exists_line_of_mem_pieces {cs piece : List Char} (h : piece ∈ pieces cs) :
    ∃ line, '\n' ∉ line ∧ (piece = line ∨ piece = line ++ ['\n']) := by
  induction cs generalizing piece with
  | nil => cases h
  | cons c rest ih =>
    rw [pieces] at h
    split at h
    · next hc =>
      subst hc
      rcases List.mem_cons.mp h with rfl | h
      · exact ⟨[], List.not_mem_nil, .inr rfl⟩
      · exact ih h
    next hc =>
    cases hrest : pieces rest with
    | nil =>
      rw [hrest] at h
      obtain rfl := List.mem_singleton.mp h
      exact ⟨[c], fun hmem => hc (List.mem_singleton.mp hmem).symm, .inl rfl⟩
    | cons first more =>
      rw [hrest] at h ih
      rcases List.mem_cons.mp h with rfl | h
      · obtain ⟨line, hline, hfirst⟩ := ih List.mem_cons_self
        refine ⟨c :: line, List.not_mem_cons_of_ne_of_not_mem (Ne.symm hc) hline, ?_⟩
        exact hfirst.imp (congrArg _) (congrArg _)
      · exact ih (List.mem_cons_of_mem _ h)

theorem exists_line_of_pieceAt (cs : List Char) (i : Nat) :
    ∃ line, '\n' ∉ line ∧ (pieceAt cs i = line ∨ pieceAt cs i = line ++ ['\n']) := by
  unfold pieceAt
  cases hget : (pieces cs)[i]? with
  | none => exact ⟨[], List.not_mem_nil, .inl rfl⟩
  | some piece => exact exists_line_of_mem_pieces (List.mem_of_getElem? hget)

/-! ### Answers -/

/-- What an answer tells of a piece: it is a line, some carriage returns, and a line feed unless the text ended. -/
structure Tells (piece : List Char) (line : List Char) (returns : Nat) (ended : Bool) (answer : Value) : Prop where
  answer : answer = .object [("line", .string (String.ofList line)), ("eof", .bool ended)]
  piece : piece = line ++ List.replicate returns '\r' ++ (if ended then [] else ['\n'])
  line : line.getLast? ≠ some '\r' ∧ '\n' ∉ line

/-- A piece without its line end: a line feed, or a carriage return and a line feed. -/
def unended (piece : List Char) : List Char :=
  if piece.getLast? = some '\n' then
    if piece.dropLast.getLast? = some '\r' then piece.dropLast.dropLast else piece.dropLast
  else piece

/-- Of a text without line feeds, all is told but the carriage returns at its end. -/
theorem exists_returns {line : List Char} (hline : '\n' ∉ line) :
    ∃ told returns, line = told ++ List.replicate returns '\r' ∧
      Text.dropEnd (fun c => c == '\r' || c == '\n') line = told ∧ told.getLast? ≠ some '\r' ∧ '\n' ∉ told := by
  let blank : Char → Bool := fun c => c == '\r' || c == '\n'
  have hreturns : line.rtakeWhile blank = List.replicate (line.rtakeWhile blank).length '\r' := by
    refine List.eq_replicate_of_mem fun c hc => ?_
    have hne : c ≠ '\n' := fun heq => hline (heq ▸ (List.rtakeWhile_suffix _ _).subset hc)
    simpa [blank, hne] using List.mem_rtakeWhile_imp hc
  have hlast : (line.rdropWhile blank).getLast? ≠ some '\r' := by
    intro heq
    have hne : line.rdropWhile blank ≠ [] := fun hnil => by rw [hnil] at heq; cases heq
    rw [List.getLast?_eq_some_getLast hne] at heq
    exact List.rdropWhile_last_not blank line hne (by rw [Option.some.inj heq]; rfl)
  refine ⟨line.rdropWhile blank, (line.rtakeWhile blank).length, ?_, rfl, hlast,
    fun hmem => hline ((List.rdropWhile_prefix _ _).subset hmem)⟩
  rw [← hreturns]
  exact List.rdropWhile_append_rtakeWhile.symm

/-- Every piece is told of, and so is an empty one. -/
theorem exists_tells {piece line : List Char} (hline : '\n' ∉ line) (hpiece : piece = line ∨ piece = line ++ ['\n']) :
    ∃ told returns ended, Tells piece told returns ended (lineValue piece) := by
  obtain ⟨told, returns, hsplit, hdrop, htold⟩ := exists_returns hline
  unfold lineValue
  rcases hpiece with rfl | rfl
  · have hend : (piece.getLast? != some '\n') = true := by
      rw [bne_iff_ne]
      exact fun heq => hline (List.mem_of_getLast? heq)
    refine ⟨told, returns, true, ?_, ?_, htold⟩
    · rw [hdrop, hend]
    · exact hsplit.trans (List.append_nil _).symm
  · have hend : ((line ++ ['\n']).getLast? != some '\n') = false := by
      rw [List.getLast?_concat]
      rfl
    have hdrop' : Text.dropEnd (fun c => c == '\r' || c == '\n') (line ++ ['\n']) = told :=
      (List.rdropWhile_concat_pos _ line '\n' rfl).trans hdrop
    refine ⟨told, returns, false, ?_, ?_, htold⟩
    · rw [hdrop', hend]
    · rw [hsplit]
      rfl

/-- A line feed takes one carriage return along, if there is one; all others stay with the line. -/
theorem Tells.unended_eq {piece line : List Char} {returns : Nat} {ended : Bool} {answer : Value}
    (h : Tells piece line returns ended answer) :
    unended piece = line ++ List.replicate (returns - if ended then 0 else 1) '\r' := by
  obtain ⟨hlast, hfeed⟩ := h.line
  cases ended with
  | true =>
    have hpiece : piece = line ++ List.replicate returns '\r' := h.piece.trans (List.append_nil _)
    have hnone : '\n' ∉ piece := by
      rw [hpiece, List.mem_append, not_or]
      exact ⟨hfeed, fun hmem => by cases List.eq_of_mem_replicate hmem⟩
    rw [unended, if_neg fun hend => hnone (List.mem_of_getLast? hend)]
    exact hpiece
  | false =>
    have hpiece : piece = (line ++ List.replicate returns '\r') ++ ['\n'] := h.piece
    rw [unended, hpiece, List.getLast?_concat, if_pos rfl, List.dropLast_concat]
    cases returns with
    | zero =>
      rw [List.replicate_zero, List.append_nil, if_neg hlast]
      exact (List.append_nil line).symm
    | succ more =>
      rw [List.replicate_succ', ← List.append_assoc, List.getLast?_concat, if_pos rfl, List.dropLast_concat]
      rfl

/-- The line is the piece without its line end exactly if no carriage return but that of the line end was left out. -/
theorem Tells.line_eq_unended_iff {piece line : List Char} {returns : Nat} {ended : Bool} {answer : Value}
    (h : Tells piece line returns ended answer) : line = unended piece ↔ returns ≤ if ended then 0 else 1 := by
  rw [h.unended_eq, List.self_eq_append_right, List.replicate_eq_nil_iff, Nat.sub_eq_zero_iff_le]

/-! ### Runs -/

/-- One line: the next piece is told of, and those after it are left. -/
theorem readLine_pieces {world : World} (h : world.console.working = true) :
    readLine world =
      (.ok (lineValue ((pieces world.console.input).headD [])),
        world.left (pieces world.console.input).tail.flatten) := by
  obtain ⟨hline, hrest⟩ := cutLine_pieces world.console.input
  rw [readLine_apply, if_pos h, hline, ← hrest, flatten_pieces]
  rfl

/-- Lines that are read one after another are the pieces one after another. -/
theorem mapM_readLine {α : Type} (calls : List α) {world : World} (h : world.console.working = true) :
    ((calls.mapM fun _ => readLine) : Run (List Value)) world =
      (.ok ((List.range calls.length).map fun i => lineValue (pieceAt world.console.input i)),
        world.left ((pieces world.console.input).drop calls.length).flatten) := by
  induction calls generalizing world with
  | nil =>
    rw [List.mapM_nil, List.length_nil, List.drop_zero, flatten_pieces]
    rfl
  | cons _ rest ih =>
    have hleft : pieces (world.left (pieces world.console.input).tail.flatten).console.input =
        (pieces world.console.input).tail := by
      obtain ⟨-, hrest⟩ := cutLine_pieces world.console.input
      rw [← hrest]
      exact congrArg pieces (flatten_pieces _)
    rw [List.mapM_cons, Run.bind_of_ok (readLine_pieces h), Run.map_apply,
      @ih (world.left (pieces world.console.input).tail.flatten) h, hleft]
    refine Prod.ext ?_ ?_
    · show Except.ok _ = Except.ok _
      rw [List.length_cons, List.range_succ_eq_map, List.map_cons, List.map_map]
      simp [Function.comp_def, pieceAt, hleft, List.headD_eq_head?_getD, List.head?_eq_getElem?]
    · show World.left world _ = _
      rw [List.drop_tail, List.length_cons]

/-- **Reading loses nothing but carriage returns.**  However often a line is read, the answers tell of the pieces of the
text one after another, and of empty ones once there are none left; the text is what the pieces make up, and what has not
been read is left.  A line is its piece without the line end exactly if no more carriage returns are in front of the end
than belong to it: one if the piece ends in a line feed, and none at the end of the text. -/
theorem read_lines (reach : Reach) (inputs : List Value) (world : World) (h : world.console.working = true) :
    ∃ answers : List Value,
      (inputs.mapM fun input => (Tool.builtin .readLine).act reach input) world =
        (.ok answers, world.left ((pieces world.console.input).drop inputs.length).flatten) ∧
      (pieces world.console.input).flatten = world.console.input ∧
      answers.length = inputs.length ∧
      ∀ i answer, answers[i]? = some answer →
        ∃ line returns ended, Tells (pieceAt world.console.input i) line returns ended answer ∧
          (line = unended (pieceAt world.console.input i) ↔ returns ≤ if ended then 0 else 1) := by
  refine ⟨_, mapM_readLine inputs h, flatten_pieces _, ?_, fun i answer hanswer => ?_⟩
  · rw [List.length_map, List.length_range]
  obtain rfl : lineValue (pieceAt world.console.input i) = answer := by
    rw [List.getElem?_map, Option.map_eq_some_iff] at hanswer
    obtain ⟨j, hj, heq⟩ := hanswer
    obtain ⟨hlt, rfl⟩ := List.getElem?_eq_some_iff.mp hj
    rwa [List.getElem_range] at heq
  obtain ⟨line, hline, hpiece⟩ := exists_line_of_pieceAt world.console.input i
  obtain ⟨told, returns, ended, htells⟩ := exists_tells hline hpiece
  exact ⟨told, returns, ended, htells, htells.line_eq_unended_iff⟩

/-- A state in which a text is left to be read. -/
def reading (text : String) : World := .fresh ToolSet.builtins (.reading text) ⟨[], [], [], "/"⟩

/-- Three lines are read of a text of two pieces. -/
theorem read_lines_twice :
    ∃ answers : List Value,
      ([.null, .null, .null].mapM fun input => (Tool.builtin .readLine).act (Run.top 64) input) (reading "a\r\nb") =
        (.ok answers, (reading "a\r\nb").left []) ∧
      answers.length = 3 ∧
      ∀ i answer, answers[i]? = some answer →
        ∃ line returns ended, Tells (pieceAt "a\r\nb".toList i) line returns ended answer ∧
          (line = unended (pieceAt "a\r\nb".toList i) ↔ returns ≤ if ended then 0 else 1) := by
  obtain ⟨answers, hrun, -, hlength, htells⟩ :=
    read_lines (Run.top 64) [.null, .null, .null] (reading "a\r\nb") rfl
  exact ⟨answers, hrun, hlength, htells⟩

/-- A carriage return in front of a line end is left out with the line end, though it is no part of it. -/
theorem readLine_stray :
    pieces "a\r\r\n".toList = ["a\r\r\n".toList] ∧ unended "a\r\r\n".toList = "a\r".toList ∧
      ((Tool.builtin .readLine).act (Run.top 64) .null (reading "a\r\r\n")).1 =
        .ok (.object [("line", .string "a"), ("eof", .bool false)]) :=
  ⟨by decide, by decide, rfl⟩

end ConsoleTools

end ToolWeave
