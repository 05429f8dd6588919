import ToolWeave.Proofs.Endings
import ToolWeave.Proofs.Stores

/-!
# Definitions without end

A tool may be bound to `define`, and it may be one whose own body defines.  If such a tool finds itself
under that name, each definition leads to another one, at the same depth of calls.  No limit on calls
stops this: the definitions nest as deep as there is room (`Run.invokeAt_definitions`), and so the
evaluation that makes the first of them has no end (`Run.evaluate_not_settles`).
-/

namespace ToolWeave

/-- A tool whose body is a definition and which is what `define` is bound to where it looks names up,
in a state in which nothing was cancelled. -/
structure Tool.Redefines (world : World) (description : String) (body : Value)
    (closure : Environment) : Prop where
  body_eq : ∃ name parameters inner, Form.parse body = .definition name parameters inner
  lookup_eq : world.store.lookup closure Builtin.define.name =
    some (.defined [] description body closure)
  exists_frame : ∀ number ∈ closure.path, number < world.store.size
  live : Scope.check world.now world.scopes = .ok ()

variable {description : String} {body : Value} {closure : Environment}

/-- A definition is the invocation of what `define` is bound to. -/
theorem Form.run_definition (reach : Reach) {world : World} {tool : Tool}
    (hlookup : world.lookup Builtin.define.name = some tool)
    (hlive : Scope.check world.now world.scopes = .ok ()) (name : String) (parameters : List String)
    (inner : Value) :
    (Form.definition name parameters inner).run reach world =
      reach.again .definition tool (definitionRequest name parameters inner) world := by
  have hscopes : Run.checkScopes world = (.ok (), world) := by
    rw [Run.checkScopes_apply, hlive]
  rw [Form.run, Run.lookup_bind_of_some hlookup]
  exact Run.bind_of_ok hscopes _

namespace Tool.Redefines

variable {world : World}

/-- In a frame of the tool `define` is bound to the tool still. -/
theorem lookup_enter (h : Redefines world description body closure) (input : Value) :
    (world.enter closure [(Bindings.inputName, input)]).lookup Builtin.define.name =
      some (.defined [] description body closure) := by
  have hchain := world.store.chain_add h.exists_frame
    [(Bindings.inputName, .constant input)]
  have hnone : Entries.get? Builtin.define.name
      (Frame.ofTools world.store.tools [(Bindings.inputName, .constant input)]) = none := rfl
  rw [← h.lookup_eq]
  show (Frame.find? Builtin.define.name (Store.chain _ _)).map Prod.snd = _
  refine congrArg (Option.map Prod.snd) ?_
  refine (congrArg (Frame.find? Builtin.define.name) hchain).trans ?_
  rw [Frame.find?_cons, hnone]
  rfl

theorem begun (h : Redefines world description body closure) (starter : Starter) (tool : Tool)
    (input : Value) : Redefines (tool.begun starter input world) description body closure :=
  ⟨h.body_eq, h.lookup_eq, h.exists_frame, h.live⟩

/-- The next definition, in a frame of the tool, finds the tool again. -/
theorem enter (h : Redefines world description body closure) (input : Value) :
    Redefines (world.enter closure [(Bindings.inputName, input)]) description body closure where
  body_eq := h.body_eq
  lookup_eq := by
    rw [← h.lookup_eq]
    have hchain := world.store.map_frameAt_push
      (Frame.ofTools world.store.tools [(Bindings.inputName, .constant input)]) h.exists_frame
    exact congrArg (fun chain => (Frame.find? Builtin.define.name chain).map Prod.snd) hchain
  exists_frame := by
    intro number hnumber
    show number < (world.store.push _).size
    rw [Store.size_push]
    exact Nat.lt_succ_of_lt (h.exists_frame number hnumber)
  live := h.live

end Tool.Redefines

namespace Run

variable {world : World}

/-- All that the tool does is to make the next definition, in a frame of its own. -/
theorem steps_act_redefines (h : Tool.Redefines world description body closure) (reach : Reach)
    (input : Value) :
    ∃ request, ((Tool.defined [] description body closure).act reach input).steps world =
      (reach.again .definition (.defined [] description body closure) request).steps
        (world.enter closure [(Bindings.inputName, input)]) := by
  obtain ⟨name, parameters, inner, hbody⟩ := h.body_eq
  have hrun := Form.run_definition reach (h.lookup_enter input) h.live name parameters inner
  have hsteps : ((Tool.defined [] description body closure).act reach input).steps world =
      ((Form.parse body).run reach).steps
        (world.enter closure [(Bindings.inputName, input)]) := rfl
  refine ⟨Form.definitionRequest name parameters inner, ?_⟩
  rw [hsteps, hbody]
  unfold steps
  rw [hrun]

/-- The definitions nest as deep as there is room. -/
theorem invokeAt_definitions (h : Tool.Redefines world description body closure)
    (room limit left further : Nat) (input : Value) (opened : List Step) :
    let steps := (invokeAt (call room limit left) further .definition
      (.defined [] description body closure) input).steps world
    ∃ n ≤ steps.length,
      Step.definitions (Step.inProgress opened (steps.take n)) = Step.definitions opened + further := by
  induction further generalizing world input opened with
  | zero => exact ⟨0, Nat.zero_le _, rfl⟩
  | succ further ih =>
    let tool := Tool.defined [] description body closure
    have hnested := act_nested room limit left further tool input
    have hbegun := h.begun .definition tool input
    obtain ⟨request, hinner⟩ := steps_act_redefines hbegun _ input
    obtain ⟨n, hn, hcount⟩ := ih (hbegun.enter input) request (.began .definition tool input :: opened)
    have hsteps := steps_perform hnested .definition world
    rw [hinner] at hsteps
    intro steps
    -- the moment is the one found for the definition nested in this one, after one step more
    refine ⟨n + 1, ?_, ?_⟩
    · show n + 1 ≤ (tool.perform .definition _ input |>.steps world).length
      rw [hsteps, List.length_cons, List.length_append]
      exact Nat.succ_le_succ (Nat.le_add_right_of_le hn)
    · show Step.definitions (Step.inProgress opened
        ((tool.perform .definition _ input |>.steps world).take (n + 1))) = _
      rw [hsteps, List.take_succ_cons, List.take_append_of_le_length hn, Step.inProgress_cons]
      refine hcount.trans ?_
      have : Step.definitions (.began .definition tool input :: opened) =
        Step.definitions opened + 1 := List.countP_cons_of_pos rfl
      omega

/-- A definition that is handed to such a tool has no end. -/
theorem evaluate_not_settles (limit : Nat) {program : Value}
    (hlevels : program.nestedWithin programLevels = true)
    (hprogram : ∃ name parameters inner, Form.parse program = .definition name parameters inner)
    (hdefine : world.lookup Builtin.define.name = some (.defined [] description body closure))
    (h : Tool.Redefines world description body closure) :
    ¬ Settles (fun room => evaluate (reach room limit limit) program) world := by
  intro hsettles
  obtain ⟨bound, enough, hbound⟩ := (evaluate_settles_iff limit program world).mp hsettles
  obtain ⟨name, parameters, inner, hparse⟩ := hprogram
  let room := max enough (bound + 1)
  have hrun : evaluate (reach room limit limit) program world =
      invokeAt (call room limit limit) room .definition (.defined [] description body closure)
        (Form.definitionRequest name parameters inner) world := by
    unfold evaluate
    rw [if_pos hlevels, hparse]
    exact Form.run_definition _ hdefine h.live name parameters inner
  obtain ⟨n, -, hcount⟩ := invokeAt_definitions h room limit limit room
    (Form.definitionRequest name parameters inner) []
  have hdefinitions := hbound room (Nat.le_max_left _ _) n
  unfold inProgress steps at hdefinitions
  rw [hrun] at hdefinitions
  have hdeep : bound + 1 ≤ room := Nat.le_max_right _ _
  have hnone : Step.definitions [] = 0 := rfl
  unfold steps at hcount
  omega

end Run

end ToolWeave
