import ToolWeave.Proofs.Actions
import ToolWeave.Proofs.Laws
import ToolWeave.Proofs.Pairings

/-!
# Two runs side by side

Two runs that start from alike states do the same: they end alike, print the same text, read the same
lines, and leave alike states behind.  States are alike if their environments and stores are, with
the frames of the one paired with frames of the other and the innermost ones with no others, if the same
input is left to be read, and if the scopes answer alike.  What was printed before may differ, and so may everything else.

`Law.twins` makes of this a law of runs, for tools of the language itself.  A tool from outside is like
no other tool, since what it does may depend on anything.

## Design notes

**Pairs are only ever added.**  While the runs go on they make frames, which are paired as they come.
What was paired stays paired, so that environments and tools once found alike stay alike.
-/

namespace ToolWeave

/-- Two states in which a run of the one goes like a run of the other.  `printed` and `printed'` is
what had been printed before the runs are compared. -/
structure World.Alike (ρ : Pairing) (printed printed' : String) (world world' : World) : Prop where
  environment : world.environment.Alike ρ world'.environment
  frame : ρ.Sole world.environment.frame world'.environment.frame
  store : world.store.Alike ρ world'.store
  printed : ∃ text, world.console.printed = printed ++ text ∧
    world'.console.printed = printed' ++ text
  input : world.console.input = world'.console.input
  working : world.console.working = world'.console.working
  scopes : Scope.check world.now world.scopes = Scope.check world'.now world'.scopes

/-- Two runs end alike and in alike states, from alike states now and later. -/
def Run.Twins (printed printed' : String) (ρ : Pairing) {α : Type} (x : Bool → Run α) : Prop :=
  ∀ σ, ρ ≤ σ → ∀ world world', World.Alike σ printed printed' world world' →
    ∃ τ, σ ≤ τ ∧ (x false world).1 = (x true world').1 ∧
      World.Alike τ printed printed' (x false world).2 (x true world').2

namespace World.Alike

variable {ρ σ : Pairing} {printed printed' : String} {world world' : World}

/-- A change of the frames only. -/
theorem restore (h : World.Alike ρ printed printed' world world') (hle : ρ ≤ σ)
    {store store' : Store} (hstore : store.Alike σ store') :
    World.Alike σ printed printed' { world with store := store }
      { world' with store := store' } where
  environment := h.environment.mono hle
  frame := hle.2 _ _ h.frame
  store := hstore
  printed := h.printed
  input := h.input
  working := h.working
  scopes := h.scopes

/-- Alike states in new frames with the same constants are alike. -/
theorem enter (h : World.Alike ρ printed printed' world world') {outer outer' : Environment}
    (houter : outer.Alike ρ outer') (constants : Fields) :
    ∃ σ, ρ ≤ σ ∧ World.Alike σ printed printed' (world.enter outer constants)
      (world'.enter outer' constants) := by
  let tools := constants.map fun entry => (entry.1, Tool.constant entry.2)
  have htools (σ : Pairing) : ∀ entry ∈ tools, entry.2.Alike σ entry.2 := by
    intro entry hentry
    obtain ⟨constant, _, rfl⟩ := List.mem_map.mp hentry
    exact .constant constant.2
  obtain ⟨σ, hle, hstore, henvironment, hframe⟩ := h.store.child houter htools
  exact ⟨σ, hle, { restore h hle hstore with environment := henvironment, frame := hframe }⟩

theorem lookup (h : World.Alike ρ printed printed' world world') (name : String) :
    Option.Rel (Tool.Alike ρ) (world.lookup name) (world'.lookup name) := by
  unfold World.lookup Store.lookup
  have hbinding := h.store.binding? h.environment name
  generalize world.store.binding? world.environment name = found at hbinding
  generalize world'.store.binding? world'.environment name = found' at hbinding
  cases hbinding with
  | none => exact .none
  | some hbinding => exact .some hbinding

end World.Alike

/-! ### Single actions -/

namespace Run

variable {printed printed' : String} {ρ : Pairing} {α β : Type}

/-- Runs that do the same to alike states without making frames. -/
theorem Twins.of_eq {x : Bool → Run α}
    (hx : ∀ σ, ρ ≤ σ → ∀ world world', World.Alike σ printed printed' world world' →
      (x false world).1 = (x true world').1 ∧
        World.Alike σ printed printed' (x false world).2 (x true world').2) :
    Twins printed printed' ρ x := by
  intro σ hle world world' h
  exact ⟨σ, le_rfl, hx σ hle world world' h⟩

theorem Refuses.twins {action : Run α} (h : Refuses action) :
    Twins printed printed' ρ fun _ => action := by
  obtain ⟨e, h⟩ := h
  refine .of_eq fun σ _ world world' hworld => ?_
  rw [h world, h world']
  exact ⟨rfl, hworld⟩

theorem Own.twins {action : Run α} (haction : Own action) :
    Twins printed printed' ρ fun _ => action := by
  cases haction with
  | checkScopes =>
    refine .of_eq fun σ _ world world' h => ?_
    rw [checkScopes_apply, checkScopes_apply]
    exact ⟨h.scopes, h⟩
  | define input =>
    rcases Bindings.define_cases input with h | ⟨request, hrun⟩
    · exact h.twins
    · intro σ _ world world' h
      dsimp only
      rw [hrun world, hrun world']
      -- the only action that makes frames, and so the only one for which the pairing grows
      obtain ⟨τ, hle, hstore⟩ := h.store.create h.environment h.frame request.name request.parameters
        request.description request.body
      exact ⟨τ, hle, rfl, h.restore hle hstore⟩
  | undefine input =>
    rcases Bindings.undefine_cases input with h | ⟨name, hrun⟩
    · exact h.twins
    · refine .of_eq fun σ _ world world' h => ?_
      rw [hrun world, hrun world']
      have hframe := (h.store _ _ h.frame.1).2
      rw [hframe.has name]
      exact ⟨rfl, h.restore le_rfl (h.store.undefine h.frame name)⟩
  | rebind input =>
    rcases Bindings.rebind_cases input with h | ⟨name, source, hrun⟩
    · exact h.twins
    · refine .of_eq fun σ _ world world' h => ?_
      rw [hrun world, hrun world']
      have hbinding := h.store.binding? h.environment source
      generalize world.store.binding? world.environment source = found at hbinding
      generalize world'.store.binding? world'.environment source = found' at hbinding
      cases hbinding with
      | none => exact ⟨rfl, h⟩
      | some hbinding =>
        exact ⟨rfl, h.restore le_rfl (h.store.bind h.frame name hbinding)⟩
  | listTools =>
    refine .of_eq fun σ _ world world' h => ?_
    have hnames := h.store.names h.environment
    show Except.ok (Value.object [("names", .strings world.names)]) = .ok _ ∧ _
    unfold World.names
    rw [hnames]
    exact ⟨rfl, h⟩
  | print input =>
    rcases ConsoleTools.print_cases input with h | ⟨text, hrun⟩
    · exact h.twins
    · refine .of_eq fun σ _ world world' h => ?_
      rw [hrun world, hrun world']
      by_cases hworking : world.console.working = true
      · rw [if_pos hworking, if_pos (h.working.symm.trans hworking)]
        obtain ⟨before, hbefore, hbefore'⟩ := h.printed
        refine ⟨rfl, { h with printed := ⟨before ++ (text ++ "\n"), ?_, ?_⟩ }⟩
        · show world.console.printed ++ text ++ "\n" = _
          rw [hbefore, String.append_assoc, String.append_assoc]
        · show world'.console.printed ++ text ++ "\n" = _
          rw [hbefore', String.append_assoc, String.append_assoc]
      · rw [if_neg hworking, if_neg fun hworking' => hworking (h.working.trans hworking')]
        exact ⟨rfl, h⟩
  | readLine =>
    refine .of_eq fun σ _ world world' h => ?_
    rw [ConsoleTools.readLine_apply, ConsoleTools.readLine_apply]
    by_cases hworking : world.console.working = true
    · rw [if_pos hworking, if_pos (h.working.symm.trans hworking), ← h.input]
      exact ⟨rfl, { h with input := rfl }⟩
    · rw [if_neg hworking, if_neg fun hworking' => hworking (h.working.trans hworking')]
      exact ⟨rfl, h⟩

/-! ### Runs -/

theorem Twins.mono {σ : Pairing} {x : Bool → Run α} (hx : Twins printed printed' ρ x)
    (hle : ρ ≤ σ) : Twins printed printed' σ x :=
  fun τ hτ => hx τ (le_trans hle hτ)

theorem Twins.bind {x : Bool → Run α} {f : Bool → α → Run β} (hx : Twins printed printed' ρ x)
    (hf : ∀ σ, ρ ≤ σ → ∀ a, Twins printed printed' σ fun i => f i a) :
    Twins printed printed' ρ fun i => x i >>= f i := by
  intro σ hle world world' h
  obtain ⟨τ, hτ, houtcome, hbetween⟩ := hx σ hle world world' h
  dsimp only
  rw [bind_apply, bind_apply]
  rcases hrun : x false world with ⟨outcome, between⟩
  rcases hrun' : x true world' with ⟨outcome', between'⟩
  rw [hrun, hrun'] at houtcome hbetween
  cases houtcome
  cases outcome with
  | error e => exact ⟨τ, hτ, rfl, hbetween⟩
  | ok a =>
    have hlater := le_trans hle hτ
    obtain ⟨υ, hυ, hend, hafter⟩ := hf τ hlater a τ le_rfl between between' hbetween
    exact ⟨υ, le_trans hτ hυ, hend, hafter⟩

theorem Twins.capture {x : Bool → Run α} (hx : Twins printed printed' ρ x) :
    Twins printed printed' ρ fun i => capture (x i) := by
  intro σ hle world world' h
  obtain ⟨τ, hτ, houtcome, hafter⟩ := hx σ hle world world' h
  exact ⟨τ, hτ, congrArg Except.ok houtcome, hafter⟩

/-- Side by side in new frames with the same constants inside alike environments. -/
theorem Twins.inside {x : Bool → Run α} (hx : Twins printed printed' ρ x)
    {outer : Bool → Environment} (houter : (outer false).Alike ρ (outer true))
    (constants : Fields) :
    Twins printed printed' ρ fun i => inside (outer i) constants (x i) := by
  intro σ hle world world' h
  obtain ⟨τ, hτ, hentered⟩ := h.enter (houter.mono hle) constants
  obtain ⟨υ, hυ, houtcome, hafter⟩ := hx τ (le_trans hle hτ) _ _ hentered
  have hlater := le_trans hτ hυ
  exact ⟨υ, hlater, houtcome,
    { hafter with environment := h.environment.mono hlater, frame := hlater.2 _ _ h.frame }⟩

end Run

/-- Runs side by side, as a law. -/
def Law.twins (printed printed' : String) : Law Bool Pairing where
  holds ρ _ x := Run.Twins printed printed' ρ x
  alike ρ tools := (tools false).Alike ρ (tools true)
  parallel ρ envs := (envs false).Alike ρ (envs true)
  mono hle hx := hx.mono hle
  alike_mono hle htools := htools.mono hle
  pure _ _ := .of_eq fun _ _ _ _ h => ⟨rfl, h⟩
  fail _ _ := .of_eq fun _ _ _ _ h => ⟨rfl, h⟩
  bind hx hf := hx.bind hf
  inside constants houter hx := hx.inside houter constants
  environment {_ _ f} hf := by
    intro σ hle world world' h
    exact hf σ hle (fun i => cond i world'.environment world.environment) h.environment σ le_rfl
      world world' h
  lookup {_ _ f} name hnone hsome := by
    intro σ hle world world' h
    dsimp only
    rw [Run.bind_apply, Run.bind_apply, Run.lookup_apply, Run.lookup_apply]
    have hfound := h.lookup name
    generalize world.lookup name = found at hfound
    generalize world'.lookup name = found' at hfound
    cases hfound with
    | none => exact hnone σ hle world world' h
    | @some tool tool' htool =>
      exact hsome σ hle (fun i => cond i tool' tool) htool σ le_rfl world world' h
  own _ haction := haction.twins
  alike_cases {_ tools} htools := by
    have htwo : tools = fun i => cond i (tools true) (tools false) := by
      funext i
      cases i <;> rfl
    generalize tools false = tool at htools htwo
    generalize tools true = tool' at htools htwo
    subst htwo
    cases htools with
    | builtin tool => exact .inl ⟨tool, funext fun i => by cases i <;> rfl⟩
    | constant value => exact .inr (.inl ⟨value, funext fun i => by cases i <;> rfl⟩)
    | @defined parameters description body closure closure' hclosure =>
      refine .inr (.inr (.inl ⟨parameters, description, body,
        fun i => cond i closure' closure, ?_, hclosure⟩))
      funext i
      cases i <;> rfl

theorem Law.twins_untraced (printed printed' : String) :
    (Law.twins printed printed').Untraced where
  captures _ _ _ hx := hx.capture
  record ρ steps := by
    show Run.Twins printed printed' ρ fun i => Run.record (steps i)
    refine .of_eq fun σ _ world world' h => ⟨rfl, ?_⟩
    exact ⟨h.environment, h.frame, h.store, h.printed, h.input, h.working, h.scopes⟩

end ToolWeave
