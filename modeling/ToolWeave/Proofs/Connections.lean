import Mathlib.Data.List.Forall2
import ToolWeave.Proofs.Laws
import ToolWeave.Proofs.SoleCaller

/-!
# What runs do to connections

Programs call the tools of servers, and that is all that they do to the connections: each stays where it is and leads to
the same server, and one that has been closed stays closed (`Run.program_connected`).

## Main definitions

* `Remote.Client.Later`, `World.Connected`: a connection and all connections of a state at a later time.
-/

namespace ToolWeave

/-! ### Connections -/

namespace Remote.Client

/-- A connection at a later time: it leads to the same server, and it is closed if it was. -/
structure Later (before after : Client) : Prop where
  name : after.name = before.name
  peer : after.peer = before.peer
  closed : before.closed = true → after.closed = true

theorem Later.refl (c : Client) : Later c c := ⟨rfl, rfl, id⟩

theorem Later.trans {first second third : Client} (h : Later first second) (h' : Later second third) :
    Later first third where
  name := h'.name.trans h.name
  peer := h'.peer.trans h.peer
  closed hclosed := h'.closed (h.closed hclosed)

theorem takeIn_peer (c : Client) : c.takeIn.name = c.name ∧ c.takeIn.peer = c.peer := by
  unfold takeIn
  dsimp only
  split
  · exact ⟨rfl, rfl⟩
  · split <;> exact ⟨rfl, rfl⟩

/-- A request leads to the same server, and if the connection is closed it is not even sent. -/
theorem later_request (c : Client) (now : Instant) (scopes : List Scope) (method : String) (params : Value)
    (timeout : Option Number) : Later c (c.request now scopes method params timeout).client := by
  unfold request
  dsimp only
  split
  · exact ⟨rfl, rfl, id⟩
  next hopen =>
    -- an open connection may end in any way
    have hclosed (after : Client) : c.closed = true → after.closed = true := fun hclosed => absurd hclosed hopen
    split
    · exact ⟨rfl, rfl, id⟩
    · split
      · exact ⟨(takeIn_peer _).1, (takeIn_peer _).2, hclosed _⟩
      · rw [(settle_settled _ _ _ _ _ _ _ _).1]
        exact ⟨(takeIn_peer _).1, (takeIn_peer _).2, hclosed _⟩

theorem later_callTool (c : Client) (now : Instant) (scopes : List Scope) (tool : String) (input : Value) :
    Later c (c.callTool now scopes tool input).client :=
  c.later_request now scopes "tools/call" _ none

/-- Some connections at a later time. -/
abbrev AllLater (before after : List Client) : Prop := List.Forall₂ Later before after

theorem AllLater.refl (clients : List Client) : AllLater clients clients := List.forall₂_same.mpr fun c _ => .refl c

theorem AllLater.trans {first second third : List Client} (h : AllLater first second) (h' : AllLater second third) :
    AllLater first third := by
  induction h generalizing third with
  | nil => exact h'
  | cons hfirst _ ih =>
    cases h' with
    | cons hfirst' hrest' => exact .cons (hfirst.trans hfirst') (ih hrest')

/-- A connection may be replaced by a later one. -/
theorem AllLater.set {clients : List Client} {place : Nat} {client later : Client}
    (hclient : clients[place]? = some client) (hlater : Later client later) :
    AllLater clients (clients.set place later) := by
  induction clients generalizing place with
  | nil => cases hclient
  | cons first rest ih =>
    cases place with
    | zero =>
      obtain rfl := Option.some.inj hclient
      exact .cons hlater (refl rest)
    | succ place => exact .cons (.refl first) (ih hclient)

/-- At every place there is a connection earlier if there is one later. -/
theorem AllLater.exists_of_getElem? {before after : List Client} (h : AllLater before after) {place : Nat}
    {later : Client} (hlater : after[place]? = some later) : ∃ client, before[place]? = some client ∧ Later client later := by
  induction h generalizing place with
  | nil => cases hlater
  | @cons first _ _ _ hfirst _ ih =>
    cases place with
    | zero =>
      obtain rfl := Option.some.inj hlater
      exact ⟨first, rfl, hfirst⟩
    | succ place => exact ih hlater

end Remote.Client

open Remote (Client)

/-- The connections of a state are those of an earlier one. -/
abbrev World.Connected (before after : World) : Prop := Client.AllLater before.servers after.servers

theorem World.Connected.of_eq {before after : World} (h : after.servers = before.servers) : before.Connected after := by
  unfold World.Connected
  rw [h]
  exact .refl _

/-! ### Runs -/

/-- What takes no part in calling servers leaves the connections alone. -/
theorem Run.Own.servers_eq {α : Type} {action : Run α} (haction : Run.Own action) (world : World) :
    (action world).2.servers = world.servers := by
  cases haction with
  | checkScopes =>
    rw [Run.checkScopes_apply]
  | define input =>
    rcases Bindings.define_cases input with ⟨e, h⟩ | ⟨request, h⟩ <;> rw [h]
  | undefine input =>
    rcases Bindings.undefine_cases input with ⟨e, h⟩ | ⟨name, h⟩ <;> rw [h]
  | rebind input =>
    rcases Bindings.rebind_cases input with ⟨e, h⟩ | ⟨name, source, h⟩
    · rw [h]
    · rw [h]
      split <;> rfl
  | listTools => rfl
  | print input =>
    rcases ConsoleTools.print_cases input with ⟨e, h⟩ | ⟨text, h⟩
    · rw [h]
    · rw [h]
      split <;> rfl
  | readLine =>
    rw [ConsoleTools.readLine_apply]
    split <;> rfl

/-- A call of a remote tool is a request of its connection. -/
theorem Remote.call_connected (server : Nat) (name : String) (input : Value) (world : World) :
    world.Connected (Remote.call server name input world).2 := by
  unfold Remote.call
  rw [Run.bind_of_ok (Run.get_apply world)]
  cases hserver : world.servers[server]? with
  | none => exact .refl _
  | some client =>
    let ended := client.callTool world.now world.scopes name input
    show World.Connected world
      (Run.ofExcept (ended.outcome.mapError Fault.toError)
        { world with servers := world.servers.set server ended.client, now := ended.now }).2
    rw [Run.ofExcept_apply]
    exact .set hserver (client.later_callTool _ _ _ _)

theorem Run.Foreign.connected {α : Type} {action : Run α} (haction : Run.Foreign action) (world : World) :
    world.Connected (action world).2 := by
  cases haction with
  | command c input =>
    obtain ⟨now, host, hafter⟩ := c.run_state input world
    rw [hafter]
    exact .of_eq rfl
  | remote server name input => exact Remote.call_connected server name input world
  | _ => exact .of_eq rfl

theorem Run.Simple.connected {α : Type} {action : Run α} (haction : Run.Simple action) (world : World) :
    world.Connected (action world).2 := by
  cases haction with
  | own haction => exact .of_eq (haction.servers_eq world)
  | foreign haction => exact haction.connected world
  | _ => exact .refl _

theorem Run.bind_connected {α β : Type} {x : Run α} {f : α → Run β}
    (hx : ∀ world : World, world.Connected (x world).2)
    (hf : ∀ a, ∀ world : World, world.Connected (f a world).2) (world : World) :
    world.Connected ((x >>= f) world).2 := by
  have hfirst := hx world
  rw [Run.bind_apply]
  rcases hrun : x world with ⟨e | a, between⟩
  · rw [hrun] at hfirst
    exact hfirst
  · rw [hrun] at hfirst
    exact hfirst.trans (hf a between)

/-- Runs keep the connections. -/
def Law.connects : Law Unit Law.Stage :=
  .uniform (fun x => ∀ world : World, world.Connected (x () world).2)
    (fun haction => haction.connected)
    (fun hx hf => Run.bind_connected hx hf)
    (fun outer constants hx world => hx (world.enter outer constants))

theorem Law.connects_untraced : Law.connects.Untraced where
  captures _ _ _ hx world := hx world
  record _ _ world := .refl world.servers

/-- **A program keeps the connections.** -/
theorem Run.program_connected (limit : Nat) (program : Value) (world : World) :
    world.Connected (Run.program limit program world).2 :=
  (Law.connects_untraced.invokes limit).evaluate reentries limit () program world

end ToolWeave
