import ToolWeave.Proofs.Connections
import ToolWeave.Proofs.Registration
import ToolWeave.Proofs.Settings

/-!
# Connections that are closed

A context holds the connections to its servers.  While it is brought up servers are started one after the other, and
much can go wrong later: another server, a program file, a program.  What is left of the connections is said for every
end (`Context.start_releases`).

## Main definitions

* `Context.Opened`: what holds of the connections when a context has been brought up.
* `Context.Crashed`: what is left of them after a crash, by the place where it happens.
* `Context.closing`: connections some of which are closed.

## Design notes

**Failures and crashes.**  Only a failure of a program file or its program closes the connections.  A crash is passed on
at once, wherever it comes from, and the servers that have been started by then are left running.
-/

namespace ToolWeave

open Remote (Client)

/-! ### Steps of bringing a context up -/

namespace Opening

/-- Warnings are given one after the other. -/
theorem run_warnAll (texts : List String) (p : Progress) :
    (forIn texts PUnit.unit (fun text _ => do
        warn text
        return ForInStep.yield PUnit.unit) : Opening PUnit).run p = (.ok (), p.telling texts) := by
  induction texts generalizing p with
  | nil => exact Prod.ext rfl p.telling_nil.symm
  | cons text rest ih =>
    rw [List.forIn_cons, run_bind, run_bind, run_warn]
    refine (ih (p.telling [text])).trans ?_
    rw [Progress.telling_telling]
    rfl

/-- What is loaded is there or crashes, with warnings either way. -/
theorem run_ofLoading {α : Type} (loading : Loading α) (p : Progress) :
    (ofLoading loading).run p =
      ((loading.run []).1.mapError Fault.crash, p.telling (loading.run []).2) := by
  unfold ofLoading
  rcases loading.run [] with ⟨outcome, texts⟩
  dsimp only
  rw [run_bind, run_warnAll]
  cases outcome <;> rfl

/-- What fails is handled where it failed. -/
theorem run_tryCatch {α : Type} (x : Opening α) (handle : Fault → Opening α) (p : Progress) :
    (tryCatch x handle).run p =
      match x.run p with
      | (.ok a, q) => (.ok a, q)
      | (.error fault, q) => (handle fault).run q := by
  simp only [tryCatch, tryCatchThe, MonadExceptOf.tryCatch, ExceptT.tryCatch, ExceptT.run_mk, bind, StateT.bind]
  rcases hx : x.run p with ⟨fault | a, q⟩
  · rw [show x p = (.error fault, q) from hx]
    rfl
  · rw [show x p = (.ok a, q) from hx]
    rfl

end Opening

namespace Context

open ServerEntry

/-- Connections, those at some places closed. -/
def closing (numbers : List Nat) (servers : List Client) : List Client :=
  servers.mapIdx fun i client => if numbers.contains i then client.close else client

/-! ### Connections some of which are closed -/

/-- Connections some of which are closed are later ones. -/
theorem later_closing (numbers : List Nat) (servers : List Client) :
    Client.AllLater servers (closing numbers servers) := by
  unfold closing Client.AllLater
  rw [List.forall₂_iff_get]
  refine ⟨(List.length_mapIdx ..).symm, fun i hi hi' => ?_⟩
  simp only [List.get_eq_getElem, List.getElem_mapIdx]
  split
  · exact ⟨rfl, rfl, fun _ => rfl⟩
  · exact .refl _

/-- If all others are closed already, then all are closed. -/
theorem closed_of_mem_closing {numbers : List Nat} {servers : List Client}
    (h : ∀ place client, servers[place]? = some client → place ∉ numbers → client.closed = true) :
    ∀ client ∈ closing numbers servers, client.closed = true := by
  intro client hclient
  obtain ⟨i, hi, rfl⟩ := List.mem_mapIdx.mp hclient
  split
  · rfl
  · next hother => exact h i _ (List.getElem?_eq_getElem hi) (by simpa using hother)

/-! ### Program files -/

/-- A program file fails before its program is run, or its program keeps the connections and does not crash. -/
theorem run_preload (limit : Nat) (path : String) (p : Progress) :
    (∃ fault, readProgram p.world.host path = .error fault ∧ (preload limit path).run p = (.error fault, p)) ∨
      ∃ world outcome, p.world.Connected world ∧ (preload limit path).run p = (outcome, p.within world) ∧
        ∀ cause, outcome ≠ .error (.crash cause) := by
  unfold preload
  rw [Opening.run_get_bind]
  cases hread : readProgram p.world.host path with
  | error fault => exact .inl ⟨fault, rfl, rfl⟩
  | ok program =>
    right
    have hconnected := Run.program_connected limit program p.world
    dsimp only
    rw [Opening.run_get_bind]
    rcases hrun : (Run.program limit program).run p.world with ⟨e | v, world⟩
    · have hworld : (Run.program limit program p.world).2 = world := congrArg Prod.snd hrun
      exact ⟨world, .error (.failure e), hworld ▸ hconnected, rfl, nofun⟩
    · have hworld : (Run.program limit program p.world).2 = world := congrArg Prod.snd hrun
      exact ⟨world, .ok (), hworld ▸ hconnected, rfl, nofun⟩

/-- One file after the other: a failure closes the connections, and a crash does not. -/
theorem run_preloadAll_cons (limit : Nat) (clients : List Nat) (path : String) (rest : List String) (p : Progress) :
    (preloadAll limit clients (path :: rest)).run p =
      match (preload limit path).run p with
      | (.ok (), q) => (preloadAll limit clients rest).run q
      | (.error (.failure e), q) =>
        (.error (.failure e), q.within { q.world with servers := closing clients q.world.servers })
      | (.error (.crash cause), q) => (.error (.crash cause), q) := by
  rw [preloadAll, Opening.run_bind, Opening.run_tryCatch]
  rcases (preload limit path).run p with ⟨(e | cause) | ⟨⟩, q⟩ <;> rfl

/-- What comes of running the programs of some files: all of them are run; or one fails, and then the connections to some
servers are closed; or the bytes of one are no program text, and then everything is left as the programs before it left
it. -/
inductive Preloaded (limit : Nat) (clients : List Nat) (p : Progress) (paths : List String) :
    Except Fault Unit → Progress → Prop
  | done {after : Progress} (hconnected : p.world.Connected after.world) : Preloaded limit clients p paths (.ok ()) after
  | failed {e : ToolError} {between after : Progress} (hconnected : p.world.Connected between.world)
      (hservers : after.world.servers = closing clients between.world.servers) :
      Preloaded limit clients p paths (.error (.failure e)) after
  | crashed {cause : Crash} {after : Progress} {earlier later : List String} {path : String}
      (hpaths : paths = earlier ++ path :: later)
      (hrun : (preloadAll limit clients earlier).run p = (.ok (), after)) (hconnected : p.world.Connected after.world)
      (hread : readProgram after.world.host path = .error (.crash cause)) :
      Preloaded limit clients p paths (.error (.crash cause)) after

theorem run_preloadAll (limit : Nat) (clients : List Nat) (paths : List String) (p : Progress) :
    Preloaded limit clients p paths ((preloadAll limit clients paths).run p).1
      ((preloadAll limit clients paths).run p).2 := by
  induction paths generalizing p with
  | nil => exact .done (.refl _)
  | cons path rest ih =>
    have hcons := run_preloadAll_cons limit clients path rest p
    rcases run_preload limit path p with ⟨fault, hread, hrun⟩ | ⟨world, outcome, hconnected, hrun, hcrash⟩
    · rw [hrun] at hcons
      rw [hcons]
      cases fault with
      | failure e => exact .failed (.refl _) rfl
      | crash cause => exact .crashed (show path :: rest = [] ++ path :: rest from rfl) rfl (.refl _) hread
    · rw [hrun] at hcons
      rw [hcons]
      cases outcome with
      | error fault =>
        cases fault with
        | failure e => exact .failed hconnected rfl
        | crash cause => exact absurd rfl (hcrash cause)
      | ok _ =>
        dsimp only
        have hrest := ih (p.within world)
        generalize houtcome : ((preloadAll limit clients rest).run (p.within world)).1 = outcome at hrest ⊢
        generalize hafter : ((preloadAll limit clients rest).run (p.within world)).2 = after at hrest ⊢
        cases hrest with
        | done hlater => exact .done (hconnected.trans hlater)
        | failed hlater hservers => exact .failed (hconnected.trans hlater) hservers
        | @crashed cause _ earlier later other hpaths hbefore hlater hread =>
          have hall : path :: rest = (path :: earlier) ++ other :: later := congrArg (path :: ·) hpaths
          refine .crashed hall ?_ (hconnected.trans hlater) hread
          rw [run_preloadAll_cons, hrun]
          exact hbefore

/-! ### Servers that have been started -/

/-- The places in use are those of the servers that list their tools. -/
theorem mem_places {host : Host} {usual : Double} {servers : List ServerEntry} {before place : Nat} :
    place ∈ places host usual before servers ↔
      ∃ earlier e later listings client, servers = earlier ++ e :: later ∧ e.contact host usual = .listed listings client ∧
        place = before + (earlier.flatMap (connections host usual)).length := by
  induction servers generalizing before with
  | nil =>
    refine iff_of_false List.not_mem_nil ?_
    rintro ⟨earlier, e, later, -, -, hsplit, -⟩
    exact List.append_ne_nil_of_right_ne_nil earlier (List.cons_ne_nil e later) hsplit.symm
  | cons e rest ih =>
    rw [places, List.mem_append, ih]
    constructor
    · rintro (hfirst | ⟨earlier, found, later, listings, client, rfl, hcontact, rfl⟩)
      · unfold place? at hfirst
        cases hcontact : e.contact host usual with
        | listed listings client =>
          rw [hcontact] at hfirst
          obtain rfl := List.mem_singleton.mp hfirst
          exact ⟨[], e, rest, listings, client, rfl, hcontact, rfl⟩
        | _ => rw [hcontact] at hfirst; cases hfirst
      · refine ⟨e :: earlier, found, later, listings, client, rfl, hcontact, ?_⟩
        rw [List.flatMap_cons, List.length_append, Nat.add_assoc]
    · rintro ⟨earlier, found, later, listings, client, hsplit, hcontact, rfl⟩
      cases earlier with
      | nil =>
        obtain ⟨rfl, rfl⟩ := List.cons.inj hsplit
        left
        unfold place?
        rw [hcontact]
        exact List.mem_singleton.mpr rfl
      | cons first earlier =>
        obtain ⟨rfl, rfl⟩ := List.cons.inj hsplit
        refine .inr ⟨earlier, found, later, listings, client, rfl, hcontact, ?_⟩
        rw [List.flatMap_cons, List.length_append, Nat.add_assoc]

section Assembling

variable {request : ContextRequest} {config : Config} {before : Progress}

/-- If no contact crashes, the servers are as their contacts left them, and those that list their tools are in use. -/
theorem run_assemble_of_uncrashed
    (h : crash? before.world.host config.remoteTimeout (serversOf request config) = none) :
    ∃ tools after, (assemble request config).run before =
        (.ok (tools, places before.world.host config.remoteTimeout before.world.servers.length (serversOf request config)),
          after) ∧
      after.world.servers = before.world.servers ++
        (serversOf request config).flatMap (connections before.world.host config.remoteTimeout) := by
  let registered := before.telling
    (ToolSet.reports "process tool" (Entries.names ToolSet.builtins) (Entries.names config.commands))
  have hregistered : registered.world = before.world := Progress.world_telling _ _
  obtain ⟨now, hrun⟩ := run_addServers (p := registered) (hregistered ▸ h)
    (ToolSet.builtins.kept (commandTools request config)) []
  rw [hregistered] at hrun
  have hassemble := @run_assemble request config before
  dsimp only at hassemble
  rw [hrun] at hassemble
  exact ⟨_, _, hassemble, rfl⟩

/-- If one crashes, the servers before it are as their contacts left them, and so is its own. -/
theorem run_assemble_of_crash {cause : Crash}
    (h : crash? before.world.host config.remoteTimeout (serversOf request config) = some cause) :
    ∃ after, (assemble request config).run before = (.error (.crash cause), after) ∧
      ∃ earlier e later, serversOf request config = earlier ++ e :: later ∧
        crash? before.world.host config.remoteTimeout earlier = none ∧
        e.contact before.world.host config.remoteTimeout = .crashed cause ∧
        after.world.servers = before.world.servers ++
          earlier.flatMap (connections before.world.host config.remoteTimeout) ++
            e.abandoned before.world.host config.remoteTimeout := by
  let registered := before.telling
    (ToolSet.reports "process tool" (Entries.names ToolSet.builtins) (Entries.names config.commands))
  have hregistered : registered.world = before.world := Progress.world_telling _ _
  obtain ⟨after, hrun, hcrashed⟩ := run_addServers_of_crashed (p := registered) (hregistered ▸ h)
    (ToolSet.builtins.kept (commandTools request config)) []
  rw [hregistered] at hcrashed
  refine ⟨after, ?_, hcrashed⟩
  rw [run_assemble, hrun]

theorem run_checkDirectories_of_misplaced (h : (config.commands.any fun entry => entry.2.misplaced) = true) :
    ∃ after, (checkDirectories request config).run before = (.error (.crash .nullByte), after) ∧
      after.world = before.world := by
  unfold checkDirectories
  rw [if_pos h, Opening.run_bind, Opening.run_registerAll]
  exact ⟨_, rfl, Progress.world_telling _ _⟩

theorem run_checkDirectories_of_placed (h : (config.commands.any fun entry => entry.2.misplaced) = false) :
    (checkDirectories request config).run before = (.ok (), before) := by
  unfold checkDirectories
  rw [if_neg (Bool.eq_false_iff.mp h)]
  rfl

end Assembling

/-! ### Bringing a context up -/

/-- The configuration of a project. -/
def configOf (request : ContextRequest) (host : Host) : Except Crash Config :=
  ((Config.load host request.directory request.config request.isolated).run []).1

/-- The connections to the servers of a configuration when all have been started, as their contacts leave them. -/
def started (request : ContextRequest) (config : Config) (host : Host) : List Client :=
  (serversOf request config).flatMap (connections host config.remoteTimeout)

/-- Brings up a context from a configuration. -/
def bringUpFrom (request : ContextRequest) (config : Config) : Opening Context := do
  checkDirectories request config
  let (tools, clients) ← assemble request config
  match limitOf config with
  | .error cause => throw (.crash cause)
  | .ok limit =>
    preloadAll limit clients config.preload
    return ⟨request.directory, config, limit, tools, clients⟩

section Loading

variable {request : ContextRequest} {p : Progress}

/-- A configuration that cannot be loaded is the end of it. -/
theorem run_bringUp_of_error {cause : Crash} (h : configOf request p.world.host = .error cause) :
    ∃ after, after.world = p.world ∧ (bringUp request).run p = (.error (.crash cause), after) := by
  unfold configOf at h
  unfold bringUp
  rw [Opening.run_get_bind]
  dsimp only
  rw [Opening.run_bind, Opening.run_ofLoading, h]
  exact ⟨_, Progress.world_telling _ _, rfl⟩

/-- A context is brought up from the configuration. -/
theorem run_bringUp_of_ok {config : Config} (h : configOf request p.world.host = .ok config) :
    ∃ loaded, loaded.world = p.world ∧ (bringUp request).run p = (bringUpFrom request config).run loaded := by
  let told := p.telling ((Config.load p.world.host request.directory request.config request.isolated).run []).2
  refine ⟨{ told with reporting := LogLevel.reportsWarnings (logLevel request.logLevel p.world.host config) },
    Progress.world_telling _ _, ?_⟩
  unfold configOf at h
  unfold bringUp
  rw [Opening.run_get_bind]
  dsimp only
  rw [Opening.run_bind, Opening.run_ofLoading, h]
  rfl

end Loading

/-- What holds of the connections when a context has been brought up.  All servers have been started, those that list
their tools are in use, and the other connections are closed; and so are all when the context has been closed. -/
structure Opened (request : ContextRequest) (host : Host) (context : Context) (after : Progress) : Prop where
  loaded : configOf request host = .ok context.config
  started : Client.AllLater (started request context.config host) after.world.servers
  clients : ∀ place, place ∈ context.clients ↔
    ∃ earlier e later listings client, serversOf request context.config = earlier ++ e :: later ∧
      e.contact host context.config.remoteTimeout = .listed listings client ∧
      place = (earlier.flatMap (connections host context.config.remoteTimeout)).length
  others : ∀ place client, after.world.servers[place]? = some client → place ∉ context.clients → client.closed = true
  closed : ∀ client ∈ ((Opening.close context.clients).run after).2.world.servers, client.closed = true

/-- What holds of the connections after a failure: all servers have been started, and all connections are closed. -/
structure Released (request : ContextRequest) (host : Host) (servers : List Client) : Prop where
  started : ∃ config, configOf request host = .ok config ∧ Client.AllLater (started request config host) servers
  closed : ∀ client ∈ servers, client.closed = true

/-- What is left of the connections after a crash.  If the configuration cannot be loaded, or the directory of a command
is no path, no server has been started.  If a contact crashes, its server and those before it are as the contacts left
them.  After that all have been started; if there is no room for the calls the connections are as the contacts left
them, and if the bytes of a program file are no text they are as the programs before left them. -/
inductive Crashed (request : ContextRequest) (host : Host) : Crash → List Client → Prop
  | unloaded {cause : Crash} (hload : configOf request host = .error cause) : Crashed request host cause []
  | misplaced {config : Config} (hload : configOf request host = .ok config)
      (hmisplaced : ∃ entry ∈ config.commands, entry.2.misplaced = true) : Crashed request host .nullByte []
  | contact {config : Config} {cause : Crash} {earlier later : List ServerEntry} {e : ServerEntry}
      (hload : configOf request host = .ok config) (hservers : serversOf request config = earlier ++ e :: later)
      (hearlier : crash? host config.remoteTimeout earlier = none)
      (hcontact : e.contact host config.remoteTimeout = .crashed cause) :
      Crashed request host cause
        (earlier.flatMap (connections host config.remoteTimeout) ++ e.abandoned host config.remoteTimeout)
  | limit {config : Config} {cause : Crash} (hload : configOf request host = .ok config)
      (hlimit : limitOf config = .error cause) : Crashed request host cause (started request config host)
  | preload {config : Config} {cause : Crash} {limit : Nat} {clients : List Nat} {before after : Progress}
      {earlier later : List String} {path : String} (hload : configOf request host = .ok config)
      (hpaths : config.preload = earlier ++ path :: later) (hbefore : before.world.servers = started request config host)
      (hrun : (preloadAll limit clients earlier).run before = (.ok (), after))
      (hconnected : before.world.Connected after.world)
      (hread : readProgram after.world.host path = .error (.crash cause)) :
      Crashed request host cause after.world.servers

/-- Connections that are not in use are closed, also later. -/
theorem closed_of_not_mem_clients {request : ContextRequest} {config : Config} {host : Host} {servers : List Client}
    (h : Client.AllLater (started request config host) servers) {place : Nat} {client : Client}
    (hclient : servers[place]? = some client)
    (hplace : place ∉ places host config.remoteTimeout 0 (serversOf request config)) : client.closed = true := by
  obtain ⟨first, hfirst, hlater⟩ := h.exists_of_getElem? hclient
  exact hlater.closed (@closed_of_not_mem_places host config.remoteTimeout (serversOf request config) [] place first
    (Nat.zero_le place) hfirst hplace)

theorem opened_of_later {request : ContextRequest} {config : Config} {host : Host} {directory : String} {limit : Nat}
    {tools : ToolSet} {after : Progress} (hload : configOf request host = .ok config)
    (h : Client.AllLater (started request config host) after.world.servers) :
    Opened request host
      ⟨directory, config, limit, tools, places host config.remoteTimeout 0 (serversOf request config)⟩ after where
  loaded := hload
  started := h
  clients place := by simpa using @mem_places host config.remoteTimeout (serversOf request config) 0 place
  others _ _ := closed_of_not_mem_clients h
  closed := closed_of_mem_closing fun _ _ => closed_of_not_mem_clients h

theorem released_of_later {request : ContextRequest} {config : Config} {host : Host} {before after : List Client}
    (hload : configOf request host = .ok config) (h : Client.AllLater (started request config host) before)
    (hafter : after = closing (places host config.remoteTimeout 0 (serversOf request config)) before) :
    Released request host after where
  started := ⟨config, hload, hafter ▸ h.trans (later_closing _ before)⟩
  closed := hafter ▸ closed_of_mem_closing fun _ _ => closed_of_not_mem_clients h

/-- What holds of the connections when bringing a context up has ended. -/
def Ended (request : ContextRequest) (host : Host) : Except Fault Context × Progress → Prop
  | (.ok context, after) => Opened request host context after
  | (.error (.failure _), after) => Released request host after.world.servers
  | (.error (.crash cause), after) => Crashed request host cause after.world.servers

/-- When all servers have been started, what comes of the programs is the end. -/
theorem ended_of_preloaded {request : ContextRequest} {config : Config} {host : Host} {limit : Nat} {tools : ToolSet}
    {assembled : Progress} {outcome : Except Fault Unit} {after : Progress} (hload : configOf request host = .ok config)
    (hstarted : assembled.world.servers = started request config host)
    (h : Preloaded limit (places host config.remoteTimeout 0 (serversOf request config)) assembled config.preload
      outcome after) :
    Ended request host
      (outcome.map fun _ => ⟨request.directory, config, limit, tools,
        places host config.remoteTimeout 0 (serversOf request config)⟩, after) := by
  cases h with
  | done hconnected =>
    have hlater : Client.AllLater (started request config host) after.world.servers := hstarted ▸ hconnected
    exact opened_of_later hload hlater
  | @failed e between _ hconnected hclosing =>
    have hlater : Client.AllLater (started request config host) between.world.servers := hstarted ▸ hconnected
    exact released_of_later hload hlater hclosing
  | crashed hpaths hbefore hconnected hread => exact .preload hload hpaths hstarted hbefore hconnected hread

theorem run_bringUpFrom {request : ContextRequest} {config : Config} {p : Progress} (hservers : p.world.servers = [])
    (hload : configOf request p.world.host = .ok config) :
    Ended request p.world.host ((bringUpFrom request config).run p) := by
  unfold bringUpFrom
  rw [Opening.run_bind]
  cases hdirectories : config.commands.any fun entry => entry.2.misplaced with
  | true =>
    obtain ⟨after, hrun, hafter⟩ := @run_checkDirectories_of_misplaced request config p hdirectories
    rw [hrun]
    show Crashed request p.world.host .nullByte after.world.servers
    rw [hafter, hservers]
    obtain ⟨entry, hentry, hmisplaced⟩ := List.any_eq_true.mp hdirectories
    exact .misplaced hload ⟨entry, hentry, hmisplaced⟩
  | false =>
    rw [run_checkDirectories_of_placed hdirectories]
    dsimp only
    rw [Opening.run_bind]
    cases hcrash : crash? p.world.host config.remoteTimeout (serversOf request config) with
    | some cause =>
      obtain ⟨after, hrun, earlier, e, later, hsplit, hearlier, hcontact, hafter⟩ := run_assemble_of_crash hcrash
      rw [hrun]
      show Crashed request p.world.host cause after.world.servers
      rw [hafter, hservers, List.nil_append]
      exact .contact hload hsplit hearlier hcontact
    | none =>
      obtain ⟨tools, assembled, hrun, hstarted⟩ := run_assemble_of_uncrashed hcrash
      rw [hrun]
      rw [hservers] at hstarted ⊢
      dsimp only
      have hstarted : assembled.world.servers = started request config p.world.host := hstarted
      cases hlimit : limitOf config with
      | error cause =>
        show Crashed request p.world.host cause assembled.world.servers
        rw [hstarted]
        exact .limit hload hlimit
      | ok limit =>
        dsimp only
        rw [Opening.run_bind]
        have hpreloaded := run_preloadAll limit
          (places p.world.host config.remoteTimeout ([] : List Client).length (serversOf request config)) config.preload
          assembled
        generalize (preloadAll limit _ config.preload).run assembled = result at hpreloaded ⊢
        have hended := @ended_of_preloaded request config p.world.host limit tools assembled result.1 result.2 hload
          hstarted hpreloaded
        obtain ⟨fault | ⟨⟩, after⟩ := result
        · exact hended
        · exact hended

/-- **Failures release the servers, and crashes do not.** -/
theorem start_releases (request : ContextRequest) (console : Console) (host : Host) :
    match start request console host with
    | (.ok context, after) => Opened request host context after
    | (.error (.failure _), after) => Released request host after.world.servers
    | (.error (.crash cause), after) => Crashed request host cause after.world.servers := by
  show Ended request host (start request console host)
  let fresh : Progress := ⟨[], true, World.fresh [] console host⟩
  unfold start
  cases hload : configOf request host with
  | error cause =>
    obtain ⟨after, hworld, hrun⟩ := run_bringUp_of_error (p := fresh) hload
    have hservers : after.world.servers = [] := congrArg World.servers hworld
    rw [hrun]
    show Crashed request host cause after.world.servers
    rw [hservers]
    exact .unloaded hload
  | ok config =>
    obtain ⟨loaded, hworld, hrun⟩ := run_bringUp_of_ok (p := fresh) hload
    have hhost : loaded.world.host = host := congrArg World.host hworld
    rw [hrun]
    exact hhost ▸ run_bringUpFrom (congrArg World.servers hworld) (hhost ▸ hload)

/-- A server that lists a tool. -/
def near : ServerEntry := replaying "near" ["\x7b\"id\": 1, \"result\": [\x7b\"name\": \"x\"\x7d]\x7d"]

/-- A file in which this server is configured, and after it one that does not list its tools. -/
def leakyText : String :=
  "\x7b\"remote_servers\": \x7b\"near\": \x7b\"command\": [\"/bin/playback\", " ++
    "\"\x7b\\\"id\\\": 1, \\\"result\\\": [\x7b\\\"name\\\": \\\"x\\\"\x7d]\x7d\"]\x7d, " ++
    "\"far\": \x7b\"command\": [\"/bin/playback\", \"\x7b\\\"id\\\": 1, \\\"error\\\": \\\"no\\\"\x7d\"]\x7d\x7d\x7d"

/-- A host with this file. -/
def leakyHost : Host := .single "/settings.json" leakyText

/-- A context is asked for with this file. -/
def leakyRequest : ContextRequest := ⟨"/", some "/settings.json", true, none, true⟩

theorem configOf_leaky : ∃ config, configOf leakyRequest leakyHost = .ok config ∧
    serversOf leakyRequest config = [near, refusing] ∧ config.remoteTimeout = Config.usual.remoteTimeout ∧
    config.commands = [] := by
  -- the text is read only once
  have hparsed : ((Config.jsonMapping? leakyText).bind fun entries =>
      ((Config.ofMapping leakyHost "/" ⟨Document.merge [] entries, ["/settings.json"]⟩).run []).1.toOption.map
        fun config => (serversOf leakyRequest config, config.remoteTimeout, config.commands.length)) =
          some ([near, refusing], Config.usual.remoteTimeout, 0) := by
    decide +kernel
  obtain ⟨entries, hentries, hmapped⟩ := Option.bind_eq_some_iff.mp hparsed
  obtain ⟨config, hconfig, hresult⟩ := Option.map_eq_some_iff.mp hmapped
  obtain ⟨hservers, hrest⟩ := Prod.mk.inj hresult
  obtain ⟨htimeout, hcommands⟩ := Prod.mk.inj hrest
  refine ⟨config, ?_, hservers, htimeout, List.length_eq_zero_iff.mp hcommands⟩
  show (Config.loaded leakyText).1 = .ok config
  rw [Config.loaded_eq (Option.isSome_iff_exists.mpr ⟨entries, hentries⟩), hentries]
  show ((Config.ofMapping leakyHost "/" ⟨Document.merge [] entries, ["/settings.json"]⟩).run []).1 = .ok config
  generalize ((Config.ofMapping leakyHost "/" _).run []).1 = outcome at hconfig ⊢
  cases outcome with
  | error cause => cases hconfig
  | ok settled => exact congrArg _ (Option.some.inj hconfig)

/-- Whether a contact leads to a connection that is in use and open. -/
def Contact.isOpen : Contact → Bool
  | .listed _ client => !client.closed
  | _ => false

theorem contact_near : ∃ listings client,
    near.contact leakyHost Config.usual.remoteTimeout = .listed listings client ∧ client.closed = false := by
  have hopen : Contact.isOpen (near.contact leakyHost Config.usual.remoteTimeout) = true := by
    unfold near
    rw [contact_replayedOn (by decide) (by decide)]
    decide +kernel
  cases hcontact : near.contact leakyHost Config.usual.remoteTimeout with
  | listed listings client =>
    rw [hcontact] at hopen
    exact ⟨listings, client, rfl, by simpa [Contact.isOpen] using hopen⟩
  | _ => rw [hcontact] at hopen; cases hopen

theorem contact_refusing : refusing.contact leakyHost Config.usual.remoteTimeout =
    .crashed (.repeatedArgument "tool_failure" "message") := by
  unfold refusing
  rw [contact_replayedOn (by decide) (by decide)]
  exact Contact.ofAnswer_of_crash (eq_of_repeated? (by decide +kernel))

/-- The second server lets everything fail, and the connection to the first one is left open. -/
theorem start_leaks : ∃ after client,
    start leakyRequest (.reading "") leakyHost =
        (.error (.crash (.repeatedArgument "tool_failure" "message")), after) ∧
      client ∈ after.world.servers ∧ client.closed = false := by
  obtain ⟨config, hconfig, hservers, htimeout, hcommands⟩ := configOf_leaky
  obtain ⟨listings, client, hnear, hopen⟩ := contact_near
  obtain ⟨loaded, hworld, hrun⟩ := run_bringUp_of_ok (p := ⟨[], true, World.fresh [] (.reading "") leakyHost⟩) hconfig
  have hhost : loaded.world.host = leakyHost := congrArg World.host hworld
  have hcrash : crash? loaded.world.host config.remoteTimeout (serversOf leakyRequest config) =
      some (.repeatedArgument "tool_failure" "message") := by
    rw [hhost, htimeout, hservers]
    unfold crash?
    rw [List.findSome?_cons, hnear, List.findSome?_cons, contact_refusing]
    rfl
  have hplaced : (config.commands.any fun entry => entry.2.misplaced) = false := by
    rw [hcommands]
    rfl
  obtain ⟨after, hassemble, earlier, e, later, hsplit, -, hcontact, hafter⟩ := run_assemble_of_crash hcrash
  refine ⟨after, client, ?_, ?_, hopen⟩
  · unfold start
    rw [hrun, bringUpFrom, Opening.run_bind, run_checkDirectories_of_placed hplaced]
    dsimp only
    rw [Opening.run_bind, hassemble]
  · rw [hservers] at hsplit
    rw [hhost, htimeout] at hcontact hafter
    cases earlier with
    | nil =>
      -- the first server lists its tools
      obtain ⟨rfl, -⟩ := List.cons.inj hsplit
      rw [hnear] at hcontact
      cases hcontact
    | cons first earlier =>
      obtain ⟨rfl, -⟩ := List.cons.inj hsplit
      have hmem : client ∈ near.connections leakyHost Config.usual.remoteTimeout := by
        unfold connections
        rw [hnear]
        exact List.mem_singleton.mpr rfl
      rw [hafter, List.flatMap_cons]
      simp [hmem]

end Context

end ToolWeave
