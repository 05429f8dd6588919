import ToolWeave.Proofs.Contacts
import ToolWeave.Proofs.Paths
import ToolWeave.Proofs.Resolution
import ToolWeave.Proofs.Stores

/-!
# Registering tools

Built-in tools, configured commands and the tools of remote servers are put together one after the other, and a
name stays with whoever had it first.  What a root frame binds afterwards, to which server each proxy leads, and
who is reported to have lost a name is said from the configuration alone (`Context.assemble_registers`).

## Main definitions

* `Context.commandTools`, `Context.serversOf`: the tools of the configured commands, and the servers that are started.
* `Context.Assembled`: what holds of a root frame that has been put together.

## Design notes

**Servers in the kernel.**  The servers of the examples replay lines that are given as arguments, so that everything a
contact with them leads to can be computed (`Context.contact_replayedOn`).
-/

namespace ToolWeave

namespace Context

open ServerEntry

/-! ### What is put together -/

/-- The tools of the configured commands, with their names. -/
def commandTools (request : ContextRequest) (config : Config) : List (String × Tool) :=
  config.commands.map fun entry => (entry.1, entry.2.tool request.directory)

/-- The servers that are started. -/
def serversOf (request : ContextRequest) (config : Config) : List ServerEntry :=
  if request.remotes then config.servers.map Prod.snd else []

/-- What holds of a root frame that has been put together. -/
structure Assembled (request : ContextRequest) (config : Config) (before : Progress) (tools : ToolSet)
    (clients : List Nat) (after : Progress) : Prop where
  /-- There is no frame around the one with the tools. -/
  outermost : after.world.environment.outer = []
  shown : ∀ name, after.world.lookup name = Entries.get? name tools
  /-- A name belongs to the built-in tool of that name, or else to the command configured under it, or else to the
  first tool that a server offers under it. -/
  owned : ∀ name, Entries.get? name tools =
    ((Entries.get? name ToolSet.builtins).or
      (if name = "" then none else
        (Entries.get? name config.commands).map fun e => e.tool request.directory)).or
      (Entries.get? name (offers before.world.host config.remoteTimeout before.world.servers.length
        (serversOf request config)))
  /-- A tool that a server offers stands for a call of this server, by the name in its list. -/
  routed : ∀ entry ∈ offers before.world.host config.remoteTimeout before.world.servers.length
      (serversOf request config),
    ∃ e ∈ serversOf request config, ∃ listings client place,
      e.contact before.world.host config.remoteTimeout = .listed listings client ∧ place ∈ clients ∧
        after.world.servers[place]? = some client ∧
        ∃ listing ∈ listings, entry = e.tool place listing ∧
          ∀ reach input world connection, world.servers[place]? = some connection →
            entry.2.act reach input world =
              let ended := connection.callTool world.now world.scopes listing.name input
              (ended.outcome.mapError Fault.toError,
                { world with servers := world.servers.set place ended.client, now := ended.now })
  /-- A server that has been started is in use, or the connection to it is closed. -/
  settled : ∀ place client, before.world.servers.length ≤ place → after.world.servers[place]? = some client →
    place ∉ clients → client.closed = true
  /-- A command that loses its name is reported. -/
  commands : before.reporting = true → ∀ earlier name e later reason, config.commands = earlier ++ (name, e) :: later →
    ToolSet.refusal? (Entries.names ToolSet.builtins ++ Entries.names earlier) name = some reason →
    "skipping process tool " ++ name ++ ": " ++ reason ∈ after.warnings
  /-- So is a tool of a server. -/
  proxies : before.reporting = true → ∀ earlier name tool later reason,
    offers before.world.host config.remoteTimeout before.world.servers.length (serversOf request config) =
      earlier ++ (name, tool) :: later →
    ToolSet.refusal? (Entries.names ToolSet.builtins ++ Entries.names config.commands ++ Entries.names earlier) name =
      some reason →
    "skipping remote tool " ++ name ++ ": " ++ reason ∈ after.warnings
  /-- These warnings, and those about servers that cannot be started or listed, come in order. -/
  told : before.reporting = true → after.warnings = before.warnings ++
    (ToolSet.reports "process tool" (Entries.names ToolSet.builtins) (Entries.names config.commands) ++
      tales before.world.host config.remoteTimeout
        (Entries.names ToolSet.builtins ++ Entries.names config.commands) (serversOf request config))

variable {request : ContextRequest} {config : Config} {before : Progress}

theorem names_commandTools : (commandTools request config).map Prod.fst = Entries.names config.commands := by
  unfold commandTools Entries.names
  rw [List.map_map]
  rfl

/-- First the commands are registered, then the tools of the servers, and then all is put into a root frame. -/
theorem run_assemble :
    let registered := before.telling
      (ToolSet.reports "process tool" (Entries.names ToolSet.builtins) (Entries.names config.commands))
    (assemble request config).run before =
      match (addServers config.remoteTimeout (serversOf request config)
          (ToolSet.builtins.kept (commandTools request config)) []).run registered with
      | (.ok (tools, clients), p) => (.ok (tools, clients), p.within (p.world.enterRoot tools))
      | (.error fault, p) => (.error fault, p) := by
  have hassemble : assemble request config =
      (Opening.registerAll "process tool" (commandTools request config) ToolSet.builtins >>= fun tools =>
        addServers config.remoteTimeout (serversOf request config) tools [] >>= fun found => do
          modify fun progress => progress.within (progress.world.enterRoot found.1)
          return found) := by
    unfold assemble serversOf
    split <;> rfl
  dsimp only
  rw [hassemble, Opening.run_bind, Opening.run_registerAll, names_commandTools]
  dsimp only
  rw [Opening.run_bind]
  split
  · next hrun => rw [hrun]; rfl
  · next hrun => rw [hrun]

/-- In a new root frame names mean the tools that it is made of. -/
theorem lookup_enterRoot {tools : ToolSet} (h : (Entries.names tools).Nodup) (world : World) (name : String) :
    (world.enterRoot tools).lookup name = Entries.get? name tools := by
  show (Frame.find? name ((world.store.add [] tools).1.chain (world.store.add [] tools).2)).map Prod.snd = _
  rw [Store.chain_add _ (fun _ hnumber => absurd hnumber List.not_mem_nil), List.map_nil, Frame.find?_cons,
    Frame.find?_nil, Option.or_none, Frame.get?_ofTools h]

/-- A proxy calls the server at its place. -/
theorem act_remote {world : World} {place : Nat} {connection : Remote.Client}
    (h : world.servers[place]? = some connection) (reach : Reach) (name : String) (spec : Spec) (input : Value) :
    (Tool.remote place name spec).act reach input world =
      let ended := connection.callTool world.now world.scopes name input
      (ended.outcome.mapError Fault.toError,
        { world with servers := world.servers.set place ended.client, now := ended.now }) := by
  show Remote.call place name input world = _
  unfold Remote.call
  rw [Run.bind_of_ok (Run.get_apply world), h]
  exact Run.ofExcept_apply _ _

/-- The tools that are kept belong to whoever came first. -/
theorem get?_registered (request : ContextRequest) (config : Config) (host : Host) (started : Nat) (name : String) :
    Entries.get? name ((ToolSet.builtins.kept (commandTools request config)).kept
        (offers host config.remoteTimeout started (serversOf request config))) =
      ((Entries.get? name ToolSet.builtins).or
        (if name = "" then none else
          (Entries.get? name config.commands).map fun e => e.tool request.directory)).or
        (Entries.get? name (offers host config.remoteTimeout started (serversOf request config))) := by
  rw [ToolSet.get?_kept, ToolSet.get?_kept, commandTools, Entries.get?_map]
  refine congrArg _ ?_
  split
  · next hname =>
    cases hoffer : Entries.get? name (offers host config.remoteTimeout started (serversOf request config)) with
    | none => rfl
    | some tool => exact absurd hname (name_ne_of_mem_offers _ _ (Entries.mem_of_get? hoffer))
  · rfl

/-- A root frame put together from what is kept, with the servers that have been started, is as it should be. -/
theorem assembled_of_kept {tools : ToolSet} {clients : List Nat} {world : World} {texts : List String}
    (htools : tools = (ToolSet.builtins.kept (commandTools request config)).kept
      (offers before.world.host config.remoteTimeout before.world.servers.length (serversOf request config)))
    (hclients : clients = places before.world.host config.remoteTimeout before.world.servers.length
      (serversOf request config))
    (hworld : world.servers = before.world.servers ++
      (serversOf request config).flatMap (connections before.world.host config.remoteTimeout))
    (htexts : texts =
      ToolSet.reports "process tool" (Entries.names ToolSet.builtins) (Entries.names config.commands) ++
      tales before.world.host config.remoteTimeout (Entries.names ToolSet.builtins ++ Entries.names config.commands)
        (serversOf request config)) :
    Assembled request config before tools clients ((before.telling texts).within (world.enterRoot tools)) := by
  have hnodup : (Entries.names tools).Nodup := by
    rw [htools]
    exact ToolSet.nodup_kept _ (ToolSet.nodup_kept _ (by decide +kernel) _) _
  have hwarnings (hreporting : before.reporting = true) :
      ((before.telling texts).within (world.enterRoot tools)).warnings = before.warnings ++ texts := by
    show (before.telling texts).warnings = _
    unfold Progress.telling
    rw [if_pos hreporting]
  subst htexts
  constructor
  case outermost => rfl
  case shown => exact lookup_enterRoot hnodup world
  case owned =>
    intro name
    rw [htools]
    exact get?_registered request config _ _ name
  case routed =>
    intro entry hentry
    obtain ⟨e, he, listings, client, place, hcontact, hplace, hclient, listing, hlisting, rfl⟩ :=
      mem_offers _ _ hentry
    exact ⟨e, he, listings, client, place, hcontact, hclients ▸ hplace, hworld ▸ hclient, listing, hlisting, rfl,
      fun reach input world connection h => act_remote h reach listing.name _ input⟩
  case settled =>
    intro place client hstarted hclient hunused
    have hfound : world.servers[place]? = some client := hclient
    rw [hworld] at hfound
    exact closed_of_not_mem_places _ _ hstarted hfound (hclients ▸ hunused)
  case commands =>
    intro hreporting earlier name e later reason hsplit hreason
    have hnames : Entries.names config.commands = Entries.names earlier ++ name :: Entries.names later := by
      rw [hsplit]
      exact List.map_append
    rw [hwarnings hreporting, hnames]
    exact List.mem_append_right _ (List.mem_append_left _ (ToolSet.mem_reports _ hreason))
  case proxies =>
    intro hreporting earlier name tool later reason hsplit hreason
    rw [hwarnings hreporting]
    refine List.mem_append_right _ (List.mem_append_right _
      (reports_subset_tales _ _ _ before.world.servers.length _ ?_))
    rw [hsplit, List.map_append]
    exact ToolSet.mem_reports _ hreason
  case told => exact hwarnings

/-- The first contact that crashes is the end of it. -/
theorem run_assemble_of_crashed {cause : Crash}
    (h : crash? before.world.host config.remoteTimeout (serversOf request config) = some cause) :
    ∃ after, (assemble request config).run before = (.error (.crash cause), after) := by
  let registered := before.telling
    (ToolSet.reports "process tool" (Entries.names ToolSet.builtins) (Entries.names config.commands))
  have hregistered : registered.world = before.world := Progress.world_telling _ _
  obtain ⟨after, hrun, -⟩ := run_addServers_of_crashed (p := registered) (hregistered ▸ h)
    (ToolSet.builtins.kept (commandTools request config)) []
  refine ⟨after, ?_⟩
  rw [run_assemble, hrun]

/-- **Registration never overrides and never leads astray.**  If no contact with a server crashes, a root frame is put
together in which each name stays with whoever had it first and leads where it says, whoever loses a name is
reported, and servers that cannot be started or listed are left out; otherwise the first crash counts, and it
has one of three reasons. -/
theorem assemble_registers (request : ContextRequest) (config : Config) (before : Progress) :
    match crash? before.world.host config.remoteTimeout (serversOf request config) with
    | none => ∃ tools clients after, (assemble request config).run before = (.ok (tools, clients), after) ∧
        Assembled request config before tools clients after
    | some cause =>
      (∃ after, (assemble request config).run before = (.error (.crash cause), after)) ∧
        ∃ e ∈ serversOf request config, e.contact before.world.host config.remoteTimeout = .crashed cause ∧
          (before.world.host.enter e.directory e.vars e.words = .error (.crash cause) ∨ cause = Host.timeOverflow ∨
            cause = .repeatedArgument "tool_failure" "message") := by
  cases hcrash : crash? before.world.host config.remoteTimeout (serversOf request config) with
  | some cause =>
    refine ⟨run_assemble_of_crashed hcrash, ?_⟩
    obtain ⟨e, he, hcontact⟩ := List.exists_of_findSome?_eq_some hcrash
    have hcrashed : e.contact before.world.host config.remoteTimeout = .crashed cause := by
      cases hfound : e.contact before.world.host config.remoteTimeout with
      | crashed found => rw [hfound] at hcontact; cases hcontact; rfl
      | _ => rw [hfound] at hcontact; cases hcontact
    exact ⟨e, he, hcrashed, contact_crash hcrashed⟩
  | none =>
    have htaken (name : String) (hname : name ≠ "") :
        name ∈ Entries.names (ToolSet.builtins.kept (commandTools request config)) ↔
          name ∈ Entries.names ToolSet.builtins ++ Entries.names config.commands := by
      rw [ToolSet.mem_names_kept, List.mem_append, names_commandTools]
      exact or_congr_right (and_iff_right hname)
    let registered := before.telling
      (ToolSet.reports "process tool" (Entries.names ToolSet.builtins) (Entries.names config.commands))
    have hregistered : registered.world = before.world := Progress.world_telling _ _
    obtain ⟨now, hrun⟩ := run_addServers (p := registered) (hregistered ▸ hcrash)
      (ToolSet.builtins.kept (commandTools request config)) []
    rw [hregistered, tales_congr _ _ htaken, Progress.telling_telling] at hrun
    have hassemble := @run_assemble request config before
    dsimp only at hassemble
    rw [hrun] at hassemble
    exact ⟨_, _, _, hassemble, assembled_of_kept rfl rfl rfl rfl⟩

/-! ### Servers that replay what they answer -/

/-- A server that answers each request with the next of some lines. -/
def replaying (name : String) (replies : List String) : ServerEntry :=
  ⟨name, "/bin/playback" :: replies, none, [], none, none⟩

/-- A connection to it, on a host and with the usual time limit. -/
def replayedOn (host : Host) (usual : Double) (name : String) (replies : List String) : Remote.Client :=
  ⟨name, .double usual, .launched host (host.overlay []) "playback" ("/bin/playback" :: replies), .fresh, [], 0, [], 0⟩

/-- A connection to it, on a host without any files. -/
def replayed (name : String) (replies : List String) : Remote.Client :=
  replayedOn World.plain.host Config.usual.remoteTimeout name replies

theorem contact_replayedOn {host : Host} {usual : Double} {name : String} {replies : List String} (hname : name ≠ "")
    (hnull : ∀ text ∈ replies, '\x00' ∉ text.toList) :
    (replaying name replies).contact host usual = .ofAnswer ((replayedOn host usual name replies).listTools 0 []) := by
  have hholds : Host.holdsNull ("/bin/playback" :: replies) none [] = false := by
    have hfirst : '\x00' ∉ "/bin/playback".toList := by decide
    simp only [Host.holdsNull, String.contains_char_eq]
    simpa [hfirst] using hnull
  have henter : host.enter none [] ("/bin/playback" :: replies) = .ok (host, "playback") :=
    Host.enter_of_turns 14 (by decide +kernel) (by decide +kernel) (by decide +kernel) (by decide +kernel)
      (by decide) (by decide +kernel) rfl hholds
  refine contact_of_start ?_
  unfold ServerEntry.start Remote.Client.start
  dsimp only [replaying]
  rw [henter]
  dsimp only
  split
  · next hempty => exact absurd (Option.some.inj hempty) hname
  · rfl

theorem contact_replaying {name : String} {replies : List String} (hname : name ≠ "")
    (hnull : ∀ text ∈ replies, '\x00' ∉ text.toList) :
    (replaying name replies).contact World.plain.host Config.usual.remoteTimeout =
      .ofAnswer ((replayed name replies).listTools 0 []) :=
  contact_replayedOn hname hnull

/-- The usual configuration, with some servers. -/
def serving (servers : Entries ServerEntry) : Config := { Config.usual with servers := servers }

theorem remoteTimeout_serving (servers : Entries ServerEntry) :
    (serving servers).remoteTimeout = Config.usual.remoteTimeout := by
  dsimp only [serving]

/-- All servers are to be started. -/
def wanted : ContextRequest := ⟨"/", none, true, none, true⟩

/-- A server that answers with the names of its tools lists them. -/
theorem exists_listed_replaying {name : String} {replies names : List String} (hname : name ≠ "")
    (hnull : ∀ text ∈ replies, '\x00' ∉ text.toList)
    (hnames : (replayed name replies |>.listTools 0 []).1.toOption.map (List.map Remote.Client.Listing.name) =
      some names) :
    ∃ listings client, (replaying name replies).contact World.plain.host Config.usual.remoteTimeout =
      .listed listings client ∧ listings.map Remote.Client.Listing.name = names := by
  rw [contact_replaying hname hnull]
  unfold Contact.ofAnswer
  split
  · next listings client _ hlisted =>
    rw [hlisted] at hnames
    exact ⟨listings, client, rfl, Option.some.inj hnames⟩
  · next hlisted =>
    rw [hlisted] at hnames
    cases hnames
  · next hlisted =>
    rw [hlisted] at hnames
    cases hnames

/-- Two servers with different headings, whose tools have the same name. -/
def rivals : List ServerEntry :=
  [replaying "a.b" ["\x7b\"id\": 1, \"result\": [\x7b\"name\": \"c\"\x7d]\x7d"],
    replaying "a" ["\x7b\"id\": 1, \"result\": [\x7b\"name\": \"b.c\"\x7d]\x7d"]]

/-- Contacts with both lead to a tool under this name, and the name of the first is kept. -/
theorem offers_rivals : crash? World.plain.host Config.usual.remoteTimeout rivals = none ∧
    ∃ spec other, offers World.plain.host Config.usual.remoteTimeout 0 rivals =
      [("a.b.c", .remote 0 "c" spec), ("a.b.c", .remote 1 "b.c" other)] := by
  obtain ⟨firsts, client, hfirst, hfirsts⟩ := @exists_listed_replaying "a.b"
    ["\x7b\"id\": 1, \"result\": [\x7b\"name\": \"c\"\x7d]\x7d"] ["c"] (by decide) (by decide) (by decide +kernel)
  obtain ⟨seconds, other, hsecond, hseconds⟩ := @exists_listed_replaying "a"
    ["\x7b\"id\": 1, \"result\": [\x7b\"name\": \"b.c\"\x7d]\x7d"] ["b.c"] (by decide) (by decide) (by decide +kernel)
  obtain ⟨first, rfl, hfirst'⟩ := List.map_eq_singleton_iff.mp hfirsts
  obtain ⟨second, rfl, hsecond'⟩ := List.map_eq_singleton_iff.mp hseconds
  refine ⟨?_, (ServerEntry.tool (replaying "a.b" []) 0 first).2.spec,
    (ServerEntry.tool (replaying "a" []) 1 second).2.spec, ?_⟩
  · unfold crash? rivals
    rw [List.findSome?_cons, hfirst, List.findSome?_cons, hsecond]
    rfl
  · unfold rivals
    rw [offers, offers, offers, offered, connections, offered, hfirst, hsecond]
    show [("a.b" ++ "." ++ first.name, Tool.remote 0 first.name _),
      ("a" ++ "." ++ second.name, Tool.remote 1 second.name _)] = _
    rw [hfirst', hsecond']
    rfl

/-- A command that does nothing. -/
def idle : CommandEntry := ⟨"idle", ["/bin/true"], none, [], none, ""⟩

/-- A configuration in which names are given more than once. -/
def rivalry : Config :=
  { serving (rivals.map fun e => (e.name, e)) with commands := [("add", idle), ("mine", idle)] }

/-- The built-in tool, the command, and the first of two servers have their names, and the others are reported. -/
theorem assemble_registers_rivalry : ∃ tools clients after spec,
    (assemble wanted rivalry).run ⟨[], true, World.plain⟩ = (.ok (tools, clients), after) ∧
      after.world.lookup "add" = some (.builtin .add) ∧ after.world.lookup "mine" = some (idle.tool "/") ∧
      after.world.lookup "a.b.c" = some (.remote 0 "c" spec) ∧
      "skipping process tool add: Tool already registered: add" ∈ after.warnings ∧
      "skipping remote tool a.b.c: Tool already registered: a.b.c" ∈ after.warnings := by
  obtain ⟨hcrash, spec, other, hoffers⟩ := offers_rivals
  have hlimit : rivalry.remoteTimeout = Config.usual.remoteTimeout := by dsimp only [rivalry, serving]
  have hservers : serversOf wanted rivalry = rivals := rfl
  have hassemble := assemble_registers wanted rivalry ⟨[], true, World.plain⟩
  dsimp only at hassemble
  rw [hlimit, hservers, hcrash] at hassemble
  obtain ⟨tools, clients, after, hrun, h⟩ := hassemble
  have howned := h.owned
  have hproxies := h.proxies rfl [("a.b.c", .remote 0 "c" spec)] "a.b.c" (.remote 1 "b.c" other) []
    "Tool already registered: a.b.c"
  rw [hlimit, hservers] at howned hproxies
  refine ⟨tools, clients, after, spec, hrun, ?_, ?_, ?_, ?_, ?_⟩
  · rw [h.shown, howned]
    rfl
  · rw [h.shown, howned]
    rfl
  · rw [h.shown, howned]
    show Entries.get? _ (offers World.plain.host _ 0 rivals) = _
    rw [hoffers]
    rfl
  · exact h.commands rfl [] "add" idle [("mine", idle)] "Tool already registered: add" rfl (by decide +kernel)
  · exact hproxies hoffers (show ToolSet.refusal? (Entries.names ToolSet.builtins ++ ["add", "mine"] ++ ["a.b.c"])
      "a.b.c" = _ by decide +kernel)

/-- A server that does not list its tools, but says why. -/
def refusing : ServerEntry := replaying "far" ["\x7b\"id\": 1, \"error\": \"no\"\x7d"]

/-- The routine and the argument it gets twice, if this is why something fails. -/
def repeated? {α : Type} : Except Fault α → Option (String × String)
  | .error (.crash (.repeatedArgument routine argument)) => some (routine, argument)
  | _ => none

theorem eq_of_repeated? {α : Type} {outcome : Except Fault α} {routine argument : String}
    (h : repeated? outcome = some (routine, argument)) :
    outcome = .error (.crash (.repeatedArgument routine argument)) := by
  unfold repeated? at h
  split at h <;> cases h
  rfl

/-- Such a server is not left out: the whole comes to nothing. -/
theorem assemble_crashed : ∃ after, (assemble wanted (serving [("far", refusing)])).run ⟨[], true, World.plain⟩ =
    (.error (.crash (.repeatedArgument "tool_failure" "message")), after) := by
  have hcontact : refusing.contact World.plain.host Config.usual.remoteTimeout =
      .crashed (.repeatedArgument "tool_failure" "message") := by
    unfold refusing
    rw [contact_replaying (by decide) (by decide)]
    exact Contact.ofAnswer_of_crash (eq_of_repeated? (by decide +kernel))
  refine run_assemble_of_crashed ?_
  rw [remoteTimeout_serving]
  show crash? World.plain.host _ [refusing] = _
  unfold crash?
  rw [List.findSome?_cons, hcontact]
  rfl

end Context

end ToolWeave
