import Mathlib.Data.List.Nodup
import ToolWeave.Context

/-!
# Contacts with servers

Registering tools one after the other keeps the first tool of each name, and reports the others.  Servers are
started one after the other, each is asked for its tools, and these are registered in turn.  What that leads
to is said from the configuration alone (`Context.run_addServers`): the tools that are offered, the connections
that are in use, and the warnings; or the first crash.

## Main definitions

* `ToolSet.kept`, `ToolSet.reports`: a set after registering more tools, and the warnings about those that lost.
* `ServerEntry.Contact`, `ServerEntry.contact`: what comes of starting a server and asking it for its tools.
* `ServerEntry.offers`, `ServerEntry.places`, `ServerEntry.tales`: the tools that servers offer, the places of those
  in use, and the warnings about servers.
* `Progress.telling`, `Progress.within`: more warnings, and another state.

## Design notes

**The time.**  Starting a server takes time, but no scope is around it, so what a server answers to the request for
its tools does not depend on when it is asked (`Remote.Client.listTools_now`).
-/

namespace ToolWeave

/-! ### Names that are taken -/

namespace ToolSet

/-- A set with the tools that can be registered, one after the other. -/
def kept (set : ToolSet) : List (String × Tool) → ToolSet
  | [] => set
  | (name, tool) :: rest =>
    if name = "" ∨ name ∈ Entries.names set then kept set rest else kept (set ++ [(name, tool)]) rest

/-- Why a tool loses its name: that is empty, or somebody else has it. -/
def refusal? (taken : List String) (name : String) : Option String :=
  if name = "" then some "Tool name cannot be empty."
  else if name ∈ taken then some ("Tool already registered: " ++ name)
  else none

/-- The warnings about tools that are registered one after the other: names are taken by the set, and by the tools
before. -/
def reports (what : String) : (taken names : List String) → List String
  | _, [] => []
  | taken, name :: rest =>
    ((refusal? taken name).map fun reason => "skipping " ++ what ++ " " ++ name ++ ": " ++ reason).toList ++
      reports what (taken ++ [name]) rest

variable (set : ToolSet)

theorem kept_append (items more : List (String × Tool)) : set.kept (items ++ more) = (set.kept items).kept more := by
  induction items generalizing set with
  | nil => rfl
  | cons item rest ih =>
    obtain ⟨name, tool⟩ := item
    rw [List.cons_append, kept, kept]
    split
    · exact ih set
    · exact ih _

theorem mem_names_kept (items : List (String × Tool)) (name : String) :
    name ∈ Entries.names (set.kept items) ↔
      name ∈ Entries.names set ∨ name ≠ "" ∧ name ∈ items.map Prod.fst := by
  induction items generalizing set with
  | nil => simp [kept]
  | cons item rest ih =>
    obtain ⟨key, tool⟩ := item
    have hnames : Entries.names (set ++ [(key, tool)]) = Entries.names set ++ [key] := List.map_append
    rw [kept, List.map_cons, List.mem_cons]
    split
    · next hlost =>
      rw [ih]
      constructor
      · rintro (h | ⟨hempty, h⟩)
        · exact .inl h
        · exact .inr ⟨hempty, .inr h⟩
      · rintro (h | ⟨hempty, rfl | h⟩)
        · exact .inl h
        · exact .inl (hlost.resolve_left hempty)
        · exact .inr ⟨hempty, h⟩
    · next hnew =>
      rw [ih, hnames, List.mem_append, List.mem_singleton]
      constructor
      · rintro ((h | rfl) | ⟨hempty, h⟩)
        · exact .inl h
        · exact .inr ⟨fun hempty => hnew (.inl hempty), .inl rfl⟩
        · exact .inr ⟨hempty, .inr h⟩
      · rintro (h | ⟨hempty, rfl | h⟩)
        · exact .inl (.inl h)
        · exact .inl (.inr rfl)
        · exact .inr ⟨hempty, h⟩

theorem nodup_kept (h : (Entries.names set).Nodup) (items : List (String × Tool)) :
    (Entries.names (set.kept items)).Nodup := by
  induction items generalizing set with
  | nil => exact h
  | cons item rest ih =>
    obtain ⟨key, tool⟩ := item
    have hnames : Entries.names (set ++ [(key, tool)]) = Entries.names set ++ [key] := List.map_append
    rw [kept]
    split
    · exact ih set h
    · next hnew =>
      refine ih _ ?_
      rw [hnames]
      exact List.nodup_append.mpr ⟨h, List.nodup_singleton key, fun name hname other hother =>
        fun heq => hnew (.inr ((List.mem_singleton.mp hother) ▸ heq ▸ hname))⟩

/-- **A name stays with the first tool that has it.** -/
theorem get?_kept (items : List (String × Tool)) (name : String) :
    Entries.get? name (set.kept items) =
      (Entries.get? name set).or (if name = "" then none else Entries.get? name items) := by
  induction items generalizing set with
  | nil => simp [kept]
  | cons item rest ih =>
    obtain ⟨key, tool⟩ := item
    rw [kept, Entries.get?_cons]
    by_cases hname : name = ""
    · rw [if_pos hname]
      split
      · rw [ih, if_pos hname]
      · next hnew =>
        have hkey : key ≠ name := fun heq => hnew (.inl (heq.trans hname))
        rw [ih, if_pos hname, Entries.get?_append, Entries.get?_cons, if_neg hkey, Entries.get?_nil, Option.or_none]
    rw [if_neg hname]
    split
    · next hlost =>
      rw [ih, if_neg hname]
      by_cases hkey : key = name
      · -- the name is taken by the set, so it does not matter who comes later
        have htaken : name ∈ Entries.names set := hkey ▸ hlost.resolve_left fun hempty => hname (hkey ▸ hempty)
        obtain ⟨tool, htool⟩ := Option.isSome_iff_exists.mp (Entries.has_iff_mem_names.mpr htaken)
        rw [htool]
        rfl
      · rw [if_neg hkey]
    · rw [ih, if_neg hname, Entries.get?_append, Option.or_assoc, Entries.get?_cons]
      split <;> rfl

/-- Only names that are not empty need to be known. -/
theorem reports_congr (what : String) {taken taken' : List String}
    (h : ∀ name, name ≠ "" → (name ∈ taken ↔ name ∈ taken')) (names : List String) :
    reports what taken names = reports what taken' names := by
  induction names generalizing taken taken' with
  | nil => rfl
  | cons name rest ih =>
    have hrest (other : String) (hother : other ≠ "") : other ∈ taken ++ [name] ↔ other ∈ taken' ++ [name] := by
      rw [List.mem_append, List.mem_append, h other hother]
    have hrefusal : refusal? taken name = refusal? taken' name := by
      unfold refusal?
      by_cases hempty : name = ""
      · rw [if_pos hempty, if_pos hempty]
      · simp only [if_neg hempty, h name hempty]
    rw [reports, reports, ih hrest, hrefusal]

theorem reports_append (what : String) (taken names more : List String) :
    reports what taken (names ++ more) = reports what taken names ++ reports what (taken ++ names) more := by
  induction names generalizing taken with
  | nil => rw [List.append_nil]; rfl
  | cons name rest ih => rw [List.cons_append, reports, reports, ih, List.append_assoc, List.append_assoc]; rfl

/-- **Whoever loses its name is reported**, with the reason. -/
theorem mem_reports (what : String) {taken earlier later : List String} {name reason : String}
    (h : refusal? (taken ++ earlier) name = some reason) :
    "skipping " ++ what ++ " " ++ name ++ ": " ++ reason ∈ reports what taken (earlier ++ name :: later) := by
  rw [reports_append, reports, h]
  exact List.mem_append_right _ List.mem_cons_self

end ToolSet

/-! ### Steps of bringing a context up -/

namespace Progress

/-- What bringing a context up has led to, after some more warnings, which count if warnings are reported. -/
def telling (p : Progress) (texts : List String) : Progress :=
  if p.reporting then { p with warnings := p.warnings ++ texts } else p

@[simp]
theorem world_telling (p : Progress) (texts : List String) : (p.telling texts).world = p.world := by
  unfold telling
  split <;> rfl

theorem telling_nil (p : Progress) : p.telling [] = p := by
  unfold telling
  rw [List.append_nil]
  split <;> rfl

theorem telling_telling (p : Progress) (texts more : List String) :
    (p.telling texts).telling more = p.telling (texts ++ more) := by
  unfold telling
  by_cases h : p.reporting
  · simp [h]
  · simp [h]

/-- What bringing a context up has led to, in another state. -/
def within (p : Progress) (world : World) : Progress := { p with world := world }

theorem within_telling (p : Progress) (world : World) (texts : List String) :
    (p.within world).telling texts = (p.telling texts).within world := by
  unfold telling within
  by_cases h : p.reporting
  · simp [h]
  · simp [h]

theorem within_within (p : Progress) (world other : World) : (p.within world).within other = p.within other := rfl

theorem within_self (p : Progress) : p.within p.world = p := rfl

end Progress

namespace Opening

theorem run_bind {α β : Type} (x : Opening α) (f : α → Opening β) (p : Progress) :
    (x >>= f).run p =
      match x.run p with
      | (.ok a, p) => (f a).run p
      | (.error fault, p) => (.error fault, p) := by
  show (match x.run p with | (outcome, p) => ExceptT.bindCont f outcome p) = _
  rcases x.run p with ⟨_ | _, _⟩ <;> rfl

theorem run_warn (text : String) (p : Progress) : (warn text).run p = (.ok (), p.telling [text]) := rfl

/-- A tool is registered, or there is a warning that it cannot be. -/
theorem run_register (set : ToolSet) (what name : String) (tool : Tool) (p : Progress) :
    (register set what name tool).run p =
      (.ok (set.kept [(name, tool)]), p.telling (ToolSet.reports what (Entries.names set) [name])) := by
  unfold register ToolSet.register ToolSet.kept ToolSet.kept ToolSet.reports ToolSet.reports ToolSet.refusal?
  by_cases hempty : name = ""
  · rw [if_pos hempty, if_pos (.inl hempty), if_pos hempty]
    rfl
  by_cases htaken : name ∈ Entries.names set
  · rw [if_neg hempty, if_pos (Entries.has_iff_mem_names.mpr htaken), if_pos (.inr htaken), if_neg hempty,
      if_pos htaken]
    rfl
  · rw [if_neg hempty, if_neg fun h => htaken (Entries.has_iff_mem_names.mp h),
      if_neg (not_or.mpr ⟨hempty, htaken⟩), if_neg hempty, if_neg htaken]
    exact Prod.ext rfl p.telling_nil.symm

/-- Tools that are registered one after the other are kept, or reported. -/
theorem run_registerAll (what : String) (items : List (String × Tool)) (set : ToolSet) (p : Progress) :
    (registerAll what items set).run p =
      (.ok (set.kept items), p.telling (ToolSet.reports what (Entries.names set) (items.map Prod.fst))) := by
  induction items generalizing set p with
  | nil => exact Prod.ext rfl p.telling_nil.symm
  | cons item rest ih =>
    obtain ⟨name, tool⟩ := item
    have htaken (other : String) (hother : other ≠ "") :
        other ∈ Entries.names (set.kept [(name, tool)]) ↔ other ∈ Entries.names set ++ [name] := by
      rw [ToolSet.mem_names_kept, List.mem_append]
      exact or_congr_right (and_iff_right hother)
    rw [registerAll, run_bind, run_register]
    dsimp only
    rw [ih, Progress.telling_telling, ToolSet.reports_congr what htaken, ← ToolSet.reports_append,
      ← ToolSet.kept_append]
    rfl

end Opening

/-! ### Servers -/

namespace Remote.Client

/-- Outside of scopes a request ends in the same way at all times. -/
theorem settle_now (c : Client) (method : String) (limit : Number) (seconds : Double) (number : Nat)
    (delay : Instant) : ∃ outcome client elapsed, ∀ now,
      c.settle now [] method limit seconds number delay = ⟨outcome, client, now + elapsed⟩ := by
  have hnow (now : Instant) : now = now + 0 := (Int.add_zero now).symm
  unfold settle
  simp only [show ∀ now, Scope.check now [] = .ok () from fun _ => rfl,
    show ∀ now, Scope.remaining? now [] = none from fun _ => rfl]
  split
  · exact ⟨_, _, 0, fun now => congrArg _ (hnow now)⟩
  · split
    · exact ⟨_, _, 0, fun now => congrArg _ (hnow now)⟩
    · split
      · split
        · exact ⟨_, _, delay, fun _ => rfl⟩
        · exact ⟨_, _, delay, fun _ => rfl⟩
      · exact ⟨_, _, _, fun _ => rfl⟩

theorem request_now (c : Client) (method : String) (params : Value) : ∃ outcome client elapsed, ∀ now,
    c.request now [] method params = ⟨outcome, client, now + elapsed⟩ := by
  have hnow (now : Instant) : now = now + 0 := (Int.add_zero now).symm
  unfold request
  dsimp only
  split
  · exact ⟨_, _, 0, fun now => congrArg _ (hnow now)⟩
  · split
    · exact ⟨_, _, 0, fun now => congrArg _ (hnow now)⟩
    · split
      · exact ⟨_, _, 0, fun now => congrArg _ (hnow now)⟩
      · exact settle_now _ _ _ _ _ _

/-- **What a server answers to the request for its tools** does not depend on the time. -/
theorem listTools_now (c : Client) : ∃ listed client elapsed, ∀ now,
    c.listTools now [] = (listed, client, now + elapsed) := by
  obtain ⟨outcome, client, elapsed, h⟩ := c.request_now "tools/list" (.object [])
  refine ⟨outcome.map listingsOf, client, elapsed, fun now => ?_⟩
  unfold listTools
  rw [h]

/-- A request crashes if it waits too long for the system, or if its answer is an error that carries no failure. -/
theorem settle_crash {c : Client} {now : Instant} {method : String} {limit : Number} {seconds : Double} {number : Nat}
    {delay : Instant} {cause : Crash}
    (h : (c.settle now [] method limit seconds number delay).outcome = .error (.crash cause)) :
    cause = Host.timeOverflow ∨ cause = .repeatedArgument "tool_failure" "message" := by
  unfold settle at h
  rw [show Scope.check now [] = .ok () from rfl] at h
  dsimp only at h
  split at h
  · cases h
  split at h
  · next hcause =>
    cases h
    unfold unwaitable? at hcause
    left
    split at hcause
    · cases hcause
    · split at hcause
      · exact (Option.some.inj hcause).symm
      · dsimp only at hcause
        split at hcause
        · exact (Option.some.inj hcause).symm
        · cases hcause
  · split at h
    · split at h
      · next message _ =>
        right
        unfold resultOf at h
        split at h
        · split at h
          · cases h
          · cases h
            rfl
        · cases h
      · cases h
    · split at h
      · cases h
      · cases h

theorem listTools_crash {c : Client} {limit : Double} (hlimit : c.timeout = .double limit) {now : Instant}
    {cause : Crash} (h : (c.listTools now []).1 = .error (.crash cause)) :
    cause = Host.timeOverflow ∨ cause = .repeatedArgument "tool_failure" "message" := by
  have hrequest : (c.request now [] "tools/list" (.object [])).outcome = .error (.crash cause) := by
    have hmap : (c.request now [] "tools/list" (.object [])).outcome.map listingsOf = .error (.crash cause) := h
    cases houtcome : (c.request now [] "tools/list" (.object [])).outcome with
    | ok result => rw [houtcome] at hmap; cases hmap
    | error fault => rw [houtcome] at hmap; cases hmap; rfl
  unfold request at hrequest
  dsimp only at hrequest
  split at hrequest
  · cases hrequest
  · split at hrequest
    · cases hrequest
    · rw [Option.getD_none, hlimit] at hrequest
      exact settle_crash hrequest

end Remote.Client

namespace ServerEntry

/-- What comes of starting a server and asking it for its tools. -/
inductive Contact where
  | unstarted (error : ToolError)
  | unlisted (error : ToolError) (client : Remote.Client)
  | listed (listings : List Remote.Client.Listing) (client : Remote.Client)
  | crashed (cause : Crash)

/-- The crash of a contact. -/
def Contact.crash? : Contact → Option Crash
  | crashed cause => some cause
  | _ => none

/-- The contact with a server that has been started, from its answer to the request for its tools. -/
def Contact.ofAnswer : Except Fault (List Remote.Client.Listing) × Remote.Client × Instant → Contact
  | (.ok listings, client, _) => .listed listings client
  | (.error (.failure error), client, _) => .unlisted error client
  | (.error (.crash cause), _, _) => .crashed cause

theorem Contact.ofAnswer_of_crash {answer : Except Fault (List Remote.Client.Listing) × Remote.Client × Instant}
    {cause : Crash} (h : answer.1 = .error (.crash cause)) : ofAnswer answer = .crashed cause := by
  obtain ⟨outcome, client, now⟩ := answer
  obtain rfl : outcome = _ := h
  rfl

variable (host : Host) (usual : Double)

/-- Starts a server and asks it for its tools. -/
def contact (e : ServerEntry) : Contact :=
  match e.start host usual with
  | .error (.failure error) => .unstarted error
  | .error (.crash cause) => .crashed cause
  | .ok client => .ofAnswer (client.listTools 0 [])

variable {host usual} in
theorem contact_of_start {e : ServerEntry} {client : Remote.Client} (h : e.start host usual = .ok client) :
    e.contact host usual = .ofAnswer (client.listTools 0 []) := by
  unfold contact
  rw [h]

/-- **A contact crashes** if the server cannot even be asked for, if its answer is waited for too long for the system,
or if it answers with an error that carries no failure. -/
theorem contact_crash {host : Host} {usual : Double} {e : ServerEntry} {cause : Crash}
    (h : e.contact host usual = .crashed cause) :
    host.enter e.directory e.vars e.words = .error (.crash cause) ∨ cause = Host.timeOverflow ∨
      cause = .repeatedArgument "tool_failure" "message" := by
  unfold contact at h
  cases hstart : e.start host usual with
  | error fault =>
    rw [hstart] at h
    cases fault with
    | failure error => cases h
    | crash found =>
      cases h
      left
      unfold start Remote.Client.start at hstart
      split at hstart
      · cases hstart
      · next hcause => cases hstart; exact hcause
      · cases hstart
  | ok client =>
    right
    have hlimit : client.timeout = .double (e.timeout.getD usual) := by
      unfold start Remote.Client.start at hstart
      split at hstart
      · cases hstart
      · cases hstart
      · cases hstart; rfl
    rw [hstart] at h
    dsimp only [Contact.ofAnswer] at h
    split at h
    · cases h
    · cases h
    · next hlisted =>
      cases h
      exact Remote.Client.listTools_crash hlimit (congrArg Prod.fst hlisted)

/-- The tools that a server offers, with their names, in the order of its list.  So many servers have been started
before. -/
def offered (before : Nat) (e : ServerEntry) : List (String × Tool) :=
  match e.contact host usual with
  | .listed listings _ => listings.map (e.tool before)
  | _ => []

/-- The connection to a server that has been started; it is closed again if the server does not list its tools. -/
def connections (e : ServerEntry) : List Remote.Client :=
  match e.contact host usual with
  | .listed _ client => [client]
  | .unlisted _ client => [client.close]
  | _ => []

/-- The connection that is left by a contact that crashes, if the server has been started by then. -/
def abandoned (e : ServerEntry) : List Remote.Client :=
  match e.start host usual with
  | .ok client => [(client.listTools 0 []).2.1]
  | .error _ => []

/-- The place of a server if it is in use. -/
def place? (before : Nat) (e : ServerEntry) : Option Nat :=
  match e.contact host usual with
  | .listed _ _ => some before
  | _ => none

/-- The warnings about a server and the tools it offers, some names being taken. -/
def tale (taken : List String) (e : ServerEntry) : List String :=
  match e.contact host usual with
  | .unstarted error => ["remote server " ++ e.name ++ " not started: " ++ error.text]
  | .unlisted error _ => ["remote server " ++ e.name ++ " did not list its tools: " ++ error.text]
  | _ => ToolSet.reports "remote tool" taken ((e.offered host usual 0).map Prod.fst)

/-- The names of the tools that a server offers do not depend on its place. -/
theorem names_offered (before : Nat) (e : ServerEntry) :
    (e.offered host usual before).map Prod.fst = (e.offered host usual 0).map Prod.fst := by
  unfold offered
  split
  · rw [List.map_map, List.map_map]
    rfl
  · rfl

theorem mem_offered {host : Host} {usual : Double} {before : Nat} {e : ServerEntry} {entry : String × Tool}
    (h : entry ∈ e.offered host usual before) : ∃ listings client, e.contact host usual = .listed listings client ∧
      ∃ listing ∈ listings, entry = e.tool before listing := by
  unfold offered at h
  cases hcontact : e.contact host usual with
  | listed listings client =>
    rw [hcontact] at h
    obtain ⟨listing, hlisting, rfl⟩ := List.mem_map.mp h
    exact ⟨listings, client, rfl, listing, hlisting, rfl⟩
  | _ => rw [hcontact] at h; cases h

end ServerEntry

namespace Opening

theorem run_get_bind {β : Type} (f : Progress → Opening β) (p : Progress) : (get >>= f).run p = (f p).run p := rfl

theorem run_modify_bind {β : Type} (change : Progress → Progress) (f : Unit → Opening β) (p : Progress) :
    (modify change >>= f).run p = (f ()).run (change p) := rfl

end Opening

namespace Context

open ServerEntry

/-- Starting a server crashes with its contact, and if the server has been started the connection is left as it is. -/
theorem run_addServer_of_crashed {usual : Double} {e : ServerEntry} {p : Progress} {cause : Crash}
    (h : e.contact p.world.host usual = .crashed cause) (set : ToolSet) :
    ∃ after, (addServer usual e set).run p = (.error (.crash cause), after) ∧
      after.world.servers = p.world.servers ++ e.abandoned p.world.host usual := by
  unfold contact at h
  unfold abandoned
  rw [addServer, Opening.run_get_bind]
  cases hstart : e.start p.world.host usual with
  | error fault =>
    rw [hstart] at h
    cases fault with
    | failure error => cases h
    | crash found =>
      cases h
      exact ⟨p, rfl, (List.append_nil _).symm⟩
  | ok client =>
    rw [hstart] at h
    obtain ⟨listed, later, elapsed, hlist⟩ := client.listTools_now
    dsimp only at h ⊢
    rw [hlist] at h
    rw [Opening.run_get_bind, Opening.run_get_bind, hlist, hlist]
    dsimp only
    rw [Opening.run_modify_bind]
    cases listed with
    | ok listings => cases h
    | error fault =>
      cases fault with
      | failure error => cases h
      | crash found =>
        cases h
        exact ⟨_, rfl, rfl⟩

/-- To close the last connection leaves the others alone. -/
theorem mapIdx_close_last (servers : List Remote.Client) (client : Remote.Client) :
    ((servers ++ [client]).mapIdx fun i c => if [servers.length].contains i then c.close else c) =
      servers ++ [client.close] := by
  have hothers : (servers.mapIdx fun i c => if [servers.length].contains i then c.close else c) = servers := by
    refine List.ext_getElem (List.length_mapIdx ..) fun i hi _ => ?_
    rw [List.length_mapIdx] at hi
    simp [Nat.ne_of_lt hi]
  rw [List.mapIdx_concat, hothers]
  simp

/-- Nothing more than warnings. -/
theorem telling_eq_within (p : Progress) (texts : List String) :
    p.telling texts = (p.telling texts).within
      { p.world with servers := p.world.servers ++ [], now := p.world.now } := by
  rw [List.append_nil]
  conv_lhs => rw [← (p.telling texts).within_self, Progress.world_telling]

section Started

variable {usual : Double} {e : ServerEntry} {p : Progress} {client later : Remote.Client} {elapsed : Instant}

theorem run_addServer_of_unstarted {error : ToolError} (h : e.start p.world.host usual = .error (.failure error))
    (set : ToolSet) :
    (addServer usual e set).run p =
      (.ok (set, none), p.telling ["remote server " ++ e.name ++ " not started: " ++ error.text]) := by
  rw [addServer, Opening.run_get_bind, h]
  dsimp only
  rw [Opening.run_bind, Opening.run_warn]
  rfl

/-- A server that does not list its tools is closed again. -/
theorem run_addServer_of_unlisted {error : ToolError} (hstart : e.start p.world.host usual = .ok client)
    (hlist : ∀ now, client.listTools now [] = (.error (.failure error), later, now + elapsed)) (set : ToolSet) :
    (addServer usual e set).run p =
      (.ok (set, none),
        (p.telling ["remote server " ++ e.name ++ " did not list its tools: " ++ error.text]).within
          { p.world with servers := p.world.servers ++ [later.close], now := p.world.now + elapsed }) := by
  let started : World := { p.world with servers := p.world.servers ++ [later], now := p.world.now + elapsed }
  let told : Progress := (p.within started).telling
    ["remote server " ++ e.name ++ " did not list its tools: " ++ error.text]
  have htold : told.world = started := Progress.world_telling _ _
  rw [addServer, Opening.run_get_bind, hstart]
  dsimp only
  rw [Opening.run_get_bind, Opening.run_get_bind, hlist]
  dsimp only
  rw [Opening.run_modify_bind, Opening.run_bind, Opening.run_warn]
  dsimp only
  rw [Opening.close, Opening.run_modify_bind]
  refine Prod.ext rfl ?_
  show told.within { told.world with servers := told.world.servers.mapIdx _ } = _
  rw [htold]
  dsimp only [told, started]
  rw [mapIdx_close_last, Progress.within_telling, Progress.within_within]

theorem run_addServer_of_listed {listings : List Remote.Client.Listing} (hstart : e.start p.world.host usual = .ok client)
    (hlist : ∀ now, client.listTools now [] = (.ok listings, later, now + elapsed)) (set : ToolSet) :
    let tools := listings.map (e.tool p.world.servers.length)
    (addServer usual e set).run p =
      (.ok (set.kept tools, some p.world.servers.length),
        (p.telling (ToolSet.reports "remote tool" (Entries.names set) (tools.map Prod.fst))).within
          { p.world with servers := p.world.servers ++ [later], now := p.world.now + elapsed }) := by
  rw [addServer, Opening.run_get_bind, hstart]
  dsimp only
  rw [Opening.run_get_bind, Opening.run_get_bind, hlist]
  dsimp only
  rw [Opening.run_modify_bind, Opening.run_bind, Opening.run_registerAll]
  refine Prod.ext rfl ?_
  show (p.within _).telling _ = _
  rw [Progress.within_telling]

end Started

/-- Starting a server leads to what its contact says. -/
theorem run_addServer {usual : Double} {e : ServerEntry} {p : Progress}
    (h : (e.contact p.world.host usual).crash? = none) (set : ToolSet) :
    ∃ now, (addServer usual e set).run p =
      (.ok (set.kept (e.offered p.world.host usual p.world.servers.length),
          e.place? p.world.host usual p.world.servers.length),
        (p.telling (e.tale p.world.host usual (Entries.names set))).within
          { p.world with servers := p.world.servers ++ e.connections p.world.host usual, now := now }) := by
  unfold place? tale connections
  rw [← names_offered _ _ p.world.servers.length]
  unfold offered
  cases hstart : e.start p.world.host usual with
  | error fault =>
    cases fault with
    | failure error =>
      have hcontact : e.contact p.world.host usual = .unstarted error := by
        unfold contact
        rw [hstart]
      rw [hcontact]
      exact ⟨p.world.now, (run_addServer_of_unstarted hstart set).trans (Prod.ext rfl (telling_eq_within p _))⟩
    | crash cause =>
      have hcontact : e.contact p.world.host usual = .crashed cause := by
        unfold contact
        rw [hstart]
      rw [hcontact] at h
      cases h
  | ok client =>
    obtain ⟨listed, later, elapsed, hlist⟩ := client.listTools_now
    have hcontact := contact_of_start hstart
    rw [hlist] at hcontact
    cases listed with
    | error fault =>
      cases fault with
      | failure error =>
        replace hcontact : e.contact p.world.host usual = .unlisted error later := hcontact
        rw [hcontact]
        exact ⟨_, run_addServer_of_unlisted hstart hlist set⟩
      | crash cause =>
        replace hcontact : e.contact p.world.host usual = .crashed cause := hcontact
        rw [hcontact] at h
        cases h
    | ok listings =>
      replace hcontact : e.contact p.world.host usual = .listed listings later := hcontact
      rw [hcontact]
      exact ⟨_, run_addServer_of_listed hstart hlist set⟩

end Context

/-! ### Servers one after the other -/

namespace ServerEntry

variable (host : Host) (usual : Double)

/-- The crash of the first contact that crashes. -/
def crash? (servers : List ServerEntry) : Option Crash := servers.findSome? fun e => (e.contact host usual).crash?

/-- The tools that servers offer, with their names, server by server and each in the order of its list. -/
def offers : (before : Nat) → List ServerEntry → List (String × Tool)
  | _, [] => []
  | before, e :: rest => e.offered host usual before ++ offers (before + (e.connections host usual).length) rest

/-- The places of the servers that are in use. -/
def places : (before : Nat) → List ServerEntry → List Nat
  | _, [] => []
  | before, e :: rest =>
    (e.place? host usual before).toList ++ places (before + (e.connections host usual).length) rest

/-- The warnings about servers and the tools they offer, some names being taken. -/
def tales : (taken : List String) → List ServerEntry → List String
  | _, [] => []
  | taken, e :: rest => e.tale host usual taken ++ tales (taken ++ (e.offered host usual 0).map Prod.fst) rest

/-- Only names that are not empty need to be known. -/
theorem tales_congr {taken taken' : List String} (h : ∀ name, name ≠ "" → (name ∈ taken ↔ name ∈ taken'))
    (servers : List ServerEntry) : tales host usual taken servers = tales host usual taken' servers := by
  induction servers generalizing taken taken' with
  | nil => rfl
  | cons e rest ih =>
    have hrest (name : String) (hname : name ≠ "") :
        name ∈ taken ++ (e.offered host usual 0).map Prod.fst ↔
          name ∈ taken' ++ (e.offered host usual 0).map Prod.fst := by
      rw [List.mem_append, List.mem_append, h name hname]
    rw [tales, tales, ih hrest]
    unfold tale
    rw [ToolSet.reports_congr _ h]

/-- Whoever loses its name to those before is reported, among other things. -/
theorem reports_subset_tales (taken : List String) (before : Nat) (servers : List ServerEntry) :
    ToolSet.reports "remote tool" taken ((offers host usual before servers).map Prod.fst) ⊆
      tales host usual taken servers := by
  induction servers generalizing taken before with
  | nil => exact List.Subset.refl _
  | cons e rest ih =>
    rw [offers, tales, List.map_append, names_offered, ToolSet.reports_append]
    refine List.append_subset.mpr ⟨?_, List.Subset.trans (ih _ _) (List.subset_append_right _ _)⟩
    refine List.Subset.trans ?_ (List.subset_append_left _ _)
    unfold tale offered
    cases e.contact host usual with
    | listed listings client => exact List.Subset.refl _
    | _ => exact List.nil_subset _

/-- The names of the tools that servers offer are not empty. -/
theorem name_ne_of_mem_offers {servers : List ServerEntry} {before : Nat} {entry : String × Tool}
    (h : entry ∈ offers host usual before servers) : entry.1 ≠ "" := by
  induction servers generalizing before with
  | nil => cases h
  | cons e rest ih =>
    rw [offers, List.mem_append] at h
    rcases h with h | h
    · obtain ⟨-, -, -, listing, -, rfl⟩ := mem_offered h
      show e.toolHeading ++ "." ++ listing.name ≠ ""
      simp
    · exact ih h

/-- **A tool that is offered leads to the server that lists it**, by the name in its list. -/
theorem mem_offers {servers : List ServerEntry} {others : List Remote.Client} {entry : String × Tool}
    (h : entry ∈ offers host usual others.length servers) :
    ∃ e ∈ servers, ∃ listings client place, e.contact host usual = .listed listings client ∧
      place ∈ places host usual others.length servers ∧
      (others ++ servers.flatMap (connections host usual))[place]? = some client ∧
      ∃ listing ∈ listings, entry = e.tool place listing := by
  induction servers generalizing others with
  | nil => cases h
  | cons e rest ih =>
    rw [offers, List.mem_append] at h
    rcases h with h | h
    · obtain ⟨listings, client, hcontact, hlisting⟩ := mem_offered h
      refine ⟨e, List.mem_cons_self, listings, client, others.length, hcontact, ?_, ?_, hlisting⟩
      · rw [places, place?, hcontact]
        exact List.mem_cons_self
      · rw [List.flatMap_cons, connections, hcontact]
        simp
    · rw [← List.length_append] at h
      obtain ⟨found, hfound, listings, client, place, hcontact, hplace, hclient, hlisting⟩ := ih h
      refine ⟨found, List.mem_cons_of_mem _ hfound, listings, client, place, hcontact, ?_, ?_, hlisting⟩
      · rw [places, ← List.length_append]
        exact List.mem_append_right _ hplace
      · rw [List.flatMap_cons, ← List.append_assoc]
        exact hclient

/-- A connection that is not in use has been closed. -/
theorem closed_of_not_mem_places {servers : List ServerEntry} {others : List Remote.Client} {place : Nat}
    {client : Remote.Client} (hstarted : others.length ≤ place)
    (hclient : (others ++ servers.flatMap (connections host usual))[place]? = some client)
    (h : place ∉ places host usual others.length servers) : client.closed = true := by
  induction servers generalizing others with
  | nil =>
    rw [List.flatMap_nil, List.append_nil, List.getElem?_eq_none hstarted] at hclient
    cases hclient
  | cons e rest ih =>
    rw [places, List.mem_append, not_or, ← List.length_append] at h
    rw [List.flatMap_cons, ← List.append_assoc] at hclient
    by_cases hlater : (others ++ e.connections host usual).length ≤ place
    · exact ih hlater hclient h.2
    -- the connection is the only one of this server
    rw [List.getElem?_append_left (Nat.lt_of_not_le hlater), List.getElem?_append_right hstarted] at hclient
    rw [List.length_append] at hlater
    have hfirst := h.1
    unfold place? at hfirst
    unfold connections at hclient hlater
    cases hcontact : e.contact host usual with
    | listed listings found =>
      rw [hcontact] at hlater hfirst
      have hplace : place = others.length := by
        have hlength : ([found] : List Remote.Client).length = 1 := rfl
        dsimp only at hlater
        omega
      exact absurd (List.mem_singleton.mpr hplace) hfirst
    | unlisted error found =>
      rw [hcontact] at hclient
      obtain rfl := List.mem_singleton.mp (List.mem_of_getElem? hclient)
      rfl
    | unstarted error => rw [hcontact] at hclient; cases hclient
    | crashed cause => rw [hcontact] at hclient; cases hclient

end ServerEntry

namespace Context

open ServerEntry

/-- Starting servers one after the other leads to what their contacts say. -/
theorem run_addServers {usual : Double} {servers : List ServerEntry} {p : Progress}
    (h : crash? p.world.host usual servers = none) (set : ToolSet) (clients : List Nat) :
    ∃ now, (addServers usual servers set clients).run p =
      (.ok (set.kept (offers p.world.host usual p.world.servers.length servers),
          clients ++ places p.world.host usual p.world.servers.length servers),
        (p.telling (tales p.world.host usual (Entries.names set) servers)).within
          { p.world with
            servers := p.world.servers ++ servers.flatMap (connections p.world.host usual), now := now }) := by
  induction servers generalizing p set clients with
  | nil =>
    refine ⟨p.world.now, ?_⟩
    rw [addServers, tales, List.flatMap_nil, ← telling_eq_within, p.telling_nil, places, List.append_nil]
    rfl
  | cons e rest ih =>
    unfold crash? at h
    rw [List.findSome?_cons] at h
    cases hcrash : (e.contact p.world.host usual).crash? with
    | some cause => rw [hcrash] at h; cases h
    | none =>
      rw [hcrash] at h
      obtain ⟨now, hfirst⟩ := run_addServer hcrash set
      let after : World :=
        { p.world with servers := p.world.servers ++ e.connections p.world.host usual, now := now }
      obtain ⟨later, hrest⟩ := ih (p := (p.telling (e.tale p.world.host usual (Entries.names set))).within after) h
        (set.kept (e.offered p.world.host usual p.world.servers.length))
        (clients ++ (e.place? p.world.host usual p.world.servers.length).toList)
      refine ⟨later, ?_⟩
      have htaken (name : String) (hname : name ≠ "") :
          name ∈ Entries.names (set.kept (e.offered p.world.host usual p.world.servers.length)) ↔
            name ∈ Entries.names set ++ (e.offered p.world.host usual 0).map Prod.fst := by
        rw [ToolSet.mem_names_kept, List.mem_append, names_offered]
        exact or_congr_right (and_iff_right hname)
      rw [addServers, Opening.run_bind, hfirst]
      refine hrest.trans ?_
      show (Except.ok ((set.kept _).kept (offers _ _ (p.world.servers ++ _).length _),
        (clients ++ _) ++ places _ _ (p.world.servers ++ _).length _),
        (((p.telling _).within after).telling (tales p.world.host usual _ _)).within
          { p.world with servers := (p.world.servers ++ _) ++ _, now := later }) = _
      rw [← ToolSet.kept_append, List.length_append, List.append_assoc, List.append_assoc, Progress.within_telling,
        Progress.within_within, Progress.telling_telling, tales_congr _ _ htaken]
      rfl

/-- Starting servers crashes with the first contact that does.  The servers before it are left as their contacts left
them. -/
theorem run_addServers_of_crashed {usual : Double} {servers : List ServerEntry} {p : Progress} {cause : Crash}
    (h : crash? p.world.host usual servers = some cause) (set : ToolSet) (clients : List Nat) :
    ∃ after, (addServers usual servers set clients).run p = (.error (.crash cause), after) ∧
      ∃ earlier e later, servers = earlier ++ e :: later ∧ crash? p.world.host usual earlier = none ∧
        e.contact p.world.host usual = .crashed cause ∧
        after.world.servers =
          p.world.servers ++ earlier.flatMap (connections p.world.host usual) ++ e.abandoned p.world.host usual := by
  induction servers generalizing p set clients with
  | nil => cases h
  | cons e rest ih =>
    unfold crash? at h
    rw [List.findSome?_cons] at h
    rw [addServers, Opening.run_bind]
    cases hcontact : e.contact p.world.host usual with
    | crashed found =>
      rw [hcontact] at h
      cases h
      obtain ⟨after, hrun, hservers⟩ := run_addServer_of_crashed hcontact set
      rw [hrun]
      refine ⟨after, rfl, [], e, rest, rfl, rfl, hcontact, ?_⟩
      rw [List.flatMap_nil, List.append_nil]
      exact hservers
    | _ =>
      have hcrash := congrArg Contact.crash? hcontact
      rw [hcontact] at h
      obtain ⟨now, hrun⟩ := run_addServer (p := p) hcrash set
      rw [hrun]
      obtain ⟨after, hrun, earlier, found, later, rfl, hnone, hfound, hservers⟩ :=
        ih (p := (p.telling _).within { p.world with
          servers := p.world.servers ++ e.connections p.world.host usual, now := now }) h _ _
      refine ⟨after, hrun, e :: earlier, found, later, rfl, ?_, hfound, ?_⟩
      · unfold crash?
        rw [List.findSome?_cons, hcrash]
        exact hnone
      · rw [List.flatMap_cons, ← List.append_assoc]
        exact hservers

end Context

end ToolWeave
