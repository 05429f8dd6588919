import ToolWeave.Shell.Process

/-!
# Shells of their own

Parts of a script that run in a process of their own: what they change stays with them, but what
they write and the time they take does not.

## Main definitions

* `Shell.outcome`, `Shell.resume`: something tried out, and going on after that.
* `Shell.Runner`: how scripts are carried out.
* `Shell.apart`: something carried out in a shell of its own.
* `Shell.capture`: what such a shell writes.
* `Shell.finishShell`: a shell seen through to its end.
-/

namespace ToolWeave

namespace Shell

/-- How a part of a script ended that ran in a shell of its own. -/
structure Ended where
  status : Nat
  finish : Instant
  /-- Whether it waits for input, or never ends. -/
  stop : Option Stop

/-- What carrying something out leads to, with the process as it is then. -/
def outcome (p : Process) (action : Action Unit) : Option Stop × Process :=
  match (ExceptT.run action).run p with
  | (.ok (), q) => (none, q)
  | (.error stop, q) => (some stop, q)

/-- Goes on after something was tried out. -/
def resume (stop : Option Stop) : Action Unit :=
  match stop with
  | none => return ()
  | some stop => throw stop

/-- How scripts are carried out: those that have been read, and those that are still text. -/
structure Runner where
  script : Script → Action Unit
  text : String → Action Unit

/-- The process as it is inside of a shell of its own: signals that are not ignored have their usual
effect, and the jobs around it are not its own. -/
def Process.inside (p : Process) : Process :=
  { p with traps := p.traps.filter fun trap => trap.2.isEmpty, pending := [], jobs := [],
           loops := 0 }

/-- Carries something out as the last thing a shell does, and then what it does at its end.  The
status is that of the shell. -/
def finishShell (runner : Runner) (action : Action Unit) : Action Unit := do
  let (stop, p) := outcome (← get) action
  set p
  let code ← (match stop with
    | none | some .failed => return p.status
    | some (.exited code) | some (.returning code) => return code
    | some (.breaking _) | some (.continuing _) => return 0
    | some other => throw other : Action Nat)
  match Entries.get? 0 p.traps with
  | none => set { p with status := code }
  | some text => do
    let last := { p with status := code, traps := Entries.erase 0 p.traps, loops := 0,
                         command := none }
    let (stop, q) := outcome last (runner.text (textOf text))
    match stop with
    | none | some (.breaking _) | some (.continuing _) => set { q with status := code }
    | some (.exited other) | some (.returning other) => set { q with status := other }
    | some .failed => set q
    | some other => do
      set q
      throw other

/-- Carries something out in a shell of its own, which starts with the process changed in some way.
Time passes only inside. -/
def apart (runner : Runner) (change : Process → Process) (action : Action Unit) : Action Ended := do
  let p ← get
  let (stop, q) := outcome (change p.inside) (finishShell runner action)
  set { p with machine := q.machine }
  match stop with
  | some (.killed signal) => throw (.killed signal)
  | some .waiting => return ⟨0, q.elapsed, some .waiting⟩
  | some .endless => return ⟨0, q.elapsed, some .endless⟩
  | _ => return ⟨q.status, q.elapsed, none⟩

/-- Goes on when a part has ended that ran in a shell of its own. -/
def awaitEnd (ended : Ended) : Action Nat := do
  modify fun p => p.reach ended.finish
  resume ended.stop
  return ended.status

/-- Carries something out and gives what it writes. -/
def capture (runner : Runner) (action : Action Unit) : Action Bytes := do
  let k ← newSink
  let ended ← apart runner (fun p => p.lead 1 (some (.sink k))) action
  let (chunks, closes) ← closeSink k ended.finish
  modify fun p => { p.reach closes with captured := ended.status }
  resume ended.stop
  if never ≤ closes then neverEnd
  return (chunks.flatMap Chunk.text).filter (· != 0)

end Shell

end ToolWeave
