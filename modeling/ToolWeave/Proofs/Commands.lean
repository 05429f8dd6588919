import ToolWeave.CommandLine.Commands
import ToolWeave.Proofs.Consoles
import ToolWeave.Proofs.FiniteRuns
import ToolWeave.Proofs.Paths

/-!
# What commands print

A text that a command evaluates, as a program or as the input of a tool, is answered by one document: the
value, or the failure as an object (`CommandLine.commands_answer`).  The document comes after what the
program prints itself.  There is one exception: what has no JSON text cannot be printed, and the command
crashes.

## Main definitions

* `CommandLine.Started`: a command has come as far as a context.
* `CommandLine.answer`: what becomes of a text.
* `CommandLine.Printable`: the outcome has JSON text.
* `CommandLine.Conversation`: lines are answered one after the other, each in the state that the one before
  it has left.

## Design notes

**Lines that are read.**  A program may read lines itself, so the lines of a conversation are not those of
the input.  The next line is cut off when it is asked for, from what is left by then.
-/

namespace ToolWeave

/-! ### Contexts without configuration -/

namespace Config

/-- Without files a configuration is the usual one. -/
theorem load_isolated (host : Host) (directory : String) :
    load host directory none true = (pure usual : Loading Config) := by
  have hlayers : loadLayers host directory none true = pure ⟨[], []⟩ := rfl
  have hdepth : depthOf [] = pure usual.maxDepth := rfl
  have htimeout : remoteTimeoutOf [] = pure usual.remoteTimeout := rfl
  have hsection {α : Type} (part : String) (build : String → Document → Except EntryFault (Option α)) :
      sectionOf host part build [] = pure [] := rfl
  have hpreload : preloadOf directory [] = pure [] := rfl
  have hlevel : logLevelOf [] = none := rfl
  unfold load ofMapping
  simp only [hlayers, hdepth, htimeout, hsection, hpreload, hlevel, pure_bind]
  simp only [usual]

end Config

namespace Context

theorem get_bind {α : Type} (f : Progress → Opening α) (progress : Progress) :
    (get >>= f) progress = f progress progress := rfl

/-- A configuration without tools and programs of its own leads to a root with the built-in tools. -/
theorem start_of_load {config : Config} {limit : Nat} {directory : String} {level : Option String} {host : Host}
    (console : Console) (hload : Config.load host directory none true = pure config)
    (hcommands : config.commands = []) (hservers : config.servers = []) (hpreload : config.preload = [])
    (hlimit : limitOf config = .ok limit) :
    ∃ reporting, start ⟨directory, none, true, level, true⟩ console host =
      (.ok ⟨directory, config, limit, ToolSet.builtins, []⟩,
        ⟨[], reporting, (World.fresh [] console host).enterRoot ToolSet.builtins⟩) := by
  refine ⟨LogLevel.reportsWarnings (logLevel level host config), ?_⟩
  have hloaded : Opening.ofLoading (pure config) = (pure config : Opening Config) := rfl
  unfold start bringUp
  obtain ⟨maxDepth, timeout, logLevel, commands, servers, preload, loadedFrom⟩ := config
  dsimp only at hcommands hservers hpreload
  subst hcommands hservers hpreload
  -- what is left to do without tools and programs is to load the configuration
  show (get >>= _ : Opening Context) _ = _
  rw [get_bind]
  have hhost : (World.fresh [] console host).host = host := rfl
  dsimp only
  rw [hhost, hload, hloaded, pure_bind, hlimit]
  rfl

/-- Without configuration there is a root with the built-in tools. -/
theorem start_isolated (directory : String) (level : Option String) (console : Console) (host : Host) :
    ∃ reporting, start ⟨directory, none, true, level, true⟩ console host =
      (.ok ⟨directory, Config.usual, 64, ToolSet.builtins, []⟩,
        ⟨[], reporting, (World.fresh [] console host).enterRoot ToolSet.builtins⟩) :=
  start_of_load console (Config.load_isolated host directory) rfl rfl rfl rfl

end Context

namespace CommandLine

/-! ### Commands that have started -/

/-- A command has started: it works in a directory, and a context has been brought up there. -/
def Started (host : Host) (a : Arguments) (console : Console) (context : Context) (world : World) : Prop :=
  ∃ path progress, host.expandHome? ((a.value? "cwd").getD host.directory) = some path ∧
    host.find (Path.resolve host.directory path) = .ok .directory ∧
    Context.start (contextRequest a (Path.resolve host.directory path)) console host = (.ok context, progress) ∧
    progress.world = world

theorem Started.inContext_eq {host : Host} {a : Arguments} {console : Console} {context : Context} {world : World}
    (h : Started host a console context world) (shown : World → String) (use : Context → World → Output) :
    inContext host a console shown use = use context world := by
  obtain ⟨path, progress, hpath, hfind, hstart, rfl⟩ := h
  unfold inContext inDirectory
  rw [hpath]
  dsimp only
  rw [hfind]
  dsimp only
  rw [hstart]

/-- A command that leaves the configuration aside starts in a root with the built-in tools. -/
theorem started_isolated {host : Host} {a : Arguments} {path : String} (console : Console)
    (hconfig : a.value? "config" = none) (hisolated : a.has "isolated" = true)
    (hpath : host.expandHome? ((a.value? "cwd").getD host.directory) = some path)
    (hfind : host.find (Path.resolve host.directory path) = .ok .directory) :
    Started host a console ⟨Path.resolve host.directory path, Config.usual, 64, ToolSet.builtins, []⟩
      ((World.fresh [] console host).enterRoot ToolSet.builtins) := by
  obtain ⟨reporting, hstart⟩ := Context.start_isolated (Path.resolve host.directory path)
    (if a.has "verbose" then some "DEBUG" else none) console host
  have hrequest : contextRequest a (Path.resolve host.directory path) =
      ⟨Path.resolve host.directory path, none, true, if a.has "verbose" then some "DEBUG" else none, true⟩ := by
    unfold contextRequest
    rw [hconfig, hisolated]
  rw [← hrequest] at hstart
  exact ⟨path, _, hpath, hfind, hstart, rfl⟩

/-! ### Answers -/

/-- What becomes of a text: it is refused, or what it holds is evaluated in some way, under the time limit of
the command. -/
def answer (timeout : Option Double) (evaluate : Value → Run Value) (text : String) (world : World) :
    Except ToolError Value × World :=
  match Value.parse text with
  | .error e => (.error e, world)
  | .ok v => (evaluate v).run (underTimeout timeout world)

/-- The document for an outcome: the value, or an object with the failure. -/
def shownOf : Except ToolError Value → Value
  | .ok v => v
  | .error e => .object [("error", .object [("kind", .string e.kind.name), ("payload", e.payload)])]

/-- The exit code for an outcome: zero, or the code of the failure. -/
def exitOf : Except ToolError Value → Nat
  | .ok _ => 0
  | .error e => e.kind.exitCode

/-- All numbers in the document for an outcome are finite, and all integers have at most 4300 digits. -/
def Printable (outcome : Except ToolError Value) : Prop :=
  (shownOf outcome).isFinite = true ∧ (shownOf outcome).shortIntegers = true

/-- The output of a command that answers a text: what the program prints, and then one document and the exit
code of the outcome.  If the outcome cannot be printed there is a crash instead. -/
def Answers (output : Output) (before : Console) (answered : Except ToolError Value × World) : Prop :=
  before.Later answered.2.console ∧
    ((Printable answered.1 ∧ ∃ document, Json.print Json.indented (shownOf answered.1) = .ok document ∧
        output = .ended (exitOf answered.1) (answered.2.console.printed ++ (document ++ "\n"))) ∨
      (¬ Printable answered.1 ∧ ∃ cause, output = .crashed answered.2.console.printed (.unprintable cause)))

theorem answer_console {timeout : Option Double} {evaluate : Value → Run Value} {text : String} {world : World}
    (h : ∀ v, ∀ world : World, world.console.Later (evaluate v world).2.console) :
    world.console.Later (answer timeout evaluate text world).2.console := by
  unfold answer
  split
  · exact .refl _
  · exact h _ (underTimeout timeout world)

/-- The document for an outcome is written, or it cannot be. -/
theorem documentText_cases (outcome : Except ToolError Value) :
    (Printable outcome ∧ ∃ document, Json.print Json.indented (shownOf outcome) = .ok document ∧
      documentText (shownOf outcome) = .ok (document ++ "\n")) ∨
    (¬ Printable outcome ∧ ∃ cause, documentText (shownOf outcome) = .error (.unprintable cause)) := by
  unfold documentText Json.print
  cases hcause : Json.unwritable? (shownOf outcome) with
  | none => exact .inl ⟨Json.unwritable?_eq_none.mp hcause, _, rfl, rfl⟩
  | some cause =>
    refine .inr ⟨fun hprintable => ?_, cause, rfl⟩
    rw [Json.unwritable?_eq_none.mpr hprintable] at hcause
    cases hcause

theorem conclude_eq (printed : String) (outcome : Except ToolError Value) :
    conclude printed (outcome.mapError Fault.failure) =
      match documentText (shownOf outcome) with
      | .ok text => .ended (exitOf outcome) (printed ++ text)
      | .error cause => .crashed printed cause := by
  cases outcome <;> rfl

/-- What has been answered is printed, or the command crashes. -/
theorem answers_conclude {before : Console} {answered : Except ToolError Value × World}
    (hlater : before.Later answered.2.console) :
    Answers (conclude answered.2.console.printed (answered.1.mapError Fault.failure)) before answered := by
  refine ⟨hlater, ?_⟩
  rw [conclude_eq]
  rcases documentText_cases answered.1 with ⟨hprintable, document, hdocument, htext⟩ | ⟨hprintable, cause, htext⟩
  · rw [htext]
    exact .inl ⟨hprintable, document, hdocument, rfl⟩
  · rw [htext]
    exact .inr ⟨hprintable, cause, rfl⟩

section Single

variable {host : Host} {a : Arguments} {timeout : Option Double} {input text : String} {context : Context}
  {world : World}

/-- The program that is given inline is answered. -/
theorem run_answers (hstarted : Started host a (.reading input) context world) (htext : a.value? "expr" = some text)
    (hpositional : a.positional = []) :
    Answers (run host a timeout input) world.console
      (answer timeout (Run.program context.limit) text world) := by
  have hlater : world.console.Later (answer timeout (Run.program context.limit) text world).2.console :=
    answer_console fun v world => Run.program_console context.limit world v
  have hrun : run host a timeout input = conclude
      (answer timeout (Run.program context.limit) text world).2.console.printed
      ((answer timeout (Run.program context.limit) text world).1.mapError Fault.failure) := by
    unfold run evaluateText answer
    rw [htext, hpositional]
    dsimp only
    rw [hstarted.inContext_eq]
    cases Value.parse text <;> rfl
  rw [hrun]
  exact answers_conclude hlater

/-- The input that is given to a tool is answered. -/
theorem call_answers (hstarted : Started host a (.reading input) context world) :
    Answers (call host a timeout input) world.console
      (answer timeout (Run.named context.limit (a.positional.headD "")) ((a.value? "input").getD "null") world) := by
  generalize htext : (a.value? "input").getD "null" = text
  have hlater : world.console.Later
      (answer timeout (Run.named context.limit (a.positional.headD "")) text world).2.console :=
    answer_console fun v world => Run.named_console context.limit world _ v
  have hcall : call host a timeout input = conclude
      (answer timeout (Run.named context.limit (a.positional.headD "")) text world).2.console.printed
      ((answer timeout (Run.named context.limit (a.positional.headD "")) text world).1.mapError Fault.failure) := by
    unfold call answer
    rw [hstarted.inContext_eq, htext]
    dsimp only
    cases Value.parse text <;> rfl
  rw [hcall]
  exact answers_conclude hlater

theorem isFinite_shownOf {outcome : Except ToolError Value} (h : ∀ v, outcome = .ok v → v.isFinite = true) :
    (shownOf outcome).isFinite = true := by
  cases outcome with
  | ok v => exact h v rfl
  | error e => simp [shownOf, Value.isFinite, Value.fieldsFinite, e.isFinite_payload]

/-- What is invoked by the command line gives a JSON value. -/
theorem isFinite_answer_named (limit : Nat) (name : String) :
    (shownOf (answer timeout (Run.named limit name) text world).1).isFinite = true := by
  refine isFinite_shownOf fun v hv => ?_
  unfold answer at hv
  split at hv
  · cases hv
  · exact Run.isFinite_of_named hv

/-- A program gives a JSON value if it is one. -/
theorem isFinite_answer_program (limit : Nat) (h : ∀ v, Value.parse text = .ok v → v.isFinite = true) :
    (shownOf (answer timeout (Run.program limit) text world).1).isFinite = true := by
  refine isFinite_shownOf fun v hv => ?_
  unfold answer at hv
  split at hv
  · cases hv
  · next program hread => exact Run.isFinite_of_program (h program hread) hv

end Single

/-! ### Conversations -/

/-- The next line without its line feed, and the state in which it has been asked for and read.  At the end of
the input there is none. -/
def nextLine? (world : World) : Option (String × World) :=
  let asked := printing prompt world
  if asked.console.input = [] then none
  else
    let (line, rest) := ConsoleTools.cutLine asked.console.input
    some (String.ofList (if line.getLast? == some '\n' then line.dropLast else line),
      { asked with console.input := rest })

/-- What happens at a line: what the program prints, how it ends, and the document that is printed then. -/
structure Exchange where
  line : String
  own : String
  outcome : Except ToolError Value
  document : String

/-- Lines are answered one after the other.  An empty line is asked for again.  Each line is evaluated in the
state that is left when the document of the line before it has been printed. -/
inductive Conversation (limit : Nat) (timeout : Option Double) : World → List Exchange → World → Prop
  | start (world : World) : Conversation limit timeout world [] world
  | again {world next last : World} {exchanges : List Exchange} : nextLine? world = some ("", next) →
      Conversation limit timeout next exchanges last → Conversation limit timeout world exchanges last
  | answered {world next after last : World} {line own document : String} {outcome : Except ToolError Value}
      {exchanges : List Exchange} : nextLine? world = some (line, next) → line ≠ "" → isFarewell line = false →
      answer timeout (Run.program limit) line next = (outcome, after) →
      after.console.printed = next.console.printed ++ own →
      Json.print Json.indented (shownOf outcome) = .ok document →
      Conversation limit timeout (printing (document ++ "\n") after) exchanges last →
      Conversation limit timeout world (⟨line, own, outcome, document⟩ :: exchanges) last

/-- How a conversation ends: with the input, with a farewell, or with a crash at a line whose outcome cannot be
printed. -/
inductive Ending (limit : Nat) (timeout : Option Double) (last : World) : Output → Prop
  | input : nextLine? last = none → Ending limit timeout last (.ended 0 (last.console.printed ++ prompt))
  | farewell {line : String} {next : World} : nextLine? last = some (line, next) → isFarewell line = true →
      Ending limit timeout last (.ended 0 next.console.printed)
  | crash {line : String} {next after : World} {outcome : Except ToolError Value} {cause : Json.Unwritable} :
      nextLine? last = some (line, next) → line ≠ "" → isFarewell line = false →
      answer timeout (Run.program limit) line next = (outcome, after) → ¬ Printable outcome →
      Ending limit timeout last (.crashed after.console.printed (.unprintable cause))

section Conversations

variable {limit : Nat} {timeout : Option Double}

/-- **One line of a conversation.** -/
theorem converse_succ (bound : Nat) (world : World) : converse limit timeout (bound + 1) world =
    match nextLine? world with
    | none => .ended 0 (world.console.printed ++ prompt)
    | some (line, next) =>
      if line = "" then converse limit timeout bound next
      else if isFarewell line then .ended 0 next.console.printed
      else
        match documentText (shownOf (answer timeout (Run.program limit) line next).1) with
        | .ok text => converse limit timeout bound (printing text (answer timeout (Run.program limit) line next).2)
        | .error cause => .crashed (answer timeout (Run.program limit) line next).2.console.printed cause := by
  unfold nextLine?
  rw [converse]
  dsimp only
  by_cases hinput : (printing prompt world).console.input = []
  · rw [if_pos hinput, if_pos (List.isEmpty_iff.mpr hinput)]
    rfl
  rw [if_neg hinput, if_neg (mt List.isEmpty_iff.mp hinput)]
  dsimp only
  generalize String.ofList _ = line
  by_cases hblank : line = ""
  · rw [if_pos hblank, if_pos hblank]
  rw [if_neg hblank, if_neg hblank]
  by_cases hfarewell : isFarewell line = true
  · rw [if_pos hfarewell, if_pos hfarewell]
  rw [if_neg hfarewell, if_neg hfarewell]
  unfold answer limited
  cases Value.parse line with
  | error e => rfl
  | ok program =>
    dsimp only
    generalize (Run.program limit program).run _ = done
    obtain ⟨outcome | outcome, after⟩ := done <;> rfl

theorem length_nextLine?_lt {world next : World} {line : String} (h : nextLine? world = some (line, next)) :
    next.console.input.length < world.console.input.length := by
  unfold nextLine? at h
  dsimp only at h
  split at h
  · cases h
  · next hinput =>
    cases h
    exact ConsoleTools.cutLine_length_lt hinput

/-- **A conversation goes on until it ends.** -/
theorem converse_conversation {bound : Nat} {world : World} (hbound : world.console.input.length < bound) :
    ∃ exchanges last, Conversation limit timeout world exchanges last ∧
      Ending limit timeout last (converse limit timeout bound world) := by
  induction bound generalizing world with
  | zero => exact absurd hbound (Nat.not_lt_zero _)
  | succ bound ih =>
    rw [converse_succ]
    cases hnext : nextLine? world with
    | none => exact ⟨[], world, .start world, .input hnext⟩
    | some taken =>
      obtain ⟨line, next⟩ := taken
      -- a line takes a character of the input at least, so the bound is never reached
      have hshorter := length_nextLine?_lt hnext
      dsimp only
      by_cases hempty : line = ""
      · subst hempty
        rw [if_pos rfl]
        have hleft : next.console.input.length < bound := by omega
        obtain ⟨exchanges, last, hconversation, hending⟩ := ih hleft
        exact ⟨exchanges, last, .again hnext hconversation, hending⟩
      rw [if_neg hempty]
      by_cases hfarewell : isFarewell line = true
      · rw [if_pos hfarewell]
        exact ⟨[], world, .start world, .farewell hnext hfarewell⟩
      rw [if_neg hfarewell]
      rw [Bool.not_eq_true] at hfarewell
      have hlater : next.console.Later (answer timeout (Run.program limit) line next).2.console :=
        answer_console fun v world => Run.program_console limit world v
      rcases hanswer : answer timeout (Run.program limit) line next with ⟨outcome, after⟩
      rw [hanswer] at hlater
      dsimp only
      rcases documentText_cases outcome with ⟨-, document, hdocument, htext⟩ | ⟨hprintable, cause, htext⟩
      · rw [htext]
        obtain ⟨own, hown⟩ := hlater.printed
        have hread := hlater.length_le
        have hleft : (printing (document ++ "\n") after).console.input.length < bound :=
          Nat.lt_of_le_of_lt hread (by omega)
        obtain ⟨exchanges, last, hconversation, hending⟩ := ih hleft
        exact ⟨_, last, .answered hnext hempty hfarewell hanswer hown hdocument hconversation, hending⟩
      · rw [htext]
        exact ⟨[], world, .start world, .crash hnext hempty hfarewell hanswer hprintable⟩

end Conversations

/-! ### Commands -/

/-- A host with a directory and nothing in it. -/
def sampleHost : Host := ⟨[], ["/"], [], "/"⟩

/-- A program that is given inline, without configuration. -/
def sampleArguments (text : String) : Arguments := ⟨[], [("expr", text)], ["isolated"]⟩

/-- The context without configuration. -/
def sampleContext : Context := ⟨"/", Config.usual, 64, ToolSet.builtins, []⟩

/-- The state in which the sample host starts: a root with the built-in tools. -/
def sampleWorld : World := (World.fresh [] (.reading "") sampleHost).enterRoot ToolSet.builtins

theorem started_sample (text : String) :
    Started sampleHost (sampleArguments text) (.reading "") sampleContext sampleWorld := by
  have hfind : sampleHost.find (Path.resolve sampleHost.directory "/") = .ok .directory := by
    rw [Path.resolve_root, Host.find_root]
  have hstarted := started_isolated (a := sampleArguments text) (.reading "") rfl rfl
    (Host.expandHome?_root sampleHost) hfind
  rw [Path.resolve_root] at hstarted
  exact hstarted

/-- A program that prints a line and gives a number. -/
def samplePrint : String := "\x7b\"do\": [\x7b\"call\": \"print\", \"input\": \"hi\"\x7d, 3]\x7d"

end CommandLine

end ToolWeave
