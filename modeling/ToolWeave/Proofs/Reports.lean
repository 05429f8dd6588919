import ToolWeave.Proofs.Decoding
import ToolWeave.Proofs.Documents
import ToolWeave.Proofs.Paths
import ToolWeave.Proofs.Transparency

/-!
# Failures that are reported

A failure is told as an object with its kind and its payload.  It is read back from there wherever it was
told: in a value, on the output of a process, in the reply of a server (`ToolError.survives`).  Whatever else
a process prints before it exits with an error is a failure of the transport.  There is one exception: the
outputs of a process have to be text, and a process that writes other bytes anywhere is a tool that has crashed.

## Main definitions

* `Value.Tells`: a value has the two fields of a failure and no others.
* `Shell.Observation.Prints`: all that a process has printed is the text of a failure.
* `Command.SeesThrough`: a command waits for its process up to the end.
* `Command.FailsOn`: an invocation of a command fails after such a process.

## Design notes

**What is around a report.**  The output of a process is decoded, its ends of lines are unified and it is
stripped, in this order.  The first of these could spoil a report only with a carriage return in the middle
of it, and the text of a failure is on one line.
-/

namespace ToolWeave

/-! ### Reports between blanks -/

namespace Text

/-- Blanks stay blanks when ends of lines are unified. -/
theorem unifyLinesAfter_blanks {blanks rest : List Char} (hblanks : ∀ c ∈ blanks, isBlank c = true)
    (hrest : rest.head? ≠ some '\n') :
    ∃ gap : List Char, (∀ c ∈ gap, isBlank c = true) ∧
      ∀ read, unifyLinesAfter read (blanks ++ rest) = unifyLinesAfter (gap ++ read) rest := by
  have hconcat {gap : List Char} {c : Char} (hgap : ∀ c ∈ gap, isBlank c = true) (hc : isBlank c = true) :
      ∀ d ∈ gap ++ [c], isBlank d = true :=
    List.forall_mem_append.mpr ⟨hgap, List.forall_mem_singleton.mpr hc⟩
  -- the cases are those of the function, whose first argument plays no part
  induction ([] : List Char), blanks using unifyLinesAfter.induct with
  | case1 => exact ⟨[], List.forall_mem_nil _, fun _ => rfl⟩
  | case2 _ blanks ih =>
    obtain ⟨-, hblanks⟩ := List.forall_mem_cons.mp (List.forall_mem_cons.mp hblanks).2
    obtain ⟨gap, hgap, hunify⟩ := ih hblanks
    refine ⟨gap ++ ['\n'], hconcat hgap (by decide), fun read => ?_⟩
    rw [List.cons_append, List.cons_append, unifyLinesAfter, hunify, List.append_assoc, List.singleton_append]
  | case3 _ blanks hnext ih =>
    obtain ⟨gap, hgap, hunify⟩ := ih (List.forall_mem_cons.mp hblanks).2
    refine ⟨gap ++ ['\n'], hconcat hgap (by decide), fun read => ?_⟩
    rw [List.cons_append, unifyLinesAfter, hunify, List.append_assoc, List.singleton_append]
    -- what follows the carriage return is no line feed
    intro more hmore
    cases blanks with
    | nil => exact hrest (congrArg List.head? hmore)
    | cons c blanks => exact hnext blanks (congrArg (· :: blanks) (List.head_eq_of_cons_eq hmore))
  | case4 _ c blanks _ hreturn ih =>
    obtain ⟨hc, hblanks⟩ := List.forall_mem_cons.mp hblanks
    obtain ⟨gap, hgap, hunify⟩ := ih hblanks
    refine ⟨gap ++ [c], hconcat hgap hc, fun read => ?_⟩
    rw [List.cons_append, unifyLinesAfter, hunify, List.append_assoc, List.singleton_append]
    · exact fun _ heq _ => hreturn heq
    · exact hreturn

/-- A line that does not start or end with a blank is what is left of a text with blanks around it. -/
theorem stripChars_unifyLines {before inner after : List Char} {first last : Char}
    (hbefore : ∀ c ∈ before, isBlank c = true) (hafter : ∀ c ∈ after, isBlank c = true)
    (hfirst : isBlank first = false) (hlast : isBlank last = false) (hone : OneLine (first :: inner ++ [last])) :
    stripChars (unifyLines (before ++ (first :: inner ++ [last]) ++ after)) = first :: inner ++ [last] := by
  have hreturn : ∀ c ∈ first :: inner ++ [last], c ≠ '\r' := fun c hc => (oneLine_iff.mp hone c hc).2
  have hnewline : (first :: inner ++ [last] ++ after).head? ≠ some '\n' := by
    intro h
    exact (oneLine_iff.mp hone first List.mem_cons_self).1 (Option.some.inj h)
  obtain ⟨front, hfront, hunifyFront⟩ := unifyLinesAfter_blanks hbefore hnewline
  have hnothing : ([] : List Char).head? ≠ some '\n' := by decide
  obtain ⟨back, hback, hunifyBack⟩ := unifyLinesAfter_blanks hafter hnothing
  have hunified : unifyLines (before ++ (first :: inner ++ [last]) ++ after) =
      front.reverse ++ (first :: inner ++ [last]) ++ back.reverse := by
    rw [List.append_nil] at hunifyBack
    rw [List.append_assoc, unifyLines, hunifyFront, List.append_nil, unifyLinesAfter_append hreturn, hunifyBack,
      unifyLinesAfter, List.reverse_append, List.reverse_append, List.reverse_reverse]
  rw [hunified]
  exact stripChars_between (fun c hc => hfront c (List.mem_reverse.mp hc))
    (fun c hc => hback c (List.mem_reverse.mp hc)) hfirst hlast

end Text

namespace Json

theorem toList_of_line {v : Value} {text : String} (h : line v = .ok text) : text.toList = write compact 0 v [] := by
  unfold line print at h
  split at h
  · cases h
  · cases h
    exact String.toList_ofList

/-- The text of an object is what is left of an output with blanks around it. -/
theorem stripChars_unifyLines_of_line {fields : Fields} {text : String} {before after : List Char}
    (htext : line (.object fields) = .ok text) (hbefore : ∀ c ∈ before, Text.isBlank c = true)
    (hafter : ∀ c ∈ after, Text.isBlank c = true) :
    Text.stripChars (Text.unifyLines (before ++ text.toList ++ after)) = text.toList := by
  obtain ⟨inner, hbraces⟩ := exists_braces fields
  have hends : text.toList = '\x7b' :: inner ++ ['\x7d'] := (toList_of_line htext).trans hbraces
  have hone := oneLine_of_line htext
  rw [hends] at hone ⊢
  exact Text.stripChars_unifyLines hbefore hafter (by decide) (by decide) hone

/-- What can be sent is read from its text. -/
theorem parse_of_line {v : Value} {text : String} (hv : Remote.Sendable 0 v) (h : line v = .ok text) :
    Value.parse text = .ok v := by
  refine parse_of_readText ?_
  unfold readText
  rw [toList_of_line h]
  exact readChars_write blank_compact .strict hv.writable hv.tidy hv.levels

end Json

/-! ### Values that tell of failures -/

/-- Two entries for two names stand in one of two orders. -/
theorem Entries.eq_pair_of_get? {α : Type} {fields : Entries α} {a b : String} {x y : α} (hne : a ≠ b)
    (hlength : fields.length = 2) (ha : get? a fields = some x) (hb : get? b fields = some y) :
    fields = [(a, x), (b, y)] ∨ fields = [(b, y), (a, x)] := by
  obtain ⟨⟨first, u⟩, ⟨second, v⟩, rfl⟩ := List.length_eq_two.mp hlength
  rw [get?_cons, get?_cons, get?_nil] at ha hb
  by_cases hfirst : first = a
  · subst hfirst
    rw [if_pos rfl] at ha
    rw [if_neg hne, Option.ite_none_right_eq_some] at hb
    obtain ⟨rfl, hy⟩ := hb
    cases ha
    cases hy
    exact .inl rfl
  · rw [if_neg hfirst, Option.ite_none_right_eq_some] at ha
    obtain ⟨rfl, hx⟩ := ha
    rw [if_neg hne, Option.ite_none_right_eq_some] at hb
    obtain ⟨rfl, hy⟩ := hb
    cases hx
    cases hy
    exact .inr rfl

theorem ErrorKind.ofName?_eq_some_iff {name : String} {kind : ErrorKind} :
    ofName? name = some kind ↔ name = kind.name := by
  constructor
  · intro h
    unfold ofName? at h
    have hfound := List.find?_some h
    exact (beq_iff_eq.mp hfound).symm
  · rintro rfl
    exact ToolError.ofName?_name kind

/-- A value has the two fields of a failure and no others, in either order. -/
def Value.Tells (v : Value) (kind : ErrorKind) (payload : Value) : Prop :=
  v = .object [("kind", .string kind.name), ("payload", payload)] ∨
    v = .object [("payload", payload), ("kind", .string kind.name)]

namespace ToolError

/-- The values that a failure is read from. -/
theorem ofValue?_eq_some_iff {v : Value} {e : ToolError} :
    ofValue? v = some e ↔ ∃ kind payload, v.Tells kind payload ∧ e = make kind payload := by
  constructor
  · intro h
    unfold ofValue? at h
    split at h
    · next fields =>
      split at h
      · next hlength =>
        split at h
        · next name payload hkind hpayload =>
          obtain ⟨kind, hname, rfl⟩ := Option.map_eq_some_iff.mp h
          obtain rfl := ErrorKind.ofName?_eq_some_iff.mp hname
          have hfields := Entries.eq_pair_of_get? (by decide) hlength hkind hpayload
          exact ⟨kind, payload, hfields.imp (congrArg Value.object) (congrArg Value.object), rfl⟩
        · cases h
      · cases h
    · cases h
  · rintro ⟨kind, payload, rfl | rfl, rfl⟩
    all_goals exact congrArg (Option.map fun kind => make kind payload) (ErrorKind.ofName?_eq_some_iff.mpr rfl)

/-- A value with the payload of a failure has nothing besides the fields of the failure. -/
theorem tells_of_ofValue? {v payload : Value} {e : ToolError} (h : ofValue? v = some e)
    (hpayload : v.field? "payload" = some payload) (hfinite : payload.isFinite = true) :
    e.payload = payload ∧ v.Tells e.kind payload := by
  obtain ⟨kind, told, htells, rfl⟩ := ofValue?_eq_some_iff.mp h
  have htold : told = payload := by
    rcases htells with rfl | rfl
    all_goals exact Option.some.inj hpayload
  subst htold
  have hmake : make kind told = ⟨kind, told, hfinite⟩ := dif_pos hfinite
  rw [hmake]
  exact ⟨rfl, htells⟩

end ToolError

/-! ### Processes that report failures -/

namespace Shell.Observation

/-- A process has written text, and nothing else. -/
def IsText (seen : Observation) : Prop :=
  ∃ output errors, seen.output = Utf8.encode output ∧ seen.errors = Utf8.encode errors

/-- All that a process has printed is the text of a failure, with blanks around it. -/
def Prints (seen : Observation) (e : ToolError) : Prop :=
  ∃ (text : String) (before after : List Char), Json.line e.toValue = .ok text ∧
    (∀ c ∈ before, Text.isBlank c = true) ∧ (∀ c ∈ after, Text.isBlank c = true) ∧
    seen.output = Utf8.encode (before ++ text.toList ++ after)

end Shell.Observation

namespace Command

/-- A command is started on an input, and its process is seen through to its end. -/
def SeesThrough (c : Command) (input : Value) (world : World) (seen : Shell.Observation) : Prop :=
  ∃ text, Json.line input = .ok text ∧
    (world.host.complete world.now world.scopes c.words c.directory c.vars c.timeout text).ending = Host.finish seen

/-- A command fails after such a process, whoever invokes it. -/
def FailsOn (c : Command) (seen : Shell.Observation) (e : ToolError) : Prop :=
  c.result (Host.finish seen) = .error e ∧
    ∀ starter reach input world, c.SeesThrough input world seen →
      ((Tool.command c).perform starter reach input world).1 = .error e

variable {c : Command} {seen : Shell.Observation}

theorem failsOn_of_result {e : ToolError} (h : c.result (Host.finish seen) = .error e) : c.FailsOn seen e := by
  refine ⟨h, fun starter reach input world hsees => ?_⟩
  obtain ⟨text, htext, hending⟩ := hsees
  have hrun (world : World) (hending : (world.host.complete world.now world.scopes c.words c.directory c.vars
      c.timeout text).ending = Host.finish seen) : (c.run input world).1 = .error e := by
    unfold run
    rw [htext]
    dsimp only
    rw [Run.bind_of_ok (Run.get_apply world), hending, h]
    rfl
  have hact : ((Tool.command c).act reach input (Tool.begun starter (.command c) input world)).1 = .error e :=
    hrun _ hending
  rw [Tool.perform_apply, hact]
  rfl

/-- The failure of a command that exits with an error and reports nothing. -/
def exitError (c : Command) (code : Int) (errors : List Char) : ToolError :=
  .transportFailure "Command exited with an error"
    [c.wordsDetail, ("exit_code", .int code), ("stderr", .string (String.ofList (Text.stripChars errors)))]

theorem outputText_encode (cs : List Char) :
    Host.outputText (Utf8.encode cs) = .ok (String.ofList (Text.unifyLines cs)) := by
  unfold Host.outputText
  rw [Utf8.decode_encode]
  rfl

theorem strip_ofList (cs : List Char) : Text.strip (String.ofList cs) = String.ofList (Text.stripChars cs) := by
  unfold Text.strip
  rw [String.toList_ofList]

/-- What becomes of a process that has written text and exits with an error. -/
theorem result_of_text {output errors : List Char} (hcode : Host.stopCode seen.stop ≠ 0)
    (houtput : seen.output = Utf8.encode output) (herrors : seen.errors = Utf8.encode errors) :
    c.result (Host.finish seen) =
      .error ((reported? (String.ofList (Text.stripChars (Text.unifyLines output)))).getD
        (c.exitError (Host.stopCode seen.stop) (Text.unifyLines errors))) := by
  unfold Host.finish
  rw [houtput, herrors, outputText_encode, outputText_encode]
  dsimp only [result]
  rw [if_neg hcode, strip_ofList, strip_ofList]
  cases reported? (String.ofList (Text.stripChars (Text.unifyLines output))) with
  | some e => rfl
  | none => rfl

/-- A process that has written other bytes than those of a text has crashed. -/
theorem result_of_not_isText (h : ¬ seen.IsText) :
    ∃ cause, c.result (Host.finish seen) = .error (Crash.undecodable cause).toError := by
  unfold Host.finish
  cases houtput : Utf8.decode seen.output with
  | error cause => exact ⟨cause, by simp only [Host.outputText, houtput]; rfl⟩
  | ok output =>
    cases herrors : Utf8.decode seen.errors with
    | error cause => exact ⟨cause, by simp only [Host.outputText, houtput, herrors]; rfl⟩
    | ok errors =>
      exact absurd ⟨output, errors, Utf8.decode_eq_ok_iff.mp houtput, Utf8.decode_eq_ok_iff.mp herrors⟩ h

/-- A failure is found on the output it is printed on. -/
theorem reported?_of_prints {e : ToolError} {output : List Char} (hpayload : Remote.Sendable 1 e.payload)
    (hprints : seen.Prints e) (houtput : seen.output = Utf8.encode output) :
    reported? (String.ofList (Text.stripChars (Text.unifyLines output))) = some e := by
  obtain ⟨text, before, after, htext, hbefore, hafter, hprinted⟩ := hprints
  have hdecoded : output = before ++ text.toList ++ after := Utf8.encode_injective (houtput.symm.trans hprinted)
  unfold reported?
  rw [hdecoded, Json.stripChars_unifyLines_of_line htext hbefore hafter, String.ofList_toList,
    Json.parse_of_line (.failure (by decide) hpayload) htext]
  exact e.ofValue?_toValue

/-- Nothing is found on an output that tells of no failure. -/
theorem reported?_eq_none {cs : List Char}
    (h : ∀ d : Json.Document, d.text = cs → ∀ kind payload, ¬ d.tree.value.Tells kind payload) :
    reported? (String.ofList cs) = none := by
  unfold reported?
  split
  · next v hparse =>
    have hread := Json.readText_of_parse hparse
    unfold Json.readText at hread
    rw [String.toList_ofList] at hread
    obtain ⟨d, hd, rfl⟩ := Json.exists_document_of_readChars hread
    refine Option.eq_none_iff_forall_ne_some.mpr fun e he => ?_
    obtain ⟨kind, payload, htells, -⟩ := ToolError.ofValue?_eq_some_iff.mp he
    exact h d hd kind payload htells
  · rfl

end Command

/-! ### Every way of telling -/

/-- **Failures survive every way of telling them.**  A failure is read back from its value, and a value that
tells of one is its value, up to the order of the two fields.  A command fails with the failure that its
process has printed before it exits with an error, and with a failure of the transport if the process has
printed anything else.  But if the process has written bytes that are no text, on either of its outputs, the
command has crashed, whatever it has reported.  A tool that fails at a server fails in the same way for a
client. -/
theorem ToolError.survives (e : ToolError) (c : Command) (seen : Shell.Observation) :
    ofValue? e.toValue = some e ∧
    (∀ v payload : Value, ofValue? v = some e → v.field? "payload" = some payload → payload.isFinite = true →
      e.payload = payload ∧ v.Tells e.kind payload) ∧
    (Host.stopCode seen.stop ≠ 0 →
      (seen.IsText → Remote.Sendable 1 e.payload → seen.Prints e → c.FailsOn seen e) ∧
      (∀ output errors, seen.output = Utf8.encode output → seen.errors = Utf8.encode errors →
        (∀ d : Json.Document, d.text = Text.stripChars (Text.unifyLines output) →
          ∀ kind payload, ¬ d.tree.value.Tells kind payload) →
        c.FailsOn seen (c.exitError (Host.stopCode seen.stop) (Text.unifyLines errors))) ∧
      (¬ seen.IsText → ∃ cause, c.FailsOn seen (Crash.undecodable cause).toError)) ∧
    (∀ (limit : Nat) (world between : World) (clock : List Char → Instant) (number : Nat) (client : Remote.Client)
      (now : Instant) (tool : String) (input : Value), client.Idle limit world clock number between →
      Remote.Client.InTime client.timeout clock → (Value.int number).shortIntegers = true →
      Remote.Sendable 2 input → (Run.named limit tool input between).1 = .error e → Remote.Sendable 3 e.payload →
      (client.callTool now [] tool input).outcome = .error (.failure e)) := by
  refine ⟨e.ofValue?_toValue, fun v payload => tells_of_ofValue?, fun hcode => ⟨?_, ?_, ?_⟩, ?_⟩
  · rintro ⟨output, errors, houtput, herrors⟩ hpayload hprints
    refine Command.failsOn_of_result ?_
    rw [Command.result_of_text hcode houtput herrors, Command.reported?_of_prints hpayload hprints houtput]
    rfl
  · intro output errors houtput herrors hnone
    refine Command.failsOn_of_result ?_
    rw [Command.result_of_text hcode houtput herrors, Command.reported?_eq_none hnone]
    rfl
  · intro h
    obtain ⟨cause, hcause⟩ := Command.result_of_not_isText h
    exact ⟨cause, Command.failsOn_of_result hcause⟩
  · intro limit world between clock number client now tool input hidle hinTime hnumber hinput hfails hpayload
    have hreply : Remote.Sendable 0
        (Server.reply (.int number) (Server.answerOf (Run.named limit tool input between).1)) := by
      rw [hfails]
      refine .reply hnumber nofun fun failure hfailure => ?_
      obtain rfl := Except.error.inj hfailure
      exact hpayload
    obtain ⟨houtcome, -⟩ := hidle.call_of_reply hinTime now tool hnumber hinput hreply
    rw [houtcome, hfails]
    rfl

/-- A command that prints a failure.  It exits with an error, for `x` is no number. -/
def Command.reporting : Command :=
  ⟨["/bin/printf", "\x7b\"kind\": \"InvalidInput\", \"payload\": %d\x7d", "x"], none, [], none, ⟨"", []⟩⟩

/-- Without time limits a process that can be started is seen through to its end. -/
theorem Host.ending_of_enter {host inside : Host} {directory : Option String} {vars : Entries String}
    {words : List String} {program : String} (now : Instant)
    (h : host.enter directory vars words = .ok (inside, program)) (input : String) :
    (host.complete now [] words directory vars none input).ending =
      finish (Shell.launch inside (inside.overlay vars) program words (Shell.bytes input) false) := by
  have hawait (seen : Shell.Observation) : (host.await now [] none seen).ending = finish seen := rfl
  unfold complete
  rw [h]
  exact hawait _

theorem Command.enter_reporting :
    World.plain.host.enter none [] reporting.words = .ok (World.plain.host, "printf") := by
  have hnull : Host.holdsNull reporting.words none [] = false := by
    simp only [Host.holdsNull, reporting, String.contains_char_eq]
    decide +kernel
  exact Host.enter_of_turns 12 (by decide +kernel) (by decide +kernel) (by decide +kernel) (by decide +kernel)
    (by decide) (by decide +kernel) rfl hnull

/-- The process of this command. -/
def Command.reportingSeen : Shell.Observation :=
  Shell.launch World.plain.host (World.plain.host.overlay []) "printf" reporting.words (Shell.bytes "null") false

theorem Command.seesThrough_reporting : reporting.SeesThrough .null World.plain reportingSeen :=
  ⟨"null", rfl, Host.ending_of_enter World.plain.now enter_reporting "null"⟩

/-- The failure that it prints. -/
def ToolError.reported : ToolError := ⟨.invalidInput, .int 0, rfl⟩

/-- The text of this failure. -/
def ToolError.reportedText : String := "\x7b\"kind\": \"InvalidInput\", \"payload\": 0\x7d"

theorem ToolError.sendable_reported : Remote.Sendable 1 reported.payload := .int (by decide +kernel)

theorem ToolError.line_reported : Json.line reported.toValue = .ok reportedText := by
  have hsendable : Remote.Sendable 0 reported.toValue := .failure (by decide) sendable_reported
  have hrendered : Json.render Json.compact reported.toValue = reportedText := by decide +kernel
  unfold Json.line Json.print
  rw [hsendable.writable, hrendered]

/-- A process that has written some bytes and exits with an error. -/
def Shell.Observation.failing (output errors : Shell.Bytes) : Shell.Observation :=
  ⟨output, errors, 0, .exited 1, World.plain.host⟩

theorem Shell.Observation.not_isText_failing (output : Shell.Bytes) : ¬ (failing output [0xFF]).IsText := by
  rintro ⟨-, errors, -, herrors⟩
  have hdecode := Utf8.decode_encode errors
  rw [← herrors] at hdecode
  cases hdecode

/-- The theorem at a value with its fields in the other order, at a command that is carried out, at a process
that prints no JSON, at one that writes a byte of no text, and at a name that a server does not know. -/
theorem ToolError.survives_samples :
    (∃ v e, ofValue? v = some e ∧ v.Tells e.kind .null) ∧
    ((Tool.command .reporting).perform .other (Run.top 1) .null World.plain).1 = .error reported ∧
    Command.reporting.FailsOn (.failing (Utf8.encode "NaN".toList) []) (Command.reporting.exitError 1 []) ∧
    (∃ cause, Command.reporting.FailsOn (.failing [] [0xFF]) (Crash.undecodable cause).toError) ∧
    ((Remote.Client.connected 5 World.plain (fun _ => 0) "far" Remote.sampleLimit).callTool 0 [] "nope"
      .null).outcome = .error (.failure (.unknownTool "nope")) := by
  refine ⟨?_, ?_, ?_, ?_, ?_⟩
  · have hread : ofValue? (.object [("payload", .null), ("kind", .string "Cancelled")]) =
        some ⟨.cancelled, .null, rfl⟩ :=
      ofValue?_eq_some_iff.mpr ⟨.cancelled, .null, .inr rfl, rfl⟩
    have htells := (survives ⟨.cancelled, .null, rfl⟩ .reporting Command.reportingSeen).2.1 _ .null hread rfl rfl
    exact ⟨_, _, hread, htells.2⟩
  · have hcode : Host.stopCode Command.reportingSeen.stop ≠ 0 := by decide +kernel
    have houtput : Command.reportingSeen.output = Utf8.encode ([] ++ reportedText.toList ++ []) := by decide +kernel
    have herrors : Command.reportingSeen.errors = Utf8.encode "printf: 'x': expected a numeric value\n".toList := by
      decide +kernel
    obtain ⟨hprinted, -⟩ := (survives reported .reporting Command.reportingSeen).2.2.1 hcode
    have hfails := hprinted ⟨_, _, houtput, herrors⟩ sendable_reported
      ⟨_, [], [], line_reported, List.forall_mem_nil _, List.forall_mem_nil _, houtput⟩
    exact hfails.2 .other (Run.top 1) .null World.plain Command.seesThrough_reporting
  · have hconstant : Json.Flawed ([] ++ ("NaN".toList ++ [])) := .constant [] rfl List.mem_cons_self
    rw [List.nil_append, List.append_nil] at hconstant
    have hother := ((survives reported .reporting (.failing (Utf8.encode "NaN".toList) [])).2.2.1 (by decide)).2.1
    exact hother "NaN".toList [] rfl rfl fun d hd => absurd hd (hconstant.text_ne d)
  · have hcrash := ((survives reported .reporting (.failing [] [0xFF])).2.2.1 (by decide)).2.2
    exact hcrash (Shell.Observation.not_isText_failing [])
  · have hone : (Value.int (1 : Nat)).shortIntegers = true := by decide +kernel
    have hpayload : Remote.Sendable 3 (unknownTool "nope").payload := by
      refine .object (by decide) (by simp [Entries.names]) ?_
      rw [List.forall_mem_cons, List.forall_mem_singleton]
      exact ⟨.string _, .string _⟩
    exact (survives (unknownTool "nope") .reporting Command.reportingSeen).2.2.2 5 World.plain World.plain _ 1 _ 0
      "nope" .null (Remote.Client.connected_idle ..) Remote.inTime_sample hone ⟨rfl, rfl, rfl, rfl⟩ rfl hpayload

/-- The process of a command reports a failure and exits with an error, but it has also written a byte that is
no text, and the command fails with something else. -/
theorem ToolError.report_lost :
    (Shell.Observation.failing (Utf8.encode reportedText.toList) [0xFF]).Prints reported ∧
      ∀ e, Command.reporting.FailsOn (.failing (Utf8.encode reportedText.toList) [0xFF]) e →
        e.kind = .toolFailure ∧ e ≠ reported := by
  have hprinted : Utf8.encode reportedText.toList = Utf8.encode ([] ++ reportedText.toList ++ []) := by
    rw [List.nil_append, List.append_nil]
  refine ⟨⟨_, [], [], line_reported, List.forall_mem_nil _, List.forall_mem_nil _, hprinted⟩, fun e he => ?_⟩
  have hcrash := Shell.Observation.not_isText_failing (Utf8.encode reportedText.toList)
  obtain ⟨cause, hcause⟩ := Command.result_of_not_isText hcrash
  have hfailure : e = (Crash.undecodable cause).toError := Except.error.inj (he.1.symm.trans hcause)
  have hkind : e.kind = .toolFailure := by
    rw [hfailure]
    exact kind_make ..
  refine ⟨hkind, fun h => ?_⟩
  rw [h] at hkind
  cases hkind

end ToolWeave
