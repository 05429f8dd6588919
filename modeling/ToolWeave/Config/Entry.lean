import ToolWeave.Config.Document

/-!
# Configured tools and servers

What a configuration says about one external command or one remote server.

## Main definitions

* `CommandEntry.ofDocument?`, `ServerEntry.ofDocument?`: an entry, if a document describes one.
* `EntryFault`: why a document that describes an entry gives none all the same.

## Design notes

**Strictness.**  A command whose directory or timeout makes no sense is no command at all; a server
in the same situation does without them.
-/

namespace ToolWeave

/-- An external command as configured. -/
structure CommandEntry where
  name : String
  words : List String
  directory : Option String
  vars : Entries String
  /-- How many seconds a call may take; no limit if absent. -/
  timeout : Option Double
  description : String

/-- A remote server as configured. -/
structure ServerEntry where
  name : String
  words : List String
  directory : Option String
  vars : Entries String
  /-- How many seconds a request may take; the usual limit if absent. -/
  timeout : Option Double
  /-- What goes in front of the names of the tools in place of the name of the server. -/
  heading : Option String
  deriving DecidableEq

/-- What goes in front of the names of the tools of a server. -/
def ServerEntry.toolHeading (e : ServerEntry) : String :=
  match e.heading with
  | some heading => if heading = "" then e.name else heading
  | none => e.name

/-- Why a document that describes an entry gives none. -/
inductive EntryFault where
  /-- The content of a variable has no text. -/
  | textless (cause : Json.Unwritable)
  /-- The timeout is an integer that is too large for a double. -/
  | overflow (cause : Overflow)

namespace Document

/-- The strings of a list of strings that is not empty. -/
def words? : Option Document → Option (List String)
  | some (list (first :: rest)) =>
    (first :: rest).mapM fun item =>
      match item with
      | scalar (.string s) => some s
      | _ => none
  | _ => none

/-- The variables of a mapping, names and contents as texts; nothing else sets variables. -/
def variablesOf : Option Document → Except EntryFault (Entries String)
  | some (mapping entries) =>
    if entriesHaveText entries then
      .ok (Entries.ofList (entries.map fun entry => (entry.1.fieldName, entry.2.display)))
    else .error (.textless .longInteger)
  | _ => .ok []

/-- A number of seconds as a double. -/
def secondsOf (n : Number) : Except EntryFault Double := n.toDouble.mapError .overflow

/-- Whether a number is greater than zero, or no number at all in the sense of doubles. -/
def isPositive (n : Number) : Bool :=
  match n with
  | .double .nan => true
  | n => n.order (.int 0) == .gt

/-- What a document says about an optional text. -/
inductive TextSetting where
  | absent
  | given (text : String)
  | senseless

/-- The optional text in a field. -/
def textSetting : Option Document → TextSetting
  | none => .absent
  | some (scalar .null) => .absent
  | some (scalar (.string s)) => .given s
  | some _ => .senseless

end Document

/-- The timeout of a command whose document says nothing about it. -/
def CommandEntry.usualTimeout : Number := .int 120

/-- The command that a document describes, if it describes one. -/
def CommandEntry.ofDocument? (name : String) (d : Document) :
    Except EntryFault (Option CommandEntry) :=
  match d with
  | .mapping entries =>
    match Document.words? (Document.lookup "command" entries),
        Document.textSetting (Document.lookup "cwd" entries) with
    | none, _ => .ok none
    | _, .senseless => .ok none
    | some words, directory =>
      let directory := match directory with | .given s => some s | _ => none
      let description :=
        match Document.lookup "description" entries with
        | some (.scalar (.string s)) => s
        | _ => ""
      let entry (timeout : Option Number) : Except EntryFault (Option CommandEntry) := do
        let vars ← Document.variablesOf (Document.lookup "env" entries)
        return some ⟨name, words, directory, vars, ← timeout.mapM Document.secondsOf, description⟩
      match (Document.lookup "timeout" entries).getD (.scalar (.number usualTimeout)) with
      | .scalar .null => entry none
      | .scalar (.number n) => if Document.isPositive n then entry (some n) else .ok none
      | _ => .ok none
  | _ => .ok none

/-- The server that a document describes, if it describes one. -/
def ServerEntry.ofDocument? (name : String) (d : Document) :
    Except EntryFault (Option ServerEntry) :=
  match d with
  | .mapping entries =>
    match Document.words? (Document.lookup "command" entries) with
    | none => .ok none
    | some words =>
      let text (field : String) : Option String :=
        match Document.textSetting (Document.lookup field entries) with
        | .given s => some s
        | _ => none
      let entry (timeout : Option Number) : Except EntryFault (Option ServerEntry) := do
        let vars ← Document.variablesOf (Document.lookup "env" entries)
        return some
          ⟨name, words, text "cwd", vars, ← timeout.mapM Document.secondsOf, text "prefix"⟩
      match Document.lookup "timeout" entries with
      | some (.scalar (.number n)) => entry (if Document.isPositive n then some n else none)
      | _ => entry none
  | _ => .ok none

end ToolWeave
