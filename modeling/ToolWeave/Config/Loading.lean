import ToolWeave.Config.Entry
import ToolWeave.Config.Level
import ToolWeave.Config.Placeholder
import ToolWeave.Config.Yaml.Meaning
import ToolWeave.Host.Basic

/-!
# Loading configurations

A configuration is put together from several files: global ones, one of the project, and one given
explicitly.  What cannot be used is left out with a warning.

## Main definitions

* `Config`: what a run is configured with.
* `Config.globalCandidates`, `Config.projectCandidates`: where files are looked for.
* `Config.loadFile`: the mapping in a file.
* `Config.ofMapping`: a configuration from a merged mapping.
* `Config.load`: the configuration of a project.

## Design notes

**Merging.**  All global files count, then the first file of the project that can be read, then the
explicit file; each is merged over those before it.
-/

namespace ToolWeave

/-- What a run is configured with. -/
structure Config where
  /-- How deep calls may nest. -/
  maxDepth : Int
  /-- How many seconds a request to a server may take if the server does not say. -/
  remoteTimeout : Double
  logLevel : Option String
  commands : Entries CommandEntry
  servers : Entries ServerEntry
  /-- The program files run at the start. -/
  preload : List String
  /-- The files the configuration comes from. -/
  loadedFrom : List String

/-- A computation that gives warnings, and may crash. -/
abbrev Loading : Type → Type := ExceptT Crash (StateM (List String))

/-- Gives a warning. -/
def Loading.warn (text : String) : Loading Unit := modify fun warnings => warnings ++ [text]

namespace Config

/-- The configuration without any file. -/
def usual : Config where
  maxDepth := 64
  remoteTimeout := Double.ofInt 30
  logLevel := none
  commands := []
  servers := []
  preload := []
  loadedFrom := []

/-- The directory of global configurations: one in the variables if that is an absolute path, else
one in the home directory. -/
def globalDirectory (host : Host) : String :=
  let configured := Text.strip ((host.valueOf? "XDG_CONFIG_HOME").getD "")
  let base :=
    if Path.isAbsolute configured then configured
    else Host.bareHome ((host.home? "").getD "") ++ "/.config"
  Path.join base "pygossyp"

/-- The global configuration files. -/
def globalCandidates (host : Host) : List String :=
  ["pygossyp.json", "pygossyp.yaml", "pygossyp.yml"].map (Path.join (globalDirectory host))

/-- The configuration files of a project. -/
def projectCandidates (directory : String) : List String :=
  [".pygossyp.json", "pygossyp.json", "pygossyp.yaml", "pygossyp.yml"].map (Path.join directory)

/-- The path of an explicit configuration file. -/
def explicitPath (host : Host) (path : String) : Except Crash String :=
  match host.expandHome? path with
  | none => .error .homeless
  | some expanded =>
    if path.contains '\x00' then .error .nullByte
    else .ok (Path.resolve host.directory expanded)

/-- Why a file holds no document. -/
inductive Unreadable where
  | refused (cause : SystemError)
  | notText
  | notJson (description : String)
  | tooDeep
  | notYaml
  /-- A scalar stands for nothing. -/
  | senseless (description : String)
  /-- A scalar stands for nothing, and reading it crashes. -/
  | crashed (cause : Crash)

/-- The wording of a reason. -/
def Unreadable.message : Unreadable → String
  | refused cause => cause.message
  | notText => "UnicodeError"
  | notJson description => description
  | tooDeep => "RecursionError"
  | notYaml => "YAMLError"
  | senseless description => description
  | crashed cause => cause.message

/-- The text of a file, lines ended by line feeds. -/
def fileText (host : Host) (path : String) : Except Unreadable String :=
  match host.readBytes path with
  | .error cause => .error (.refused cause)
  | .ok content =>
    match Utf8.decode content with
    | .error _ => .error .notText
    | .ok chars => .ok (String.ofList (Text.unifyLines chars))

/-- The document that a text is in JSON. -/
def jsonDocument (text : String) : Except Unreadable Document :=
  match Json.readText .lenient text with
  | .ok v => .ok (.ofValue v)
  | .error .tooDeep => .error .tooDeep
  | .error fault => .error (.notJson (fault.message text))

/-- The document that a text is by indentation; one that counts as nothing is an empty mapping. -/
def yamlDocument (text : String) : Except Unreadable Document :=
  match Yaml.read text.toList with
  | .ok (some d) => .ok (if d.isGiven then d else .mapping [])
  | .ok none => .ok (.mapping [])
  | .error .malformed => .error .notYaml
  | .error (.senseless .nesting) => .error .tooDeep
  | .error (.senseless (.refused description)) => .error (.senseless description)
  | .error (.senseless cause) => .error (.crashed cause)

/-- The document in a file, in the format its name ends with. -/
def fileDocument (host : Host) (path : String) : Except Unreadable Document := do
  let text ← fileText host path
  if [".yaml", ".yml"].contains (Path.suffix path) then yamlDocument text else jsonDocument text

/-- The mapping in a file, if it holds one. -/
def loadFile (host : Host) (path : String) : Loading (Option Mapping) := do
  match fileDocument host path with
  | .ok (.mapping entries) => return some entries
  | .ok _ =>
    Loading.warn s!"skipping config {path}: top level must be a mapping"
    return none
  | .error (.crashed cause) => throw cause
  | .error reason =>
    Loading.warn ("skipping config " ++ path ++ ": " ++ reason.message)
    return none

/-- What is merged so far, and the files it comes from. -/
structure Layers where
  merged : Mapping
  loadedFrom : List String

/-- The layers with a mapping put over them. -/
def Layers.over (layers : Layers) (path : String) (entries : Mapping) : Layers :=
  ⟨Document.merge layers.merged entries, layers.loadedFrom ++ [path]⟩

/-- Whether a path leads to a file.  A path with too long a name crashes. -/
def leadsToFile (host : Host) (path : String) : Loading Bool :=
  match host.find path with
  | .ok (.file _) => return true
  | .ok .directory => return false
  | .error e => if e.refusal = .nameTooLong then throw (.system e.name e.message) else return false

/-- The layers with all files of a list that can be used. -/
def loadAll (host : Host) : List String → Layers → Loading Layers
  | [], layers => return layers
  | path :: rest, layers => do
    if ← leadsToFile host path then
      match ← loadFile host path with
      | some entries => loadAll host rest (layers.over path entries)
      | none => loadAll host rest layers
    else loadAll host rest layers

/-- The layers with the first file of a list that can be used. -/
def loadFirst (host : Host) : List String → Layers → Loading Layers
  | [], layers => return layers
  | path :: rest, layers => do
    if ← leadsToFile host path then
      match ← loadFile host path with
      | some entries => return layers.over path entries
      | none => loadFirst host rest layers
    else loadFirst host rest layers

/-- The layers with an explicit file. -/
def loadExplicit (host : Host) (path : String) (layers : Layers) : Loading Layers := do
  let path ← (explicitPath host path : Except Crash String)
  if ← leadsToFile host path then
    match ← loadFile host path with
    | some entries => return layers.over path entries
    | none => return layers
  else
    Loading.warn ("config file not found: " ++ path)
    return layers

/-- The layers of a project. -/
def loadLayers (host : Host) (directory : String) (explicit : Option String) (isolated : Bool) :
    Loading Layers := do
  let mut layers : Layers := ⟨[], []⟩
  if !isolated then
    layers ← loadAll host (globalCandidates host) layers
    layers ← loadFirst host (projectCandidates directory) layers
  match explicit with
  | none => return layers
  | some path => loadExplicit host path layers

/-- A number as a double; one that is too large crashes. -/
def converted : Except Overflow Double → Loading Double
  | .ok d => return d
  | .error cause => throw (.overflow cause)

/-- The limit on the depth of calls: a positive integer. -/
def depthOf (merged : Mapping) : Loading Int := do
  let ignored : Loading Int := do
    Loading.warn "ignoring max_depth: expected a positive integer"
    return usual.maxDepth
  match Document.lookup "max_depth" merged with
  | none => return usual.maxDepth
  | some (.scalar .null) => return usual.maxDepth
  | some (.scalar (.number (.int i))) => if 0 < i then return i else ignored
  | some _ => ignored

/-- The time limit of requests: a positive number. -/
def remoteTimeoutOf (merged : Mapping) : Loading Double := do
  let ignored : Loading Double := do
    Loading.warn "ignoring remote_timeout: expected a positive number"
    return usual.remoteTimeout
  match Document.lookup "remote_timeout" merged with
  | none => return usual.remoteTimeout
  | some (.scalar .null) => return usual.remoteTimeout
  | some (.scalar (.number (.double .nan))) => ignored
  | some (.scalar (.number n)) =>
    if Document.isPositive n then converted n.toDouble else ignored
  | some _ => ignored

/-- The log level: a text that is not blank. -/
def logLevelOf (merged : Mapping) : Option String :=
  match Document.lookup "log_level" merged with
  | some (.scalar (.string s)) => if Text.strip s = "" then none else some (Text.strip s)
  | _ => none

/-- What becomes of an entry of a section. -/
inductive Verdict (α : Type) where
  | built (item : α)
  | refused (reason : String)
  | crashed (cause : Crash)

/-- What becomes of an entry: its placeholders are replaced, and then it is built. -/
def entryOf {α : Type} (host : Host) (build : String → Document → Except EntryFault (Option α))
    (name : String) (content : Document) : Verdict α :=
  match Placeholder.expandEntry host.valueOf? content with
  | .error unset => .refused unset.message
  | .ok content =>
    match build name content with
    | .ok (some item) => .built item
    | .ok none => .refused "invalid entry"
    | .error (.textless cause) => .refused cause.message
    | .error (.overflow cause) => .crashed (.overflow cause)

/-- The entries of a section that can be used.  Names that are no texts, or empty, are passed over;
other entries that cannot be used are left out with a warning. -/
def entriesOf {α : Type} (host : Host) (part : String)
    (build : String → Document → Except EntryFault (Option α)) :
    Mapping → Entries α → Loading (Entries α)
  | [], built => return built
  | (.string name, content) :: rest, built => do
    if name = "" then entriesOf host part build rest built
    else
      match entryOf host build name content with
      | .built item => entriesOf host part build rest (Entries.put name item built)
      | .refused reason =>
        Loading.warn ("skipping " ++ part ++ "." ++ name ++ ": " ++ reason)
        entriesOf host part build rest built
      | .crashed cause => throw cause
  | _ :: rest, built => entriesOf host part build rest built

/-- The entries of a section, which has to be a mapping. -/
def sectionOf {α : Type} (host : Host) (part : String)
    (build : String → Document → Except EntryFault (Option α)) (merged : Mapping) :
    Loading (Entries α) := do
  match Document.lookup part merged with
  | none => return []
  | some (.scalar .null) => return []
  | some (.mapping entries) => entriesOf host part build entries []
  | some _ =>
    Loading.warn ("ignoring " ++ part ++ ": expected a mapping of name to settings")
    return []

/-- The program files run at the start. -/
def preloadOf (directory : String) (merged : Mapping) : Loading (List String) := do
  match Document.lookup "preload" merged with
  | none => return []
  | some (.list items) =>
    let paths ← items.mapM fun item => do
      let ignored : Loading (Option String) := do
        Loading.warn ("ignoring preload entry " ++ item.quoted)
        return none
      match item with
      | .scalar (.string s) =>
        if Text.strip s = "" then ignored else return some (Path.join directory s)
      | _ => ignored
    return paths.filterMap id
  | some _ =>
    Loading.warn "ignoring preload: expected a list of paths"
    return []

/-- A configuration from a merged mapping. -/
def ofMapping (host : Host) (directory : String) (layers : Layers) : Loading Config := do
  let merged := layers.merged
  let maxDepth ← depthOf merged
  let remoteTimeout ← remoteTimeoutOf merged
  let commands ← sectionOf host "process_tools" CommandEntry.ofDocument? merged
  let servers ← sectionOf host "remote_servers" ServerEntry.ofDocument? merged
  let preload ← preloadOf directory merged
  return ⟨maxDepth, remoteTimeout, logLevelOf merged, commands, servers, preload,
    layers.loadedFrom⟩

/-- The configuration of a project. -/
def load (host : Host) (directory : String) (explicit : Option String) (isolated : Bool) :
    Loading Config := do
  ofMapping host directory (← loadLayers host directory explicit isolated)

end Config

end ToolWeave
