import ToolWeave.Config.Loading
import ToolWeave.Proofs.Decoding
import ToolWeave.Proofs.Merging
import ToolWeave.Proofs.Paths
import ToolWeave.Proofs.ReadValues

/-!
# Layers of configuration

Which files a configuration comes from, and what is made of them.  Each file that is looked at either holds a
mapping, or counts as absent, or brings everything down (`Config.mappingAt?`, `Config.crashAt?`); the mappings are
put over one another in a fixed order, which is a left fold (`Config.load_layered`).

## Main definitions

* `Loading.Gives`: what a computation that warns and may crash comes to.
* `Config.mappingAt?`, `Config.noteAt?`, `Config.crashAt?`: what comes of the file at a path.
* `Config.sources`: the files that settings are taken from, with their mappings.
* `Config.crash?`: why loading comes to no configuration.

## Design notes

**The project.**  Only files before the first one of the project that holds a mapping are looked at, and that one.
A file that holds a mapping does not crash, so what may crash is among the files before it.
-/

namespace ToolWeave

/-! ### Documents that are read -/

namespace Document

section Put

variable {name : Scalar} {content : Document} {entries : Mapping}

/-- Names that differ from a key still do when a name is put that differs from it, too. -/
theorem forall_mem_names_put {key : Scalar} (hname : name.key ≠ key.key)
    (h : ∀ other ∈ names entries, other.key ≠ key.key) :
    ∀ other ∈ names (put name content entries), other.key ≠ key.key := by
  rw [names_put]
  split
  · rw [List.forall_mem_append, List.forall_mem_singleton]
    exact ⟨h, hname⟩
  · exact h

theorem keyed_put (hcontent : content.Keyed) (h : (mapping entries).Keyed) :
    (mapping (put name content entries)).Keyed := by
  induction entries with
  | nil => exact keyed_cons.mpr ⟨nofun, hcontent, h⟩
  | cons entry rest ih =>
    obtain ⟨key, old⟩ := entry
    obtain ⟨hkey, hold, hrest⟩ := keyed_cons.mp h
    rw [put_cons]
    split
    · exact keyed_cons.mpr ⟨hkey, hcontent, hrest⟩
    next hne => exact keyed_cons.mpr ⟨forall_mem_names_put (Ne.symm hne) hkey, hold, ih hrest⟩

end Put

theorem names_ofFields (fields : Fields) : names (ofFields fields) = (Entries.names fields).map .string := by
  induction fields with
  | nil => rfl
  | cons entry rest ih => exact congrArg _ ih

mutual

/-- A value whose objects have different names is a keyed document. -/
theorem keyed_ofValue : (v : Value) → v.distinctNames = true → (ofValue v).Keyed
  | .null, _ => trivial
  | .bool _, _ => trivial
  | .number _, _ => trivial
  | .string _, _ => trivial
  | .array _, _ => trivial
  | .object fields, h => by
    obtain ⟨hnames, hcontents⟩ := Value.distinctNames_object.mp h
    refine ⟨?_, contentsKeyed_ofFields fields hcontents⟩
    rw [names_ofFields, List.map_map]
    exact hnames.map fun _ _ hkey => Scalar.string.inj (Scalar.Key.plain.inj hkey)

theorem contentsKeyed_ofFields : (fields : List (String × Value)) →
    (∀ entry ∈ fields, entry.2.distinctNames = true) → ContentsKeyed (ofFields fields)
  | [], _ => trivial
  | (_, v) :: rest, h =>
    ⟨keyed_ofValue v (h _ List.mem_cons_self),
      contentsKeyed_ofFields rest fun entry hentry => h entry (List.mem_cons_of_mem _ hentry)⟩

end

end Document

namespace Yaml

open Document

/-- Entries that are put one after the other make a keyed mapping. -/
theorem keyed_mappingOf {entries : List (Scalar × Document)} (h : ∀ entry ∈ entries, entry.2.Keyed) :
    (mappingOf entries).Keyed := by
  unfold mappingOf
  refine List.foldlRecOn (motive := fun built => (Document.mapping built).Keyed) entries _ ?_ ?_
  · exact ⟨List.nodup_nil, trivial⟩
  · exact fun built hbuilt entry hmem => keyed_put (h entry hmem) hbuilt

theorem Leveled.both_eq_ok {α β : Type} {a : Leveled α} {b : Leveled β} {pair : α × β}
    (h : a.both b = .ok pair) : a = .ok pair.1 ∧ b = .ok pair.2 := by
  cases a <;> cases b <;> cases h
  exact ⟨rfl, rfl⟩

mutual

/-- The document of a meaning is keyed. -/
theorem keyed_document : (s : Sense) → {level : Nat} → {d : Document} → s.document level = .ok d → d.Keyed
  | .scalar _, _, _, h => by
    cases h
    trivial
  | .list items, level, d, h => by
    rw [Sense.document] at h
    cases hitems : itemDocuments (level + 1) items <;> rw [hitems] at h <;> cases h
    trivial
  | .mapping entries, level, d, h => by
    rw [Sense.document] at h
    cases hentries : entryDocuments (level + 1) entries <;> rw [hentries] at h <;> cases h
    exact keyed_mappingOf (keyed_entryDocuments entries hentries)
  | .fault _, _, _, h => nomatch h
  | .spoiled, _, _, h => nomatch h

theorem keyed_entryDocuments : (entries : List (Sense × Sense)) → {level : Nat} → {built : Mapping} →
    entryDocuments level entries = .ok built → ∀ entry ∈ built, entry.2.Keyed
  | [], _, _, h => by
    cases h
    exact nofun
  | (key, value) :: rest, level, built, h => by
    rw [entryDocuments] at h
    cases hboth : ((key.index level).both (value.document level)).both (entryDocuments level rest) with
    | error fault =>
      rw [hboth] at h
      cases h
    | ok pair =>
      rw [hboth] at h
      cases h
      obtain ⟨hentry, hrest⟩ := Leveled.both_eq_ok hboth
      refine List.forall_mem_cons.mpr ⟨?_, keyed_entryDocuments rest hrest⟩
      exact keyed_document value (Leveled.both_eq_ok hentry).2

end

/-- A document that is read is keyed. -/
theorem keyed_read {text : List Char} {d : Document} (h : read text = .ok (some d)) : d.Keyed := by
  unfold read at h
  by_cases hforeign : (!text.all isAllowed) = true
  · rw [if_pos hforeign] at h
    cases h
  rw [if_neg hforeign] at h
  by_cases hdeep : isTooDeep (tokens text) = true
  · rw [if_pos hdeep] at h
    cases h
  rw [if_neg hdeep] at h
  obtain ⟨root, -, h⟩ := exists_of_bind h
  cases root with
  | none => cases h
  | some node =>
    dsimp only at h
    split at h
    next read hsense =>
      cases h
      exact keyed_document _ hsense
    · cases h

end Yaml

namespace Config

variable {host : Host} {path : String}

theorem keyed_jsonDocument {text : String} {d : Document} (h : jsonDocument text = .ok d) : d.Keyed := by
  unfold jsonDocument at h
  split at h
  next v hread =>
    cases h
    exact Document.keyed_ofValue v (Json.legible_of_readChars hread).distinctNames
  · cases h
  · cases h

theorem keyed_yamlDocument {text : String} {d : Document} (h : yamlDocument text = .ok d) : d.Keyed := by
  have hempty : (Document.mapping []).Keyed := ⟨List.nodup_nil, trivial⟩
  unfold yamlDocument at h
  split at h
  next read hread =>
    cases h
    split
    · exact Yaml.keyed_read hread
    · exact hempty
  · cases h
    exact hempty
  all_goals cases h

/-- A document in a file is keyed. -/
theorem keyed_fileDocument {d : Document} (h : fileDocument host path = .ok d) : d.Keyed := by
  unfold fileDocument at h
  cases htext : fileText host path with
  | error reason =>
    rw [htext] at h
    cases h
  | ok text =>
    rw [htext] at h
    replace h : (if [".yaml", ".yml"].contains (Path.suffix path) then yamlDocument text else jsonDocument text) =
      .ok d := h
    split at h
    · exact keyed_yamlDocument h
    · exact keyed_jsonDocument h

/-! ### What loading comes to -/

end Config

/-- A computation crashes for this reason, whatever was warned of before, or it gives this with these warnings. -/
def Loading.Gives {α : Type} (loading : Loading α) (crash : Option Crash) (a : α) (notes : List String) : Prop :=
  ∀ warnings, match crash with
    | none => loading.run warnings = (.ok a, warnings ++ notes)
    | some cause => ∃ more, loading.run warnings = (.error cause, warnings ++ more)

namespace Loading

variable {α β : Type}

theorem run_bind (x : Loading α) (f : α → Loading β) (warnings : List String) :
    (x >>= f).run warnings =
      match x.run warnings with
      | (.ok a, warnings) => (f a).run warnings
      | (.error cause, warnings) => (.error cause, warnings) := by
  show ExceptT.bindCont f (x.run warnings).1 (x.run warnings).2 = _
  rcases x.run warnings with ⟨_ | _, _⟩ <;> rfl

theorem gives_pure (a : α) : Gives (pure a) none a [] := fun warnings =>
  Prod.ext rfl (List.append_nil warnings).symm

theorem gives_warn (text : String) : Gives (warn text) none () [text] := fun _ => rfl

theorem gives_throw (cause : Crash) (a : α) (notes : List String) : Gives (throw cause) (some cause) a notes :=
  fun warnings => ⟨[], Prod.ext rfl (List.append_nil warnings).symm⟩

/-- Two parts, one after the other, warn of both, and the first crash counts. -/
theorem Gives.bind {x : Loading α} {f : α → Loading β} {first second : Option Crash} {a : α} {b : β}
    {notes more : List String} (hx : x.Gives first a notes) (hf : first = none → (f a).Gives second b more) :
    Gives (x >>= f) (first.or second) b (notes ++ more) := by
  intro warnings
  have hfirst := hx warnings
  cases first with
  | some cause =>
    obtain ⟨said, hfirst⟩ := hfirst
    exact ⟨said, by rw [run_bind, hfirst]⟩
  | none =>
    have hsecond := hf rfl (warnings ++ notes)
    dsimp only at hfirst
    cases second with
    | some cause =>
      obtain ⟨said, hsecond⟩ := hsecond
      exact ⟨notes ++ said, by rw [run_bind, hfirst, ← List.append_assoc]; exact hsecond⟩
    | none =>
      dsimp only at hsecond
      rw [List.append_assoc] at hsecond
      exact (run_bind x f warnings).trans (by rw [hfirst]; exact hsecond)

end Loading

namespace Config

/-! ### What comes of a file -/

section Visit

variable (host : Host) (path : String)

/-- The mapping in the file at a path, if there is a file and it holds one. -/
def mappingAt? : Option Mapping :=
  match fileDocument host path with
  | .ok (.mapping entries) => some entries
  | _ => none

/-- The warning about the file at a path, if there is a file and it holds no mapping. -/
def noteAt? : Option String :=
  if host.isFile path then
    match fileDocument host path with
    | .ok (.mapping _) => none
    | .ok _ => some ("skipping config " ++ path ++ ": top level must be a mapping")
    | .error reason => some ("skipping config " ++ path ++ ": " ++ reason.message)
  else none

/-- Why looking at a path crashes: its name is too long, or a scalar in the file does not only stand for nothing. -/
def crashAt? : Option Crash :=
  match host.find path with
  | .error e => if e.refusal = .nameTooLong then some (.system e.name e.message) else none
  | .ok .directory => none
  | .ok (.file _) =>
    match fileDocument host path with
    | .error (.crashed cause) => some cause
    | _ => none

variable {host path}

theorem fileDocument_of_not_isFile (h : host.isFile path = false) :
    ∃ cause, fileDocument host path = .error (.refused cause) := by
  have hbytes : ∃ cause, host.readBytes path = .error cause := by
    unfold Host.readBytes
    unfold Host.isFile at h
    split at h
    · cases h
    next hfind =>
      cases hfound : host.find path with
      | error cause => exact ⟨cause, rfl⟩
      | ok node =>
        cases node with
        | file content => exact absurd hfound (hfind content)
        | directory => exact ⟨_, rfl⟩
  obtain ⟨cause, hbytes⟩ := hbytes
  refine ⟨cause, ?_⟩
  unfold fileDocument fileText
  rw [hbytes]
  rfl

/-- Where there is no file there is no mapping. -/
theorem mappingAt?_of_not_isFile (h : host.isFile path = false) : mappingAt? host path = none := by
  obtain ⟨cause, hdocument⟩ := fileDocument_of_not_isFile h
  unfold mappingAt?
  rw [hdocument]

theorem isFile_of_mappingAt? {entries : Mapping} (h : mappingAt? host path = some entries) :
    host.isFile path = true := by
  by_contra hfile
  rw [mappingAt?_of_not_isFile (Bool.eq_false_iff.mpr hfile)] at h
  cases h

theorem fileDocument_of_mappingAt? {entries : Mapping} (h : mappingAt? host path = some entries) :
    fileDocument host path = .ok (.mapping entries) := by
  unfold mappingAt? at h
  split at h
  next hdocument =>
    cases h
    exact hdocument
  · cases h

/-- A file that holds a mapping does not crash. -/
theorem crashAt?_of_mappingAt? {entries : Mapping} (h : mappingAt? host path = some entries) :
    crashAt? host path = none := by
  have hfile := isFile_of_mappingAt? h
  unfold Host.isFile at hfile
  unfold crashAt?
  split at hfile
  next content hfind => rw [hfind, fileDocument_of_mappingAt? h]
  · cases hfile

/-- A file that holds a mapping is not warned of. -/
theorem noteAt?_of_mappingAt? {entries : Mapping} (h : mappingAt? host path = some entries) :
    noteAt? host path = none := by
  unfold noteAt?
  rw [if_pos (isFile_of_mappingAt? h), fileDocument_of_mappingAt? h]

theorem gives_leadsToFile_of_isFile (h : host.isFile path = true) :
    (leadsToFile host path).Gives none true [] := by
  unfold Host.isFile at h
  unfold leadsToFile
  split at h
  next content hfind =>
    rw [hfind]
    exact Loading.gives_pure true
  · cases h

theorem gives_leadsToFile_of_not_isFile (h : host.isFile path = false) :
    (leadsToFile host path).Gives (crashAt? host path) false [] := by
  unfold Host.isFile at h
  unfold leadsToFile crashAt?
  cases hfind : host.find path with
  | ok node =>
    cases node with
    | file content =>
      rw [hfind] at h
      cases h
    | directory => exact Loading.gives_pure false
  | error e =>
    dsimp only
    split
    · exact Loading.gives_throw _ _ _
    · exact Loading.gives_pure false

/-- A file that is there holds a mapping, or is warned of, or crashes. -/
theorem gives_loadFile (h : host.isFile path = true) :
    (loadFile host path).Gives (crashAt? host path) (mappingAt? host path) (noteAt? host path).toList := by
  have hcrash : crashAt? host path =
      match fileDocument host path with
      | .error (.crashed cause) => some cause
      | _ => none := by
    unfold Host.isFile at h
    unfold crashAt?
    split at h
    next content hfind => rw [hfind]
    · cases h
  rw [hcrash]
  unfold loadFile mappingAt? noteAt?
  rw [if_pos h]
  cases fileDocument host path with
  | ok d =>
    cases d with
    | mapping entries => exact Loading.gives_pure _
    | scalar value => exact (Loading.gives_warn _).bind fun _ => Loading.gives_pure none
    | list items => exact (Loading.gives_warn _).bind fun _ => Loading.gives_pure none
  | error reason =>
    cases reason with
    | crashed cause => exact Loading.gives_throw cause _ _
    | _ => exact (Loading.gives_warn _).bind fun _ => Loading.gives_pure none

section Look

variable {β : Type} {found : Mapping → Loading β} {absent missing : Loading β} {second : Option Crash} {b : β}
  {more : List String}

/-- To look at a file is to go on with its mapping or without. -/
theorem gives_of_isFile (h : host.isFile path = true)
    (hfound : crashAt? host path = none → ((mappingAt? host path).elim absent found).Gives second b more) :
    Loading.Gives (do
        if ← leadsToFile host path then
          match ← loadFile host path with
          | some entries => found entries
          | none => absent
        else missing)
      ((crashAt? host path).or second) b ((noteAt? host path).toList ++ more) := by
  refine (gives_leadsToFile_of_isFile h).bind fun _ => (gives_loadFile h).bind fun hcrash => ?_
  have hgives := hfound hcrash
  cases hmapping : mappingAt? host path <;> rw [hmapping] at hgives <;> exact hgives

theorem gives_of_not_isFile {present : Loading β} (h : host.isFile path = false)
    (hmissing : crashAt? host path = none → missing.Gives second b more) :
    Loading.Gives (do if ← leadsToFile host path then present else missing)
      ((crashAt? host path).or second) b more :=
  (gives_leadsToFile_of_not_isFile h).bind hmissing

/-- To look at a path where nothing differs from no mapping. -/
theorem gives_look
    (hfound : crashAt? host path = none → ((mappingAt? host path).elim missing found).Gives second b more) :
    Loading.Gives (do
        if ← leadsToFile host path then
          match ← loadFile host path with
          | some entries => found entries
          | none => missing
        else missing)
      ((crashAt? host path).or second) b ((noteAt? host path).toList ++ more) := by
  cases h : host.isFile path with
  | true => exact gives_of_isFile h hfound
  | false =>
    have hnote : noteAt? host path = none := if_neg (Bool.eq_false_iff.mp h)
    rw [hnote]
    rw [mappingAt?_of_not_isFile h] at hfound
    exact gives_of_not_isFile h hfound

end Look

end Visit

/-! ### What comes of the files -/

/-- The mappings in the files at some paths, with the paths. -/
def held (host : Host) (paths : List String) : List (String × Mapping) :=
  paths.filterMap fun path => (mappingAt? host path).map fun entries => (path, entries)

/-- Layers with some files put over them. -/
def Layers.overAll (layers : Layers) (files : List (String × Mapping)) : Layers :=
  ⟨files.foldl (fun merged file => Document.merge merged file.2) layers.merged,
    layers.loadedFrom ++ files.map Prod.fst⟩

section Lists

variable (host : Host) (path : String) (paths : List String)

theorem findSome?_cons_or {α β : Type} (f : α → Option β) (a : α) (rest : List α) :
    (a :: rest).findSome? f = (f a).or (rest.findSome? f) := by
  rw [List.findSome?_cons]
  cases f a <;> rfl

theorem filterMap_cons_toList {α β : Type} (f : α → Option β) (a : α) (rest : List α) :
    (a :: rest).filterMap f = (f a).toList ++ rest.filterMap f := by
  rw [List.filterMap_cons]
  cases f a <;> rfl

theorem held_cons_of_some {entries : Mapping} (h : mappingAt? host path = some entries) :
    held host (path :: paths) = (path, entries) :: held host paths := by
  unfold held
  rw [filterMap_cons_toList, h]
  rfl

theorem held_cons_of_none (h : mappingAt? host path = none) : held host (path :: paths) = held host paths := by
  unfold held
  rw [filterMap_cons_toList, h]
  rfl

theorem Layers.overAll_nil (layers : Layers) : layers.overAll [] = layers := by
  unfold overAll
  rw [List.map_nil, List.append_nil]
  rfl

theorem gives_overAll_nil (layers : Layers) : Loading.Gives (pure layers) none (layers.overAll []) [] := by
  rw [Layers.overAll_nil]
  exact Loading.gives_pure layers

theorem Layers.overAll_over (layers : Layers) (entries : Mapping) (files : List (String × Mapping)) :
    (layers.over path entries).overAll files = layers.overAll ((path, entries) :: files) := by
  unfold Layers.overAll Layers.over
  rw [List.append_assoc]
  rfl

theorem Layers.overAll_append (layers : Layers) (files more : List (String × Mapping)) :
    (layers.overAll files).overAll more = layers.overAll (files ++ more) := by
  unfold overAll
  rw [List.foldl_append, List.map_append, List.append_assoc]

/-- All files that hold mappings are put over what there is. -/
theorem gives_loadAll (layers : Layers) :
    (loadAll host paths layers).Gives (paths.findSome? (crashAt? host)) (layers.overAll (held host paths))
      (paths.filterMap (noteAt? host)) := by
  induction paths generalizing layers with
  | nil => exact gives_overAll_nil layers
  | cons path rest ih =>
    rw [findSome?_cons_or, filterMap_cons_toList]
    refine gives_look fun _ => ?_
    cases hmapping : mappingAt? host path with
    | none =>
      rw [held_cons_of_none host path rest hmapping]
      exact ih layers
    | some entries =>
      rw [held_cons_of_some host path rest hmapping, ← Layers.overAll_over]
      exact ih _

/-- The paths before the first one with a mapping. -/
def beforeHeld : List String := paths.takeWhile fun path => (mappingAt? host path).isNone

/-- The first file that holds a mapping is put over what there is. -/
theorem gives_loadFirst (layers : Layers) :
    (loadFirst host paths layers).Gives ((beforeHeld host paths).findSome? (crashAt? host))
      (layers.overAll (held host paths).head?.toList) ((beforeHeld host paths).filterMap (noteAt? host)) := by
  induction paths with
  | nil => exact gives_overAll_nil layers
  | cons path rest ih =>
    unfold beforeHeld at ih ⊢
    cases hmapping : mappingAt? host path with
    | none =>
      rw [held_cons_of_none host path rest hmapping, List.takeWhile_cons_of_pos (by rw [hmapping]; rfl),
        findSome?_cons_or, filterMap_cons_toList]
      refine gives_look fun _ => ?_
      rw [hmapping]
      exact ih
    | some entries =>
      have hlook : (loadFirst host (path :: rest) layers).Gives _ (layers.overAll [(path, entries)]) _ :=
        gives_look fun _ => by
          rw [hmapping, ← Layers.overAll_over, Layers.overAll_nil]
          exact Loading.gives_pure _
      rw [crashAt?_of_mappingAt? hmapping, noteAt?_of_mappingAt? hmapping] at hlook
      rw [held_cons_of_some host path rest hmapping, List.takeWhile_cons_of_neg (by rw [hmapping]; exact nofun)]
      exact hlook

end Lists

/-! ### What comes of a project -/

section Project

variable (host : Host) (directory : String) (explicit : Option String) (isolated : Bool)

/-- The files that the settings of a project are taken from, in order, with their mappings. -/
def sources : List (String × Mapping) :=
  (if isolated then []
    else held host (globalCandidates host) ++ (held host (projectCandidates directory)).head?.toList) ++
  held host (explicit.bind fun path => (explicitPath host path).toOption).toList

/-- Why the settings of a project cannot be loaded at all. -/
def crash? : Option Crash :=
  (if isolated then none
    else (globalCandidates host ++ beforeHeld host (projectCandidates directory)).findSome? (crashAt? host)).or
  (explicit.bind fun path =>
    match explicitPath host path with
    | .ok path => crashAt? host path
    | .error cause => some cause)

/-- The warnings about an explicit file. -/
def explicitNotes : List String :=
  match explicit.bind fun path => (explicitPath host path).toOption with
  | none => []
  | some path =>
    if host.isFile path then (noteAt? host path).toList else ["config file not found: " ++ path]

/-- The warnings about the files of a project. -/
def notes : List String :=
  (if isolated then []
    else (globalCandidates host ++ beforeHeld host (projectCandidates directory)).filterMap (noteAt? host)) ++
  explicitNotes host explicit

/-- The layers of a project. -/
def layersOf : Layers := Layers.overAll ⟨[], []⟩ (sources host directory explicit isolated)

/-- An explicit file is put over what there is if it holds a mapping. -/
theorem gives_loadExplicit (path : String) (layers : Layers) :
    (loadExplicit host path layers).Gives
      (match explicitPath host path with
        | .ok path => crashAt? host path
        | .error cause => some cause)
      (layers.overAll (held host (explicitPath host path).toOption.toList)) (explicitNotes host (some path)) := by
  unfold loadExplicit explicitNotes
  rw [Option.bind_some]
  cases explicitPath host path with
  | error cause => exact Loading.gives_throw cause _ _
  | ok path =>
    simp only [Except.toOption, Option.toList_some]
    rw [← Option.or_none (o := crashAt? host path)]
    cases hfile : host.isFile path with
    | false =>
      rw [held_cons_of_none host path [] (mappingAt?_of_not_isFile hfile), if_neg Bool.false_ne_true]
      refine gives_of_not_isFile hfile fun _ => ?_
      exact (Loading.gives_warn _).bind fun _ => gives_overAll_nil layers
    | true =>
      rw [if_pos rfl, ← List.append_nil (noteAt? host path).toList]
      refine gives_of_isFile hfile fun _ => ?_
      cases hmapping : mappingAt? host path with
      | none =>
        rw [held_cons_of_none host path [] hmapping]
        exact gives_overAll_nil layers
      | some entries =>
        rw [held_cons_of_some host path [] hmapping]
        show Loading.Gives (pure (layers.over path entries)) none (layers.overAll [(path, entries)]) []
        exact Loading.gives_pure (layers.over path entries)

/-- **The layers of a project** are all mappings in global files, then the first one in a file of the project, then
the one in the explicit file. -/
theorem gives_loadLayers :
    (loadLayers host directory explicit isolated).Gives (crash? host directory explicit isolated)
      (layersOf host directory explicit isolated) (notes host directory explicit isolated) := by
  have hexplicit (layers : Layers) : Loading.Gives
      (match explicit with
        | none => pure layers
        | some path => loadExplicit host path layers)
      (explicit.bind fun path =>
        match explicitPath host path with
        | .ok path => crashAt? host path
        | .error cause => some cause)
      (layers.overAll (held host (explicit.bind fun path => (explicitPath host path).toOption).toList))
      (explicitNotes host explicit) := by
    cases explicit with
    | none => exact gives_overAll_nil layers
    | some path => exact gives_loadExplicit host path layers
  unfold crash? layersOf sources notes
  cases isolated with
  | true => exact hexplicit ⟨[], []⟩
  | false =>
    rw [if_neg Bool.false_ne_true, if_neg Bool.false_ne_true, if_neg Bool.false_ne_true, List.findSome?_append,
      List.filterMap_append, ← Layers.overAll_append, ← Layers.overAll_append, Option.or_assoc, List.append_assoc]
    exact (gives_loadAll host _ _).bind fun _ => (gives_loadFirst host _ _).bind fun _ => hexplicit _

end Project

/-! ### The whole of loading -/

/-- A file that settings are taken from is read, and keyed. -/
theorem mappingAt?_of_mem_held {host : Host} {paths : List String} {file : String × Mapping}
    (h : file ∈ held host paths) : mappingAt? host file.1 = some file.2 := by
  obtain ⟨path, -, hpath⟩ := List.mem_filterMap.mp h
  obtain ⟨entries, hentries, rfl⟩ := Option.map_eq_some_iff.mp hpath
  exact hentries

theorem mappingAt?_of_mem_sources {host : Host} {directory : String} {explicit : Option String} {isolated : Bool}
    {file : String × Mapping} (h : file ∈ sources host directory explicit isolated) :
    mappingAt? host file.1 = some file.2 := by
  unfold sources at h
  rcases List.mem_append.mp h with h | h
  · cases isolated with
    | true => cases h
    | false =>
      rcases List.mem_append.mp h with h | h
      · exact mappingAt?_of_mem_held h
      · exact mappingAt?_of_mem_held (List.mem_of_mem_head? (Option.mem_toList.mp h))
  · exact mappingAt?_of_mem_held h

theorem keyed_of_mem_sources {host : Host} {directory : String} {explicit : Option String} {isolated : Bool}
    {file : String × Mapping} (h : file ∈ sources host directory explicit isolated) :
    (Document.mapping file.2).Keyed :=
  keyed_fileDocument (fileDocument_of_mappingAt? (mappingAt?_of_mem_sources h))

/-- Loading goes on from its layers, or crashes with them. -/
theorem run_load (host : Host) (directory : String) (explicit : Option String) (isolated : Bool)
    (warnings : List String) :
    match crash? host directory explicit isolated with
    | none =>
      (load host directory explicit isolated).run warnings =
        (ofMapping host directory (layersOf host directory explicit isolated)).run
          (warnings ++ notes host directory explicit isolated)
    | some cause =>
      ∃ more, (load host directory explicit isolated).run warnings = (.error cause, warnings ++ more) := by
  have hlayers := gives_loadLayers host directory explicit isolated warnings
  have hload : load host directory explicit isolated =
      loadLayers host directory explicit isolated >>= ofMapping host directory := rfl
  rw [hload, Loading.run_bind]
  cases hcrash : crash? host directory explicit isolated with
  | some cause =>
    rw [hcrash] at hlayers
    obtain ⟨more, hlayers⟩ := hlayers
    exact ⟨more, by rw [hlayers]⟩
  | none =>
    rw [hcrash] at hlayers
    dsimp only at hlayers
    rw [hlayers]

/-! ### One explicit file -/

section Single

variable {path name : String} (h : Path.IsTop path name) (text : String)

include h

theorem explicitPath_single : explicitPath (Host.single path text) path = .ok path := by
  unfold explicitPath Host.expandHome?
  rw [h.absolute]
  dsimp only
  rw [h.normal, h.plain.2.2, if_neg Bool.false_ne_true, h.resolve]

theorem fileDocument_single : fileDocument (Host.single path text) path =
    if [".yaml", ".yml"].contains (Path.suffix path) then yamlDocument (String.ofList (Text.unifyLines text.toList))
    else jsonDocument (String.ofList (Text.unifyLines text.toList)) := by
  unfold fileDocument fileText Host.readBytes
  rw [Host.find_single h]
  dsimp only
  rw [Utf8.encodeString, Utf8.decode_encode]
  rfl

theorem sources_single (directory : String) :
    sources (Host.single path text) directory (some path) true = held (Host.single path text) [path] := by
  unfold sources
  rw [Option.bind_some, explicitPath_single h]
  rfl

theorem crash?_single (directory : String) : crash? (Host.single path text) directory (some path) true =
    match fileDocument (Host.single path text) path with
    | .error (.crashed cause) => some cause
    | _ => none := by
  unfold crash? crashAt?
  rw [Option.bind_some, explicitPath_single h]
  dsimp only
  rw [Host.find_single h]
  rfl

end Single

theorem isTop_json : Path.IsTop "/settings.json" "settings.json" :=
  Path.isTop_of_turns 15 (by decide +kernel) (by decide) (by decide +kernel) (by decide +kernel) (by decide +kernel)
    (by decide +kernel)

theorem isTop_yaml : Path.IsTop "/settings.yaml" "settings.yaml" :=
  Path.isTop_of_turns 15 (by decide +kernel) (by decide) (by decide +kernel) (by decide +kernel) (by decide +kernel)
    (by decide +kernel)

theorem suffix_json : [".yaml", ".yml"].contains (Path.suffix "/settings.json") = false := by
  unfold Path.suffix
  rw [isTop_json.parts]
  decide +kernel

theorem suffix_yaml : [".yaml", ".yml"].contains (Path.suffix "/settings.yaml") = true := by
  unfold Path.suffix
  rw [isTop_yaml.parts]
  decide +kernel

/-- The mapping that a text is in JSON. -/
def jsonMapping? (text : String) : Option Mapping :=
  match jsonDocument (String.ofList (Text.unifyLines text.toList)) with
  | .ok (.mapping entries) => some entries
  | _ => none

theorem fileDocument_json {text : String} {entries : Mapping} (h : jsonMapping? text = some entries) :
    fileDocument (Host.single "/settings.json" text) "/settings.json" = .ok (.mapping entries) := by
  rw [fileDocument_single isTop_json, suffix_json, if_neg Bool.false_ne_true]
  unfold jsonMapping? at h
  split at h
  next hdocument =>
    cases h
    exact hdocument
  · cases h

theorem crash?_json {text : String} {entries : Mapping} (h : jsonMapping? text = some entries) (directory : String) :
    crash? (Host.single "/settings.json" text) directory (some "/settings.json") true = none := by
  rw [crash?_single isTop_json, fileDocument_json h]

theorem mappingAt?_json {text : String} {entries : Mapping} (h : jsonMapping? text = some entries) :
    mappingAt? (Host.single "/settings.json" text) "/settings.json" = some entries := by
  unfold mappingAt?
  rw [fileDocument_json h]

theorem sources_json {text : String} {entries : Mapping} (h : jsonMapping? text = some entries) (directory : String) :
    sources (Host.single "/settings.json" text) directory (some "/settings.json") true =
      [("/settings.json", entries)] := by
  rw [sources_single isTop_json, held_cons_of_some _ _ _ (mappingAt?_json h)]
  rfl

theorem notes_json {text : String} {entries : Mapping} (h : jsonMapping? text = some entries) (directory : String) :
    notes (Host.single "/settings.json" text) directory (some "/settings.json") true = [] := by
  unfold notes explicitNotes
  rw [Option.bind_some, explicitPath_single isTop_json]
  simp only [Except.toOption]
  rw [isFile_of_mappingAt? (mappingAt?_json h), noteAt?_of_mappingAt? (mappingAt?_json h)]
  rfl

/-! ### What loading promises -/

/-- **Configurations come in layers.**  Merging puts a later mapping over an earlier one; nothing is neutral on both
sides, and to put a mapping over something again changes nothing.  Settings are taken from a left fold of merging:
over all global files in their order, then the first file of the project, none of which count for one that is
isolated, and then the explicit file, where only files count that hold mappings.  Loading crashes before that
exactly if there is a reason to, and the first reason counts. -/
theorem load_layered (host : Host) (directory : String) (explicit : Option String) (isolated : Bool)
    (warnings : List String) :
    (∀ earlier later : Mapping, (Document.mapping later).Keyed →
      Document.Merged earlier later (Document.merge earlier later) ∧ Document.merge [] later = later ∧
        Document.merge earlier [] = earlier ∧
        Document.merge (Document.merge earlier later) later = Document.merge earlier later) ∧
    (∀ file ∈ sources host directory explicit isolated, (Document.mapping file.2).Keyed) ∧
    match crash? host directory explicit isolated with
      | none =>
        (load host directory explicit isolated).run warnings =
          (ofMapping host directory
            ⟨(sources host directory explicit isolated).foldl (fun merged file => Document.merge merged file.2) [],
              (sources host directory explicit isolated).map Prod.fst⟩).run
            (warnings ++ notes host directory explicit isolated)
      | some cause =>
        ∃ more, (load host directory explicit isolated).run warnings = (.error cause, warnings ++ more) := by
  refine ⟨fun earlier later h => ?_, fun _ => keyed_of_mem_sources, run_load host directory explicit isolated warnings⟩
  exact ⟨Document.merge_merged earlier h, Document.nil_merge h, Document.merge_nil earlier,
    Document.merge_again earlier h⟩

/-- What is put over something, here. -/
def baseSample : Mapping :=
  [(.string "a", .mapping [(.string "x", .scalar (.number (.int 1)))]), (.string "b", .scalar (.number (.int 2)))]

/-- What is put over it: one side or the other holds a mapping, and so do both. -/
def overSample : Mapping :=
  [(.string "c", .scalar .null), (.string "b", .mapping [(.string "y", .scalar (.bool true))]),
    (.string "a", .mapping [(.string "z", .list [])])]

/-- Nested settings, of which the later ones win, and a file with a limit. -/
theorem load_layered_nested :
    (Document.mapping overSample).Keyed ∧ Document.Merged baseSample overSample (Document.merge baseSample overSample) ∧
      (Document.names (Document.merge baseSample overSample) = [.string "a", .string "b", .string "c"]) ∧
      ∃ entries, jsonMapping? "\x7b\"max_depth\": 7\x7d" = some entries ∧
        (load (Host.single "/settings.json" "\x7b\"max_depth\": 7\x7d") "/" (some "/settings.json") true).run [] =
          (ofMapping (Host.single "/settings.json" "\x7b\"max_depth\": 7\x7d") "/"
            ⟨Document.merge [] entries, ["/settings.json"]⟩).run [] := by
  have hkeyed : (Document.mapping overSample).Keyed :=
    ⟨by decide, trivial, ⟨by decide, trivial, trivial⟩, ⟨by decide, trivial, trivial⟩, trivial⟩
  have hread : (jsonMapping? "\x7b\"max_depth\": 7\x7d").isSome = true := by decide +kernel
  obtain ⟨entries, hentries⟩ := Option.isSome_iff_exists.mp hread
  obtain ⟨hmerge, -, hload⟩ := load_layered (Host.single "/settings.json" "\x7b\"max_depth\": 7\x7d") "/"
    (some "/settings.json") true []
  refine ⟨hkeyed, (hmerge baseSample overSample hkeyed).1, by decide +kernel, ?_⟩
  rw [crash?_json hentries, sources_json hentries, notes_json hentries] at hload
  exact ⟨entries, hentries, hload⟩

/-- The text that stands for nothing, if this is why there is no document and reading crashes. -/
def missing? : Except Unreadable Document → Option String
  | .error (.crashed (.missing text)) => some text
  | _ => none

theorem eq_of_missing? {outcome : Except Unreadable Document} {text : String} (h : missing? outcome = some text) :
    outcome = .error (.crashed (.missing text)) := by
  unfold missing? at h
  split at h <;> cases h
  rfl

/-- A file whose only scalar cannot be read holds no mapping, and yet loading does not go on without it. -/
theorem load_crashed :
    let host := Host.single "/settings.yaml" "max_depth: !!bool maybe"
    sources host "/" (some "/settings.yaml") true = [] ∧
      ((load host "/" (some "/settings.yaml") true).run []).1 = .error (.missing "maybe") := by
  have hdocument : fileDocument (Host.single "/settings.yaml" "max_depth: !!bool maybe") "/settings.yaml" =
      .error (.crashed (.missing "maybe")) := by
    rw [fileDocument_single isTop_yaml, suffix_yaml, if_pos rfl]
    exact eq_of_missing? (by decide +kernel)
  refine ⟨?_, ?_⟩
  · have hmapping : mappingAt? (Host.single "/settings.yaml" "max_depth: !!bool maybe") "/settings.yaml" = none := by
      unfold mappingAt?
      rw [hdocument]
    rw [sources_single isTop_yaml, held_cons_of_none _ _ _ hmapping]
    rfl
  · have hload := run_load (Host.single "/settings.yaml" "max_depth: !!bool maybe") "/" (some "/settings.yaml") true []
    rw [crash?_single isTop_yaml, hdocument] at hload
    obtain ⟨more, hload⟩ := hload
    rw [hload]

end Config

end ToolWeave
