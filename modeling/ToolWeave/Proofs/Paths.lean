import ToolWeave.Host.Launch

/-!
# Paths of a host

What a path leads to is found out from its parts.  A text is split along the positions in it, which no
proof looks into: a text that is given is split in so many turns (`Text.splitOn_of_turns`), and so the parts
of the root and of a program are known.

## Main definitions

* `Text.splitTurns`: the parts of a text between separators, if there are enough turns.
* `Path.IsTop`, `Host.single`: a path of one part, and a host with one file at such a path.
-/

namespace ToolWeave

namespace Text

/-- The parts of a text between separators, if there are enough turns.  The part that is read starts at `b`,
and the separator has been compared up to its position `j` with what ends at `i`. -/
def splitTurns (s sep : String) :
    (turns : Nat) → (b i j : String.Pos.Raw) → (read : List String) → Option (List String)
  | 0, _, _, _, _ => none
  | turns + 1, b, i, j, read =>
    if String.Pos.Raw.atEnd s i then some (String.Pos.Raw.extract s b i :: read).reverse
    else if String.Pos.Raw.get s i == String.Pos.Raw.get sep j then
      let i := String.Pos.Raw.next s i
      let j := String.Pos.Raw.next sep j
      if String.Pos.Raw.atEnd sep j then
        splitTurns s sep turns i i 0 (String.Pos.Raw.extract s b (i.unoffsetBy j) :: read)
      else splitTurns s sep turns b i j read
    else splitTurns s sep turns b (String.Pos.Raw.next s (i.unoffsetBy j)) 0 read

theorem splitOnAux_of_turns {s sep : String} {turns : Nat} {b i j : String.Pos.Raw} {read parts : List String}
    (h : splitTurns s sep turns b i j read = some parts) : s.splitOnAux sep b i j read = parts := by
  induction turns generalizing b i j read with
  | zero => cases h
  | succ turns ih =>
    rw [splitTurns] at h
    rw [String.splitOnAux]
    split at h
    · next hend =>
      rw [if_pos hend]
      exact Option.some.inj h
    next hend =>
    rw [if_neg hend]
    split at h
    · next hsame =>
      rw [if_pos hsame]
      dsimp only at h ⊢
      split at h
      · next hsep =>
        rw [if_pos hsep]
        exact ih h
      · next hsep =>
        rw [if_neg hsep]
        exact ih h
    · next hsame =>
      rw [if_neg hsame]
      exact ih h

/-- A text is split as it is in so many turns. -/
theorem splitOn_of_turns (turns : Nat) {s sep : String} {parts : List String} (hsep : (sep == "") = false)
    (h : splitTurns s sep turns 0 0 0 [] = some parts) : s.splitOn sep = parts := by
  unfold String.splitOn
  rw [hsep]
  exact splitOnAux_of_turns h

end Text

/-! ### The root of the files -/

namespace Path

theorem isAbsolute_root : isAbsolute "/" = true := by decide +kernel

theorem parts_root : parts "/" = [] := by
  have hsplit : "/".splitOn "/" = ["", ""] := Text.splitOn_of_turns 2 (by decide) (by decide +kernel)
  unfold parts
  rw [hsplit]
  rfl

theorem normal_root : normal "/" = "/" := by
  unfold normal
  rw [parts_root]
  rfl

theorem join_root (directory : String) : join directory "/" = "/" := (if_pos isAbsolute_root).trans normal_root

theorem resolve_root (directory : String) : resolve directory "/" = "/" := by
  unfold resolve
  dsimp only
  rw [join_root, parts_root]
  rfl

end Path

namespace Host

theorem expandHome?_root (host : Host) : host.expandHome? "/" = some "/" := by
  unfold expandHome?
  rw [Path.isAbsolute_root, Path.normal_root]

/-- There is a directory at the root of every host. -/
theorem find_root (host : Host) : host.find "/" = .ok .directory := by
  unfold find
  rw [Path.join_root, Path.parts_root, if_neg (by decide), if_neg (by decide)]
  rfl

/-! ### Programs -/

/-- A path with a slash is looked for nowhere else. -/
theorem findProgram_of_slash {path : String} (h : '/' ∈ path.toList) (host : Host) (vars : Entries String) :
    host.findProgram vars path = (host.program path).mapError fun refusal => ⟨refusal, path⟩ := by
  have hcandidates (directories : String) : candidates directories path = [path] := by
    unfold candidates
    rw [String.contains_char_eq, if_pos (decide_eq_true h)]
  unfold findProgram
  dsimp only
  rw [hcandidates, firstProgram]
  cases host.program path with
  | ok name => rfl
  | error refusal => rfl

/-- The programs are known by their parts. -/
theorem program_of_parts {host : Host} {path name : String} (hparts : host.climbedParts path = ["bin", name])
    (hname : isProgram name = true) (hend : (path.endsWith "/" || path.endsWith "/.") = false) :
    host.program path = .ok name := by
  have hprogram : programAt? ["bin", name] = some name := if_pos (show (true && isProgram name) = true from hname)
  unfold program
  rw [hparts]
  dsimp only
  rw [hprogram, hend]
  rfl

/-- A command is started if nothing speaks against it and its program is found. -/
theorem enter_of_program {host inside : Host} {directory : Option String} {vars : Entries String}
    {name program : String} {rest : List String} (hvars : (vars.any fun entry => entry.1.contains '=') = false)
    (hnull : holdsNull (name :: rest) directory vars = false) (hinside : host.inDirectory directory = .ok inside)
    (hprogram : inside.findProgram (host.overlay vars) name = .ok program) :
    host.enter directory vars (name :: rest) = .ok (inside, program) := by
  unfold enter
  dsimp only
  rw [hvars, hnull, hinside]
  dsimp only
  rw [hprogram]
  rfl

/-- A command with the path of a program starts it. -/
theorem enter_of_turns (turns : Nat) {host : Host} {vars : Entries String} {path name : String} {rest : List String}
    (hturns : Text.splitTurns path "/" turns 0 0 0 [] = some ["", "bin", name])
    (hname : isProgram name = true ∧ name ≠ "" ∧ name ≠ "." ∧ name ≠ "..") (habsolute : Path.isAbsolute path = true)
    (hspelled : Path.ofParts (Path.root path) ["bin", name] = path) (hslash : '/' ∈ path.toList)
    (hend : (path.endsWith "/" || path.endsWith "/.") = false)
    (hvars : (vars.any fun entry => entry.1.contains '=') = false)
    (hnull : holdsNull (path :: rest) none vars = false) :
    host.enter none vars (path :: rest) = .ok (host, name) := by
  have hparts : Path.parts path = ["bin", name] := by
    unfold Path.parts
    rw [Text.splitOn_of_turns turns (by decide) hturns]
    simp [hname.2.1, hname.2.2.1]
  have hjoin : Path.join host.directory path = path := by
    unfold Path.join Path.normal
    rw [if_pos habsolute, hparts, hspelled]
  have hclimbed : host.climbedParts path = ["bin", name] := by
    unfold climbedParts Path.climb
    rw [hjoin, hparts]
    simp [hname.2.2.2]
  have hprogram : host.program path = .ok name := program_of_parts hclimbed hname.1 hend
  have hfound : host.findProgram (host.overlay vars) path = .ok name := by
    rw [findProgram_of_slash hslash, hprogram]
    rfl
  exact enter_of_program hvars hnull rfl hfound

end Host

/-! ### Files at the root -/

/-- A path leads from the root to a file of this name, and is written as paths usually are. -/
structure Path.IsTop (path name : String) : Prop where
  absolute : Path.isAbsolute path = true
  parts : Path.parts path = [name]
  spelled : Path.ofParts (Path.root path) [name] = path
  short : name.utf8ByteSize ≤ Host.maxNameLength ∧ path.utf8ByteSize ≤ Host.maxPathLength
  plain : name ≠ ".." ∧ path ≠ "" ∧ path.contains '\x00' = false

namespace Path.IsTop

variable {path name : String} (h : Path.IsTop path name)

include h

theorem normal : Path.normal path = path := by
  unfold Path.normal
  rw [h.parts, h.spelled]

theorem join (directory : String) : Path.join directory path = path := by
  unfold Path.join
  rw [if_pos h.absolute, h.normal]

theorem resolve (directory : String) : Path.resolve directory path = path := by
  have hclimb : Path.climb [name] = [name] := by
    unfold Path.climb
    rw [List.foldl_cons, if_neg h.plain.1]
    rfl
  unfold Path.resolve
  dsimp only
  rw [h.join, h.parts, hclimb, h.spelled]

end Path.IsTop

/-- A path is known if it has been split in so many turns. -/
theorem Path.isTop_of_turns (turns : Nat) {path name : String}
    (hturns : Text.splitTurns path "/" turns 0 0 0 [] = some ["", name]) (hname : name ≠ "" ∧ name ≠ "." ∧ name ≠ "..")
    (habsolute : Path.isAbsolute path = true) (hspelled : Path.ofParts (Path.root path) [name] = path)
    (hshort : name.utf8ByteSize ≤ Host.maxNameLength ∧ path.utf8ByteSize ≤ Host.maxPathLength)
    (hplain : path ≠ "" ∧ '\x00' ∉ path.toList) : Path.IsTop path name where
  absolute := habsolute
  parts := by
    unfold Path.parts
    rw [Text.splitOn_of_turns turns (by decide) hturns]
    simp [hname.1, hname.2.1]
  spelled := hspelled
  short := hshort
  plain := ⟨hname.2.2, hplain.1, by rw [String.contains_char_eq]; exact decide_eq_false hplain.2⟩

/-- A host with one file. -/
def Host.single (path text : String) : Host := ⟨[(path, Utf8.encodeString text)], [], [], "/"⟩

theorem Host.find_single {path name : String} (h : Path.IsTop path name) (text : String) :
    (single path text).find path = .ok (.file (Utf8.encodeString text)) := by
  have hdirectory : (single path text).isDirectoryAt [name] = false := by
    unfold isDirectoryAt
    simp [single, h.parts]
  have hfile : (single path text).fileAt? [name] = some (Utf8.encodeString text) := by
    unfold fileAt?
    simp [single, h.parts]
  have hfollow : (single path text).follow [] [name] = .ok (.file (Utf8.encodeString text)) := by
    rw [follow]
    · simp only [List.reverse_cons, List.reverse_nil, List.nil_append]
      rw [if_neg (Nat.not_lt.mpr h.short.1), hdirectory, hfile]
      rfl
    · exact h.plain.1
  unfold find
  rw [h.join, h.parts, hfollow, if_neg h.plain.2.1, if_neg (Nat.not_lt.mpr h.short.2)]
  rfl

end ToolWeave
