import ToolWeave.Shell.Pattern
import ToolWeave.Shell.Process

/-!
# Fields

What words become: values are cut into fields at the separators of the shell, and fields with
wildcards become the names of files.

## Main definitions

* `Shell.Process.parameter?`: the value of a parameter.
* `Shell.Atom`, `Shell.fieldsOf`: a word after its parameters have been replaced, and its fields.
* `Shell.assignedFields`: the fields of a line that is read into variables.
* `Shell.Process.matching`: the files that a field with wildcards stands for.

## Design notes

**Separators.**  Space among the separators comes in runs, of which those at the ends mean nothing;
any other separator ends a field, an empty one too, together with the space around it.
-/

namespace ToolWeave

namespace Shell

/-- What separates fields unless a variable says otherwise. -/
def usualSeparators : Bytes := [32, 9, 10]

/-- What separates fields. -/
def Process.separators (p : Process) : Bytes := (p.valueOf? "IFS").getD usualSeparators

/-- Parameters by position in one text, with the first separator between them. -/
def Process.joinedArguments (p : Process) : Bytes :=
  (p.separators.take 1).intercalate p.arguments

/-- The text of a natural number. -/
def decimal (n : Nat) : Bytes := bytes (toString n)

/-- The value of a parameter, if it is set. -/
def Process.parameter? (p : Process) (name : String) : Option Bytes :=
  match name with
  | "$" => some (decimal p.number)
  | "?" => some (decimal p.status)
  | "#" => some (decimal p.arguments.length)
  | "!" => p.jobs.head?.map decimal
  | "-" => some (bytes (String.ofList p.options))
  | "@" => if p.arguments.isEmpty then none else some (spaced p.arguments)
  | "*" => if p.arguments.isEmpty then none else some p.joinedArguments
  | "LINENO" => some (decimal p.shownLine)
  | _ =>
    match name.toNat? with
    | some 0 => some p.title
    | some position => p.arguments[position - 1]?
    | none => p.valueOf? name

/-- A part of a word after its parameters have been replaced. -/
inductive Atom where
  /-- A byte: whether it means itself in a pattern, and whether it may separate fields. -/
  | byte (b : UInt8) (exact separates : Bool)
  /-- A quote, so that there is a field even if nothing is in it. -/
  | quote
  /-- The end of one field and the start of another. -/
  | boundary

/-- The atoms of some bytes. -/
def atoms (exact separates : Bool) (text : Bytes) : List Atom :=
  text.map fun b => .byte b exact separates

/-- The atoms of a value: one in quotes means itself, any other may be cut and may be a pattern. -/
def valueAtoms (quoted : Bool) (text : Bytes) : List Atom :=
  if quoted then .quote :: atoms true false text else atoms false true text

/-- Fields under construction: those that are complete, the last one first, the one that has begun,
its last byte first, and whether only space has come since a field was complete. -/
structure FieldList where
  complete : List Marked
  last : Option Marked
  spaced : Bool

namespace FieldList

/-- No fields. -/
def empty : FieldList := ⟨[], none, false⟩

/-- Completes the field that has begun, if one has. -/
def close (fields : FieldList) : FieldList :=
  match fields.last with
  | none => fields
  | some text => ⟨text.reverse :: fields.complete, none, fields.spaced⟩

/-- The fields after another atom. -/
def add (separators : Bytes) (fields : FieldList) : Atom → FieldList
  | .quote => { fields with last := some (fields.last.getD []), spaced := false }
  | .boundary => { fields.close with spaced := false }
  | .byte b exact separates =>
    if separates && separators.contains b then
      if usualSeparators.contains b then
        { fields.close with spaced := fields.spaced || fields.last.isSome }
      else if fields.spaced && fields.last.isNone then { fields with spaced := false }
      else { fields with complete := (fields.last.getD []).reverse :: fields.complete,
                         last := none, spaced := false }
    else { fields with last := some ((b, exact) :: fields.last.getD []), spaced := false }

end FieldList

/-- The fields of atoms. -/
def fieldsOf (separators : Bytes) (word : List Atom) : List Marked :=
  (word.foldl (FieldList.add separators) FieldList.empty).close.complete.reverse

/-- The one field that atoms make where nothing is cut: the first separator takes the place of what
would be a boundary. -/
def wholeField (separators : Bytes) (word : List Atom) : Marked :=
  word.flatMap fun atom =>
    match atom with
    | .byte b exact _ => [(b, exact)]
    | .quote => []
    | .boundary => mark true (separators.take 1)

/-- Bytes without the line feeds at their end. -/
def dropLineFeeds (text : Bytes) : Bytes := (text.reverse.dropWhile (· == 10)).reverse

/-- A line with a mark on each byte: whether a backslash stood in front, which is left out. -/
def escapedLine : Bytes → Marked
  | 92 :: b :: rest => (b, true) :: escapedLine rest
  | 92 :: [] => []
  | b :: rest => (b, false) :: escapedLine rest
  | [] => []

/-- The fields of a line for so many variables; the last one takes all that is left, less the
separators at its end. -/
def assignedFields (separators : Bytes) : (count : Nat) → Marked → List Bytes
  | 0, _ => []
  | count + 1, line =>
    let isSeparator (entry : UInt8 × Bool) : Bool := !entry.2 && separators.contains entry.1
    let isSpace (entry : UInt8 × Bool) : Bool :=
      isSeparator entry && usualSeparators.contains entry.1
    let line := line.dropWhile isSpace
    let field := line.takeWhile fun entry => !isSeparator entry
    let gap := (line.drop field.length).takeWhile isSpace
    let after := line.drop (field.length + gap.length)
    let rest :=
      match after with
      | entry :: rest => if isSeparator entry then rest.dropWhile isSpace else after
      | [] => []
    if count = 0 then
      if rest.isEmpty then [unmark field]
      else [unmark (line.reverse.dropWhile isSpace).reverse]
    else unmark field :: assignedFields separators count rest

/-- Whether one text comes no later than another, byte by byte. -/
def noLater : Bytes → Bytes → Bool
  | [], _ => true
  | _ :: _, [] => false
  | a :: as, b :: bs => a < b || (a == b && noLater as bs)

/-- The names in a directory, in order. -/
def namesIn (host : Host) (parts : List String) : List String :=
  let below (path : List String) : Option String :=
    if parts.isPrefixOf path then (path.drop parts.length).head? else none
  let names := host.files.filterMap (fun file => below (Path.parts file.1)) ++
    host.directories.filterMap fun path => below (Path.parts path)
  names.eraseDups.mergeSort fun a b => noLater (bytes a) (bytes b)

/-- Cuts marked bytes at slashes. -/
def cutAtSlashes (text : Marked) : List Marked :=
  text.foldr (fun entry parts =>
    if entry.1 = 47 then [] :: parts
    else
      match parts with
      | [] => [[entry]]
      | part :: rest => (entry :: part) :: rest) [[]]

/-- The paths that parts with wildcards stand for, each with what it leads to. -/
def matchingParts (host : Host) : List Marked → List (Bytes × List String) →
    List (Bytes × List String)
  | [], found => found
  | part :: rest, found =>
    let slash : Bytes := if rest.isEmpty then [] else [47]
    let found := found.flatMap fun (path, parts) =>
      if Pattern.isWild part then
        let names := (namesIn host parts).filter fun name =>
          (!name.startsWith "." || part.head?.any fun entry => entry.1 == 46) &&
            Pattern.fits part (bytes name)
        names.map fun name => (path ++ bytes name ++ slash, parts ++ [name])
      else
        let name := textOf (unmark part)
        [(path ++ unmark part ++ slash,
          if name = "" || name = "." then parts else Path.climb (parts ++ [name]))]
    matchingParts host rest found

/-- The files that a field with wildcards stands for. -/
def Process.matching (p : Process) (field : Marked) : List Bytes :=
  let host := p.host
  let start : Bytes × List String :=
    if field.head?.any fun entry => entry.1 == 47 then ([], [])
    else ([], Path.climb (Path.parts host.directory))
  let isThere (parts : List String) : Bool :=
    host.isDirectoryAt parts || (host.fileAt? parts).isSome
  ((matchingParts host (cutAtSlashes field) [start]).filter fun (_, parts) => isThere parts).map
    Prod.fst

/-- What a field becomes: the files that it stands for, or else itself. -/
def Process.named (p : Process) (field : Marked) : List Bytes :=
  if p.has 'f' || !Pattern.isWild field then [unmark field]
  else
    match p.matching field with
    | [] => [unmark field]
    | names => names

end Shell

end ToolWeave
