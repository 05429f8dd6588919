/-!
# Paths

Paths of files as text: parts between slashes, empty parts and single dots left out.

## Main definitions

* `Path.parts`, `Path.normal`: the parts of a path, and the path written from them.
* `Path.join`: a path seen from a directory.
* `Path.resolve`: a path seen from a directory, with double dots removed.
* `Path.suffix`: the ending of a file name.
-/

namespace ToolWeave

namespace Path

/-- Whether a path starts at the root. -/
def isAbsolute (path : String) : Bool := path.startsWith "/"

/-- The slashes a path starts with: one, two if it starts with exactly two, or none. -/
def root (path : String) : String :=
  match path.toList with
  | '/' :: '/' :: '/' :: _ => "/"
  | '/' :: '/' :: _ => "//"
  | '/' :: _ => "/"
  | _ => ""

/-- The parts of a path. -/
def parts (path : String) : List String :=
  (path.splitOn "/").filter fun part => part ≠ "" ∧ part ≠ "."

/-- A path from its root and parts. -/
def ofParts (root : String) (parts : List String) : String :=
  if root = "" && parts.isEmpty then "." else root ++ String.intercalate "/" parts

/-- A path without empty parts and single dots. -/
def normal (path : String) : String := ofParts (root path) (parts path)

/-- A path seen from a directory. -/
def join (directory path : String) : String :=
  if isAbsolute path then normal path else ofParts (root directory) (parts directory ++ parts path)

/-- Parts with each double dot removed together with the part before it. -/
def climb (parts : List String) : List String :=
  (parts.foldl (fun climbed part => if part = ".." then climbed.drop 1 else part :: climbed)
    []).reverse

/-- A path seen from a directory, with double dots removed. -/
def resolve (directory path : String) : String :=
  let joined := join directory path
  ofParts (root joined) (climb (parts joined))

/-- The ending of the last part of a path, from its last dot on; none if the dot comes first or
last. -/
def suffix (path : String) : String :=
  match (parts path).getLast? with
  | none => ""
  | some name =>
    let ending := (name.toList.reverse.takeWhile (· ≠ '.')).reverse
    if ending.isEmpty || name.length ≤ ending.length + 1 then ""
    else String.ofList ('.' :: ending)

end Path

end ToolWeave
