import ToolWeave.Entries
import ToolWeave.Host.Path
import ToolWeave.Text.Utf8
import ToolWeave.Text.Word
import ToolWeave.Value.Display

/-!
# The host

What the program sees of the system around it: files, directories and variables.

## Main definitions

* `Host`: files and directories by path, the variables, and the current directory.
* `Host.find`: what is at a path.
* `Host.readBytes`: the content of a file.
* `Host.expandHome?`: a path seen from a home directory.
* `Refusal`, `SystemError`: why the system refused, and its wording.
-/

namespace ToolWeave

/-- Why the system refuses something. -/
inductive Refusal where
  | notFound
  | denied
  | notDirectory
  | isDirectory
  | nameTooLong
  deriving DecidableEq

namespace Refusal

/-- The number of a refusal and its wording. -/
def text : Refusal → String
  | notFound => "[Errno 2] No such file or directory"
  | denied => "[Errno 13] Permission denied"
  | notDirectory => "[Errno 20] Not a directory"
  | isDirectory => "[Errno 21] Is a directory"
  | nameTooLong => "[Errno 36] File name too long"

/-- The class a refusal is reported under. -/
def name : Refusal → String
  | notFound => "FileNotFoundError"
  | denied => "PermissionError"
  | notDirectory => "NotADirectoryError"
  | isDirectory => "IsADirectoryError"
  | nameTooLong => "OSError"

end Refusal

/-- A refusal about a path. -/
structure SystemError where
  refusal : Refusal
  path : String
  deriving DecidableEq

namespace SystemError

/-- The wording of a refusal about a path. -/
def message (e : SystemError) : String := e.refusal.text ++ ": " ++ Text.quoted e.path

/-- The class it is reported under. -/
def name (e : SystemError) : String := e.refusal.name

end SystemError

/-- What is at a path. -/
inductive Node where
  | file (content : List UInt8)
  | directory

/-- The system around the program. -/
structure Host where
  /-- The files, by absolute path. -/
  files : Entries (List UInt8)
  /-- The directories besides those that hold files, by absolute path. -/
  directories : List String
  /-- The variables. -/
  vars : Entries String
  /-- The current directory. -/
  directory : String

namespace Host

/-- The value of a variable. -/
def valueOf? (host : Host) (name : String) : Option String := Entries.get? name host.vars

/-- Whether some parts lead to a directory: one that is known, or one that holds something known. -/
def isDirectoryAt (host : Host) (parts : List String) : Bool :=
  parts.isEmpty || host.directories.any (fun path => parts.isPrefixOf (Path.parts path)) ||
  host.files.any fun file => parts.isPrefixOf (Path.parts file.1).dropLast

/-- The file that some parts lead to. -/
def fileAt? (host : Host) (parts : List String) : Option (List UInt8) :=
  (host.files.find? fun file => Path.parts file.1 == parts).map Prod.snd

/-- The most bytes that a part of a path may have. -/
def maxNameLength : Nat := 255

/-- The most bytes that a path may have. -/
def maxPathLength : Nat := 4095

/-- Follows parts one by one from a directory, `reached` holding the parts of that directory, the
last one first.  Every part but the last has to lead to a directory. -/
def follow (host : Host) : (reached : List String) → List String → Except Refusal Node
  | _, [] => .ok .directory
  | reached, ".." :: rest => follow host (reached.drop 1) rest
  | reached, part :: rest =>
    let here := (part :: reached).reverse
    if maxNameLength < part.utf8ByteSize then .error .nameTooLong
    else if host.isDirectoryAt here then follow host (part :: reached) rest
    else
      match host.fileAt? here with
      | none => .error .notFound
      | some content => if rest.isEmpty then .ok (.file content) else .error .notDirectory

/-- What is at a path, seen from the current directory. -/
def find (host : Host) (path : String) : Except SystemError Node :=
  let found : Except Refusal Node :=
    if path = "" then .error .notFound
    else if maxPathLength < path.utf8ByteSize then .error .nameTooLong
    else host.follow [] (Path.parts (Path.join host.directory path))
  found.mapError fun refusal => ⟨refusal, path⟩

/-- Whether a path leads to a file. -/
def isFile (host : Host) (path : String) : Bool :=
  match host.find path with
  | .ok (.file _) => true
  | _ => false

/-- Whether a path leads to a directory. -/
def isDirectory (host : Host) (path : String) : Bool :=
  match host.find path with
  | .ok .directory => true
  | _ => false

/-- The bytes of the file at a path. -/
def readBytes (host : Host) (path : String) : Except SystemError (List UInt8) :=
  match host.find path with
  | .ok (.file content) => .ok content
  | .ok .directory => .error ⟨.isDirectory, path⟩
  | .error e => .error e

/-- The home directory of a user, the empty name being that of the one who runs the program: where
the variables say it is, if they do. -/
def home? (host : Host) (user : String) : Option String :=
  if user = "" then some ((host.valueOf? "HOME").getD "/root")
  else if user = "root" then some "/root"
  else none

/-- A home directory without slashes at its end. -/
def bareHome (home : String) : String :=
  String.ofList (home.toList.reverse.dropWhile (· == '/')).reverse

/-- A path whose first part is a tilde and a user, seen from the home directory of that user.  There
is none if that directory is not known. -/
def expandHome? (host : Host) (path : String) : Option String :=
  match Path.isAbsolute path, Path.parts path with
  | false, first :: rest =>
    match first.toList with
    | '~' :: user =>
      match host.home? (String.ofList user) with
      | none => none
      | some home =>
        let home := if bareHome home = "" then "/" else bareHome home
        if home.startsWith "~" then none
        else some (Path.ofParts (Path.root home) (Path.parts home ++ rest))
    | _ => some (Path.normal path)
  | _, _ => some (Path.normal path)

end Host

/-- Characters with every end of line written as one line feed, whether it was a carriage return, a
line feed or both.  `read` holds the characters before, the last one first. -/
def Text.unifyLinesAfter : (read : List Char) → List Char → List Char
  | read, [] => read.reverse
  | read, '\r' :: '\n' :: rest => unifyLinesAfter ('\n' :: read) rest
  | read, '\r' :: rest => unifyLinesAfter ('\n' :: read) rest
  | read, c :: rest => unifyLinesAfter (c :: read) rest

/-- Characters with every end of line written as one line feed. -/
def Text.unifyLines (cs : List Char) : List Char := unifyLinesAfter [] cs

/-- The variables with others put over them. -/
def Host.overlay (host : Host) (extra : Entries String) : Entries String :=
  extra.foldl (fun vars entry => Entries.put entry.1 entry.2 vars) host.vars

end ToolWeave
