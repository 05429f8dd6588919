import ToolWeave.Shell.Utility.Edit

/-!
# The utilities

All utilities that only work on what they read and on their arguments, by name.

## Main definitions

* `Shell.utility?`: the utility of a name.
-/

namespace ToolWeave

namespace Shell

/-- The utility of a name. -/
def utility? (name : String) : Option Utility :=
  match name with
  | "[" | "test" => some (testUtility name)
  | "basename" => some basename
  | "cat" => some cat
  | "comm" => some comm
  | "cp" => some (transferAll "cp" false)
  | "cut" => some cut
  | "dirname" => some dirname
  | "echo" => some plainEcho
  | "egrep" => some (grepAs "grep" true false)
  | "expr" => some expr
  | "false" => some fun _ => return 1
  | "fgrep" => some (grepAs "grep" false true)
  | "fold" => some fold
  | "grep" => some (grepAs "grep" false false)
  | "head" => some head
  | "id" => some fun arguments => do
    emit (if arguments.contains (bytes "-un") then bytes "root\n" else [48, 10])
    return 0
  | "ls" => some ls
  | "mkdir" => some mkdir
  | "mv" => some (transferAll "mv" true)
  | "nl" => some nl
  | "paste" => some paste
  | "playback" => some playback
  | "printenv" => some printenv
  | "printf" => some printf
  | "pwd" => some fun _ => do
    emit (bytes ((← get).directory ++ "\n"))
    return 0
  | "rev" => some rev
  | "rm" => some rm
  | "rmdir" => some rmdir
  | "sed" => some sed
  | "seq" => some seq
  | "sleep" => some sleep
  | "sort" => some sort
  | "tac" => some tac
  | "tail" => some tail
  | "tee" => some tee
  | "touch" => some touch
  | "tr" => some tr
  | "true" => some fun _ => return 0
  | "uname" => some fun _ => do
    emit (bytes "Linux\n")
    return 0
  | "uniq" => some uniq
  | "wc" => some wc
  | "whoami" => some fun _ => do
    emit (bytes "root\n")
    return 0
  | "yes" => some yes
  | _ => none

end Shell

end ToolWeave
