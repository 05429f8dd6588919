import ToolWeave.Failure
import ToolWeave.Tool.Basic

/-!
# Tool sets

An ordered collection of named tools, ready to be put into a root frame.

## Main definitions

* `ToolSet.register`: a tool under a name that is not taken.
* `ToolSet.combine`: two sets in one, the first winning.
* `ToolSet.builtins`: the set of the built-in tools.
-/

namespace ToolWeave

/-- Tools by name, in the order in which they were registered. -/
abbrev ToolSet : Type := Entries Tool

namespace ToolSet

/-- Registers a tool under a name that is not empty and not taken. -/
def register (set : ToolSet) (name : String) (tool : Tool) : Except Crash ToolSet :=
  if name = "" then .error (.refused "Tool name cannot be empty.")
  else if Entries.has name set then .error (.refused ("Tool already registered: " ++ name))
  else .ok (set ++ [(name, tool)])

/-- The tool of a name. -/
def find (set : ToolSet) (name : String) : Except Crash Tool :=
  match Entries.get? name set with
  | some tool => .ok tool
  | none => .error (.missing ("Unknown tool: " ++ name))

/-- Both sets in one; a name that both have keeps the tool of the first. -/
def combine (set other : ToolSet) : ToolSet :=
  set ++ other.filter fun entry => !Entries.has entry.1 set

/-- The built-in tools. -/
def builtins : ToolSet := Builtin.all.map fun tool => (tool.name, .builtin tool)

end ToolSet

end ToolWeave
