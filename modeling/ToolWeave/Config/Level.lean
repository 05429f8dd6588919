import ToolWeave.Text.Blank
import ToolWeave.Value.Basic

/-!
# Log levels

How much is reported while the program runs.  A level is a number, or the name of one.

## Main definitions

* `LogLevel.named?`: the number of a name.
* `LogLevel.ofValue`: the level a value stands for.
-/

namespace ToolWeave

namespace LogLevel

/-- The level of warnings, which is the usual one. -/
def warning : Int := 30

/-- The names of levels. -/
def names : List (String × Int) :=
  [("CRITICAL", 50), ("FATAL", 50), ("ERROR", 40), ("WARN", 30), ("WARNING", 30), ("INFO", 20),
    ("DEBUG", 10), ("NOTSET", 0)]

/-- A letter in upper case, where that is a letter of the ASCII set.  The dotless i and the long s
have an upper case in that set as well. -/
def upperCase (c : Char) : Char :=
  if c == 'ı' then 'I' else if c == 'ſ' then 'S' else c.toUpper

/-- The level of a name, blanks around it and its case left aside. -/
def named? (text : String) : Option Int :=
  Entries.get? (String.ofList ((Text.stripChars text.toList).map upperCase)) names

/-- The level that a value stands for: an integer is a level, a string may name one, and anything
else stands for the given usual level.  A boolean stays as it is. -/
def ofValue (usual : Int) : Value → Value
  | .bool b => .bool b
  | .number (.int i) => .int i
  | .string s => .int ((named? s).getD usual)
  | _ => .int usual

/-- Whether warnings are reported at the level that a text names. -/
def reportsWarnings (text : Option String) : Bool :=
  decide ((text.bind named?).getD warning ≤ warning)

end LogLevel

end ToolWeave
