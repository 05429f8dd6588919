import ToolWeave.Config.Document
import ToolWeave.Failure
import ToolWeave.Text.Word

/-!
# Placeholders

A dollar sign and a word in braces stand for the value of a variable.  Everything else in a text is
left as it is, also what only looks like the beginning of a placeholder.

## Main definitions

* `Placeholder.at?`: the placeholder at the front of some characters.
* `Placeholder.expand`: a text with its placeholders replaced.
* `Placeholder.expandEntry`: a configuration entry with the placeholders of its texts replaced.
-/

namespace ToolWeave

namespace Placeholder

/-- The word of the placeholder at the front of some characters, if there is one, and the characters
after it. -/
def at? : List Char → Option (List Char × List Char)
  | '$' :: '\x7b' :: rest =>
    let word := rest.takeWhile Text.isWord
    match rest.drop word.length with
    | '\x7d' :: after => if word.isEmpty then none else some (word, after)
    | _ => none
  | _ => none

/-- A placeholder uses up characters. -/
theorem length_lt_of_at? {cs word rest : List Char} (h : at? cs = some (word, rest)) :
    rest.length < cs.length := by
  unfold at? at h
  split at h
  · next after =>
    dsimp only at h
    split at h
    · next tail heq =>
      split at h
      · cases h
      · simp only [Option.some.injEq, Prod.mk.injEq] at h
        obtain ⟨-, rfl⟩ := h
        have := congrArg List.length heq
        simp only [List.length_drop, List.length_cons] at this ⊢
        omega
    · cases h
  · cases h

/-- Why a text cannot be expanded: a variable is not set. -/
structure Unset where
  variableName : String

/-- The wording of a failure to expand. -/
def Unset.message (u : Unset) : String :=
  "placeholder '$\x7b" ++ u.variableName ++ "\x7d' not found in environment"

/-- Replaces placeholders from left to right.  What a variable brings in is not looked at again. -/
def expandChars (valueOf? : String → Option String) (cs : List Char) :
    Except Unset (List Char) :=
  match _found : at? cs with
  | some (word, rest) =>
    match valueOf? (String.ofList word) with
    | none => .error ⟨String.ofList word⟩
    | some value => do return value.toList ++ (← expandChars valueOf? rest)
  | none =>
    match cs with
    | [] => .ok []
    | c :: rest => do return c :: (← expandChars valueOf? rest)
  termination_by cs.length
  decreasing_by
    · exact length_lt_of_at? _found
    · simp

/-- A text with its placeholders replaced. -/
def expand (valueOf? : String → Option String) (text : String) : Except Unset String :=
  (expandChars valueOf? text.toList).map String.ofList

/-- A document with its placeholders replaced if it is a text. -/
def expandText (valueOf? : String → Option String) : Document → Except Unset Document
  | .scalar (.string s) => do return .scalar (.string (← expand valueOf? s))
  | d => .ok d

/-- The content of one field of an entry with its placeholders replaced: the texts of a command, the
texts that variables are set to, and the directory. -/
def expandField (valueOf? : String → Option String) (name : Scalar) (content : Document) :
    Except Unset Document :=
  match name, content with
  | .string "command", .list items => do return .list (← items.mapM (expandText valueOf?))
  | .string "env", .mapping entries => do
    return .mapping (← entries.mapM fun entry => do
      return (entry.1, ← expandText valueOf? entry.2))
  | .string "cwd", d => expandText valueOf? d
  | _, d => .ok d

/-- The fields of an entry in the order in which placeholders are replaced. -/
def expandedFields : List String := ["command", "env", "cwd"]

/-- An entry with the placeholders of its texts replaced. -/
def expandEntry (valueOf? : String → Option String) : Document → Except Unset Document
  | .mapping entries => do
    let entries ← expandedFields.foldlM (fun entries name =>
      match Document.lookup name entries with
      | none => .ok entries
      | some content => do
        return Entries.put (.string name) (← expandField valueOf? (.string name) content) entries)
      entries
    return .mapping entries
  | d => .ok d

end Placeholder

end ToolWeave
