import ToolWeave.Calendar
import ToolWeave.Json.Write

/-!
# Configuration documents

What a configuration file holds, whichever format it is written in.  A document is like a value, but
a mapping may be indexed by any scalar and not by strings only, and a scalar may be a day or a moment.

## Main definitions

* `Scalar`, `Scalar.same`: scalars, and when two of them index the same entry.
* `Document`: scalars, lists and mappings.
* `Document.put`: a mapping with an entry for a scalar.
* `Document.ofValue`, `Document.toValue`: a value as a document, and back.
* `Document.quoted`, `Document.display`: a document in the words of a message.
* `Document.hasText`: whether a document can be written in words at all.
* `Document.merge`: one mapping over another.

## Design notes

**Merging.**  Where both sides hold a mapping the two are merged, and everywhere else the later side
wins as a whole.  A key keeps the place and the spelling it had.

**Keys.**  Scalars index the same entry if they are equal as numbers, a truth value counting as zero
or one, or if they are the same in every other sense.
-/

namespace ToolWeave

/-- A document that holds no other documents. -/
inductive Scalar where
  | null
  | bool (value : Bool)
  | number (value : Number)
  | string (value : String)
  | date (value : Date)
  | moment (value : Moment)
  deriving DecidableEq

namespace Scalar

/-- A scalar as a value: days and moments are written out. -/
def value : Scalar → Value
  | null => .null
  | bool b => .bool b
  | number n => .number n
  | string s => .string s
  | date d => .string d.display
  | moment m => .string m.display

/-- A scalar as a text of its own. -/
def display (s : Scalar) : String := s.value.display

/-- A scalar as a part of a message, with strings in quotes. -/
def quoted : Scalar → String
  | date d => d.quoted
  | moment m => m.quoted
  | s => s.value.quoted

/-- A scalar as the name of a field. -/
def fieldName (s : Scalar) : String := s.display

/-- Whether a scalar can be written in words: an integer must not have too many digits. -/
def hasText : Scalar → Bool
  | number (.int i) => decide (i.natAbs < Nat.pow 10 Json.digitLimit)
  | _ => true

/-- The number that a scalar counts as, if it counts as one. -/
def count? : Scalar → Option Number
  | number n => some n
  | bool b => some (.int (if b then 1 else 0))
  | _ => none

/-- Whether two scalars index the same entry. -/
def same (a b : Scalar) : Bool :=
  match a.count?, b.count? with
  | some m, some n => m.equal n || m == n
  | none, none =>
    match a, b with
    | moment s, moment t => s.same t
    | _, _ => a == b
  | _, _ => false

end Scalar

/-- The content of a configuration file. -/
inductive Document where
  | scalar (value : Scalar)
  | list (items : List Document)
  | mapping (entries : List (Scalar × Document))

/-- The entries of a mapping. -/
abbrev Mapping : Type := List (Scalar × Document)

namespace Document

mutual

/-- A value as a document. -/
def ofValue : Value → Document
  | .null => scalar .null
  | .bool b => scalar (.bool b)
  | .number n => scalar (.number n)
  | .string s => scalar (.string s)
  | .array items => list (ofItems items)
  | .object fields => mapping (ofFields fields)

/-- Items as documents. -/
def ofItems : List Value → List Document
  | [] => []
  | item :: rest => ofValue item :: ofItems rest

/-- Fields as entries. -/
def ofFields : List (String × Value) → Mapping
  | [] => []
  | (name, content) :: rest => (.string name, ofValue content) :: ofFields rest

end

mutual

/-- A document as a value. -/
def toValue : Document → Value
  | scalar s => s.value
  | list items => .array (toItems items)
  | mapping entries => .object (toFields entries)

/-- Documents as items. -/
def toItems : List Document → List Value
  | [] => []
  | item :: rest => toValue item :: toItems rest

/-- Entries as fields. -/
def toFields : List (Scalar × Document) → Fields
  | [] => []
  | (name, content) :: rest => (name.fieldName, toValue content) :: toFields rest

end

mutual

/-- A document as a part of a message, with strings in quotes. -/
def quoted : Document → String
  | scalar s => s.quoted
  | list items => "[" ++ String.intercalate ", " (quotedItems items) ++ "]"
  | mapping entries => "\x7b" ++ String.intercalate ", " (quotedEntries entries) ++ "\x7d"

/-- Items as parts of a message. -/
def quotedItems : List Document → List String
  | [] => []
  | item :: rest => quoted item :: quotedItems rest

/-- Entries as parts of a message. -/
def quotedEntries : List (Scalar × Document) → List String
  | [] => []
  | (name, content) :: rest => (name.quoted ++ ": " ++ quoted content) :: quotedEntries rest

end

/-- A document as a text of its own: a string is itself. -/
def display : Document → String
  | scalar s => s.display
  | d => d.quoted

mutual

/-- Whether a document can be written in words. -/
def hasText : Document → Bool
  | scalar s => s.hasText
  | list items => itemsHaveText items
  | mapping entries => entriesHaveText entries

/-- Whether items can be written in words. -/
def itemsHaveText : List Document → Bool
  | [] => true
  | item :: rest => hasText item && itemsHaveText rest

/-- Whether entries can be written in words. -/
def entriesHaveText : List (Scalar × Document) → Bool
  | [] => true
  | (name, content) :: rest => name.hasText && hasText content && entriesHaveText rest

end

/-- Whether a document counts as given where something optional is asked for. -/
def isGiven : Document → Bool
  | scalar s => s.value.isGiven
  | list items => !items.isEmpty
  | mapping entries => !entries.isEmpty

/-- The content of a name in a mapping. -/
def lookup (name : String) (entries : Mapping) : Option Document :=
  Entries.get? (.string name) entries

/-- The content of a scalar in a mapping. -/
def get? (name : Scalar) (entries : Mapping) : Option Document :=
  (entries.find? fun entry => entry.1.same name).map Prod.snd

/-- Gives a scalar a content: in place if it has an entry, else as the last entry. -/
def put (name : Scalar) (content : Document) : List (Scalar × Document) → Mapping
  | [] => [(name, content)]
  | (key, old) :: rest =>
    if key.same name then (key, content) :: rest else (key, old) :: put name content rest

mutual

/-- What stands in the place of an old content, if there is one, after a new one is put over it. -/
def mergeOver (old : Option Document) : Document → Document
  | mapping entries =>
    match old with
    | some (mapping base) => mapping (mergeInto base entries)
    | _ => mapping entries
  | d => d

/-- A mapping with the entries of another one put over it, one after the other. -/
def mergeInto (base : Mapping) : List (Scalar × Document) → Mapping
  | [] => base
  | (name, content) :: rest =>
    mergeInto (put name (mergeOver (get? name base) content) base) rest

end

/-- One mapping over another. -/
def merge (base override : Mapping) : Mapping := mergeInto base override

end Document

end ToolWeave
