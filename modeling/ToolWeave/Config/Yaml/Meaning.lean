import ToolWeave.Config.Yaml.Node
import ToolWeave.Config.Yaml.Plain

/-!
# What nodes mean

The document that a node stands for: its scalars by their kinds, its mappings together with what is
merged into them.

## Main definitions

* `Yaml.Sense`, `Yaml.Node.sense`: a node of which every part is known, or known to mean nothing.
* `Yaml.Sense.document`: the document, or the fault that shows first.
* `Yaml.read`: the document of a whole text.

## Design notes

**Merging.**  A mapping under the key `<<`, or each mapping of a list under it, gives its entries to
the mapping around it.  They come before the mapping's own entries, which override them, and those of
a later mapping in a list come before those of an earlier one.

**The first fault.**  A collection is made before its content is looked at, so a fault shows the
earlier the fewer collections it lies in; at the same depth the order of the text decides.
-/

namespace ToolWeave

namespace Yaml

/-- What a node means, as far as it means something. -/
inductive Sense where
  | scalar (value : Scalar)
  | list (items : List Sense)
  | mapping (entries : List (Sense × Sense))
  /-- Nothing, which shows at the node itself. -/
  | fault (cause : Fault)
  /-- Nothing, which shows only when the content of the node is looked at. -/
  | spoiled

/-- The kind of a scalar. -/
def Tag.scalarKind (tag : Tag) (text : List Char) : Kind :=
  match tag with
  | plain => .ofPlain text
  | usual => .text
  | written name => .named name

/-- The kind of a list or a mapping which is of some kind without a tag. -/
def Tag.collectionKind (tag : Tag) (kind : Kind) : Kind :=
  match tag with
  | plain | usual => kind
  | written name => .named name

/-- The kind of a node. -/
def Node.kind : Node → Kind
  | scalar tag text => tag.scalarKind text
  | list tag _ => tag.collectionKind .list
  | mapping tag _ => tag.collectionKind .mapping

/-- The meaning of a scalar of some kind. -/
def Sense.ofScalar (kind : Kind) (text : List Char) : Sense :=
  if kind = .list || kind = .mapping then spoiled
  else
    match kind.scalar text with
    | .ok value => scalar value
    | .error cause => fault cause

/-- What a list or mapping means that is read as one kind and claimed to be another. -/
def Sense.ofMismatch (claimed : Kind) : Sense :=
  if claimed = .list || claimed = .mapping then spoiled else fault .malformed

mutual

/-- What a node means. -/
def Node.sense : Node → Sense
  | .scalar tag text => .ofScalar (tag.scalarKind text) text
  | .list tag items =>
    let claimed := tag.collectionKind .list
    if claimed = .list then .list (senseItems items) else .ofMismatch claimed
  | .mapping tag entries =>
    let claimed := tag.collectionKind .mapping
    if claimed = .mapping then
      match senseEntries entries with
      | some (merged, own) => .mapping (merged ++ own)
      | none => .spoiled
    else .ofMismatch claimed

/-- What items mean. -/
def senseItems : List Node → List Sense
  | [] => []
  | item :: rest => item.sense :: senseItems rest

/-- What the entries of a mapping mean: those that are merged into it and its own ones, if what is
to be merged can be. -/
def senseEntries : List (Node × Node) → Option (List (Sense × Sense) × List (Sense × Sense))
  | [] => some ([], [])
  | (key, value) :: rest =>
    match senseEntries rest with
    | none => none
    | some (merged, own) =>
      match key.kind, key with
      | .merge, _ => (senseMerged value).map fun entries => (entries ++ merged, own)
      | .value, .scalar _ text => some (merged, (.ofScalar .text text, value.sense) :: own)
      | _, _ => some (merged, (key.sense, value.sense) :: own)

/-- The entries that a node gives to the mapping it is merged into. -/
def senseMerged : Node → Option (List (Sense × Sense))
  | .scalar _ _ => none
  | .list _ items => senseMergedItems items
  | .mapping _ entries => (senseEntries entries).map fun (merged, own) => merged ++ own

/-- The entries that the mappings of a list give, those of the later ones first. -/
def senseMergedItems : List Node → Option (List (Sense × Sense))
  | [] => some []
  | .mapping _ entries :: rest =>
    match senseEntries entries, senseMergedItems rest with
    | some (merged, own), some later => some (later ++ (merged ++ own))
    | _, _ => none
  | _ :: _ => none

end

/-- A document, or a fault and the number of collections it lies in. -/
abbrev Leveled (α : Type) : Type := Except (Nat × Fault) α

/-- Both of two results, or the fault that shows first. -/
def Leveled.both {α β : Type} (a : Leveled α) (b : Leveled β) : Leveled (α × β) :=
  match a, b with
  | .ok a, .ok b => .ok (a, b)
  | .error f, .error g => .error (if g.1 < f.1 then g else f)
  | .error f, .ok _ => .error f
  | .ok _, .error g => .error g

/-- The scalar that indexes an entry.  A collection cannot. -/
def Sense.index (level : Nat) : Sense → Leveled Scalar
  | scalar value => .ok value
  | fault cause => .error (level, cause)
  | _ => .error (level, .malformed)

/-- The mapping with some entries, of which later ones override earlier ones. -/
def mappingOf (entries : List (Scalar × Document)) : Document :=
  .mapping (entries.foldl (fun mapping entry => Document.put entry.1 entry.2 mapping) [])

mutual

/-- The document of a meaning that lies in a number of collections. -/
def Sense.document (level : Nat) : Sense → Leveled Document
  | .scalar value => .ok (.scalar value)
  | .list items => .list <$> itemDocuments (level + 1) items
  | .mapping entries => mappingOf <$> entryDocuments (level + 1) entries
  | .fault cause => .error (level, cause)
  | .spoiled => .error (level + 1, .malformed)

/-- The documents of items. -/
def itemDocuments (level : Nat) : List Sense → Leveled (List Document)
  | [] => .ok []
  | item :: rest =>
    ((item.document level).both (itemDocuments level rest)).map fun (item, rest) => item :: rest

/-- The entries of a mapping. -/
def entryDocuments (level : Nat) : List (Sense × Sense) → Leveled (List (Scalar × Document))
  | [] => .ok []
  | (key, value) :: rest =>
    (((key.index level).both (value.document level)).both (entryDocuments level rest)).map
      fun (entry, rest) => entry :: rest

end

/-- Whether a character may be in a text at all. -/
def isAllowed (c : Char) : Bool :=
  c == '\t' || c == '\n' || c == '\r' || c == '\u0085' || (' ' ≤ c && c ≤ '~') ||
    ('\u00a0' ≤ c && c ≤ '\ufffd') || 0x10000 ≤ c.toNat

/-- How much deeper a token leads into a structure. -/
def Token.rise : Token → Int
  | itemsStart | entriesStart | listStart | mapStart => 1
  | blockEnd | listEnd | mapEnd => -1
  | _ => 0

/-- How deep a structure may be. -/
def maxLevels : Int := 4000

/-- Whether tokens lead too deep. -/
def isTooDeep (tokens : List Token) : Bool :=
  ((tokens.foldl fun (level, found) token =>
    let level := level + token.rise
    (level, found || decide (maxLevels < level))) ((0 : Int), false)).2

/-- The document of a whole text, if it holds one. -/
def read (text : List Char) : Except Fault (Option Document) := do
  if !text.all isAllowed then throw .malformed
  let tokens := tokens text
  if isTooDeep tokens then throw (.senseless .nesting)
  match ← readRoot tokens with
  | none => return none
  | some node =>
    match node.sense.document 0 with
    | .ok d => return some d
    | .error (_, cause) => throw cause

end Yaml

end ToolWeave
