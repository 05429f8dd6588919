import ToolWeave.Config.Yaml.Token

/-!
# Nodes of an indented text

The structure of a document: scalars, lists and mappings, each with a tag that says what kind of
thing it is, before it is known what the scalars mean.

## Main definitions

* `Yaml.Node`: a node.
* `Yaml.Source`: the tokens that are left, and the names given so far.
* `Yaml.readNode`: the node at the front.
* `Yaml.readRoot`: the node of a text that holds one document.

## Design notes

**What may be missing.**  An item, a key or a value of which nothing is written is an empty plain
scalar.  A node with a tag or a name but no content is one too.

**Names.**  A name stands for the node it was given to.  It cannot be used inside of that node, and
cannot be given twice.
-/

namespace ToolWeave

namespace Yaml

/-- The tag of a node. -/
inductive Tag where
  /-- None is written, and a plain scalar tells by its text what it is. -/
  | plain
  /-- None is written, and the node is a text, a list or a mapping by the way it is written. -/
  | usual
  | written (name : String)
  deriving DecidableEq

/-- A node. -/
inductive Node where
  | scalar (tag : Tag) (text : List Char)
  | list (tag : Tag) (items : List Node)
  | mapping (tag : Tag) (entries : List (Node × Node))

/-- The node of which nothing is written. -/
def Node.empty : Node := .scalar .plain []

/-- The tokens that are left, and what has been named so far. -/
structure Source where
  tokens : List Token
  /-- The nodes by their names; none as long as a node is not complete. -/
  anchors : Entries (Option Node)
  /-- What the handles of tags stand for. -/
  handles : Entries String

namespace Source

/-- The source after one token. -/
def next (s : Source) : Source := { s with tokens := s.tokens.drop 1 }

/-- The fault of a source whose next token cannot stand where it does. -/
def fault {α : Type} (s : Source) : Except Fault α :=
  match s.tokens with
  | .fault cause :: _ => .error cause
  | _ => .error .malformed

/-- Gives a node a name, if there is one. -/
def give (s : Source) (name : Option String) (node : Option Node) : Source :=
  match name with
  | some name => { s with anchors := Entries.put name node s.anchors }
  | none => s

/-- The name at the front, if there is one. -/
def cutAnchor (s : Source) : Option String × Source :=
  match s.tokens with
  | .anchor name :: _ => (some name, s.next)
  | _ => (none, s)

/-- The tag at the front, if there is one: its handle replaced by what that stands for. -/
def cutTag (s : Source) : Except Fault (Option String × Source) :=
  match s.tokens with
  | .tag none suffix :: _ => .ok (some suffix, s.next)
  | .tag (some handle) suffix :: _ =>
    match Entries.get? handle s.handles with
    | some text => .ok (some (text ++ suffix), s.next)
    | none => .error .malformed
  | _ => .ok (none, s)

/-- The name and the tag at the front, in either order. -/
def cutProperties (s : Source) : Except Fault ((Option String × Option String) × Source) := do
  let (early, s) := s.cutAnchor
  let (tag, s) ← s.cutTag
  let (late, s) := if early.isNone && tag.isSome then s.cutAnchor else (none, s)
  let name := early.or late
  if name.any fun name => Entries.has name s.anchors then throw .malformed
  return ((name, tag), s)

end Source

/-- Whether a token begins an item. -/
def Token.isItem : Token → Bool
  | item => true
  | _ => false

/-- Whether a token ends a block. -/
def Token.endsBlock : Token → Bool
  | blockEnd => true
  | _ => false

/-- Whether a token begins a key or a value, or ends a block. -/
def Token.endsEntry : Token → Bool
  | key | value | blockEnd => true
  | _ => false

/-- Whether a token ends a part of a list in brackets. -/
def Token.endsListPart : Token → Bool
  | comma | listEnd => true
  | _ => false

/-- Whether a token ends a part of a mapping in brackets. -/
def Token.endsMapPart : Token → Bool
  | comma | mapEnd => true
  | _ => false

/-- Whether a token begins a value. -/
def Token.isValue : Token → Bool
  | value => true
  | _ => false

/-- The blocks that a node may be where it stands. -/
inductive Blocks where
  | none
  | indented
  /-- Also items that are not indented, as the value of an entry may be. -/
  | all
  deriving DecidableEq

/-- The tag of a list or a mapping.  A lone exclamation mark says nothing. -/
def Tag.ofCollection : Option String → Tag
  | none | some "!" => .usual
  | some name => .written name

/-- The tag of a scalar.  A lone exclamation mark makes it tell by its text what it is. -/
def Tag.ofScalar (isPlain : Bool) : Option String → Tag
  | none => if isPlain then .plain else .usual
  | some "!" => .plain
  | some name => .written name

mutual

/-- The node at the front. -/
def readNode : (bound : Nat) → Blocks → Source → Except Fault (Node × Source)
  | 0, _, s => s.fault
  | bound + 1, blocks, s =>
    match s.tokens with
    | .reference name :: _ =>
      match Entries.get? name s.anchors with
      | some (some node) => .ok (node, s.next)
      | _ => .error .malformed
    | _ => do
      let ((name, tag), s) ← s.cutProperties
      let complete (read : Node × Source) : Node × Source := (read.1, read.2.give name read.1)
      let inside := s.give name none
      let kind := Tag.ofCollection tag
      match s.tokens with
      | .scalar isPlain text :: _ =>
        return complete (.scalar (Tag.ofScalar isPlain tag) text, s.next)
      | .listStart :: _ =>
        let (items, s) ← readList bound true [] inside.next
        return complete (.list kind items, s)
      | .mapStart :: _ =>
        let (entries, s) ← readMap bound true [] inside.next
        return complete (.mapping kind entries, s)
      | .item :: _ =>
        if blocks = .all then
          let (items, s) ← readItems bound true [] inside
          return complete (.list kind items, s)
        else emptyNode name tag s
      | .itemsStart :: _ =>
        if blocks = .none then emptyNode name tag s
        else
          let (items, s) ← readItems bound false [] inside.next
          return complete (.list kind items, s)
      | .entriesStart :: _ =>
        if blocks = .none then emptyNode name tag s
        else
          let (entries, s) ← readEntries bound [] inside.next
          return complete (.mapping kind entries, s)
      | _ => emptyNode name tag s
where
  /-- The node of which nothing but a name and a tag is written. -/
  emptyNode (name tag : Option String) (s : Source) : Except Fault (Node × Source) :=
    if name.isNone && tag.isNone then s.fault
    else
      let node := Node.scalar (Tag.ofScalar true tag) []
      .ok (node, s.give name node)

/-- The node at the front, or an empty one if what comes next ends it. -/
def readPart : (bound : Nat) → Blocks → (ends : Token → Bool) → Source →
    Except Fault (Node × Source)
  | 0, _, _, s => s.fault
  | bound + 1, blocks, ends, s =>
    if s.tokens.head?.any ends then .ok (.empty, s) else readNode bound blocks s

/-- The value that a mark of a value at the front begins, or an empty one if there is no such
mark. -/
def readValue : (bound : Nat) → Blocks → (ends : Token → Bool) → Source →
    Except Fault (Node × Source)
  | 0, _, _, s => s.fault
  | bound + 1, blocks, ends, s =>
    if s.tokens.head?.any Token.isValue then readPart bound blocks ends s.next
    else .ok (.empty, s)

/-- The items of a block, `read` holding those before, the last one first.  Items that are not
indented end without a token for it. -/
def readItems : (bound : Nat) → (bare : Bool) → (read : List Node) → Source →
    Except Fault (List Node × Source)
  | 0, _, _, s => s.fault
  | bound + 1, bare, read, s =>
    match s.tokens with
    | .item :: _ => do
      let ends (t : Token) : Bool := t.isItem || t.endsBlock || (bare && t.endsEntry)
      let (item, s) ← readPart bound .indented ends s.next
      readItems bound bare (item :: read) s
    | .blockEnd :: _ => .ok (read.reverse, if bare then s else s.next)
    | _ => if bare then .ok (read.reverse, s) else s.fault

/-- The entries of a block, `read` holding those before, the last one first. -/
def readEntries : (bound : Nat) → (read : List (Node × Node)) → Source →
    Except Fault (List (Node × Node) × Source)
  | 0, _, s => s.fault
  | bound + 1, read, s =>
    match s.tokens with
    | .key :: _ => do
      let (key, s) ← readPart bound .all Token.endsEntry s.next
      let (value, s) ← readValue bound .all Token.endsEntry s
      readEntries bound ((key, value) :: read) s
    | .blockEnd :: _ => .ok (read.reverse, s.next)
    | _ => s.fault

/-- The items of a list in brackets, `read` holding those before, the last one first.  An item with
a colon is a mapping of one entry. -/
def readList : (bound : Nat) → (first : Bool) → (read : List Node) → Source →
    Except Fault (List Node × Source)
  | 0, _, _, s => s.fault
  | bound + 1, first, read, s =>
    match s.tokens with
    | .listEnd :: _ => .ok (read.reverse, s.next)
    | t :: _ => do
      let s ←
        match first, t with
        | true, _ => pure s
        | false, .comma => pure s.next
        | false, _ => s.fault
      match s.tokens with
      | .listEnd :: _ => return (read.reverse, s.next)
      | .key :: _ =>
        let ends (t : Token) : Bool := t.isValue || t.endsListPart
        let (key, s) ← readPart bound .none ends s.next
        let (value, s) ← readValue bound .none Token.endsListPart s
        readList bound false (.mapping .usual [(key, value)] :: read) s
      | _ =>
        let (item, s) ← readNode bound .none s
        readList bound false (item :: read) s
    | [] => s.fault

/-- The entries of a mapping in brackets, `read` holding those before, the last one first. -/
def readMap : (bound : Nat) → (first : Bool) → (read : List (Node × Node)) → Source →
    Except Fault (List (Node × Node) × Source)
  | 0, _, _, s => s.fault
  | bound + 1, first, read, s =>
    match s.tokens with
    | .mapEnd :: _ => .ok (read.reverse, s.next)
    | t :: _ => do
      let s ←
        match first, t with
        | true, _ => pure s
        | false, .comma => pure s.next
        | false, _ => s.fault
      match s.tokens with
      | .mapEnd :: _ => return (read.reverse, s.next)
      | .key :: _ =>
        let ends (t : Token) : Bool := t.isValue || t.endsMapPart
        let (key, s) ← readPart bound .none ends s.next
        let (value, s) ← readValue bound .none Token.endsMapPart s
        readMap bound false ((key, value) :: read) s
      | _ =>
        let (key, s) ← readNode bound .none s
        readMap bound false ((key, .empty) :: read) s
    | [] => s.fault

end

/-- What the handles of tags stand for unless a document says otherwise. -/
def usualHandles : Entries String := [("!", "!"), ("!!", "tag:yaml.org,2002:")]

/-- The source after the directives at the front, which say what handles stand for. -/
def readDirectives : List Token → (version : Bool) → (handles : Entries String) →
    Except Fault (List Token × Entries String)
  | .directive (.version major) :: rest, version, handles =>
    if version || major != 1 then .error .malformed else readDirectives rest true handles
  | .directive (.handle name text) :: rest, version, handles =>
    if Entries.has name handles then .error .malformed
    else readDirectives rest version (handles ++ [(name, text)])
  | .directive .other :: rest, version, handles => readDirectives rest version handles
  | rest, _, handles => .ok (rest, handles ++ usualHandles)

/-- The node of a text that holds at most one document. -/
def readRoot (tokens : List Token) : Except Fault (Option Node) := do
  let bound := 4 * tokens.length + 8
  let source (tokens : List Token) (handles : Entries String) : Source := ⟨tokens, [], handles⟩
  let (root, s) : Option Node × Source ←
    match tokens with
    | [] => pure (none, source [] usualHandles)
    | .directive _ :: _ | .documentStart :: _ => do
      let (tokens, handles) ← readDirectives tokens false []
      match tokens with
      | .documentStart :: rest =>
        let s := source rest handles
        match rest with
        | [] | .directive _ :: _ | .documentStart :: _ | .documentEnd :: _ =>
          pure (some .empty, s)
        | _ => do
          let (node, s) ← readNode bound .indented s
          pure (some node, s)
      | _ => (source tokens handles).fault
    | _ => do
      let (node, s) ← readNode bound .indented (source tokens usualHandles)
      pure (some node, s)
  let isEnd (t : Token) : Bool := match t with | .documentEnd => true | _ => false
  let s := { s with tokens := s.tokens.dropWhile isEnd }
  if s.tokens.isEmpty then return root else s.fault

end Yaml

end ToolWeave
