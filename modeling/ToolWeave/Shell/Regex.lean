import ToolWeave.Shell.Pattern

/-!
# Regular expressions

The expressions that utilities search texts with, in the basic and in the extended way of writing
them.

## Main definitions

* `Shell.Regex`: an expression.
* `Shell.Regex.read`: the expression that a text spells.
* `Shell.Regex.ends`: the places where a match from some place on can end.
* `Shell.Regex.search`: the first match, the longest of those that start at its place.

## Design notes

**Places, not paths.**  A match is followed by the set of places it can have reached.  Two ways to
the same place are merged at once, the earlier one being kept with its groups, so the work grows
with the length of the text and not with the number of ways.
-/

namespace ToolWeave

namespace Shell

/-- A regular expression. -/
inductive Regex where
  | empty
  /-- One byte out of a set. -/
  | member (set : UInt8 → Bool)
  | lineStart
  | lineEnd
  /-- A place between a word and what is no word: its start, its end, either, or neither. -/
  | wordEdge (atStart atEnd : Bool)
  | insideWord
  | group (number : Nat) (inner : Regex)
  /-- What a group has matched, once more. -/
  | again (number : Nat)
  | sequence (first second : Regex)
  | either (first second : Regex)
  | repeated (inner : Regex) (least : Nat) (most : Option Nat)

namespace Regex

/-- Why a text is no expression. -/
inductive Mistake where
  | openBracket
  | openParenthesis
  | openBrace
  | strayParenthesis
  | badClass
  | badReference
  | badCount
  | badRange
  | trailingBackslash
  | nothingToRepeat

/-- The message of a mistake. -/
def Mistake.message : Mistake → String
  | openBracket => "Unmatched [, [^, [:, [., or [="
  | openParenthesis => "Unmatched ( or \\("
  | openBrace => "Unmatched \\\x7b"
  | strayParenthesis => "Unmatched ) or \\)"
  | badClass => "Invalid character class name"
  | badReference => "Invalid back reference"
  | badCount => "Invalid content of \\\x7b\\\x7d"
  | badRange => "Invalid range end"
  | trailingBackslash => "Trailing backslash"
  | nothingToRepeat => "Invalid preceding regular expression"

/-- How expressions are written. -/
structure Manner where
  /-- Whether parentheses, braces and the like have a meaning without a backslash. -/
  extended : Bool
  /-- Whether letters match whatever their case. -/
  anyCase : Bool

/-- The other case of a letter. -/
def otherCase (b : UInt8) : UInt8 :=
  if 65 ≤ b && b ≤ 90 then b + 32 else if 97 ≤ b && b ≤ 122 then b - 32 else b

/-- A set as some manner has it. -/
def Manner.set (manner : Manner) (set : UInt8 → Bool) : UInt8 → Bool :=
  if manner.anyCase then fun b => set b || set (otherCase b) else set

/-- The expression of one byte. -/
def Manner.byte (manner : Manner) (b : UInt8) : Regex :=
  .member (manner.set fun c => c == b)

/-- Whether a byte belongs to a word. -/
def isWordByte (b : UInt8) : Bool := isLetter b || isDigit b || b == 95

/-- Reads the members of a bracket expression, up to the bracket that closes it. -/
def readMembers : (bound : Nat) → (first : Bool) → (UInt8 → Bool) → Bytes →
    Except Mistake ((UInt8 → Bool) × Bytes)
  | 0, _, _, _ => .error .openBracket
  | _, _, _, [] => .error .openBracket
  | bound + 1, first, isMember, 91 :: 58 :: text =>
    let name := text.takeWhile isLetter
    match text.drop name.length with
    | 58 :: 93 :: text =>
      match classMember? (textOf name) with
      | some isNew => readMembers bound false (fun c => isMember c || isNew c) text
      | none => .error .badClass
    | _ => readMembers bound (first && false) (fun c => isMember c || c == 91) (58 :: text)
  | bound + 1, first, isMember, b :: text =>
    if b = 93 && !first then .ok (isMember, text)
    else
      match text with
      | 45 :: last :: after =>
        if last = 93 then readMembers bound false (fun c => isMember c || c == b) text
        else if last < b then .error .badRange
        else readMembers bound false (fun c => isMember c || (b ≤ c && c ≤ last)) after
      | _ => readMembers bound false (fun c => isMember c || c == b) text

/-- Reads a bracket expression after its opening bracket. -/
def readBracket (manner : Manner) (text : Bytes) : Except Mistake (Regex × Bytes) := do
  let none : UInt8 → Bool := fun _ => false
  match text with
  | 94 :: rest => do
    let (set, rest) ← readMembers (text.length + 1) true none rest
    let set := manner.set set
    return (.member fun c => !set c, rest)
  | _ => do
    let (set, rest) ← readMembers (text.length + 1) true none text
    return (.member (manner.set set), rest)

/-- The counts of a repetition at the front of a text, and what follows them. -/
def readCounts (extended : Bool) (text : Bytes) :
    Except Mistake ((Nat × Option Nat) × Bytes) :=
  let number (digits : Bytes) : Nat := digits.foldl (fun n b => 10 * n + (b.toNat - 48)) 0
  let least := text.takeWhile isDigit
  let rest := text.drop least.length
  let close (rest : Bytes) : Option Bytes :=
    match extended, rest with
    | true, 125 :: rest => some rest
    | false, 92 :: 125 :: rest => some rest
    | _, _ => none
  match rest with
  | 44 :: rest =>
    let most := rest.takeWhile isDigit
    match close (rest.drop most.length) with
    | some rest =>
      let bounds := (number least, if most.isEmpty then none else some (number most))
      if bounds.2.any (· < bounds.1) then .error .badCount else .ok (bounds, rest)
    | none => if rest.contains 125 then .error .badCount else .error .openBrace
  | rest =>
    match close rest with
    | some rest =>
      if least.isEmpty then .error .badCount else .ok ((number least, some (number least)), rest)
    | none => if rest.contains 125 then .error .badCount else .error .openBrace

/-- What repeats what stands before it, if that comes next. -/
def repetition? (extended : Bool) (text : Bytes) :
    Except Mistake (Option ((Nat × Option Nat) × Bytes)) :=
  match extended, text with
  | _, 42 :: rest => .ok (some ((0, none), rest))
  | true, 43 :: rest => .ok (some ((1, none), rest))
  | true, 63 :: rest => .ok (some ((0, some 1), rest))
  | false, 92 :: 43 :: rest => .ok (some ((1, none), rest))
  | false, 92 :: 63 :: rest => .ok (some ((0, some 1), rest))
  | true, 123 :: rest =>
    if rest.head?.any fun b => isDigit b || b == 44 then (readCounts true rest).map some
    else .ok none
  | false, 92 :: 123 :: rest => (readCounts false rest).map some
  | _, _ => .ok none

/-- What a backslash and a letter mean. -/
def escape? (b : UInt8) : Option Regex :=
  match Char.ofNat b.toNat with
  | 'w' => some (.member isWordByte)
  | 'W' => some (.member fun c => !isWordByte c)
  | 's' => some (.member isSpaceByte)
  | 'S' => some (.member fun c => !isSpaceByte c)
  | 'b' => some (.wordEdge true true)
  | '<' => some (.wordEdge true false)
  | '>' => some (.wordEdge false true)
  | 'B' => some .insideWord
  | '\x60' => some .lineStart
  | '\'' => some .lineEnd
  | 'n' => some (.member fun c => c == 10)
  | 't' => some (.member fun c => c == 9)
  | _ => none

/-- Whether a text starts with what ends a branch. -/
def endsBranch (extended : Bool) : Bytes → Bool
  | [] => true
  | 124 :: _ => extended
  | 41 :: _ => extended
  | 92 :: 124 :: _ => !extended
  | 92 :: 41 :: _ => !extended
  | _ => false

mutual

/-- Reads branches of which one has to match.  `groups` counts the groups that have begun, and
`inside` tells whether a group is open. -/
def readBranches (manner : Manner) : (bound : Nat) → (groups : Nat) → (inside : Bool) → Bytes →
    Except Mistake (Regex × Nat × Bytes)
  | 0, _, _, _ => .error .openParenthesis
  | bound + 1, groups, inside, text => do
    let (first, groups, rest) ← readBranch manner bound groups inside true .empty text
    match manner.extended, rest with
    | true, 124 :: rest | false, 92 :: 124 :: rest => do
      let (second, groups, rest) ← readBranches manner bound groups inside rest
      return (.either first second, groups, rest)
    | _, _ => return (first, groups, rest)

/-- Reads parts onto those before them, up to the end of a branch. -/
def readBranch (manner : Manner) : (bound : Nat) → (groups : Nat) → (inside start : Bool) →
    Regex → Bytes → Except Mistake (Regex × Nat × Bytes)
  | 0, _, _, _, _, _ => .error .openParenthesis
  | bound + 1, groups, inside, start, before, text =>
    let stray : Bool :=
      match manner.extended, text with
      | true, 41 :: _ => !inside
      | _, _ => false
    if endsBranch manner.extended text && !stray then .ok (before, groups, text)
    else do
      let (part, groups, rest) ← readPart manner bound groups start text
      let (part, rest) ← readRepetitions manner bound part rest
      readBranch manner bound groups inside false (.sequence before part) rest

/-- Reads what repeats a part. -/
def readRepetitions (manner : Manner) : (bound : Nat) → Regex → Bytes →
    Except Mistake (Regex × Bytes)
  | 0, part, text => .ok (part, text)
  | bound + 1, part, text => do
    match ← repetition? manner.extended text with
    | some ((least, most), rest) => readRepetitions manner bound (.repeated part least most) rest
    | none => return (part, text)

/-- Reads one part: a byte, a set, a place or a group. -/
def readPart (manner : Manner) : (bound : Nat) → (groups : Nat) → (start : Bool) → Bytes →
    Except Mistake (Regex × Nat × Bytes)
  | 0, _, _, _ => .error .openParenthesis
  | bound + 1, groups, start, text => do
    let group (rest : Bytes) : Except Mistake (Regex × Nat × Bytes) := do
      let (inner, count, rest) ← readBranches manner bound (groups + 1) true rest
      match manner.extended, rest with
      | true, 41 :: rest | false, 92 :: 41 :: rest => return (.group (groups + 1) inner, count, rest)
      | _, _ => throw .openParenthesis
    match manner.extended, text with
    | _, [] => return (.empty, groups, [])
    | _, 46 :: rest => return (.member fun _ => true, groups, rest)
    | _, 91 :: rest => do
      let (set, rest) ← readBracket manner rest
      return (set, groups, rest)
    | true, 94 :: rest => return (.lineStart, groups, rest)
    | true, 36 :: rest => return (.lineEnd, groups, rest)
    | false, 94 :: rest =>
      if start then do
        match rest with
        | 42 :: rest => return (.sequence .lineStart (manner.byte 42), groups, rest)
        | rest => return (.lineStart, groups, rest)
      else return (manner.byte 94, groups, rest)
    | false, 36 :: rest =>
      return (if endsBranch false rest then .lineEnd else manner.byte 36, groups, rest)
    | true, 40 :: rest => group rest
    | false, 92 :: 40 :: rest => group rest
    | _, [92] => throw .trailingBackslash
    | _, 92 :: b :: rest =>
      if 49 ≤ b && b ≤ 57 then
        if b.toNat - 48 ≤ groups then return (.again (b.toNat - 48), groups, rest)
        else throw .badReference
      else return ((escape? b).getD (manner.byte b), groups, rest)
    | true, 42 :: rest => return (if start then .empty else manner.byte 42, groups, rest)
    | _, b :: rest => return (manner.byte b, groups, rest)

end

/-- The expression that a text spells. -/
def read (manner : Manner) (text : Bytes) : Except Mistake Regex := do
  let (regex, _, rest) ← readBranches manner (8 * text.length + 16) 0 false text
  if rest.isEmpty then return regex else throw .strayParenthesis

/-- A place in a text, and what the groups have matched on the way to it. -/
structure Place where
  position : Nat
  groups : List (Nat × Nat × Nat)

/-- Places without those whose position an earlier one has. -/
def merge (places : List Place) : List Place :=
  (places.foldl (fun kept place =>
    if kept.any fun other => other.position == place.position then kept else place :: kept)
    []).reverse

/-- Follows something again and again from some places.  `seen` holds the places that are reached
often enough, `count` tells how often it was followed. -/
def followAgain (step : Place → List Place) (least : Nat) (most : Option Nat) :
    (bound : Nat) → (count : Nat) → (front seen : List Place) → List Place
  | 0, _, _, seen => seen
  | bound + 1, count, front, seen =>
    let seen' := if least ≤ count then merge (seen ++ front) else seen
    if most.any (· ≤ count) || front.isEmpty then seen'
    else
      let next := merge (front.flatMap step)
      let isNew (place : Place) : Bool :=
        !(seen'.any fun other => other.position == place.position)
      followAgain step least most bound (count + 1) (next.filter isNew) seen'

/-- Whether a word ends or begins at a position. -/
def wordSides (text : Array UInt8) (position : Nat) : Bool × Bool :=
  let before := 0 < position && (text[position - 1]?).any isWordByte
  (before, (text[position]?).any isWordByte)

/-- The places where a match from some place on can end. -/
def ends (text : Array UInt8) : Regex → Place → List Place
  | empty, place => [place]
  | member set, place =>
    match text[place.position]? with
    | some b => if set b then [{ place with position := place.position + 1 }] else []
    | none => []
  | lineStart, place => if place.position = 0 then [place] else []
  | lineEnd, place => if place.position = text.size then [place] else []
  | wordEdge atStart atEnd, place =>
    let (before, after) := wordSides text place.position
    if (atStart && !before && after) || (atEnd && before && !after) then [place] else []
  | insideWord, place =>
    let (before, after) := wordSides text place.position
    if before == after then [place] else []
  | group number inner, place =>
    (ends text inner place).map fun reached =>
      { reached with groups :=
          Entries.put number (place.position, reached.position) reached.groups }
  | again number, place =>
    match Entries.get? number place.groups with
    | some (start, stop) =>
      let part := text.extract start stop
      if text.extract place.position (place.position + part.size) == part then
        [{ place with position := place.position + part.size }]
      else []
    | none => []
  | sequence first second, place =>
    merge ((ends text first place).flatMap fun reached => ends text second reached)
  | either first second, place => merge (ends text first place ++ ends text second place)
  | repeated inner least most, place =>
    (followAgain (ends text inner) least most (text.size + least + 2) 0 [place] []).reverse

/-- A match: where it starts and ends, and what the groups have matched. -/
structure Found where
  start : Nat
  stop : Nat
  groups : List (Nat × Nat × Nat)

/-- The longest match that starts at a position. -/
def matchAt (regex : Regex) (text : Array UInt8) (position : Nat) : Option Found :=
  (ends text regex ⟨position, []⟩).foldl (fun best place =>
    if best.any fun found => place.position ≤ found.stop then best
    else some ⟨position, place.position, place.groups⟩) none

/-- The first match from a position on, the longest of those that start at its place. -/
def search (regex : Regex) (text : Array UInt8) (position : Nat) : Option Found :=
  (List.range (text.size + 1 - position)).findSome? fun i => regex.matchAt text (position + i)

/-- Whether there is a match in a text. -/
def occursIn (regex : Regex) (text : Bytes) : Bool := (regex.search text.toArray 0).isSome

end Regex

end Shell

end ToolWeave
