import ToolWeave.Shell.Utility.Search

/-!
# Editing lines

The utility that carries out a script of edits on each line of its input.

## Main definitions

* `Shell.Edit.Command`: an edit.
* `Shell.Edit.readScript`: the edits that a text spells.
* `Shell.Edit.State`: the line being edited, and what has been set aside.
* `Shell.Edit.cycle`: all edits carried out on one line.
* `Shell.sed`: the utility.

## Design notes

**Blocks and jumps.**  A script is a flat list of edits.  The start of a block is an edit that goes
on behind the block unless its line is selected, so jumps need no other means than a position.
-/

namespace ToolWeave

namespace Shell

namespace Edit

/-- What selects lines. -/
inductive Address where
  | line (number : Nat)
  | last
  /-- Lines in which an expression matches, the one used last if none is given. -/
  | matching (regex : Option Regex)
  /-- Every so many lines from one on. -/
  | every (first step : Nat)

/-- Where a range of lines ends. -/
inductive RangeEnd where
  | address (address : Address)
  /-- So many lines later. -/
  | later (count : Nat)

/-- A part of a replacement. -/
inductive Part where
  | text (text : Bytes)
  /-- What a group has matched; the whole match is group zero. -/
  | group (number : Nat)
  /-- From here on letters are changed: all to upper case, all to lower case, or no longer. -/
  | letters (upper : Option Bool)
  /-- The next letter is changed. -/
  | letter (upper : Bool)

/-- An edit. -/
inductive Command where
  | substitute (regex : Option Regex) (replacement : List Part) (all : Bool) (first : Nat)
      (prints : Bool)
  | transliterate (source target : Bytes)
  | print
  | printFirst
  | delete
  | deleteFirst
  | quit (code : Nat) (prints : Bool)
  | number
  | append (text : Bytes)
  | insert (text : Bytes)
  | change (text : Bytes)
  | next
  | nextAppended
  | hold
  | holdAppended
  | fetch
  | fetchAppended
  | exchange
  | jump (label : Bytes)
  | jumpIfReplaced (label : Bytes)
  | label (name : Bytes)
  /-- The start of a block. -/
  | block
  | blockEnd

/-- An edit and the lines it is for. -/
structure Entry where
  first : Option Address
  last : Option RangeEnd
  negated : Bool
  command : Command

/-- What is left of a script, and how it is written. -/
structure Reading where
  rest : Bytes
  manner : Regex.Manner
  /-- How many blocks are open. -/
  depth : Nat

/-- A reader of some part of a script; what is wrong comes with what was left by then. -/
abbrev Reader (α : Type) : Type := StateT Reading (Except (String × Bytes)) α

/-- Stops for something that is wrong. -/
def refuse {α : Type} (text : String) : Reader α := do throw (text, (← get).rest)

/-- What is left. -/
def rest : Reader Bytes := do return (← get).rest

/-- Goes on with another text. -/
def goTo (text : Bytes) : Reader Unit := modify fun r => { r with rest := text }

/-- Passes over blanks. -/
def skipBlanks : Reader Bytes := do
  let text := (← rest).dropWhile fun b => b == 32 || b == 9
  goTo text
  return text

/-- Cuts a text at a byte that no backslash stands before.  A backslash before that byte is left
out; in a bracket expression the byte is kept as it is. -/
def cutDelimited (delimiter : UInt8) (isRegex : Bool) : (bound : Nat) → (inBracket : Bool) →
    (read : Bytes) → Bytes → Option (Bytes × Bytes)
  | 0, _, _, _ => none
  | _, _, _, [] => none
  | bound + 1, inBracket, read, b :: text =>
    if b = delimiter && !inBracket then some (read.reverse, text)
    else if b = 10 && isRegex && !inBracket then none
    else if b = 92 && !inBracket then
      match text with
      | c :: text =>
        if c = delimiter then
          let kept : Bytes := if isRegex || c != 38 then [c] else [c, 92]
          cutDelimited delimiter isRegex bound false (kept ++ read) text
        else cutDelimited delimiter isRegex bound false (c :: 92 :: read) text
      | [] => none
    else
      let opens := isRegex && b == 91 && !inBracket
      let closes := inBracket && b == 93 && read.head? != some 91 &&
        !(read.take 2 == [94, 91])
      cutDelimited delimiter isRegex bound ((inBracket || opens) && !closes) (b :: read) text

/-- Reads an expression up to a delimiter; an empty one is the one used last. -/
def readRegex (delimiter : UInt8) (failure : String) (anyCase : Bytes → Bool) :
    Reader (Option Regex) := do
  let text ← rest
  match cutDelimited delimiter true (text.length + 1) false [] text with
  | none => do
    goTo []
    refuse failure
  | some (inside, after) => do
    goTo after
    if inside.isEmpty then return none
    else
      let manner := (← get).manner
      match Regex.read { manner with anyCase := anyCase after } inside with
      | .ok regex => return some regex
      | .error mistake => refuse mistake.message

/-- Reads a number. -/
def readNumber : Reader Nat := do
  let text ← rest
  let digits := text.takeWhile isDigit
  goTo (text.drop digits.length)
  return digits.foldl (fun n b => 10 * n + (b.toNat - 48)) 0

/-- Reads an address, if one comes next. -/
def readAddress : Reader (Option Address) := do
  match ← rest with
  | 36 :: text => do
    goTo text
    return some .last
  | 47 :: text => do
    goTo text
    let regex ← readRegex 47 "unterminated address regex" fun after => after.head? == some 73
    if (← rest).head? = some 73 then goTo ((← rest).drop 1)
    return some (.matching regex)
  | 92 :: delimiter :: text => do
    goTo text
    return some (.matching (← readRegex delimiter "unterminated address regex" fun _ => false))
  | b :: _ =>
    if isDigit b then do
      let first ← readNumber
      match ← rest with
      | 126 :: text => do
        goTo text
        return some (.every first (← readNumber))
      | _ => return some (.line first)
    else return none
  | [] => return none

/-- Reads the end of a range after a comma. -/
def readRangeEnd : Reader RangeEnd := do
  match ← skipBlanks with
  | 43 :: text => do
    goTo text
    return .later (← readNumber)
  | _ =>
    match ← readAddress with
    | some address => return .address address
    | none => refuse "unexpected \x60,'"

/-- The parts of a replacement. -/
def parts : (bound : Nat) → Bytes → List Part
  | 0, _ => []
  | _, [] => []
  | bound + 1, 38 :: text => .group 0 :: parts bound text
  | bound + 1, 92 :: b :: text =>
    if isDigit b then .group (b.toNat - 48) :: parts bound text
    else
      match Char.ofNat b.toNat with
      | 'n' => .text [10] :: parts bound text
      | 't' => .text [9] :: parts bound text
      | 'U' => .letters (some true) :: parts bound text
      | 'L' => .letters (some false) :: parts bound text
      | 'E' => .letters none :: parts bound text
      | 'u' => .letter true :: parts bound text
      | 'l' => .letter false :: parts bound text
      | _ => .text [b] :: parts bound text
  | bound + 1, b :: text => .text [b] :: parts bound text

/-- The flags of a substitution. -/
structure Flags where
  all : Bool := false
  first : Nat := 1
  prints : Bool := false

/-- Reads the flags of a substitution. -/
def readFlags : (bound : Nat) → Flags → Reader Flags
  | 0, flags => return flags
  | bound + 1, flags => do
    match ← rest with
    | 103 :: text => do
      goTo text
      readFlags bound { flags with all := true }
    | 112 :: text => do
      goTo text
      readFlags bound { flags with prints := true }
    | 73 :: text | 105 :: text | 109 :: text | 77 :: text => do
      goTo text
      readFlags bound flags
    | b :: text =>
      if 49 ≤ b && b ≤ 57 then do
        let n ← readNumber
        readFlags bound { flags with first := n }
      else if b = 10 || b = 59 || b = 125 || b = 32 || b = 35 then return flags
      else do
        goTo text
        refuse "unknown option to \x60s'"
    | [] => return flags

/-- Reads the text of an edit that adds lines. -/
def readText : Reader Bytes := do
  let text ← skipBlanks
  let text :=
    match text with
    | 92 :: rest =>
      match rest.dropWhile fun b => b == 32 || b == 9 with
      | 10 :: rest => rest
      | _ => rest
    | text => text
  if text.isEmpty then refuse "expected \\ after \x60a', \x60c' or \x60i'"
  else
    let rec lines : (read : Bytes) → Bytes → Bytes × Bytes
      | read, [] => (read.reverse, [])
      | read, 92 :: b :: rest => lines (b :: read) rest
      | read, 10 :: rest => (read.reverse, rest)
      | read, b :: rest => lines (b :: read) rest
    let (read, rest) := lines [] text
    goTo rest
    return read ++ [10]

/-- Reads the name of a label. -/
def readLabel : Reader Bytes := do
  let text ← skipBlanks
  let name := text.takeWhile fun b => b != 10 && b != 59
  goTo (text.drop name.length)
  return (name.reverse.dropWhile isSpaceByte).reverse

/-- Reads an edit after its lines. -/
def readEdit : Reader Command := do
  match ← skipBlanks with
  | [] => refuse "missing command"
  | b :: text => do
    goTo text
    match Char.ofNat b.toNat with
    | 's' =>
      match text with
      | [] => refuse "unterminated \x60s' command"
      | delimiter :: text => do
        goTo text
        let flagLetters (after : Bytes) : Bool :=
          match cutDelimited delimiter false (after.length + 1) false [] after with
          | some (_, flags) => (flags.takeWhile isLetter).any fun b => b == 73 || b == 105
          | none => false
        let regex ← readRegex delimiter "unterminated \x60s' command" flagLetters
        let text ← rest
        match cutDelimited delimiter false (text.length + 1) false [] text with
        | none => do
          goTo []
          refuse "unterminated \x60s' command"
        | some (replacement, after) => do
          goTo after
          let flags ← readFlags 32 {}
          return .substitute regex (parts (replacement.length + 1) replacement) flags.all flags.first
            flags.prints
    | 'y' =>
      match text with
      | [] => refuse "unterminated \x60y' command"
      | delimiter :: text =>
        match cutDelimited delimiter false (text.length + 1) false [] text with
        | none => do
          goTo []
          refuse "unterminated \x60y' command"
        | some (source, text) =>
          match cutDelimited delimiter false (text.length + 1) false [] text with
          | none => do
            goTo []
            refuse "unterminated \x60y' command"
          | some (target, after) => do
            goTo after
            let plain (text : Bytes) : Bytes :=
              (parts (text.length + 1) text).flatMap fun part =>
                match part with
                | .text text => text
                | .group _ => [38]
                | _ => []
            if (plain source).length ≠ (plain target).length then
              refuse "strings for \x60y' command are different lengths"
            else return .transliterate (plain source) (plain target)
    | 'p' => return .print
    | 'P' => return .printFirst
    | 'd' => return .delete
    | 'D' => return .deleteFirst
    | 'q' => do
      let _ ← skipBlanks
      return .quit (← readNumber) true
    | 'Q' => do
      let _ ← skipBlanks
      return .quit (← readNumber) false
    | '=' => return .number
    | 'a' => return .append (← readText)
    | 'i' => return .insert (← readText)
    | 'c' => return .change (← readText)
    | 'n' => return .next
    | 'N' => return .nextAppended
    | 'h' => return .hold
    | 'H' => return .holdAppended
    | 'g' => return .fetch
    | 'G' => return .fetchAppended
    | 'x' => return .exchange
    | 'b' => return .jump (← readLabel)
    | 't' => return .jumpIfReplaced (← readLabel)
    | ':' => return .label (← readLabel)
    | '\x7b' => do
      modify fun r => { r with depth := r.depth + 1 }
      return .block
    | '\x7d' => do
      if (← get).depth = 0 then refuse "unexpected \x60\x7d'"
      else do
        modify fun r => { r with depth := r.depth - 1 }
        return .blockEnd
    | c => refuse s!"unknown command: \x60{c}'"

/-- Reads edits onto those before them. -/
def readEntries : (bound : Nat) → List Entry → Reader (List Entry)
  | 0, read => return read
  | bound + 1, read => do
    let text := (← rest).dropWhile fun b => isSpaceByte b || b == 59
    goTo text
    match text with
    | [] => return read
    | 35 :: _ => do
      goTo (text.dropWhile (· != 10))
      readEntries bound read
    | _ => do
      let first ← readAddress
      let text ← skipBlanks
      let last ← (do
        match first, text with
        | some _, 44 :: text => do
          goTo text
          return some (← readRangeEnd)
        | _, _ => return none : Reader (Option RangeEnd))
      let text ← skipBlanks
      let negated := text.head? == some 33
      if negated then goTo (text.drop 1)
      let command ← readEdit
      let ends : Bool :=
        match command with
        | .block | .blockEnd | .append _ | .insert _ | .change _ | .label _ => true
        | _ => false
      let after ← skipBlanks
      match ends, after with
      | false, b :: after =>
        if b = 10 || b = 59 || b = 125 || b = 35 then
          readEntries bound (read ++ [⟨first, last, negated, command⟩])
        else do
          goTo after
          refuse "extra characters after command"
      | _, _ => readEntries bound (read ++ [⟨first, last, negated, command⟩])

/-- The edits that a text spells, or what is wrong with it. -/
def readScript (manner : Regex.Manner) (text : Bytes) : Except String (List Entry) :=
  match (readEntries (text.length + 1) []).run ⟨text, manner, 0⟩ with
  | .ok (entries, after) =>
    if 0 < after.depth then .error "-e expression #1, char 0: unmatched \x60\x7b'" else .ok entries
  | .error (problem, left) =>
    .error s!"-e expression #1, char {text.length - left.length}: {problem}"

/-- The line being edited, and what has been set aside. -/
structure State where
  line : Bytes
  /-- Whether a line feed ended the line. -/
  ended : Bool
  held : Bytes
  number : Nat
  /-- The lines that have not been looked at yet. -/
  left : List Bytes
  output : Bytes
  /-- What is written after the line. -/
  after : Bytes
  /-- The ranges that a line has entered, by the positions of their edits, with the numbers of their
  last lines if these are known. -/
  entered : List (Nat × Option Nat)
  regex : Option Regex
  /-- Whether something has been replaced since the last jump or the start of the line. -/
  replaced : Bool
  /-- The code of the end, once it is decided. -/
  code : Option Nat
  /-- Whether lines are written at all unless an edit says so. -/
  quiet : Bool

namespace State

/-- Writes a line. -/
def write (s : State) (line : Bytes) : State :=
  { s with output := s.output ++ line ++ (if s.ended then [10] else []) }

/-- The expression that is meant. -/
def regexOf (s : State) (regex : Option Regex) : Regex := (regex.or s.regex).getD .empty

/-- Whether an address selects the line. -/
def isAt (s : State) : Address → Bool
  | .line number => s.number = number
  | .last => s.left.isEmpty
  | .matching regex => (s.regexOf regex).occursIn s.line
  | .every first step =>
    if step = 0 then s.number = first else first ≤ s.number && (s.number - first) % step = 0

/-- The state after an expression was used. -/
def noting (s : State) : Address → State
  | .matching (some regex) => { s with regex := some regex }
  | _ => s

/-- Whether an edit is for the line, and the state after finding out. -/
def selects (s : State) (position : Nat) (entry : Entry) : Bool × State :=
  match entry.first, entry.last with
  | none, _ => (true, s)
  | some first, none => (s.isAt first, s.noting first)
  | some first, some last =>
    match Entries.get? position s.entered with
    | some known =>
      let leave : State := { s with entered := Entries.erase position s.entered }
      match last, known with
      | _, some number =>
        if number ≤ s.number then (decide (s.number = number), leave) else (true, s)
      | .address address, none => (true, if s.isAt address then leave else s)
      | .later _, none => (true, leave)
    | none =>
      if !s.isAt first then (false, s)
      else
        let s := s.noting first
        let enter (known : Option Nat) : State :=
          { s with entered := Entries.put position known s.entered }
        match last with
        | .later count => (true, if count = 0 then s else enter (some (s.number + count)))
        | .address (.line number) =>
          (true, if number ≤ s.number then s else enter (some number))
        | .address _ => (true, enter none)

/-- A text with its letters changed. -/
def recase (upper : Bool) (text : Bytes) : Bytes :=
  text.map fun b =>
    if upper then (if 97 ≤ b && b ≤ 122 then b - 32 else b)
    else if 65 ≤ b && b ≤ 90 then b + 32 else b

/-- What a match is replaced by. -/
def replacementOf (text : Array UInt8) (found : Regex.Found) (replacement : List Part) : Bytes :=
  (replacement.foldl (fun (state : Bytes × Option Bool × Option Bool) part =>
    let (read, all, one) := state
    let add (text : Bytes) : Bytes × Option Bool × Option Bool :=
      let text := match all with | some upper => recase upper text | none => text
      match one, text with
      | some upper, b :: rest => (read ++ recase upper [b] ++ rest, all, none)
      | _, _ => (read ++ text, all, one)
    match part with
    | .text text => add text
    | .group 0 => add (text.extract found.start found.stop).toList
    | .group number =>
      match Entries.get? number found.groups with
      | some (start, stop) => add (text.extract start stop).toList
      | none => state
    | .letters upper => (read, upper, none)
    | .letter upper => (read, all, some upper)) ([], none, none)).1

/-- Replaces matches from some position on.  `count` tells how many have been found, and `last` where
the last one ended. -/
def substituteFrom (regex : Regex) (text : Array UInt8) (replacement : List Part) (all : Bool)
    (first : Nat) : (bound : Nat) → (position count : Nat) → (last : Option Nat) →
    Bytes → Bytes × Bool
  | 0, position, _, _, read => (read ++ (text.extract position text.size).toList, false)
  | bound + 1, position, count, last, read =>
    match regex.search text position with
    | none => (read ++ (text.extract position text.size).toList, false)
    | some found =>
      let before := (text.extract position found.start).toList
      let isRepeat := found.stop = found.start && last = some found.start
      let step := (text.extract found.stop (found.stop + 1)).toList
      if isRepeat then
        if text.size ≤ found.start then (read ++ before, false)
        else substituteFrom regex text replacement all first bound (found.stop + 1) count none
          (read ++ before ++ step)
      else if count + 1 < first then
        let matched := (text.extract found.start found.stop).toList
        if found.stop = found.start then
          if text.size ≤ found.start then (read ++ before, false)
          else substituteFrom regex text replacement all first bound (found.stop + 1) (count + 1)
            none (read ++ before ++ step)
        else substituteFrom regex text replacement all first bound found.stop (count + 1)
          (some found.stop) (read ++ before ++ matched)
      else
        let read := read ++ before ++ replacementOf text found replacement
        if !all then (read ++ (text.extract found.stop text.size).toList, true)
        else if found.stop = found.start then
          if text.size ≤ found.start then (read, true)
          else
            ((substituteFrom regex text replacement all first bound (found.stop + 1) (count + 1)
              none (read ++ step)).1, true)
        else
          ((substituteFrom regex text replacement all first bound found.stop (count + 1)
            (some found.stop) read).1, true)

/-- Ends work on a line: it is written, and so is what is to follow it. -/
def finishLine (s : State) : State :=
  let s := if s.quiet then s else s.write s.line
  { s with output := s.output ++ s.after, after := [] }

/-- Takes the next line. -/
def takeLine (s : State) : Option State :=
  match s.left with
  | [] => none
  | line :: left =>
    some { s with line := bareLine line, ended := line.getLast? == some 10, left := left,
                  number := s.number + 1 }

end State

/-- The position behind the end of a block, some blocks inside of it being open. -/
def behindBlock (entries : List Entry) (depth : Nat) (position : Nat) : Nat :=
  match entries with
  | [] => position
  | entry :: rest =>
    match entry.command, depth with
    | .blockEnd, 0 => position + 1
    | .blockEnd, depth + 1 => behindBlock rest depth (position + 1)
    | .block, depth => behindBlock rest (depth + 1) (position + 1)
    | _, depth => behindBlock rest depth (position + 1)

/-- The position of a label, or the end of the script if it has no name. -/
def labelPosition (script : List Entry) (name : Bytes) : Nat :=
  if name.isEmpty then script.length
  else (script.findIdx? fun entry =>
    match entry.command with | .label other => other == name | _ => false).getD script.length

/-- The part of a line up to its first line feed, and what follows it if there is one. -/
def splitFirst (line : Bytes) : Bytes × Option Bytes :=
  let first := line.takeWhile (· != 10)
  match line.drop first.length with
  | _ :: rest => (first, some rest)
  | [] => (first, none)

/-- Carries out the edits from some position on, and gives the state at the end of the cycle. -/
def cycle (script : List Entry) : (bound : Nat) → (position : Nat) → State → State
  | 0, _, s => s.finishLine
  | bound + 1, position, s =>
    match script[position]? with
    | none => s.finishLine
    | some entry =>
      let (selected, s) := s.selects position entry
      let on (s : State) : State := cycle script bound (position + 1) s
      let flush (s : State) : State := { s with output := s.output ++ s.after, after := [] }
      if selected == entry.negated then
        match entry.command with
        | .block =>
          cycle script bound (behindBlock (script.drop (position + 1)) 0 (position + 1)) s
        | _ => on s
      else
        match entry.command with
        | .substitute regex replacement all first prints =>
          let used := s.regexOf regex
          let text := s.line.toArray
          let (line, replaced) :=
            State.substituteFrom used text replacement all first (text.size + 2) 0 0 none []
          let s := { s with regex := some used }
          if replaced then
            let s := { s with line := line, replaced := true }
            on (if prints then s.write line else s)
          else on s
        | .transliterate source target =>
          on { s with line := s.line.map fun b =>
                 ((source.findIdx? (· == b)).bind fun i => target[i]?).getD b }
        | .print => on (s.write s.line)
        | .printFirst =>
          on { s with output := s.output ++ (splitFirst s.line).1 ++ [10] }
        | .delete => flush s
        | .deleteFirst =>
          match splitFirst s.line with
          | (_, none) => flush s
          | (_, some rest) =>
            let s := flush s
            { s with left := (rest ++ (if s.ended then [10] else [])) :: s.left,
                     number := s.number - 1 }
        | .quit code prints =>
          { (if prints then s.finishLine else flush s) with code := some code }
        | .number => on { s with output := s.output ++ decimal s.number ++ [10] }
        | .append text => on { s with after := s.after ++ text }
        | .insert text => on { s with output := s.output ++ text }
        | .change text =>
          let isInside := (Entries.get? position s.entered).isSome
          flush (if isInside && !entry.negated then s else { s with output := s.output ++ text })
        | .next =>
          let s' := s.finishLine
          match s'.takeLine with
          | some s => on s
          | none => { s' with code := some 0 }
        | .nextAppended =>
          match s.takeLine with
          | some s' =>
            on { s' with line := s.line ++ 10 :: s'.line, output := s'.output ++ s'.after,
                         after := [] }
          | none => { s.finishLine with code := some 0 }
        | .hold => on { s with held := s.line }
        | .holdAppended => on { s with held := s.held ++ 10 :: s.line }
        | .fetch => on { s with line := s.held }
        | .fetchAppended => on { s with line := s.line ++ 10 :: s.held }
        | .exchange => on { s with line := s.held, held := s.line }
        | .jump name => cycle script bound (labelPosition script name) s
        | .jumpIfReplaced name =>
          if s.replaced then
            cycle script bound (labelPosition script name) { s with replaced := false }
          else on s
        | .label _ | .block | .blockEnd => on s

/-- Carries out a script on the lines that are left. -/
def runLines (script : List Entry) : (bound : Nat) → State → State
  | 0, s => s
  | bound + 1, s =>
    match s.code, s.takeLine with
    | some _, _ => s
    | none, none => s
    | none, some s =>
      runLines script bound (cycle script 20000 0 { s with replaced := false })

end Edit

/-- Carries out a script of edits on each line of files or of the input. -/
def sed : Utility := fun arguments =>
  let long := [("quiet", 'n'), ("silent", 'n'), ("expression", 'e'), ("regexp-extended", 'E')]
  match readChoices ⟨"nErsuz", "efl", long, true⟩ arguments with
  | .error text => do
    complain s!"sed: {text}\n"
    return 1
  | .ok options => do
    let given := (options.options.filter fun o => o.1 == 'e').map Prod.snd
    let (script, files) : Option Bytes × List Bytes :=
      if given.isEmpty then (options.operands.head?, options.operands.drop 1)
      else (some ([(10 : UInt8)].intercalate given), options.operands)
    match script with
    | none => do
      complain "Usage: sed [OPTION]... \x7bscript-only-if-no-other-script\x7d [input-file]...\n"
      return 1
    | some script =>
      match Edit.readScript ⟨options.has 'E' || options.has 'r', false⟩ script with
      | .error problem => do
        complain s!"sed: {problem}\n"
        return 1
      | .ok entries => do
        let (text, status) ← joinedInputs files (fun file refusal =>
          match refusal with
          | .isDirectory => s!"sed: couldn't edit {textOf file}: not a regular file\n"
          | _ => s!"sed: can't read {textOf file}: {wording refusal}\n") 2
        let lines := linesOf text
        let start : Edit.State :=
          ⟨[], true, [], 0, lines, [], [], [], none, false, none,
            options.has 'n' || script.take 3 == bytes "#n\n"⟩
        let final := Edit.runLines entries (2 * lines.length + 1000) start
        emit final.output
        return (final.code.filter (· ≠ 0)).getD status

end Shell

end ToolWeave
