import ToolWeave.Shell.Regex
import ToolWeave.Shell.Utility.Files

/-!
# Utilities that search and compute

The utilities that compare texts with expressions, or work expressions out.

## Main definitions

* `Shell.grep`: the lines in which an expression matches.
* `Shell.expr`: the value of an expression whose parts are arguments.
-/

namespace ToolWeave

namespace Shell

/-- Whether a match stands at the borders of words. -/
def isWhole (text : Array UInt8) (found : Regex.Found) : Bool :=
  let beside (position : Nat) : Bool := (text[position]?).any Regex.isWordByte
  !(0 < found.start && beside (found.start - 1)) && !beside found.stop

/-- All matches in a line, one after the other. -/
def allMatches (regexes : List Regex) (wants : Array UInt8 → Regex.Found → Bool)
    (text : Array UInt8) : (bound : Nat) → (position : Nat) → List Regex.Found
  | 0, _ => []
  | bound + 1, position =>
    let nearer (a b : Regex.Found) : Bool :=
      a.start < b.start || (a.start == b.start && b.stop ≤ a.stop)
    let found := (List.range (text.size + 1 - position)).findSome? fun i =>
      (regexes.filterMap fun regex =>
        (regex.matchAt text (position + i)).filter (wants text)).foldl (fun best found =>
          match best with
          | none => some found
          | some other => if nearer other found then best else some found) none
    match found with
    | none => []
    | some found =>
      found :: allMatches regexes wants text bound
        (if found.stop = found.start then found.stop + 1 else found.stop)

/-- How `grep` reads its expressions: each line of a pattern is one. -/
def patternsOf (fixed : Bool) (manner : Regex.Manner) (text : Bytes) :
    Except Regex.Mistake (List Regex) :=
  (cutAt 10 text).mapM fun line =>
    if fixed then .ok (line.foldl (fun regex b => .sequence regex (manner.byte b)) .empty)
    else Regex.read manner line

/-- Copies the lines in which an expression matches. -/
def grepAs (name : String) (extended fixed : Bool) : Utility := fun arguments =>
  let long := [("ignore-case", 'i'), ("invert-match", 'v'), ("count", 'c'), ("quiet", 'q'),
    ("only-matching", 'o'), ("line-number", 'n'), ("extended-regexp", 'E'), ("silent", 'q'),
    ("fixed-strings", 'F'), ("no-messages", 's'), ("word-regexp", 'w'), ("line-regexp", 'x'),
    ("no-filename", 'h'), ("with-filename", 'H'), ("files-with-matches", 'l')]
  match readChoices ⟨"EFGivcqonwxhHlLsaPyz", "emABC", long, true⟩ arguments with
  | .error text => do
    complain (s!"{name}: {text}\nUsage: {name} [OPTION]... PATTERNS [FILE]...\n" ++ hint name)
    return 2
  | .ok options => do
    let given := (options.options.filter fun o => o.1 == 'e').map Prod.snd
    let (pattern, files) : Option Bytes × List Bytes :=
      if given.isEmpty then (options.operands.head?, options.operands.drop 1)
      else (some ([(10 : UInt8)].intercalate given), options.operands)
    match pattern with
    | none => do
      complain (s!"Usage: {name} [OPTION]... PATTERNS [FILE]...\n" ++ hint name)
      return 2
    | some pattern =>
      let manner : Regex.Manner := ⟨extended || options.has 'E' || options.has 'P',
        options.has 'i' || options.has 'y'⟩
      match patternsOf (fixed || options.has 'F') manner pattern with
      | .error mistake => do
        complain s!"{name}: {mistake.message}\n"
        return 2
      | .ok regexes => do
        let wants (text : Array UInt8) (found : Regex.Found) : Bool :=
          (!options.has 'x' || (found.start = 0 && found.stop = text.size)) &&
            (!options.has 'w' || isWhole text found)
        let isHit (line : Bytes) : Bool :=
          let text := line.toArray
          !(allMatches regexes wants text 1 0).isEmpty != options.has 'v'
        let limit := (options.value? 'm').bind fun text => (textOf text).toNat?
        let titled := (files.length > 1 || options.has 'H') && !options.has 'h'
        let step (state : Bool × Nat) (file : Bytes) : Action (Bool × Nat) := do
          let content ←
            if file = [45] then do pure (Except.ok (← drain))
            else readFile file
          match content with
          | .error refusal => do
            unless options.has 's' do complain (plainRefusal name file refusal)
            return (state.1, if refusal = .isDirectory then state.2 else 2)
          | .ok text => do
            let title : Bytes :=
              if titled then (if file = [45] then bytes "(standard input)" else file) ++ [58]
              else []
            let hits := ((bareLines text).zipIdx 1).filter fun (line, _) => isHit line
            let hits := match limit with | some n => hits.take n | none => hits
            let spell (line : Bytes) (n : Nat) : Bytes :=
              title ++ (if options.has 'n' then decimal n ++ [58] else []) ++ line ++ [10]
            if options.has 'q' then pure ()
            else if options.has 'l' then
              unless hits.isEmpty do emit (file ++ [10])
            else if options.has 'c' then emit (title ++ decimal hits.length ++ [10])
            else if options.has 'o' then
              emit <| hits.flatMap fun (line, n) =>
                let text := line.toArray
                (allMatches regexes wants text (line.length + 2) 0).flatMap fun found =>
                  if found.stop = found.start then []
                  else spell (text.extract found.start found.stop).toList n
            else emit (hits.flatMap fun (line, n) => spell line n)
            return (state.1 || !hits.isEmpty, state.2)
        let (isFound, status) ← (if files.isEmpty then [[(45 : UInt8)]] else files).foldlM step
          (false, 0)
        return if status = 2 && !(isFound && options.has 'q') then 2 else if isFound then 0 else 1

/-- Why an expression of arguments has no value. -/
inductive ExprMistake where
  | missing (after : Bytes)
  | unexpected (argument : Bytes)
  | unclosed (argument : Bytes)
  | noInteger
  | zero
  | regex (mistake : Regex.Mistake)

/-- The message of a mistake. -/
def ExprMistake.message : ExprMistake → String
  | missing after => s!"syntax error: missing argument after {quotedName after}"
  | unexpected argument => s!"syntax error: unexpected argument {quotedName argument}"
  | unclosed argument => s!"syntax error: expecting ')' after {quotedName argument}"
  | noInteger => "non-integer argument"
  | zero => "division by zero"
  | regex mistake => mistake.message

/-- A reader of arguments: the one before and those that are left. -/
abbrev ExprReader (α : Type) : Type := StateT (Bytes × List Bytes) (Except ExprMistake) α

/-- The next argument, if there is one. -/
def peekArgument : ExprReader (Option String) := do return ((← get).2.head?).map textOf

/-- Passes over an argument. -/
def passArgument : ExprReader Unit := modify fun (before, rest) => (rest.headD before, rest.drop 1)

/-- Whether a value counts as none: an empty text or a zero. -/
def isNothing (value : Bytes) : Bool :=
  value.isEmpty ||
    (let digits := match value with | 45 :: rest => rest | rest => rest
     !digits.isEmpty && digits.all (· == 48))

/-- The integer that a value has to be. -/
def exprInteger (value : Bytes) : ExprReader Int :=
  match integer? value with
  | some n => if value.head? = some 43 then throw .noInteger else return n
  | none => throw .noInteger

/-- What an expression matches at the start of a text: its first group, or how many characters. -/
def exprMatch (text pattern : Bytes) : ExprReader Bytes := do
  match Regex.read ⟨false, false⟩ pattern with
  | .error mistake => throw (.regex mistake)
  | .ok regex =>
    let all := text.toArray
    let hasGroup := (List.range pattern.length).any fun i =>
      pattern[i]? == some 92 && pattern[i + 1]? == some 40
    match regex.matchAt all 0 with
    | some found =>
      if hasGroup then
        match Entries.get? 1 found.groups with
        | some (start, stop) => return (all.extract start stop).toList
        | none => return []
      else return decimal found.stop
    | none => return if hasGroup then [] else [48]

/-- The operators that join two values, the loosest rank first. -/
def exprRanks : List (List String) :=
  [["|"], ["&"], ["<", "<=", "=", "==", "!=", ">=", ">"], ["+", "-"], ["*", "/", "%"], [":"]]

/-- What an operator makes of two values. -/
def exprJoin (operator : String) (a b : Bytes) : ExprReader Bytes := do
  let truth (b : Bool) : Bytes := if b then [49] else [48]
  match operator with
  | "|" => return if isNothing a then (if isNothing b then [48] else b) else a
  | "&" => return if isNothing a || isNothing b then [48] else a
  | ":" => exprMatch a b
  | "+" => return bytes (toString ((← exprInteger a) + (← exprInteger b)))
  | "-" => return bytes (toString ((← exprInteger a) - (← exprInteger b)))
  | "*" => return bytes (toString ((← exprInteger a) * (← exprInteger b)))
  | "/" | "%" => do
    let x ← exprInteger a
    let y ← exprInteger b
    if y = 0 then throw .zero
    else return bytes (toString (if operator = "/" then x.tdiv y else x.tmod y))
  | _ =>
    let order : Ordering :=
      match integer? a, integer? b with
      | some x, some y => compare x y
      | _, _ => if a == b then .eq else if noLater a b then .lt else .gt
    return truth <|
      match operator with
      | "<" => order == .lt
      | "<=" => order != .gt
      | ">" => order == .gt
      | ">=" => order != .lt
      | "!=" => order != .eq
      | _ => order == .eq

mutual

/-- Evaluates values joined by operators of some ranks. -/
def exprRanked : (bound : Nat) → List (List String) → ExprReader Bytes
  | 0, _ => throw (.missing [])
  | bound + 1, [] => exprPrimary bound
  | bound + 1, rank :: tighter => do
    let first ← exprRanked bound tighter
    exprJoined bound rank tighter first

/-- Joins further values of a rank to one. -/
def exprJoined : (bound : Nat) → List String → List (List String) → Bytes → ExprReader Bytes
  | 0, _, _, _ => throw (.missing [])
  | bound + 1, rank, tighter, first => do
    match ← peekArgument with
    | some operator =>
      if rank.contains operator then do
        passArgument
        let second ← exprRanked bound tighter
        exprJoined bound rank tighter (← exprJoin operator first second)
      else return first
    | none => return first

/-- Evaluates one value: an argument, what stands in parentheses, or a function of arguments. -/
def exprPrimary : (bound : Nat) → ExprReader Bytes
  | 0 => throw (.missing [])
  | bound + 1 => do
    let (before, rest) ← get
    match rest with
    | [] => throw (.missing before)
    | argument :: _ => do
      passArgument
      match textOf argument with
      | "(" => do
        let value ← exprRanked bound exprRanks
        match ← peekArgument with
        | some ")" => do
          passArgument
          return value
        | some _ => throw (.unexpected ((← get).2.headD []))
        | none => throw (.unclosed (← get).1)
      | ")" => throw (.unexpected argument)
      | "+" => do
        let (before, rest) ← get
        match rest with
        | [] => throw (.missing before)
        | value :: _ => do
          passArgument
          return value
      | "length" => do
        let value ← exprPrimary bound
        return decimal (textOf value).length
      | "match" => do
        let text ← exprPrimary bound
        exprMatch text (← exprPrimary bound)
      | "index" => do
        let text := (textOf (← exprPrimary bound)).toList
        let set := (textOf (← exprPrimary bound)).toList
        return decimal (((text.findIdx? set.contains).map (· + 1)).getD 0)
      | "substr" => do
        let text ← exprPrimary bound
        let start ← exprPrimary bound
        let length ← exprPrimary bound
        match integer? start, integer? length with
        | some start, some length =>
          if start ≤ 0 || length ≤ 0 then return []
          else
            let cs := ((textOf text).toList.drop (start.toNat - 1)).take length.toNat
            return Utf8.encode cs
        | _, _ => return []
      | _ => return argument

end

/-- Prints the value of an expression whose parts are arguments. -/
def expr : Utility := fun arguments => do
  let arguments := if arguments.head? = some (bytes "--") then arguments.drop 1 else arguments
  if arguments.isEmpty then misuse "expr" "missing operand" 2
  else
    match (exprRanked (20 * arguments.length + 20) exprRanks).run ([], arguments) with
    | .ok (value, _, []) => do
      emit (value ++ [10])
      return if isNothing value then 1 else 0
    | .ok (_, _, argument :: _) => do
      complain s!"expr: {(ExprMistake.unexpected argument).message}\n"
      return 2
    | .error mistake => do
      complain s!"expr: {mistake.message}\n"
      return 2

end Shell

end ToolWeave
