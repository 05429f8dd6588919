import ToolWeave.Number.Places
import ToolWeave.Shell.Field
import ToolWeave.Shell.Format
import ToolWeave.Shell.Utility.Basic

/-!
# Utilities on lines

The utilities that copy, count, cut and order what they read.

## Main definitions

* `Shell.cat`, `Shell.tee`: copies, written as the input comes.
* `Shell.head`, `Shell.tail`, `Shell.cut`, `Shell.tr`, `Shell.uniq`, `Shell.sort`: parts of the
  input, and its lines in another order.
* `Shell.wc`, `Shell.nl`: counts.

## Design notes

**When output is written.**  `cat` and `tee` write what they read at once.  All others keep their
output until the input has ended.
-/

namespace ToolWeave

namespace Shell

/-- Numbers a line, in a field of six digits. -/
def numberField (n : Nat) : Bytes := { width := 6 : Layout }.fill (decimal n) ++ [9]

/-- A text with its lines numbered, cut short or marked, as the options of `cat` ask for. -/
def dressed (options : Choices) (state : Bytes × Nat × Bool) (line : Bytes) : Bytes × Nat × Bool :=
  let (read, number, blank) := state
  let isBlank := bareLine line == []
  if options.has 's' && isBlank && blank then state
  else
    let numbered := if options.has 'b' then !isBlank else options.has 'n'
    let shown :=
      if options.has 'E' && line.getLast? = some 10 then bareLine line ++ [36, 10] else line
    (read ++ (if numbered then numberField number else []) ++ shown,
      if numbered then number + 1 else number, isBlank)

/-- Copies chunks of the input as they come. -/
def relay (write : Bytes → Action Unit) : (bound : Nat) → Action Unit
  | 0 => return ()
  | bound + 1 => do
    match ← nextChunk with
    | none => return ()
    | some text => do
      write text
      relay write bound

/-- Copies files, or the input, to the output. -/
def cat : Utility := fun arguments =>
  choices "cat" { flags := "nbsEuAvTet" } 1 arguments fun options => do
    let files := if options.operands.isEmpty then [[(45 : UInt8)]] else options.operands
    let isPlain := !options.options.any fun o => o.1 ≠ 'u'
    if isPlain then
      files.foldlM (fun result file => do
        if file = [45] || file = bytes "/dev/stdin" then do
          relay emit (← chunkBound)
          return result
        else
          match ← readFile file with
          | .ok content => do
            emit content
            return result
          | .error refusal => do
            complain (plainRefusal "cat" file refusal)
            return 1) 0
    else do
      let (text, status) ← joinedInputs files (plainRefusal "cat") 1
      emit ((linesOf text).foldl (dressed options) ([], 1, false)).1
      return status

/-- Copies the input to the output and to files. -/
def tee : Utility := fun arguments =>
  choices "tee" { flags := "ai", long := [("append", 'a')] } 1 arguments fun options => do
    let p ← get
    let paths := options.operands.map fun file => Path.resolve p.directory (textOf file)
    unless options.has 'a' do paths.forM fun path => modify fun p => p.store path []
    let write (text : Bytes) : Action Unit := do
      emit text
      paths.forM fun path => modify fun p =>
        p.store path ((Entries.get? path p.machine.host.files).getD [] ++ text)
    relay write (← chunkBound)
    return 0

/-- A count as options give it: its sign, if there is one, and the number. -/
def countOf? (text : Bytes) : Option (Option Char × Nat) :=
  let (sign, digits) : Option Char × Bytes :=
    match text with
    | 43 :: digits => (some '+', digits)
    | 45 :: digits => (some '-', digits)
    | digits => (none, digits)
  if digits.isEmpty then none else ((textOf digits).toNat?).map fun n => (sign, n)

/-- Arguments whose first one is a dash and digits, with that spelled out as an option. -/
def spellCount (arguments : List Bytes) : List Bytes :=
  match arguments with
  | (45 :: digits) :: rest =>
    if !digits.isEmpty && digits.all isDigit then [45, 110] :: digits :: rest else arguments
  | _ => arguments

/-- Copies the first lines or bytes of files or of the input. -/
def head : Utility := fun arguments =>
  choices "head" { flags := "qv", valued := "nc" } 1 (spellCount arguments) fun options => do
    let unit := (options.last? ['n', 'c']).getD 'n'
    let text := (options.value? unit).getD (bytes "10")
    match countOf? text with
    | none =>
      let what := if unit = 'n' then "lines" else "bytes"
      complain s!"head: invalid number of {what}: {quotedName text}\n"
      return 1
    | some (sign, count) =>
      let part (text : Bytes) : Bytes :=
        match unit, sign with
        | 'n', some '-' => ((linesOf text).take ((linesOf text).length - count)).flatten
        | 'n', _ => ((linesOf text).take count).flatten
        | _, some '-' => text.take (text.length - count)
        | _, _ => text.take count
      let enough (text : Bytes) : Bool :=
        sign ≠ some '-' &&
          (if unit = 'n' then count ≤ text.count 10 else decide (count ≤ text.length))
      let several := options.operands.length > 1
      if options.operands.isEmpty then do
        emit (part (← gather enough))
        return 0
      else
        let write (file text : Bytes) : Action Unit := do
          if (several && !options.has 'q') || options.has 'v' then
            emit (bytes "==> " ++ file ++ bytes " <==\n")
          emit (part text)
        eachInput options.operands (openingRefusal "head") 1 write

/-- Copies the last lines or bytes of files or of the input. -/
def tail : Utility := fun arguments =>
  choices "tail" { flags := "qvf", valued := "nc" } 1 (spellCount arguments) fun options => do
    let unit := (options.last? ['n', 'c']).getD 'n'
    let text := (options.value? unit).getD (bytes "10")
    match countOf? text with
    | none =>
      let what := if unit = 'n' then "lines" else "bytes"
      complain s!"tail: invalid number of {what}: {quotedName text}\n"
      return 1
    | some (sign, count) =>
      let part (text : Bytes) : Bytes :=
        match unit, sign with
        | 'n', some '+' => ((linesOf text).drop (count - 1)).flatten
        | 'n', _ => ((linesOf text).drop ((linesOf text).length - count)).flatten
        | _, some '+' => text.drop (count - 1)
        | _, _ => text.drop (text.length - count)
      let several := options.operands.length > 1
      let write (file text : Bytes) : Action Unit := do
        if (several && !options.has 'q') || options.has 'v' then
          emit (bytes "==> " ++ file ++ bytes " <==\n")
        emit (part text)
      eachInput options.operands (openingRefusal "tail") 1 write

/-- How many words there are, `inside` telling whether one has begun. -/
def wordCount (inside : Bool) : Bytes → Nat
  | [] => if inside then 1 else 0
  | b :: rest =>
    if isSpaceByte b then (if inside then 1 else 0) + wordCount false rest
    else wordCount true rest

/-- Counts the lines, words and bytes of files or of the input. -/
def wc : Utility := fun arguments =>
  let long := [("lines", 'l'), ("words", 'w'), ("bytes", 'c')]
  choices "wc" ⟨"lwcmL", "", long, true⟩ 1 arguments fun options => do
    let wanted (letter : Char) : Bool := options.options.isEmpty || options.has letter
    let countsOf (text : Bytes) : List Nat :=
      (if wanted 'l' then [text.count 10] else []) ++
        (if wanted 'w' then [wordCount false text] else []) ++
        (if options.has 'm' then [(textOf text).length] else []) ++
        (if wanted 'c' then [text.length] else []) ++
        (if options.has 'L' then [((bareLines text).map List.length).foldl max 0] else [])
    let files := options.operands
    let readOne (state : List (Option Bytes × List Nat) × Nat × Nat) (file : Bytes) :
        Action (List (Option Bytes × List Nat) × Nat × Nat) := do
      let (rows, size, status) := state
      if file = [45] then
        return (rows ++ [(some file, countsOf (← drain))], size, status)
      else
        match ← readFile file with
        | .ok content =>
          return (rows ++ [(some file, countsOf content)], size + content.length, status)
        | .error refusal => do
          complain (plainRefusal "wc" file refusal)
          return (if refusal = .isDirectory then rows ++ [(some file, countsOf [])] else rows,
            size, 1)
    let (rows, size, status) ←
      (do
        if files.isEmpty then return ([(none, countsOf (← drain))], 0, 0)
        else files.foldlM readOne ([], 0, 0) :
        Action (List (Option Bytes × List Nat) × Nat × Nat))
    let total := rows.foldl (fun sum row =>
      if sum.isEmpty then row.2 else List.zipWith (· + ·) sum row.2) []
    let rows := if files.length > 1 then rows ++ [(some (bytes "total"), total)] else rows
    let isSingle := (countsOf []).length = 1 && files.length ≤ 1
    let width :=
      if isSingle then 1
      else if files.isEmpty || files.contains [45] then 7
      else (decimal size).length
    let line (row : Option Bytes × List Nat) : Bytes :=
      let counts := spaced (row.2.map fun n => { width := width : Layout }.fill (decimal n))
      counts ++ (match row.1 with | some file => 32 :: file | none => []) ++ [10]
    emit (rows.flatMap line)
    return status

/-- The number at the front of a text, in thousandths of thousandths, as an order by numbers sees
it. -/
def sortValue (text : Bytes) : Int :=
  let text := text.dropWhile fun b => b == 32 || b == 9
  let (negative, text) : Bool × Bytes :=
    match text with
    | 45 :: rest => (true, rest)
    | rest => (false, rest)
  let number (digits : Bytes) : Nat := digits.foldl (fun n b => 10 * n + (b.toNat - 48)) 0
  let whole := text.takeWhile isDigit
  let places :=
    match text.drop whole.length with
    | 46 :: rest => (rest.takeWhile isDigit).take 6
    | _ => []
  let value := number whole * 1000000 + number places * Nat.pow 10 (6 - places.length)
  if negative then -(value : Int) else value

/-- A key that lines are ordered by: the fields it starts and ends with, and its options. -/
structure SortKey where
  first : Nat
  last : Option Nat
  options : List Char

/-- The key that the value of an option describes. -/
def sortKey (text : Bytes) : SortKey :=
  let part (text : Bytes) : Nat × List Char :=
    let digits := text.takeWhile isDigit
    let letters := (text.drop digits.length).filter isLetter
    (((textOf digits).toNat?).getD 1, (textOf letters).toList)
  let start := part (text.takeWhile (· != 44))
  match (text.dropWhile (· != 44)).drop 1 with
  | [] => ⟨start.1, none, start.2⟩
  | stop => ⟨start.1, some (part stop).1, start.2 ++ (part stop).2⟩

/-- Cuts a line into fields before each run of blanks. -/
def blankFields (line : Bytes) : List Bytes :=
  (line.foldl (fun (state : List Bytes × Bool) b =>
    let isBlank := b == 32 || b == 9
    match state.1 with
    | [] => ([[b]], isBlank)
    | field :: fields =>
      if isBlank && !state.2 then ([b] :: field :: fields, isBlank)
      else ((field ++ [b]) :: fields, isBlank)) ([], false)).1.reverse

/-- Cuts a line at each of some byte. -/
def cutAt (separator : UInt8) (line : Bytes) : List Bytes :=
  line.foldr (fun b fields =>
    if b = separator then [] :: fields
    else
      match fields with
      | [] => [[b]]
      | field :: rest => (b :: field) :: rest) [[]]

/-- The part of a line that a key speaks of. -/
def SortKey.part (key : SortKey) (separator : Option UInt8) (line : Bytes) : Bytes :=
  let fields := match separator with | some b => cutAt b line | none => blankFields line
  let fields := match key.last with | some last => fields.take last | none => fields
  let joint : Bytes := match separator with | some b => [b] | none => []
  joint.intercalate (fields.drop (key.first - 1))

/-- A text as an order with some options sees it. -/
def sortView (options : List Char) (text : Bytes) : Bytes :=
  let text := if options.contains 'b' then text.dropWhile fun b => b == 32 || b == 9 else text
  if options.contains 'f' then
    text.map fun b => if 97 ≤ b && b ≤ 122 then b - 32 else b
  else text

/-- How two texts stand to each other in the order of some options. -/
def sortCompare (options : List Char) (a b : Bytes) : Ordering :=
  let order :=
    if options.contains 'n' then compare (sortValue a) (sortValue b)
    else
      let a := sortView options a
      let b := sortView options b
      if a == b then .eq else if noLater a b then .lt else .gt
  if options.contains 'r' then order.swap else order

/-- Puts the lines of files or of the input in order. -/
def sort : Utility := fun arguments =>
  let long := [("reverse", 'r'), ("numeric-sort", 'n'), ("unique", 'u')]
  choices "sort" ⟨"nrufbsgdi", "kto", long, true⟩ 2 arguments fun options => do
    let (text, status) ← joinedInputs options.operands (fun file refusal =>
      s!"sort: cannot read: {textOf file}: {wording refusal}\n") 2
    let general := (options.options.map Prod.fst).filter "nrfb".toList.contains
    let separator := (options.value? 't').bind List.head?
    let keys := (options.options.filter fun o => o.1 == 'k').map fun o => sortKey o.2
    let byKeys (a b : Bytes) : Ordering :=
      if keys.isEmpty then sortCompare general a b
      else keys.foldl (fun order key =>
        let options := if key.options.isEmpty then general else key.options
        order.then (sortCompare options (key.part separator a) (key.part separator b))) .eq
    let last (a b : Bytes) : Ordering :=
      if options.has 's' || options.has 'u' then .eq
      else sortCompare (general.filter (· == 'r')) a b
    let sorted := (bareLines text).mergeSort fun a b => ((byKeys a b).then (last a b)) != .gt
    let kept :=
      if options.has 'u' then
        (sorted.foldl (fun kept line =>
          if kept.head?.any fun before => byKeys before line == .eq then kept else line :: kept)
          []).reverse
      else sorted
    let result := kept.flatMap (· ++ [10])
    match options.value? 'o' with
    | some file => modify fun p => p.store (Path.resolve p.directory (textOf file)) result
    | none => emit result
    return status

/-- Leaves out lines that are like the one before. -/
def uniq : Utility := fun arguments =>
  choices "uniq" { flags := "cdui", long := [("count", 'c')] } 1 arguments fun options => do
    let (text, status) ← joinedInputs (options.operands.take 1) (plainRefusal "uniq") 1
    let view (line : Bytes) : Bytes := if options.has 'i' then sortView ['f'] line else line
    let runs := ((bareLines text).foldl (fun (runs : List (Bytes × Nat)) line =>
      match runs with
      | (before, count) :: rest =>
        if view before == view line then (before, count + 1) :: rest
        else (line, 1) :: runs
      | [] => [(line, 1)]) []).reverse
    let wanted := runs.filter fun run =>
      (!options.has 'd' || 1 < run.2) && (!options.has 'u' || run.2 = 1)
    emit (wanted.flatMap fun (line, count) =>
      (if options.has 'c' then { width := 7 : Layout }.fill (decimal count) ++ [32] else []) ++
        line ++ [10])
    return status

/-- Whether a list of ranges holds a number. -/
def inRanges (ranges : List (Nat × Option Nat)) (n : Nat) : Bool :=
  ranges.any fun (first, last) => first ≤ n && last.all (n ≤ ·)

/-- The ranges that a text lists. -/
def ranges? (text : Bytes) : Option (List (Nat × Option Nat)) :=
  (cutAt 44 text).mapM fun part =>
    match cutAt 45 part with
    | [n] => ((textOf n).toNat?).map fun n => (n, some n)
    | [first, []] => ((textOf first).toNat?).map fun first => (first, none)
    | [[], last] => ((textOf last).toNat?).map fun last => (1, some last)
    | [first, last] => do return (← (textOf first).toNat?, some (← (textOf last).toNat?))
    | _ => none

/-- Copies parts of each line. -/
def cut : Utility := fun arguments =>
  let long := [("output-delimiter", 'O'), ("only-delimited", 's')]
  choices "cut" ⟨"sn", "dfcbO", long, true⟩ 1 arguments fun options => do
    match options.last? ['f', 'c', 'b'] with
    | none => misuse "cut" "you must specify a list of bytes, characters, or fields"
    | some unit =>
      match ranges? ((options.value? unit).getD []) with
      | none =>
        let what := if unit = 'f' then "field" else "byte/character position"
        misuse "cut" s!"invalid {what} {quotedName ((options.value? unit).getD [])}"
      | some ranges =>
        let (text, status) ← joinedInputs options.operands (plainRefusal "cut") 1
        let delimiter := ((options.value? 'd').bind List.head?).getD 9
        let joint := (options.value? 'O').getD (if unit = 'f' then [delimiter] else [])
        let pick {α : Type} (parts : List α) : List α :=
          (parts.zipIdx 1).filterMap fun (part, n) => if inRanges ranges n then some part else none
        let line (line : Bytes) : Bytes :=
          if unit = 'f' then
            if line.contains delimiter then joint.intercalate (pick (cutAt delimiter line)) ++ [10]
            else if options.has 's' then []
            else line ++ [10]
          else pick line ++ [10]
        emit ((bareLines text).flatMap line)
        return status

/-- The byte that a backslash and what follows it stand for in a set, and the rest. -/
def setEscape : Bytes → UInt8 × Bytes
  | [] => (92, [])
  | b :: rest =>
    match octalDigit? b with
    | some _ =>
      let (value, rest) := octal 3 0 (b :: rest)
      (UInt8.ofNat value, rest)
    | none => ((letterEscape? ⟨false, false, false⟩ b).getD b, rest)

/-- The bytes of a set of characters: ranges, escapes, and classes with names. -/
def charSet : (bound : Nat) → Bytes → Bytes
  | 0, _ => []
  | _, [] => []
  | bound + 1, text =>
    let named : Option (Bytes × Bytes) :=
      match text with
      | 91 :: 58 :: rest =>
        let name := rest.takeWhile isLetter
        match rest.drop name.length with
        | 58 :: 93 :: rest =>
          (classMember? (textOf name)).map fun isMember =>
            (((List.range 256).map UInt8.ofNat).filter isMember, rest)
        | _ => none
      | _ => none
    match named with
    | some (members, rest) => members ++ charSet bound rest
    | none =>
      let one (text : Bytes) : UInt8 × Bytes :=
        match text with
        | 92 :: rest => setEscape rest
        | b :: rest => (b, rest)
        | [] => (0, [])
      let (first, rest) := one text
      match rest with
      | 45 :: next :: after =>
        let (last, rest) := one (next :: after)
        if first ≤ last then
          ((List.range (last.toNat - first.toNat + 1)).map fun i =>
            UInt8.ofNat (first.toNat + i)) ++ charSet bound rest
        else charSet bound rest
      | _ => first :: charSet bound rest

/-- Bytes without those that repeat the one before and are in a set. -/
def squeeze (set : Bytes) : Bytes → Bytes
  | a :: b :: rest =>
    if a == b && set.contains a then squeeze set (b :: rest) else a :: squeeze set (b :: rest)
  | text => text

/-- Replaces or leaves out bytes. -/
def tr : Utility := fun arguments =>
  let long := [("delete", 'd'), ("squeeze-repeats", 's'), ("complement", 'c')]
  choices "tr" ⟨"dscCt", "", long, false⟩ 1 arguments fun options => do
    let sets := options.operands.map fun text => charSet (text.length + 1) text
    let first := sets.headD []
    let complemented := options.has 'c' || options.has 'C'
    let isIn (b : UInt8) : Bool := first.contains b != complemented
    let needed := if options.has 'd' == options.has 's' then 2 else 1
    match sets with
    | [] => misuse "tr" "missing operand"
    | _ =>
      if sets.length < needed && !(options.has 's' && !options.has 'd') then do
        complain (s!"tr: missing operand after {quotedName (options.operands.headD [])}\n" ++
          (if options.has 'd' then "Two strings must be given when both deleting and squeezing " ++
            "repeats.\n" else "Two strings must be given when translating.\n") ++ hint "tr")
        return 1
      else do
        let text ← drain
        let second := (sets.drop 1).headD []
        let domain :=
          if complemented then ((List.range 256).map UInt8.ofNat).filter isIn else first
        let image (b : UInt8) : UInt8 :=
          if isIn b then
            match domain.reverse.findIdx? (· == b) with
            | some i =>
              let place := domain.length - 1 - i
              (second[place]?).getD (second.getLastD b)
            | none => b
          else b
        if options.has 'd' then
          let kept := text.filter fun b => !isIn b
          emit (if options.has 's' then squeeze second kept else kept)
        else if options.has 's' && second.isEmpty then
          emit (squeeze (((List.range 256).map UInt8.ofNat).filter isIn) text)
        else
          let changed := text.map image
          emit (if options.has 's' then squeeze second changed else changed)
        return 0

/-- A number as `seq` takes it: in units of its last place, and how many places there are. -/
def placesOf? (text : Bytes) : Option (Int × Nat) :=
  let (negative, text) : Bool × Bytes :=
    match text with
    | 45 :: rest => (true, rest)
    | 43 :: rest => (false, rest)
    | rest => (false, rest)
  let whole := text.takeWhile isDigit
  let (places, rest) : Bytes × Bytes :=
    match text.drop whole.length with
    | 46 :: rest => (rest.takeWhile isDigit, rest.dropWhile isDigit)
    | rest => ([], rest)
  if !rest.isEmpty || (whole.isEmpty && places.isEmpty) then none
  else
    let n : Nat := (whole ++ places).foldl (fun n b => 10 * n + (b.toNat - 48)) 0
    some (if negative then -(n : Int) else n, places.length)

/-- Prints the numbers from one to another. -/
def seq : Utility := fun arguments => do
  let isNegative (word : Bytes) : Bool :=
    match word with
    | 45 :: b :: _ => isDigit b || b == 46
    | _ => false
  let known : Known := { flags := "w", valued := "sf", anywhere := false }
  let optionPart := arguments.takeWhile fun word => !isNegative word
  match readChoices known optionPart with
  | .error text => misuse "seq" text
  | .ok options => do
    let operands := options.operands ++ arguments.drop optionPart.length
    let print (first step last : Int × Nat) : Action Nat := do
      let places := max first.2 step.2
      let most := max places last.2
      let scale (n : Int × Nat) : Int := n.1 * (Nat.pow 10 (most - n.2) : Nat)
      let (a, b, c) := (scale first, scale step, scale last)
      if b = 0 then
        misuse "seq" s!"invalid Zero increment value: {quotedName (operands[1]?.getD [])}"
      else
        let count :=
          if 0 < b then ((c - a) / b + 1).toNat else ((a - c) / (-b) + 1).toNat
        let spell (n : Int) : Bytes :=
          let n := n.tdiv (Nat.pow 10 (most - places) : Nat)
          let text := Places.fixed ⟨n.natAbs, Nat.pow 10 places⟩ places false
          bytes (String.ofList (if n < 0 then '-' :: text else text))
        let texts := (List.range count).map fun (i : Nat) => spell (a + b * (i : Int))
        let width := (texts.map List.length).foldl max 0
        let texts :=
          if options.has 'w' then
            texts.map fun text =>
              match text with
              | 45 :: digits =>
                45 :: (List.replicate (width - 1 - digits.length) (48 : UInt8) ++ digits)
              | digits => List.replicate (width - digits.length) (48 : UInt8) ++ digits
          else texts
        let joint := (options.value? 's').getD [10]
        unless texts.isEmpty do emit (joint.intercalate texts ++ [10])
        return 0
    match operands.find? fun word => (placesOf? word).isNone with
    | some word => misuse "seq" s!"invalid floating point argument: {quotedName word}"
    | none =>
      match operands.filterMap placesOf? with
      | [last] => print (1, 0) (1, 0) last
      | [first, last] => print first (1, 0) last
      | [first, step, last] => print first step last
      | [] => misuse "seq" "missing operand"
      | _ => misuse "seq" s!"extra operand {quotedName (operands[3]?.getD [])}"

/-- Turns each line round. -/
def rev : Utility := fun arguments => do
  let (text, status) ← joinedInputs arguments (fun file refusal =>
    s!"rev: cannot open {textOf file}: {wording refusal}\n") 1
  emit <| (linesOf text).flatMap fun line =>
    let turned := Utf8.encode (textOf (bareLine line)).toList.reverse
    if line.getLast? = some 10 then turned ++ [10] else turned
  return status

/-- Copies the lines, the last one first. -/
def tac : Utility := fun arguments => do
  let (text, status) ← joinedInputs arguments (openingRefusal "tac") 1
  emit (linesOf text).reverse.flatten
  return status

/-- Numbers the lines that are not empty, or all of them. -/
def nl : Utility := fun arguments =>
  choices "nl" { flags := "p", valued := "bwsnvi" } 1 arguments fun options => do
    let (text, status) ← joinedInputs options.operands (plainRefusal "nl") 1
    let all := options.value? 'b' == some [97]
    let width := ((options.value? 'w').bind fun text => (textOf text).toNat?).getD 6
    let joint := (options.value? 's').getD [9]
    let start := ((options.value? 'v').bind fun text => (textOf text).toNat?).getD 1
    let step (state : Bytes × Nat) (line : Bytes) : Bytes × Nat :=
      if line.isEmpty && !all then (state.1 ++ List.replicate (width + joint.length) 32 ++ [10],
        state.2)
      else
        let layout : Layout :=
          match (options.value? 'n').map textOf with
          | some "ln" => { width := width, left := true }
          | some "rz" => { width := width, zeros := true }
          | _ => { width := width }
        (state.1 ++ layout.digits [] (decimal state.2) ++ joint ++ line ++ [10], state.2 + 1)
    emit ((bareLines text).foldl step ([], start)).1
    return status

/-- Joins lines of files side by side, or all lines of each file. -/
def paste : Utility := fun arguments =>
  choices "paste" { flags := "s", valued := "d", long := [("serial", 's')] } 1 arguments
      fun options => do
    let joints := charSet 256 ((options.value? 'd').getD [9])
    let joint (i : Nat) : Bytes :=
      if joints.isEmpty then [] else [(joints[i % joints.length]?).getD 9]
    let join (fields : List Bytes) : Bytes :=
      ((fields.zipIdx).flatMap fun (field, i) =>
        (if i = 0 then [] else joint (i - 1)) ++ field) ++ [10]
    let files := if options.operands.isEmpty then [[(45 : UInt8)]] else options.operands
    let count := files.count [45]
    let input ← if count = 0 then pure [] else drain
    let inputLines := bareLines input
    let tables ← (files.zipIdx).mapM fun (file, i) => do
      if file = [45] then
        if options.has 's' then return inputLines
        else
          let before := (files.take i).count [45]
          return (inputLines.zipIdx).filterMap fun (line, n) =>
            if n % count = before then some line else none
      else
        match ← readFile file with
        | .ok content => return bareLines content
        | .error refusal => do
          complain (plainRefusal "paste" file refusal)
          return []
    if options.has 's' then emit (tables.flatMap join)
    else
      let height := (tables.map List.length).foldl max 0
      emit ((List.range height).flatMap fun i => join (tables.map fun t => (t[i]?).getD []))
    return 0

/-- Cuts a text into parts of a length. -/
def inParts (width : Nat) : (bound : Nat) → Bytes → List Bytes
  | 0, text => [text]
  | bound + 1, text =>
    if text.length ≤ width || width = 0 then [text]
    else text.take width :: inParts width bound (text.drop width)

/-- Breaks lines that are too long. -/
def fold : Utility := fun arguments =>
  choices "fold" { flags := "bs", valued := "w" } 1 arguments fun options => do
    let (text, status) ← joinedInputs options.operands (plainRefusal "fold") 1
    let width := ((options.value? 'w').bind fun text => (textOf text).toNat?).getD 80
    emit <| (linesOf text).flatMap fun line =>
      ([(10 : UInt8)].intercalate (inParts width (line.length + 1) (bareLine line))) ++
        (if line.getLast? = some 10 then [10] else [])
    return status

/-- Compares two sorted files line by line. -/
def commLines (shows : Nat → Bool) (columns : Nat → Bytes) : (bound : Nat) →
    List Bytes → List Bytes → Bytes
  | 0, _, _ => []
  | bound + 1, as, bs =>
    let line (n : Nat) (text : Bytes) : Bytes :=
      if shows n then columns n ++ text ++ [10] else []
    match as, bs with
    | [], [] => []
    | a :: as, [] => line 1 a ++ commLines shows columns bound as []
    | [], b :: bs => line 2 b ++ commLines shows columns bound [] bs
    | a :: as, b :: bs =>
      if a == b then line 3 a ++ commLines shows columns bound as bs
      else if noLater a b then line 1 a ++ commLines shows columns bound as (b :: bs)
      else line 2 b ++ commLines shows columns bound (a :: as) bs

/-- Shows which lines two sorted files have alone and which in common. -/
def comm : Utility := fun arguments =>
  choices "comm" { flags := "123" } 1 arguments fun options => do
    match options.operands with
    | [a, b] => do
      let (left, _) ← joinedInputs [a] (plainRefusal "comm") 1
      let (right, _) ← joinedInputs [b] (plainRefusal "comm") 1
      let shows (n : Nat) : Bool := !options.has (Char.ofNat (48 + n))
      let columns (n : Nat) : Bytes :=
        (List.range (n - 1)).flatMap fun i => if shows (i + 1) then [9] else []
      let as := bareLines left
      let bs := bareLines right
      emit (commLines shows columns (as.length + bs.length + 1) as bs)
      return 0
    | [] => misuse "comm" "missing operand"
    | [a] => misuse "comm" s!"missing operand after {quotedName a}"
    | _ => misuse "comm" s!"extra operand {quotedName (options.operands[2]?.getD [])}"

end Shell

end ToolWeave
