import ToolWeave.Shell.Script

/-!
# Grammar of scripts

How the text of a script is read, one complete command at a time.

## Main definitions

* `Shell.Reading`: the text that is left, and what has been announced in it.
* `Shell.Token`: what a text consists of.
* `Shell.readCommand`: the next complete command of a text.

## Design notes

**Words with a meaning.**  Whether a word like `if` means itself depends on where it stands, so the
reader asks for each token with or without an eye on such words.  A token that is not wanted is
handed back and may be asked for in the other way.

**Bounded reading.**  A script is read by descent.  Every call gets one unit of a bound that starts
at some units for each character of the text.
-/

namespace ToolWeave

namespace Shell

/-- What a text consists of. -/
inductive Token where
  | ending
  | newline
  | operator (text : String)
  /-- The start of a redirection: a descriptor and an arrow. -/
  | arrow (descriptor : Nat) (text : String)
  | word (word : Word)
  /-- A word with a meaning of its own. -/
  | keyword (text : String)

/-- A document that has been announced: its number, the line after it, whether tabs in front of its
lines are left out, and whether its text is quoted. -/
structure Announcement where
  number : Nat
  last : List Char
  bare : Bool
  quoted : Bool

/-- The text that is left, and what has been announced in it. -/
structure Reading where
  rest : List Char
  line : Nat
  /-- A token that was handed back. -/
  pushed : Option Token
  announced : List Announcement
  /-- The documents that have been read, by their numbers. -/
  documents : List (Nat × Word)
  /-- The number of the next document. -/
  next : Nat

/-- The reading of a text from its start. -/
def Reading.ofText (text : String) : Reading := ⟨text.toList, 1, none, [], [], 0⟩

/-- A reader of some part of a script. -/
abbrev Reader (α : Type) : Type := StateT Reading (Except Mistake) α

/-- The words that have a meaning of their own at the start of a command. -/
def keywords : List String :=
  ["!", "case", "do", "done", "elif", "else", "esac", "fi", "for", "if", "in", "then", "until",
   "while", "\x7b", "\x7d"]

/-- The words that end a list of commands. -/
def closers : List String := ["then", "else", "elif", "fi", "do", "done", "esac", "\x7d"]

/-- The commands that are part of the shell so much that no function can have their name. -/
def specialCommands : List String :=
  [".", ":", "break", "continue", "eval", "exec", "exit", "export", "local", "readonly", "return",
   "set", "shift", "times", "trap", "unset"]

/-- How a token is called in a message. -/
def Token.describe : Token → String
  | ending => "end of file"
  | newline => "newline"
  | operator text => s!"\"{text}\""
  | keyword text => s!"\"{text}\""
  | arrow _ _ => "redirection"
  | word _ => "word"

/-- Whether a token ends a list of commands. -/
def Token.closes : Token → Bool
  | ending => true
  | operator text => text == ")" || text == ";;"
  | keyword text => closers.contains text
  | _ => false

/-- Whether a token is an operator. -/
def Token.isOperator (text : String) : Token → Bool
  | operator found => found == text
  | _ => false

/-- Whether a token is a word with a meaning of its own. -/
def Token.isKeyword (text : String) : Token → Bool
  | keyword found => found == text
  | _ => false

/-- The characters that end a word. -/
def endsWord (c : Char) : Bool :=
  c == ' ' || c == '\t' || c == '\n' || c == ';' || c == '&' || c == '|' || c == '(' || c == ')' ||
  c == '<' || c == '>'

/-- Whether a character is a parameter's whole name. -/
def isSpecial (c : Char) : Bool :=
  c == '$' || c == '?' || c == '#' || c == '@' || c == '*' || c == '!' || c == '-'

/-- Whether nothing of a word is quoted. -/
def isBare (word : Word) : Bool :=
  word.all fun piece => match piece with | .exact _ => false | _ => true

/-- The text of a word that is one piece of unquoted text. -/
def plain? : Word → Option String
  | [.bare text] => some (String.ofList text)
  | _ => none

/-- The text of a word that stands after a document, its quotes left out. -/
def lastLine (word : Word) : List Char :=
  word.flatMap fun piece =>
    match piece with
    | .bare text | .exact text => text
    | .parameter name _ _ => '$' :: name.toList
    | _ => []

/-- Adds a piece to a word that is held with its last piece first, joining unquoted text. -/
def addBare (c : Char) : Word → Word
  | .bare text :: rest => .bare (text ++ [c]) :: rest
  | pieces => .bare [c] :: pieces

/-- Adds a quoted character to a word that is held with its last piece first. -/
def addExact (c : Char) : Word → Word
  | .exact text :: rest => .exact (text ++ [c]) :: rest
  | pieces => .exact [c] :: pieces

/-- The name and value of a word that is an assignment. -/
def assignment? : Word → Option (String × Word)
  | .bare text :: rest =>
    let name := text.takeWhile isNameChar
    match isName name, text.drop name.length with
    | true, '=' :: value =>
      some (String.ofList name, if value.isEmpty then rest else .bare value :: rest)
    | _, _ => none
  | _ => none

/-- A quoted piece that stands for all parameters by position, one field each. -/
def allArguments : Word := [.parameter "@" true .value]

/-- Where a run of pieces stands, which says what ends it and what is special in it. -/
inductive Setting where
  | plain
  /-- Between double quotes. -/
  | quoted
  /-- Among the lines of a document. -/
  | document
  /-- In an expression, so many parentheses being open. -/
  | arithmetic (depth : Nat)
  /-- Between braces that are not quoted. -/
  | braces
  /-- Between braces that are quoted, or in a document, and perhaps in quotes of their own. -/
  | quotedBraces (inDocument inner : Bool)

/-- Whether what a dollar sign stands for is quoted in a setting. -/
def Setting.quotes : Setting → Bool
  | plain | braces => false
  | _ => true

/-- Stops for a flaw in the line that is being read. -/
def refuse {α : Type} (flaw : Flaw) : Reader α := do throw ⟨(← get).line, flaw⟩

/-- Stops for a token, perhaps because another one is wanted. -/
def unexpected {α : Type} (found : Token) (wanted : Option String := none) : Reader α :=
  refuse (.unexpected found.describe wanted)

/-- The text that is left. -/
def rest : Reader (List Char) := do return (← get).rest

/-- Goes on with another text. -/
def goTo (text : List Char) : Reader Unit := modify fun r => { r with rest := text }

/-- Goes on with another text after the end of a line. -/
def nextLine (text : List Char) : Reader Unit :=
  modify fun r => { r with rest := text, line := r.line + 1 }

/-- Hands a token back. -/
def handBack (token : Token) : Reader Unit := modify fun r => { r with pushed := some token }

/-- The text without the lines that go on in the next one, at its front. -/
def joinLines : List Char → List Char × Nat
  | '\\' :: '\n' :: text => let (text, count) := joinLines text; (text, count + 1)
  | text => (text, 0)

/-- Passes over joints of lines. -/
def skipJoints : Reader (List Char) := do
  let (text, count) := joinLines (← rest)
  modify fun r => { r with rest := text, line := r.line + count }
  return text

/-- Cuts a text at the backquote that closes it.  A backslash before a backquote, a dollar sign or
a backslash is left out, and so is one before a double quote if the whole is quoted. -/
def cutBackquote (quoted : Bool) : (read : List Char) → List Char →
    Option (List Char × List Char)
  | _, [] => none
  | read, '\x60' :: text => some (read.reverse, text)
  | read, '\\' :: '\n' :: text => cutBackquote quoted read text
  | read, '\\' :: c :: text =>
    if c = '\x60' || c = '$' || c = '\\' || (quoted && c = '"') then
      cutBackquote quoted (c :: read) text
    else cutBackquote quoted (c :: '\\' :: read) text
  | read, c :: text => cutBackquote quoted (c :: read) text

/-- Reads up to the single quote that ends quoted text. -/
def singleQuoted : Reader (List Char) := do
  let text ← rest
  let inside := text.takeWhile (· ≠ '\'')
  modify fun r => { r with line := r.line + inside.count '\n' }
  match text.drop inside.length with
  | [] => do
    goTo []
    refuse .openQuote
  | _ :: after => do
    goTo after
    return inside

/-- Cuts the lines of a document off a text, up to its last line. -/
def cutDocument (announcement : Announcement) : (bound : Nat) → (read : List Char) →
    List Char → List Char × List Char × Nat
  | 0, read, text => (read, text, 0)
  | _, read, [] => (read, [], 0)
  | bound + 1, read, text =>
    let line := text.takeWhile (· ≠ '\n')
    let after := text.drop line.length
    let line := if announcement.bare then line.dropWhile (· == '\t') else line
    let count := if after.isEmpty then 0 else 1
    if line = announcement.last then (read, after.drop 1, count)
    else
      let (read, text, more) :=
        cutDocument announcement bound (read ++ line ++ after.take 1) (after.drop 1)
      (read, text, more + count)

/-- The sign of a descriptor at the end of a word that is held with its last piece first: a single
digit. -/
def descriptor? : Word → Option Nat
  | [.bare [c]] => if c.isDigit then some (c.toNat - 48) else none
  | _ => none

/-- The arrow at the front of a text. -/
def arrow? : List Char → Option (String × List Char)
  | '>' :: text =>
    let text := (joinLines text).1
    match text with
    | '>' :: text => some (">>", text)
    | '|' :: text => some (">|", text)
    | '&' :: text => some (">&", text)
    | _ => some (">", text)
  | '<' :: text =>
    let text := (joinLines text).1
    match text with
    | '<' :: '-' :: text => some ("<<-", text)
    | '<' :: text => some ("<<", text)
    | '&' :: text => some ("<&", text)
    | '>' :: text => some ("<>", text)
    | _ => some ("<", text)
  | _ => none

/-- The operator at the front of a text. -/
def operator? : List Char → Option (String × List Char)
  | '&' :: '&' :: text => some ("&&", text)
  | '&' :: text => some ("&", text)
  | '|' :: '|' :: text => some ("||", text)
  | '|' :: text => some ("|", text)
  | ';' :: ';' :: text => some (";;", text)
  | ';' :: text => some (";", text)
  | '(' :: text => some ("(", text)
  | ')' :: text => some (")", text)
  | _ => none

/-- The operation at the front of a text between braces, after the name of a parameter: how a word
after it is used, and the text of that word. -/
def operation? (text : List Char) : Option ((Word → Treatment) × Bool × List Char) :=
  let fallback (evenEmpty : Bool) : List Char → Option ((Word → Treatment) × Bool × List Char)
    | '-' :: text => some (.fallback .usual evenEmpty, false, text)
    | '+' :: text => some (.fallback .alternative evenEmpty, false, text)
    | '?' :: text => some (.fallback .demand evenEmpty, false, text)
    | '=' :: text => some (.fallback .assign evenEmpty, false, text)
    | _ => none
  match text with
  | ':' :: text => fallback true text
  | '#' :: '#' :: text => some (.trimmed false true, true, text)
  | '#' :: text => some (.trimmed false false, true, text)
  | '%' :: '%' :: text => some (.trimmed true true, true, text)
  | '%' :: text => some (.trimmed true false, true, text)
  | text => fallback false text

/-- What a list of commands is read for: a line of a script, the inside of a command, or the inside
of a substitution or an arm, which may be empty. -/
inductive ListKind where
  | line
  | inside
  | optional

/-- Joins a command to those before it. -/
def joinTo (before : Option Script) (script : Script) : Script :=
  match before with
  | none => script
  | some first => .sequence first script

mutual

/-- Reads a run of pieces onto a word that is held with its last piece first. -/
def readPieces : (bound : Nat) → Setting → Word → Reader Word
  | 0, _, word => return word
  | bound + 1, setting, word => do
    let text ← rest
    match setting, text with
    | .plain, [] | .document, [] => return word
    | .quoted, [] => refuse .openQuote
    | .arithmetic _, [] => refuse .openArithmetic
    | .braces, [] => refuse .openBrace
    | .quotedBraces inDocument _, [] =>
      if inDocument then refuse .openBrace else refuse .openQuote
    | _, '\\' :: '\n' :: text => do
      nextLine text
      readPieces bound setting word
    | _, '$' :: text => do
      goTo text
      let piece ← readDollar bound setting
      readPieces bound setting (piece :: word)
    | _, '\x60' :: text => do
      let quoted := setting.quotes
      match cutBackquote quoted [] text with
      | none => refuse .openBackquote
      | some (inside, text) => do
        let outer ← get
        set { outer with rest := inside, line := 1, pushed := none, announced := [] }
        let script ← readList bound .optional none
        let inner ← get
        set { inner with rest := text, line := outer.line + inside.count '\n',
                         pushed := outer.pushed, announced := outer.announced }
        readPieces bound setting (.output script quoted :: word)
    | .plain, '\'' :: text | .braces, '\'' :: text => do
      goTo text
      let inside ← singleQuoted
      readPieces bound setting (.exact inside :: word)
    | .plain, '"' :: text | .braces, '"' :: text => do
      goTo text
      let inside ← readPieces bound .quoted []
      let quote : Word := match inside with | [.parameter "@" _ .value] => [] | _ => [.exact []]
      readPieces bound setting (inside ++ quote ++ word)
    | .plain, '\\' :: c :: text | .braces, '\\' :: c :: text => do
      goTo text
      readPieces bound setting (addExact c word)
    | .plain, c :: text =>
      if endsWord c then return word
      else do
        goTo text
        readPieces bound setting (addBare c word)
    | .braces, '\x7d' :: text => do
      goTo text
      return word
    | .braces, c :: text => do
      if c = '\n' then nextLine text else goTo text
      readPieces bound setting (addBare c word)
    | .quoted, '"' :: text => do
      goTo text
      return word
    | .quotedBraces inDocument inner, '"' :: text => do
      goTo text
      readPieces bound (.quotedBraces inDocument !inner) (.exact [] :: word)
    | .quotedBraces _ false, '\x7d' :: text => do
      goTo text
      return word
    | .arithmetic depth, '(' :: text => do
      goTo text
      readPieces bound (.arithmetic (depth + 1)) (addExact '(' word)
    | .arithmetic (depth + 1), ')' :: text => do
      goTo text
      readPieces bound (.arithmetic depth) (addExact ')' word)
    | .arithmetic 0, ')' :: text => do
      goTo text
      match ← skipJoints with
      | ')' :: text => do
        goTo text
        return word
      | _ => readPieces bound setting (addExact ')' word)
    | .arithmetic _, '"' :: text => do
      goTo text
      readPieces bound setting word
    | setting, '\\' :: c :: text => do
      let isQuote : Bool := match setting with | .document => false | _ => c == '"'
      let isBrace : Bool := match setting with | .quotedBraces _ _ => c == '\x7d' | _ => false
      let word :=
        if c == '\\' || c == '\x60' || c == '$' || isQuote || isBrace then addExact c word
        else addExact c (addExact '\\' word)
      if c = '\n' then nextLine text else goTo text
      readPieces bound setting word
    | setting, c :: text => do
      if c = '\n' then nextLine text else goTo text
      readPieces bound setting (addExact c word)

/-- Reads what follows a dollar sign: a parameter, the output of a script, the value of an
expression, or the sign itself. -/
def readDollar : (bound : Nat) → Setting → Reader Piece
  | 0, _ => return .exact ['$']
  | bound + 1, setting => do
    let quoted := setting.quotes
    match ← skipJoints with
    | '(' :: text => do
      goTo text
      match ← skipJoints with
      | '(' :: text => do
        goTo text
        let expression ← readPieces bound (.arithmetic 0) []
        return .arithmetic expression.reverse quoted
      | _ => do
        let outer ← get
        set { outer with pushed := none, announced := [] }
        let script ← readList bound .optional none
        let token ← readToken bound false false
        unless token.isOperator ")" do unexpected token (some "\")\"")
        readDocuments bound
        modify fun r => { r with pushed := outer.pushed, announced := outer.announced }
        return .output script quoted
    | '\x7b' :: text => do
      goTo text
      readBraces bound setting
    | c :: text =>
      if isSpecial c || c.isDigit then do
        goTo text
        return .parameter (String.ofList [c]) quoted .value
      else if startsName c then do
        let name := (c :: text).takeWhile isNameChar
        goTo ((c :: text).drop name.length)
        return .parameter (String.ofList name) quoted .value
      else return if quoted then .exact ['$'] else .bare ['$']
    | [] => return if quoted then .exact ['$'] else .bare ['$']

/-- Reads a parameter between braces. -/
def readBraces : (bound : Nat) → Setting → Reader Piece
  | 0, _ => return .exact []
  | bound + 1, setting => do
    let quoted := setting.quotes
    let inside : Setting :=
      match setting with
      | .document => .quotedBraces true false
      | .quotedBraces inDocument _ => .quotedBraces inDocument false
      | .quoted | .arithmetic _ => .quotedBraces false false
      | .plain | .braces => .braces
    let nameOf (text : List Char) : List Char :=
      match text with
      | c :: _ =>
        if startsName c then text.takeWhile isNameChar
        else if c.isDigit then text.takeWhile Char.isDigit
        else if isSpecial c then [c]
        else []
      | [] => []
    let text ← rest
    let unknown : Reader Piece := do
      let _ ← readPieces bound inside []
      return .parameter "" quoted .unknown
    match text with
    | '#' :: '\x7d' :: text => do
      goTo text
      return .parameter "#" quoted .value
    | '#' :: after =>
      let name := nameOf after
      match name, after.drop name.length with
      | _ :: _, '\x7d' :: text => do
        goTo text
        return .parameter (String.ofList name) quoted .length
      | _, _ =>
        match operation? after with
        | some (treat, isPattern, text) => do
          goTo text
          let word ← readPieces bound (if isPattern then .braces else inside) []
          return .parameter "#" quoted (treat word.reverse)
        | none => unknown
    | _ => do
      let name := nameOf text
      let after := text.drop name.length
      if name.isEmpty then unknown
      else
        match after with
        | '\x7d' :: text => do
          goTo text
          return .parameter (String.ofList name) quoted .value
        | _ =>
          match operation? after with
          | some (treat, isPattern, text) => do
            goTo text
            let word ← readPieces bound (if isPattern then .braces else inside) []
            return .parameter (String.ofList name) quoted (treat word.reverse)
          | none => do
            goTo after
            unknown

/-- Reads the documents that have been announced. -/
def readDocuments : (bound : Nat) → Reader Unit
  | 0 => return ()
  | bound + 1 => do
    match (← get).announced with
    | [] => return ()
    | announcement :: others => do
      let text ← rest
      let (inside, after, count) := cutDocument announcement (text.length + 1) [] text
      let outer ← get
      let word ← (do
        if announcement.quoted then return [.exact inside]
        else do
          goTo inside
          return (← readPieces bound .document []).reverse : Reader Word)
      modify fun r =>
        { r with rest := after, line := outer.line + count, announced := others,
                 documents := (announcement.number, word) :: r.documents }
      readDocuments bound

/-- Reads the next token as it stands. -/
def lexToken : (bound : Nat) → Reader Token
  | 0 => return .ending
  | bound + 1 => do
    match ← skipJoints with
    | [] => return .ending
    | ' ' :: text | '\t' :: text => do
      goTo text
      lexToken bound
    | '#' :: text => do
      goTo (text.dropWhile (· ≠ '\n'))
      lexToken bound
    | '\n' :: text => do
      nextLine text
      return .newline
    | text =>
      match operator? text with
      | some (found, text) => do
        goTo text
        return .operator found
      | none => do
        let word ← readPieces bound .plain []
        let after ← rest
        let descriptor : Option Nat :=
          match word with
          | [] => some (if after.head? = some '<' then 0 else 1)
          | word => descriptor? word
        match descriptor, arrow? after with
        | some descriptor, some (found, text) => do
          goTo text
          return .arrow descriptor found
        | _, _ => return .word word.reverse

/-- Reads the next token, with an eye on words that have a meaning of their own or not, and perhaps
passing over the ends of lines. -/
def readToken : (bound : Nat) → (special newlines : Bool) → Reader Token
  | 0, _, _ => return .ending
  | bound + 1, special, newlines => do
    let r ← get
    let token ← match r.pushed with
      | some token => do
        set { r with pushed := none }
        pure token
      | none => lexToken bound
    match token with
    | .newline =>
      if newlines then do
        readDocuments bound
        readToken bound special newlines
      else return token
    | .word word =>
      match plain? word with
      | some text =>
        if special && keywords.contains text then return .keyword text else return token
      | none => return token
    | token => return token

/-- Reads a word that has to come next. -/
def readTarget : (bound : Nat) → Reader Word
  | 0 => return []
  | bound + 1 => do
    match ← readToken bound false false with
    | .word word => return word
    | token => unexpected token

/-- Reads the file or descriptor after an arrow. -/
def readRedirection : (bound : Nat) → (descriptor : Nat) → (arrow : String) → Reader Redirection
  | 0, descriptor, _ => return .duplicate descriptor []
  | bound + 1, descriptor, arrow => do
    let word ← readTarget bound
    match arrow with
    | ">>" => return .write descriptor .append word
    | ">|" => return .write descriptor .overwrite word
    | ">&" | "<&" => return .duplicate descriptor word
    | "<>" => return .write descriptor .readWrite word
    | "<" => return .read descriptor word
    | "<<" | "<<-" => do
      let r ← get
      let announcement : Announcement := ⟨r.next, lastLine word, arrow == "<<-", !isBare word⟩
      set { r with next := r.next + 1, announced := r.announced ++ [announcement] }
      return .document descriptor r.next
    | _ => return .write descriptor .write word

/-- Reads a list of commands onto those before it. -/
def readList : (bound : Nat) → ListKind → (before : Option Script) → Reader (Option Script)
  | 0, _, before => return before
  | bound + 1, kind, before => do
    let isLine : Bool := match kind with | .line => true | _ => false
    let token ← readToken bound true (!isLine)
    let mayEnd : Bool := match kind with | .optional => true | _ => false
    match token with
    | .newline => do
      readDocuments bound
      return before
    | .ending => do
      readDocuments bound
      handBack .ending
      return before
    | token =>
      handBack token
      if mayEnd && token.closes then return before
      else do
        let script ← readAndOr bound
        let token ← readToken bound false false
        let script := if token.isOperator "&" then .background script else script
        let all := some (joinTo before script)
        let kind : ListKind := if isLine then .line else .optional
        match token with
        | .ending => do
          readDocuments bound
          handBack .ending
          return all
        | .newline => do
          handBack .newline
          readList bound kind all
        | token =>
          if token.isOperator "&" || token.isOperator ";" then readList bound kind all
          else if isLine then unexpected token
          else do
            handBack token
            return all

/-- Reads a list that has to be there.  At the end of the text it is what should come after it that
is missed. -/
def readInside : (bound : Nat) → Reader Script
  | 0 => unexpected .ending
  | bound + 1 => do return (← readList bound .inside none).getD (.simple 0 [] [] [])

/-- Reads pipelines joined by conditions. -/
def readAndOr : (bound : Nat) → Reader Script
  | 0 => unexpected .ending
  | bound + 1 => do
    let first ← readPipeline bound true false
    readAndOrRest bound first

/-- Joins further pipelines to those read. -/
def readAndOrRest : (bound : Nat) → Script → Reader Script
  | 0, first => return first
  | bound + 1, first => do
    let token ← readToken bound false false
    if token.isOperator "&&" then do
      let second ← readPipeline bound true true
      readAndOrRest bound (.both first second)
    else if token.isOperator "||" then do
      let second ← readPipeline bound true true
      readAndOrRest bound (.either first second)
    else do
      handBack token
      return first

/-- Reads a pipeline. -/
def readPipeline : (bound : Nat) → (special newlines : Bool) → Reader Script
  | 0, _, _ => unexpected .ending
  | bound + 1, special, newlines => do
    let token ← readToken bound special newlines
    let negated := token.isKeyword "!"
    unless negated do handBack token
    let first ← readOne bound false
    let script ← readPipelineRest bound first []
    return if negated then .negation script else script

/-- Joins further commands of a pipeline to those read, which are held with the last one first. -/
def readPipelineRest : (bound : Nat) → (first : Script) → List Script → Reader Script
  | 0, first, _ => return first
  | bound + 1, first, others => do
    let token ← readToken bound false false
    if token.isOperator "|" then do
      let next ← readOne bound true
      readPipelineRest bound first (next :: others)
    else do
      handBack token
      return if others.isEmpty then first else .pipe (first :: others.reverse)

/-- Asks for a token that has to come next, already read with an eye on its meaning. -/
def readWanted : (bound : Nat) → (wanted : String) → (special newlines : Bool) → Reader Unit
  | 0, _, _, _ => return ()
  | bound + 1, wanted, special, newlines => do
    let token ← readToken bound special newlines
    unless token.isKeyword wanted || token.isOperator wanted do
      unexpected token (some s!"\"{wanted}\"")

/-- Reads a command, which may start on a new line. -/
def readOne : (bound : Nat) → (newlines : Bool) → Reader Script
  | 0, _ => unexpected .ending
  | bound + 1, newlines => do
    let line := (← get).line
    let token ← readToken bound true newlines
    match token with
    | .keyword "if" => do
      let script ← readCondition bound
      readTail bound line script
    | .keyword "while" | .keyword "until" => do
      let test ← readInside bound
      readWanted bound "do" true false
      let body ← readInside bound
      readWanted bound "done" true false
      readTail bound line (.loop (token.isKeyword "while") test body)
    | .keyword "for" => do
      let script ← readFor bound line
      readTail bound line script
    | .keyword "case" => do
      match ← readToken bound false false with
      | .word word => do
        readWanted bound "in" true true
        let arms ← readArms bound []
        readTail bound line (.choice line word arms)
      | token => unexpected token (some "word")
    | .operator "(" => do
      let script ← readInside bound
      readWanted bound ")" true false
      let redirections ← readRedirections bound true []
      return .apart line script redirections
    | .keyword "\x7b" => do
      let script ← readInside bound
      readWanted bound "\x7d" true false
      readTail bound line script
    | .word _ | .arrow _ _ => do
      handBack token
      readSimple bound (← get).line [] [] []
    | token => unexpected token

/-- Reads the redirections after a command. -/
def readTail : (bound : Nat) → (line : Nat) → Script → Reader Script
  | 0, _, script => return script
  | bound + 1, line, script => do
    let redirections ← readRedirections bound true []
    return if redirections.isEmpty then script else .redirected line script redirections

/-- Reads redirections onto those before them. -/
def readRedirections : (bound : Nat) → (special : Bool) → List Redirection →
    Reader (List Redirection)
  | 0, _, read => return read
  | bound + 1, special, read => do
    match ← readToken bound special false with
    | .arrow descriptor arrow => do
      let redirection ← readRedirection bound descriptor arrow
      readRedirections bound special (read ++ [redirection])
    | token => do
      handBack token
      return read

/-- Reads a condition after its first word. -/
def readCondition : (bound : Nat) → Reader Script
  | 0 => unexpected .ending
  | bound + 1 => do
    let test ← readInside bound
    readWanted bound "then" true false
    let yes ← readInside bound
    match ← readToken bound true false with
    | .keyword "elif" => do
      let no ← readCondition bound
      return .condition test yes (some no)
    | .keyword "else" => do
      let no ← readInside bound
      readWanted bound "fi" true false
      return .condition test yes (some no)
    | token => do
      handBack token
      readWanted bound "fi" true false
      return .condition test yes none

/-- Reads a loop over words after its first word. -/
def readFor : (bound : Nat) → (line : Nat) → Reader Script
  | 0, _ => unexpected .ending
  | bound + 1, line => do
    match ← readToken bound false false with
    | .word word =>
      match plain? word with
      | some name =>
        if isName name.toList then do
          let token ← readToken bound true true
          let words ← (do
            if token.isKeyword "in" then return some (← readWords bound [])
            else do
              unless token.isOperator ";" do handBack token
              return none : Reader (Option (List Word)))
          readWanted bound "do" true true
          let body ← readInside bound
          readWanted bound "done" true false
          return .each line name words body
        else refuse .badLoopVariable
      | none => refuse .badLoopVariable
    | _ => refuse .badLoopVariable

/-- Reads words up to the end of a line or a semicolon. -/
def readWords : (bound : Nat) → List Word → Reader (List Word)
  | 0, read => return read
  | bound + 1, read => do
    match ← readToken bound false false with
    | .word word => readWords bound (read ++ [word])
    | .newline | .operator ";" => return read
    | token => unexpected token

/-- Reads the arms of a choice. -/
def readArms : (bound : Nat) → List (List Word × Option Script) →
    Reader (List (List Word × Option Script))
  | 0, read => return read
  | bound + 1, read => do
    let token ← readToken bound true true
    if token.isKeyword "esac" then return read
    else do
      let token ← if token.isOperator "(" then readToken bound false false else pure token
      let patterns ← readPatterns bound [] token
      let body ← readList bound .optional none
      let read := read ++ [(patterns, body)]
      let token ← readToken bound true true
      if token.isKeyword "esac" then return read
      else if token.isOperator ";;" then readArms bound read
      else unexpected token (some "\";;\"")

/-- Reads the patterns of an arm, the first token of which is given.  A token that is no word stands
for an empty pattern. -/
def readPatterns : (bound : Nat) → List Word → Token → Reader (List Word)
  | 0, read, _ => return read
  | bound + 1, read, token => do
    let word ← match token with
      | .word word => pure word
      | .keyword text => pure [.bare text.toList]
      | _ => pure [.exact []]
    let token ← readToken bound false false
    if token.isOperator "|" then do
      let token ← readToken bound false false
      readPatterns bound (read ++ [word]) token
    else if token.isOperator ")" then return read ++ [word]
    else unexpected token (some "\")\"")

/-- Reads a simple command onto its parts before, or the definition of a function. -/
def readSimple : (bound : Nat) → (line : Nat) → List (String × Word) → List Word →
    List Redirection → Reader Script
  | 0, line, assignments, words, redirections =>
    return .simple line assignments words redirections
  | bound + 1, line, assignments, words, redirections => do
    match ← readToken bound false false with
    | .word word =>
      match words, assignment? word with
      | [], some assignment =>
        readSimple bound line (assignments ++ [assignment]) [] redirections
      | _, _ => readSimple bound line assignments (words ++ [word]) redirections
    | .arrow descriptor arrow => do
      let redirection ← readRedirection bound descriptor arrow
      readSimple bound line assignments words (redirections ++ [redirection])
    | token => do
      match token.isOperator "(", assignments, words, redirections with
      | true, [], [word], [] => do
        let token ← readToken bound false false
        unless token.isOperator ")" do unexpected token (some "\")\"")
        let name := (plain? word).getD ""
        if !isName name.toList || specialCommands.contains name then refuse .badFunctionName
        else do
          let start := (← get).line
          let body ← readOne bound true
          return .define start name body
      | _, _, _, _ => do
        handBack token
        return .simple line assignments words redirections

end

/-- How much of the bound reading a text may use. -/
def readingBound (text : List Char) : Nat := 16 * text.length + 64

/-- Reads the next complete command.  There is none at the end of the text, and after an empty line
there is one that does nothing. -/
def readCommand (reading : Reading) : Except Mistake (Option (Option Script) × Reading) := do
  let bound := readingBound reading.rest
  let (script, after) ← (readList bound .line none).run { reading with pushed := none }
  let atEnd : Bool := match after.pushed with | some .ending => true | _ => false
  match script, atEnd with
  | none, true => return (none, after)
  | script, _ => return (some script, after)

end Shell

end ToolWeave
