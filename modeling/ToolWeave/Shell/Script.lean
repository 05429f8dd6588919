/-!
# Shell scripts

The structure of scripts in the command language of the system shell: words with their quoting, and
the commands that are made of words.

## Main definitions

* `Shell.Piece`, `Shell.Word`: a word as it is written, before anything is replaced.
* `Shell.Treatment`: what a parameter stands for.
* `Shell.Redirection`: where a descriptor of a command leads.
* `Shell.Script`: a command, simple or made of others.
* `Shell.Mistake`: why a text is no script.

## Design notes

**Quoting stays visible.**  Quoted text means itself even where a pattern is asked for, and what
stands in quotes is not cut into fields; so pieces keep whether they were quoted.

**Documents stand apart.**  The lines that a command reads as its input come after the line of the
command.  A redirection only holds the number of its document; the reader of a script collects the
documents themselves.
-/

namespace ToolWeave

namespace Shell

/-- How a parameter that is not set is made up for. -/
inductive Fallback where
  /-- By a word in its place. -/
  | usual
  /-- By a word, which is given to it too. -/
  | assign
  /-- Not at all: a word says what is wrong. -/
  | demand
  /-- By nothing; it is a parameter that is set which a word stands for. -/
  | alternative
  deriving DecidableEq

/-- How a file is opened for output. -/
inductive Opening where
  | write
  /-- Even if files that are there should be spared. -/
  | overwrite
  | append
  | readWrite
  deriving DecidableEq

mutual

/-- A piece of a word. -/
inductive Piece where
  /-- Text that is not quoted. -/
  | bare (text : List Char)
  /-- Text in quotes or after a backslash, which means itself. -/
  | exact (text : List Char)
  | parameter (name : String) (quoted : Bool) (treatment : Treatment)
  /-- The output of a script. -/
  | output (script : Option Script) (quoted : Bool)
  /-- The value of an expression. -/
  | arithmetic (expression : List Piece) (quoted : Bool)

/-- What a parameter stands for. -/
inductive Treatment where
  | value
  /-- The number of its bytes. -/
  | length
  /-- The value, unless it is not set or, with `evenEmpty`, if it is empty. -/
  | fallback (kind : Fallback) (evenEmpty : Bool) (word : List Piece)
  /-- The value without what fits a pattern at one of its ends. -/
  | trimmed (atEnd longest : Bool) (pattern : List Piece)
  /-- Nothing that is known. -/
  | unknown

/-- Where a descriptor of a command leads. -/
inductive Redirection where
  /-- To where another one leads, or nowhere if the word is a dash. -/
  | duplicate (descriptor : Nat) (target : List Piece)
  | write (descriptor : Nat) (opening : Opening) (file : List Piece)
  | read (descriptor : Nat) (file : List Piece)
  /-- To the document of a number. -/
  | document (descriptor number : Nat)

/-- A command, simple or made of others.  Commands whose mistakes are reported hold the number of
their line. -/
inductive Script where
  /-- Assignments, words and redirections of one command. -/
  | simple (line : Nat) (assignments : List (String × List Piece)) (words : List (List Piece))
      (redirections : List Redirection)
  | sequence (first second : Script)
  | both (first second : Script)
  | either (first second : Script)
  | pipe (parts : List Script)
  | negation (script : Script)
  /-- A script that runs side by side with what follows. -/
  | background (script : Script)
  /-- A script that runs in a shell of its own. -/
  | apart (line : Nat) (script : Script) (redirections : List Redirection)
  | redirected (line : Nat) (script : Script) (redirections : List Redirection)
  | condition (test yes : Script) (no : Option Script)
  /-- A loop that goes on as long as its test succeeds, or fails. -/
  | loop (whileTrue : Bool) (test body : Script)
  /-- A loop over words, or else over the parameters by position. -/
  | each (line : Nat) (name : String) (words : Option (List (List Piece))) (body : Script)
  | choice (line : Nat) (word : List Piece) (arms : List (List (List Piece) × Option Script))
  /-- The definition of a function. -/
  | define (line : Nat) (name : String) (body : Script)

end

/-- A word as it is written. -/
abbrev Word : Type := List Piece

/-- Why a text is no script. -/
inductive Flaw where
  | openQuote
  | openBrace
  | openBackquote
  | openArithmetic
  | badLoopVariable
  | badFunctionName
  | badDescriptor
  /-- Something else should stand where this does; the end of the text is a thing of this kind. -/
  | unexpected (found : String) (wanted : Option String)

/-- The message of a flaw. -/
def Flaw.message : Flaw → String
  | openQuote => "Syntax error: Unterminated quoted string"
  | openBrace => "Syntax error: Missing '\x7d'"
  | openBackquote => "Syntax error: EOF in backquote substitution"
  | openArithmetic => "Syntax error: Missing '))'"
  | badLoopVariable => "Syntax error: Bad for loop variable"
  | badFunctionName => "Syntax error: Bad function name"
  | badDescriptor => "Syntax error: Bad fd number"
  | unexpected found none => s!"Syntax error: {found} unexpected"
  | unexpected found (some wanted) => s!"Syntax error: {found} unexpected (expecting {wanted})"

/-- Why and in which line a text is no script. -/
structure Mistake where
  line : Nat
  flaw : Flaw

/-- A character that may start a name. -/
def startsName (c : Char) : Bool := c.isAlpha || c == '_'

/-- A character that may stand in a name. -/
def isNameChar (c : Char) : Bool := c.isAlphanum || c == '_'

/-- Whether a text is a name. -/
def isName (text : List Char) : Bool := text.head?.any startsName && text.all isNameChar

end Shell

end ToolWeave
