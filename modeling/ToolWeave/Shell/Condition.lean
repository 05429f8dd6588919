import ToolWeave.Host.Program
import ToolWeave.Shell.Arithmetic
import ToolWeave.Shell.Process

/-!
# Conditions

What `test` finds out about texts, numbers and files.

## Main definitions

* `Shell.Condition.holds`: whether a condition holds, or what is wrong with it.

## Design notes

**Few words.**  Whether a word is an operator or an operand depends on how many words there are
around it: three words with an operator between them always compare, and an operator that nothing
follows is an operand.
-/

namespace ToolWeave

namespace Shell

namespace Condition

/-- What an operator is. -/
inductive Kind where
  | unary
  | binary
  | negation
  | both
  | either
  | opening
  | closing
  deriving DecidableEq

/-- The kind of an operator, if a word is one. -/
def kind? (word : String) : Option Kind :=
  if ["-r", "-w", "-x", "-e", "-f", "-d", "-c", "-b", "-p", "-u", "-g", "-k", "-s", "-t", "-z",
      "-n", "-h", "-O", "-G", "-L", "-S"].contains word then some .unary
  else if ["=", "!=", "<", ">", "-eq", "-ne", "-ge", "-gt", "-le", "-lt", "-nt", "-ot",
      "-ef"].contains word then some .binary
  else
    match word with
    | "!" => some .negation
    | "-a" => some .both
    | "-o" => some .either
    | "(" => some .opening
    | ")" => some .closing
    | _ => none

/-- A reader of words, of which the first one is the one that has just been looked at. -/
abbrev Reader (α : Type) : Type := StateT (List String) (Except String) α

/-- Whether the word after an operator makes that an operand. -/
def isOperand : List String → Bool
  | [] => true
  | [_] => false
  | next :: after :: _ => kind? next = some .binary && after ≠ ")"

/-- What kind of operator comes first among some words.  There is none if the word is an operand. -/
def operator? : List String → Option Kind
  | [] => none
  | word :: rest =>
    match kind? word with
    | some .unary => if isOperand rest then none else some .unary
    | some .opening => if rest.isEmpty then none else some .opening
    | other => other

/-- The number that a word spells. -/
def number (word : String) : Except String Int :=
  let cs := word.toList.dropWhile Arithmetic.isSpace
  let (negative, digits) : Bool × List Char :=
    match cs with
    | '-' :: digits => (true, digits)
    | '+' :: digits => (false, digits)
    | digits => (false, digits)
  let (n, rest) := Arithmetic.readDigits 10 0 digits
  if (digits.head?.any Char.isDigit) && rest.all Arithmetic.isSpace then
    .ok (if negative then -(n : Int) else n)
  else .error s!"Illegal number: {word}"

/-- Whether two words are in a relation. -/
def related (host : Host) (operator a b : String) : Except String Bool := do
  match operator with
  | "=" => return a == b
  | "!=" => return a != b
  | "<" => return decide (a < b)
  | ">" => return decide (b < a)
  | "-eq" => return (← number a) == (← number b)
  | "-ne" => return (← number a) != (← number b)
  | "-lt" => return decide ((← number a) < (← number b))
  | "-le" => return decide ((← number a) ≤ (← number b))
  | "-gt" => return decide ((← number b) < (← number a))
  | "-ge" => return decide ((← number b) ≤ (← number a))
  | "-ef" => return (host.kind? a).isSome && host.climbedParts a == host.climbedParts b
  | "-nt" => return (host.kind? a).isSome && (host.kind? b).isNone
  | "-ot" => return (host.kind? a).isNone && (host.kind? b).isSome
  | _ => return false

/-- What an operator says about one word. -/
def describes (host : Host) (operator word : String) : Except String Bool := do
  match operator, host.kind? word with
  | "-z", _ => return word.isEmpty
  | "-n", _ => return !word.isEmpty
  | "-t", _ => do
    let _ ← number word
    return false
  | "-e", kind | "-r", kind | "-w", kind => return kind.isSome
  | "-O", kind | "-G", kind => return kind.isSome
  | "-f", some (.file _) | "-f", some .program => return true
  | "-s", some (.file content) => return !content.isEmpty
  | "-s", some .program | "-s", some .directory => return true
  | "-d", some .directory => return true
  | "-x", some .directory | "-x", some .program => return true
  | "-c", some .device => return true
  | _, _ => return false

mutual

/-- Evaluates parts of which one has to hold. -/
def disjunction (host : Host) : (bound : Nat) → (first : Option Kind) → Reader Bool
  | 0, _ => return false
  | bound + 1, first => do
    let result ← conjunction host bound first
    let words ← get
    if operator? (words.drop 1) = some .either then do
      set (words.drop 2)
      let more ← disjunction host bound (operator? (words.drop 2))
      return result || more
    else return result

/-- Evaluates parts all of which have to hold. -/
def conjunction (host : Host) : (bound : Nat) → (first : Option Kind) → Reader Bool
  | 0, _ => return false
  | bound + 1, first => do
    let result ← negation host bound first
    let words ← get
    if operator? (words.drop 1) = some .both then do
      set (words.drop 2)
      let more ← conjunction host bound (operator? (words.drop 2))
      return result && more
    else return result

/-- Evaluates a part that may be negated. -/
def negation (host : Host) : (bound : Nat) → (first : Option Kind) → Reader Bool
  | 0, _ => return false
  | bound + 1, first => do
    if first = some .negation then do
      let words ← get
      let next := operator? (words.drop 1)
      unless (words.drop 1).isEmpty do set (words.drop 1)
      let result ← (if (words.drop 1).isEmpty then return false else negation host bound next :
        Reader Bool)
      return !result
    else primary host bound first

/-- Evaluates what stands in parentheses, or a comparison, or a single word. -/
def primary (host : Host) : (bound : Nat) → (first : Option Kind) → Reader Bool
  | 0, _ => return false
  | bound + 1, first => do
    let words ← get
    match first, words with
    | _, [] => return false
    | some .opening, _ :: rest => do
      set rest
      if operator? rest = some .closing then return false
      else do
        let result ← disjunction host bound (operator? rest)
        let words ← get
        set (words.drop 1)
        unless operator? (words.drop 1) = some .closing do throw "closing paren expected"
        return result
    | some .unary, operator :: rest => do
      match rest with
      | [] => throw s!"{operator}: argument expected"
      | word :: _ => do
        set rest
        describes host operator word
    | _, word :: rest =>
      if operator? rest = some .binary then
        match rest with
        | operator :: b :: after => do
          set (b :: after)
          related host operator word b
        | _ => throw s!"{rest.headD word}: argument expected"
      else return !word.isEmpty

end

/-- Whether a condition of several words holds, the kind of the first one being known. -/
def evaluate (host : Host) (words : List String) (first : Option Kind) : Except String Bool := do
  let (result, last) ← (disjunction host (4 * words.length + 8) first).run words
  match last with
  | word :: _ :: _ => throw s!"{word}: unexpected operator"
  | _ => return result

/-- Whether a condition holds, or what is wrong with it. -/
def holds (host : Host) (words : List String) : Except String Bool :=
  let inParentheses := words.head? = some "(" && words.getLast? = some ")"
  match words with
  | [] => .ok false
  | [_, operator, _] =>
    if kind? operator = some .binary then evaluate host words none
    else if inParentheses then evaluate host (words.drop 1).dropLast (operator? (words.drop 1).dropLast)
    else evaluate host words (operator? words)
  | [_, _, _, _] =>
    if inParentheses then evaluate host (words.drop 1).dropLast (operator? (words.drop 1).dropLast)
    else evaluate host words (operator? words)
  | _ => evaluate host words (operator? words)

end Condition

end Shell

end ToolWeave
