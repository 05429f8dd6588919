import ToolWeave.Entries

/-!
# Arithmetic of the shell

The integer expressions that scripts compute with: decimal, octal and hexadecimal literals,
variables, assignments, conditions, parentheses, signs, and operators of ten ranks.

## Main definitions

* `Shell.Arithmetic.readInteger`: the integer at the front of a text.
* `Shell.Arithmetic.ranks`: the operators that join two operands, the loosest rank first.
* `Shell.Arithmetic.evaluate`: the value of an expression, and the variables it sets.

## Design notes

**Words of 64 bits.**  Every result is brought back into the range of a signed word of 64 bits; a
literal that does not fit becomes the largest word.

**Parts that do not count.**  An operand that the result does not depend on is read but not
evaluated: it sets no variable, and nothing is wrong with it but its form.
-/

namespace ToolWeave

namespace Shell

namespace Arithmetic

/-- Why an expression has no value. -/
inductive Mistake where
  | divisionByZero
  | noPrimary
  | noEnd
  | noColon
  | noParenthesis
  | illegal (text : String)

/-- The message of a mistake in an expression. -/
def Mistake.message (expression : String) : Mistake → String
  | divisionByZero => s!"arithmetic expression: division by zero: \"{expression}\""
  | noPrimary => s!"arithmetic expression: expecting primary: \"{expression}\""
  | noEnd => s!"arithmetic expression: expecting EOF: \"{expression}\""
  | noColon => s!"arithmetic expression: expecting ':': \"{expression}\""
  | noParenthesis => s!"arithmetic expression: expecting ')': \"{expression}\""
  | illegal text => s!"Illegal number: {text}"

/-- How many signed words of 64 bits there are. -/
def wordCount : Nat := 18446744073709551616

/-- The largest signed word of 64 bits. -/
def largest : Nat := 9223372036854775807

/-- An integer brought back into a signed word. -/
def wrap (value : Int) : Int := value.bmod wordCount

/-- An integer as an unsigned word. -/
def bits (value : Int) : Nat := (value.emod wordCount).toNat

/-- The value of a digit in a base, if it is one. -/
def digit? (base : Nat) (c : Char) : Option Nat :=
  let value :=
    if c.isDigit then c.toNat - 48 else if c.isAlpha then c.toLower.toNat - 87 else base
  if value < base then some value else none

/-- Reads digits onto a value. -/
def readDigits (base : Nat) (value : Nat) : List Char → Nat × List Char
  | [] => (value, [])
  | c :: cs =>
    match digit? base c with
    | some digit => readDigits base (value * base + digit) cs
    | none => (value, c :: cs)

/-- Reads a literal, if a digit is at the front.  A zero in front makes it octal, and one with the
letter `x` and a further digit hexadecimal. -/
def readMagnitude? (cs : List Char) : Option (Nat × List Char) :=
  match cs with
  | '0' :: 'x' :: c :: rest | '0' :: 'X' :: c :: rest =>
    if (digit? 16 c).isSome then some (readDigits 16 0 (c :: rest))
    else some (0, cs.drop 1)
  | '0' :: rest => some (readDigits 8 0 rest)
  | c :: _ => if c.isDigit then some (readDigits 10 0 cs) else none
  | [] => none

/-- Whether a character is space around a number. -/
def isSpace (c : Char) : Bool := c == ' ' || ('\t' ≤ c && c ≤ '\r')

/-- Reads an integer with space and a sign in front, if there is one. -/
def readInteger? (cs : List Char) : Option (Int × List Char) :=
  match cs.dropWhile isSpace with
  | '-' :: digits => (readMagnitude? digits).map fun (n, rest) => (-(n : Int), rest)
  | '+' :: digits => (readMagnitude? digits).map fun (n, rest) => ((n : Int), rest)
  | digits => (readMagnitude? digits).map fun (n, rest) => ((n : Int), rest)

/-- The integer that a whole text spells, perhaps with space around it. -/
def integer? (cs : List Char) : Option Int :=
  match readInteger? cs with
  | some (value, rest) =>
    if rest.all isSpace && wrap value == value then some value else none
  | none => none

/-- The value of a variable: zero if it is not set or holds nothing but space. -/
def ofVariable (text : Option String) : Except Mistake Int :=
  match text with
  | none => .ok 0
  | some text =>
    if text.toList.all isSpace then .ok 0
    else
      match integer? text.toList with
      | some value => .ok value
      | none => .error (.illegal text)

/-- What an expression consists of. -/
inductive Token where
  | number (value : Int)
  | name (text : String)
  | operator (text : String)
  /-- A character that means nothing. -/
  | stray

/-- The operators, longer ones before those they start with. -/
def operators : List String :=
  ["<<=", ">>=", "<<", ">>", "<=", ">=", "==", "!=", "&&", "||", "*=", "/=", "%=", "+=", "-=",
   "&=", "^=", "|=", "+", "-", "*", "/", "%", "<", ">", "=", "!", "~", "&", "|", "^", "?", ":",
   "(", ")"]

/-- Cuts an expression into tokens. -/
def tokens : (bound : Nat) → List Char → List Token
  | 0, _ => []
  | _, [] => []
  | bound + 1, c :: cs =>
    if c = ' ' || c = '\t' || c = '\n' then tokens bound cs
    else
      match readMagnitude? (c :: cs) with
      | some (value, rest) => .number (min value largest : Nat) :: tokens bound rest
      | none =>
        if c.isAlpha || c = '_' then
          let rest := cs.dropWhile fun c => c.isAlphanum || c == '_'
          let name := (c :: cs).take (cs.length + 1 - rest.length)
          .name (String.ofList name) :: tokens bound rest
        else
          match operators.find? fun text => text.toList.isPrefixOf (c :: cs) with
          | some text => .operator text :: tokens bound ((c :: cs).drop text.length)
          | none => .stray :: tokens bound cs

/-- A truth value as a number. -/
def truth (b : Bool) : Int := if b then 1 else 0

/-- An operation of two integers. -/
abbrev Operation : Type := Int → Int → Except Mistake Int

/-- An operation that always has a result. -/
def always (f : Int → Int → Int) : Operation := fun a b => .ok (wrap (f a b))

/-- An operation that has no result if its second operand is zero. -/
def unlessZero (f : Int → Int → Int) : Operation := fun a b =>
  if b = 0 then .error .divisionByZero else .ok (wrap (f a b))

/-- An operation on the bits of two words. -/
def onBits (f : Nat → Nat → Nat) : Operation := always fun a b => (f (bits a) (bits b) : Nat)

/-- The operators that join two operands, the loosest rank first. -/
def ranks : List (List (String × Operation)) :=
  [[("|", onBits Nat.lor)],
   [("^", onBits Nat.xor)],
   [("&", onBits Nat.land)],
   [("==", always fun a b => truth (a == b)), ("!=", always fun a b => truth (a != b))],
   [("<=", always fun a b => truth (decide (a ≤ b))),
    (">=", always fun a b => truth (decide (b ≤ a))),
    ("<", always fun a b => truth (decide (a < b))),
    (">", always fun a b => truth (decide (b < a)))],
   [("<<", always fun a b => a * Nat.pow 2 (bits b % 64)),
    (">>", always fun a b => a.fdiv (Nat.pow 2 (bits b % 64) : Nat))],
   [("+", always (· + ·)), ("-", always (· - ·))],
   [("*", always (· * ·)), ("/", unlessZero Int.tdiv), ("%", unlessZero Int.tmod)]]

/-- The operation that an assigning operator carries out before it assigns. -/
def assigning? (text : String) : Option Operation :=
  if text = "=" then some (always fun _ b => b)
  else if text.endsWith "=" && text.length ≥ 2 then
    Entries.get? (text.dropEnd 1).toString
      ((ranks.flatten).filter fun entry => !(["==", "!=", "<=", ">=", "<", ">"].contains entry.1))
  else none

/-- An expression under evaluation: the tokens that are left, and the variables that were set. -/
structure State where
  rest : List Token
  set : Entries Int

/-- A reader of some part of an expression. -/
abbrev Reader (α : Type) : Type := StateT State (Except Mistake) α

/-- Whether an operator comes next, which is then passed over. -/
def accept (text : String) : Reader Bool := do
  match (← get).rest with
  | .operator found :: rest =>
    if found = text then do
      modify fun state => { state with rest := rest }
      return true
    else return false
  | _ => return false

/-- The value of a variable. -/
def valueOf (lookup : String → Option String) (name : String) : Reader Int := do
  match Entries.get? name (← get).set with
  | some value => return value
  | none => ofVariable (lookup name)

mutual

/-- Evaluates an assignment, or else a condition.  What is not `live` does not count. -/
def assignment (lookup : String → Option String) : (bound : Nat) → (live : Bool) → Reader Int
  | 0, _ => throw .noPrimary
  | bound + 1, live => do
    match (← get).rest with
    | .name name :: .operator text :: rest =>
      match assigning? text with
      | some operation => do
        modify fun state => { state with rest := rest }
        let operand ← assignment lookup bound live
        if !live then return operand
        else do
          let old ← if text = "=" then pure 0 else valueOf lookup name
          let value ← operation old operand
          modify fun state => { state with set := Entries.put name value state.set }
          return value
      | none => condition lookup bound live
    | _ => condition lookup bound live

/-- Evaluates a choice between two values, or else a disjunction. -/
def condition (lookup : String → Option String) : (bound : Nat) → (live : Bool) → Reader Int
  | 0, _ => throw .noPrimary
  | bound + 1, live => do
    let test ← disjunction lookup bound live
    if ← accept "?" then do
      let yes ← assignment lookup bound (live && test != 0)
      unless ← accept ":" do throw .noColon
      let no ← condition lookup bound (live && test == 0)
      return if test != 0 then yes else no
    else return test

/-- Evaluates a disjunction. -/
def disjunction (lookup : String → Option String) : (bound : Nat) → (live : Bool) → Reader Int
  | 0, _ => throw .noPrimary
  | bound + 1, live => do
    let first ← conjunction lookup bound live
    if ← accept "||" then do
      let second ← disjunction lookup bound (live && first == 0)
      return truth (first != 0 || second != 0)
    else return first

/-- Evaluates a conjunction. -/
def conjunction (lookup : String → Option String) : (bound : Nat) → (live : Bool) → Reader Int
  | 0, _ => throw .noPrimary
  | bound + 1, live => do
    let first ← ranked lookup bound ranks live
    if ← accept "&&" then do
      let second ← conjunction lookup bound (live && first != 0)
      return truth (first != 0 && second != 0)
    else return first

/-- Evaluates an expression whose operators are of some ranks. -/
def ranked (lookup : String → Option String) : (bound : Nat) →
    List (List (String × Operation)) → (live : Bool) → Reader Int
  | 0, _, _ => throw .noPrimary
  | bound + 1, [], live => primary lookup bound live
  | bound + 1, rank :: tighter, live => do
    let first ← ranked lookup bound tighter live
    joined lookup bound rank tighter first live

/-- Joins further operands of a rank to a value. -/
def joined (lookup : String → Option String) : (bound : Nat) → List (String × Operation) →
    List (List (String × Operation)) → Int → (live : Bool) → Reader Int
  | 0, _, _, _, _ => throw .noPrimary
  | bound + 1, rank, tighter, first, live => do
    match (← get).rest with
    | .operator text :: rest =>
      match Entries.get? text rank with
      | some operation => do
        modify fun state => { state with rest := rest }
        let second ← ranked lookup bound tighter live
        let value ← if live then operation first second else pure first
        joined lookup bound rank tighter value live
      | none => return first
    | _ => return first

/-- Evaluates a literal, a variable, or an expression with a sign or in parentheses. -/
def primary (lookup : String → Option String) : (bound : Nat) → (live : Bool) → Reader Int
  | 0, _ => throw .noPrimary
  | bound + 1, live => do
    match (← get).rest with
    | [] => throw .noPrimary
    | token :: rest => do
      modify fun state => { state with rest := rest }
      match token with
      | .number value => return value
      | .name name => if live then valueOf lookup name else return 0
      | .operator "+" => primary lookup bound live
      | .operator "-" => return wrap (-(← primary lookup bound live))
      | .operator "!" => return truth ((← primary lookup bound live) == 0)
      | .operator "~" => return -(← primary lookup bound live) - 1
      | .operator "(" => do
        let value ← assignment lookup bound live
        unless ← accept ")" do throw .noParenthesis
        return value
      | _ => throw .noPrimary

end

/-- The value of an expression, and the variables it sets.  An empty expression is zero. -/
def evaluate (lookup : String → Option String) (cs : List Char) :
    Except Mistake (Int × Entries Int) := do
  let all := tokens (cs.length + 1) cs
  if all.isEmpty then return (0, [])
  let (value, state) ← (assignment lookup (20 * all.length + 40) true).run ⟨all, []⟩
  if state.rest.isEmpty then return (value, state.set) else throw .noEnd

end Arithmetic

end Shell

end ToolWeave
