import ToolWeave.Shell.Start
import ToolWeave.Shell.Subshell

/-!
# Expansion

What the words of a command become before it is carried out, and where its redirections lead.

## Main definitions

* `Shell.expandPieces`: what a word becomes.
* `Shell.expandWords`: the fields that words stand for.
* `Shell.assignEach`, `Shell.expandAssignments`: the values that words assign.
* `Shell.redirect`: descriptors led elsewhere.

## Design notes

**Bounded expansion.**  Words hold words, and what stands in for a parameter may do so again.  Each
call gets one unit of a bound that the depth of any script stays far below.
-/

namespace ToolWeave

namespace Shell

/-- The tilde at the front of a word, replaced by a home directory if nothing of it is quoted. -/
def expandTilde (p : Process) (isAssignment : Bool) (word : Word) : Word :=
  let ends (c : Char) : Bool := c == '/' || (isAssignment && c == ':')
  match word with
  | .bare ('~' :: text) :: rest =>
    let user := text.takeWhile fun c => !ends c
    let after := text.drop user.length
    if after.isEmpty && !rest.isEmpty then word
    else
      let home : Option Bytes :=
        if user.isEmpty then p.valueOf? "HOME"
        else if String.ofList user = "root" then some (bytes "/root")
        else none
      match home with
      | some home => .exact (textOf home).toList :: .bare after :: rest
      | none => word
  | _ => word

mutual

/-- What the pieces of a word become.  `separates` tells whether text that is not quoted may be cut
into fields, as it is in the words that stand in for parameters. -/
def expandPieces (runner : Runner) : (bound : Nat) → (separates : Bool) → Word → Action (List Atom)
  | 0, _, _ => neverEnd
  | _, _, [] => return []
  | bound + 1, separates, piece :: rest => do
    let first ← (match piece with
      | .bare text => return atoms false separates (Utf8.encode text)
      | .exact text => return .quote :: atoms true false (Utf8.encode text)
      | .parameter name quoted treatment => expandParameter runner bound name quoted treatment
      | .output script quoted => do
        let text ← match script with
          | some script => capture runner (runner.script script)
          | none => do
            modify fun p => { p with captured := 0 }
            pure []
        return valueAtoms quoted (dropLineFeeds text)
      | .arithmetic expression quoted => do
        let value ← compute runner bound expression
        return valueAtoms quoted (bytes (toString value)) : Action (List Atom))
    let more ← expandPieces runner bound separates rest
    return first ++ more

/-- What pieces become where nothing is cut. -/
def expandUncut (runner : Runner) : (bound : Nat) → Word → Action Marked
  | 0, _ => neverEnd
  | bound + 1, word => do
    let atoms ← expandPieces runner bound false word
    return wholeField (← get).separators atoms

/-- The value of an expression. -/
def compute (runner : Runner) : (bound : Nat) → Word → Action Int
  | 0, _ => neverEnd
  | bound + 1, expression => do
    let text := textOf (unmark (← expandUncut runner bound expression))
    let p ← get
    let lookup (name : String) : Option String := (p.parameter? name).map textOf
    match Arithmetic.evaluate lookup text.toList with
    | .ok (value, changes) => do
      changes.forM fun (name, value) => assign name (bytes (toString value))
      return value
    | .error mistake => fail (mistake.message text)

/-- What a parameter becomes. -/
def expandParameter (runner : Runner) : (bound : Nat) → (name : String) → (quoted : Bool) → Treatment →
    Action (List Atom)
  | 0, _, _, _ => neverEnd
  | bound + 1, name, quoted, treatment => do
    let p ← get
    let value := p.parameter? name
    let isList := name = "@" || name = "*"
    let unsetFails := p.has 'u' && value.isNone && !isList
    let itself : List Atom :=
      if isList then
        if quoted && name = "*" then valueAtoms true p.joinedArguments
        else
          ([Atom.boundary].intercalate (p.arguments.map fun text => valueAtoms quoted text))
      else valueAtoms quoted (value.getD [])
    let counts (evenEmpty : Bool) : Bool :=
      if isList then
        !p.arguments.isEmpty && !(evenEmpty && p.arguments.all fun text => text.isEmpty)
      else value.any fun text => !(evenEmpty && text.isEmpty)
    let standIn (word : Word) : Action (List Atom) := do
      let atoms ← expandPieces runner bound (!quoted) (if quoted then word else expandTilde p false word)
      return if quoted then .quote :: atoms else atoms
    match treatment with
    | .value =>
      if unsetFails then fail s!"{name}: parameter not set" else return itself
    | .length =>
      if unsetFails then fail s!"{name}: parameter not set"
      else return valueAtoms quoted (decimal (value.getD []).length)
    | .fallback .usual evenEmpty word =>
      if counts evenEmpty then return itself else standIn word
    | .fallback .alternative evenEmpty word =>
      if counts evenEmpty then standIn word
      else return if quoted then [.quote] else []
    | .fallback .assign evenEmpty word =>
      if counts evenEmpty then return itself
      else do
        let text := unmark (wholeField p.separators (← standIn word))
        if !isName name.toList then fail s!"{name}: bad variable name"
        assign name text
        return valueAtoms quoted text
    | .fallback .demand evenEmpty word =>
      if counts evenEmpty then return itself
      else do
        let text := textOf (unmark (wholeField p.separators (← standIn word)))
        if word.isEmpty then
          let more := if evenEmpty then " or null" else ""
          fail s!"{name}: parameter not set{more}"
        else fail s!"{name}: {text}"
    | .trimmed atEnd longest pattern => do
      if unsetFails then fail s!"{name}: parameter not set"
      let pattern := wholeField p.separators (← expandPieces runner bound false (expandTilde p false pattern))
      let text := Pattern.trim atEnd longest pattern (value.getD [])
      return valueAtoms quoted text
    | .unknown => fail "Bad substitution"

end

/-- The fields that a word stands for. -/
def expandWord (runner : Runner) : (bound : Nat) → Word → Action (List Bytes)
  | 0, _ => neverEnd
  | bound + 1, word => do
    let atoms ← expandPieces runner bound false (expandTilde (← get) false word)
    let p ← get
    return (fieldsOf p.separators atoms).flatMap p.named

/-- The fields that words stand for. -/
def expandWords (runner : Runner) : (bound : Nat) → List Word → Action (List Bytes)
  | 0, _ => neverEnd
  | _, [] => return []
  | bound + 1, word :: rest => do
    let fields ← expandWord runner bound word
    let more ← expandWords runner bound rest
    return fields ++ more

/-- The one text that a word stands for where nothing is cut into fields. -/
def expandWhole (runner : Runner) : (bound : Nat) → (isAssignment : Bool) → Word → Action Marked
  | 0, _, _ => neverEnd
  | bound + 1, isAssignment, word => do
    let word := expandTilde (← get) isAssignment word
    expandUncut runner bound word

/-- The values that words assign. -/
def expandAssignments (runner : Runner) : (bound : Nat) → List (String × Word) → Action (List (String × Bytes))
  | 0, _ => neverEnd
  | _, [] => return []
  | bound + 1, (name, word) :: rest => do
    let value := unmark (← expandWhole runner bound true word)
    let more ← expandAssignments runner bound rest
    return (name, value) :: more

/-- Assigns values one after the other. -/
def assignEach (runner : Runner) : (bound : Nat) → List (String × Word) → Action (List (String × Bytes))
  | 0, _ => neverEnd
  | _, [] => return []
  | bound + 1, (name, word) :: rest => do
    let value := unmark (← expandWhole runner bound true word)
    assign name value
    let more ← assignEach runner bound rest
    return (name, value) :: more

/-- Leads descriptors elsewhere, or gives the message that refuses one. -/
def redirect (runner : Runner) : (bound : Nat) → List Redirection → Action (Option String)
  | 0, _ => neverEnd
  | _, [] => return none
  | bound + 1, redirection :: rest => do
    let refused ← (match redirection with
      | .duplicate descriptor word => do
        let target := textOf (unmark (← expandWhole runner bound false word))
        let p ← get
        match target, target.toNat? with
        | "-", _ => do
          set (p.lead descriptor none)
          return none
        | _, some source =>
          match target.length, p.channel? source with
          | 1, some channel => do
            set (p.lead descriptor (some channel))
            return none
          | 1, none => return some s!"{target}: Bad file descriptor"
          | _, _ => fail "Syntax error: Bad fd number"
        | _, none => fail "Syntax error: Bad fd number"
      | .write descriptor opening word => do
        let path := textOf (unmark (← expandWhole runner bound false word))
        match (← get).openForOutput opening path with
        | .ok (p, channel) => do
          set (p.lead descriptor (some channel))
          return none
        | .error text => return some text
      | .read descriptor word => do
        let path := textOf (unmark (← expandWhole runner bound false word))
        openForInput descriptor path
      | .document descriptor number => do
        let word := (Entries.get? number (← get).machine.documents).getD []
        let text := unmark (← expandUncut runner bound word)
        let k ← newSource (.ofBytes text)
        modify fun p => p.lead descriptor (some (.source k))
        return none : Action (Option String))
    match refused with
    | some text => return some text
    | none => redirect runner bound rest

end Shell

end ToolWeave
