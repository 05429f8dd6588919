import ToolWeave.Shell.Stream

/-!
# Patterns

Patterns with wildcards, which files, the arms of a choice and the ends of values are compared
with.

## Main definitions

* `Shell.Marked`: bytes, each with a mark on it: whether it means itself.
* `Shell.Pattern.fits`: whether some bytes fit a pattern.
* `Shell.Pattern.trim`: bytes without what fits a pattern at one of their ends.
* `Shell.classMember?`: the classes of bytes that have names.
-/

namespace ToolWeave

namespace Shell

/-- Bytes with a mark on each: whether it means itself in a pattern. -/
abbrev Marked : Type := List (UInt8 × Bool)

/-- Marks all bytes alike. -/
def mark (exact : Bool) (text : Bytes) : Marked := text.map fun b => (b, exact)

/-- Marked bytes without their marks. -/
def unmark (text : Marked) : Bytes := text.map Prod.fst

/-- Whether a byte is a letter of the alphabet. -/
def isLetter (b : UInt8) : Bool := (65 ≤ b && b ≤ 90) || (97 ≤ b && b ≤ 122)

/-- Whether a byte is a decimal digit. -/
def isDigit (b : UInt8) : Bool := 48 ≤ b && b ≤ 57

/-- Whether a byte is space: a blank or one of the controls that move on. -/
def isSpaceByte (b : UInt8) : Bool := b == 32 || (9 ≤ b && b ≤ 13)

/-- The members of a named class of bytes. -/
def classMember? (name : String) : Option (UInt8 → Bool) :=
  match name with
  | "alpha" => some isLetter
  | "digit" => some isDigit
  | "alnum" => some fun b => isLetter b || isDigit b
  | "upper" => some fun b => 65 ≤ b && b ≤ 90
  | "lower" => some fun b => 97 ≤ b && b ≤ 122
  | "space" => some isSpaceByte
  | "blank" => some fun b => b == 32 || b == 9
  | "punct" => some fun b => 33 ≤ b && b ≤ 126 && !isLetter b && !isDigit b
  | "print" => some fun b => 32 ≤ b && b ≤ 126
  | "graph" => some fun b => 33 ≤ b && b ≤ 126
  | "cntrl" => some fun b => b < 32 || b == 127
  | "xdigit" => some fun b => isDigit b || (65 ≤ b && b ≤ 70) || (97 ≤ b && b ≤ 102)
  | _ => none

namespace Pattern

/-- The name of the class at the front, and what follows it. -/
def className? (text : Marked) : Option (String × Marked) :=
  match text with
  | (91, false) :: (58, false) :: rest =>
    let name := rest.takeWhile fun entry => isLetter entry.1
    match rest.drop name.length with
    | (58, false) :: (93, _) :: rest => some (textOf (unmark name), rest)
    | _ => none
  | _ => none

/-- Reads the members of a set up to the bracket that closes it.  A bracket in the first place is a
member. -/
def readSet : (bound : Nat) → (first : Bool) → (UInt8 → Bool) → Marked →
    Option ((UInt8 → Bool) × Marked)
  | 0, _, _, _ => none
  | _, _, _, [] => none
  | bound + 1, first, isMember, (b, exact) :: rest =>
    if b = 93 && !exact && !first then some (isMember, rest)
    else
      match className? ((b, exact) :: rest) with
      | some (name, rest) =>
        let isNew := (classMember? name).getD fun _ => false
        readSet bound false (fun c => isMember c || isNew c) rest
      | none =>
        match rest with
        | (45, false) :: (last, lastExact) :: after =>
          if last = 93 && !lastExact then
            readSet bound false (fun c => isMember c || c == b) rest
          else readSet bound false (fun c => isMember c || (b ≤ c && c ≤ last)) after
        | _ => readSet bound false (fun c => isMember c || c == b) rest

/-- The set at the front of what follows a bracket, and the rest of the pattern. -/
def set? (text : Marked) : Option ((UInt8 → Bool) × Marked) :=
  let none : UInt8 → Bool := fun _ => false
  match text with
  | (33, false) :: rest | (94, false) :: rest =>
    (readSet (text.length + 1) true none rest).map fun (isMember, rest) =>
      (fun c => !isMember c, rest)
  | _ => readSet (text.length + 1) true none text

/-- Whether marked bytes are a pattern that fits some bytes. -/
def fitsFrom : (bound : Nat) → Marked → Bytes → Bool
  | 0, _, _ => false
  | _, [], text => text.isEmpty
  | bound + 1, (42, false) :: rest, text =>
    fitsFrom bound rest text ||
      match text with
      | [] => false
      | _ :: tail => fitsFrom bound ((42, false) :: rest) tail
  | bound + 1, (63, false) :: rest, _ :: tail => fitsFrom bound rest tail
  | bound + 1, (91, false) :: rest, b :: tail =>
    match set? rest with
    | some (isMember, rest) => isMember b && fitsFrom bound rest tail
    | none => b == 91 && fitsFrom bound rest tail
  | bound + 1, (92, false) :: (c, _) :: rest, b :: tail => c == b && fitsFrom bound rest tail
  | bound + 1, (c, _) :: rest, b :: tail => c == b && fitsFrom bound rest tail
  | _, _ :: _, [] => false

/-- Whether some bytes fit a pattern. -/
def fits (pattern : Marked) (text : Bytes) : Bool :=
  fitsFrom (2 * (pattern.length + text.length) + 2) pattern text

/-- Whether anything in marked bytes is a wildcard. -/
def isWild (text : Marked) : Bool :=
  text.any fun entry => !entry.2 && (entry.1 == 42 || entry.1 == 63 || entry.1 == 91)

/-- Bytes without the shortest or longest part at one of their ends that fits a pattern. -/
def trim (atEnd longest : Bool) (pattern : Marked) (text : Bytes) : Bytes :=
  let lengths := List.range (text.length + 1)
  let lengths := if longest then lengths.reverse else lengths
  if atEnd then
    match lengths.find? fun n => fits pattern (text.drop (text.length - n)) with
    | some n => text.take (text.length - n)
    | none => text
  else
    match lengths.find? fun n => fits pattern (text.take n) with
    | some n => text.drop n
    | none => text

end Pattern

end Shell

end ToolWeave
