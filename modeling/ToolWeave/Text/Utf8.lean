/-!
# Decoding UTF-8

Bytes are decoded strictly.  A fault names the offending bytes the way a diagnostic does: where
they start, how many they are, and what is wrong with them.

## Main definitions

* `Utf8.Fault`: a stretch of bytes that cannot be decoded.
* `Utf8.step`: the character at the front of some bytes.
* `Utf8.decode`: all characters, or the first fault.
-/

namespace ToolWeave

namespace Utf8

/-- What is wrong with some bytes. -/
inductive Reason where
  | start
  | continuation
  | incomplete
  deriving DecidableEq

/-- The wording of a reason. -/
def Reason.message : Reason → String
  | start => "invalid start byte"
  | continuation => "invalid continuation byte"
  | incomplete => "unexpected end of data"

/-- A stretch of bytes that cannot be decoded: its position, its first byte, its length. -/
structure Fault where
  position : Nat
  byte : UInt8
  length : Nat
  reason : Reason

/-- A byte as two hexadecimal digits. -/
def hexByte (b : UInt8) : String :=
  let digits := Nat.toDigits 16 b.toNat
  String.ofList (List.replicate (2 - digits.length) '0' ++ digits)

/-- The wording of a fault. -/
def Fault.message (f : Fault) : String :=
  let stretch :=
    if f.length = 1 then s!"byte 0x{hexByte f.byte} in position {f.position}"
    else s!"bytes in position {f.position}-{f.position + f.length - 1}"
  "'utf-8' codec can't decode " ++ stretch ++ ": " ++ f.reason.message

/-- Whether a byte continues a character. -/
def isContinuation (b : UInt8) : Bool := b.toNat / 64 == 2

/-- The bytes that may follow a first byte, so that no character has two spellings and none is half
of a surrogate pair or too large. -/
def secondRange (first : UInt8) : Nat × Nat :=
  if first = 0xE0 then (0xA0, 0xBF)
  else if first = 0xED then (0x80, 0x9F)
  else if first = 0xF0 then (0x90, 0xBF)
  else if first = 0xF4 then (0x80, 0x8F)
  else (0x80, 0xBF)

/-- How many bytes a character with this first byte has, none if no character starts with it. -/
def width? (first : UInt8) : Option Nat :=
  let n := first.toNat
  if n < 0x80 then some 1
  else if n < 0xC2 then none
  else if n < 0xE0 then some 2
  else if n < 0xF0 then some 3
  else if n < 0xF5 then some 4
  else none

/-- How many of the bytes after the first one are right, looking at no more than `count`. -/
def goodTail (first : UInt8) (count : Nat) (rest : List UInt8) : Nat :=
  match rest.take count with
  | [] => 0
  | second :: more =>
    let (low, high) := secondRange first
    if low ≤ second.toNat ∧ second.toNat ≤ high then 1 + (more.takeWhile isContinuation).length
    else 0

/-- The code point of a first byte of some width and the bytes after it. -/
def codePoint (width : Nat) (first : UInt8) (tail : List UInt8) : Nat :=
  let lead := if width = 1 then first.toNat else first.toNat % Nat.pow 2 (7 - width)
  tail.foldl (fun code b => code * 64 + b.toNat % 64) lead

/-- Decodes the character at the front: the character and how many bytes it takes, or what is wrong
with how many bytes. -/
def step (first : UInt8) (rest : List UInt8) : Except (Reason × Nat) (Char × Nat) :=
  match width? first with
  | none => .error (.start, 1)
  | some width =>
    let good := goodTail first (width - 1) rest
    if good = width - 1 then .ok (Char.ofNat (codePoint width first (rest.take good)), width)
    else if good = rest.length then .error (.incomplete, good + 1)
    else .error (.continuation, good + 1)

/-- Decodes bytes from a position on.  `read` holds the characters decoded so far, the last one
first; each turn takes one character. -/
def decodeFrom (position : Nat) :
    (turns : Nat) → (read : List Char) → List UInt8 → Except Fault (List Char)
  | turns + 1, read, first :: rest =>
    match step first rest with
    | .ok (c, width) => decodeFrom (position + width) turns (c :: read) (rest.drop (width - 1))
    | .error (reason, length) => .error ⟨position, first, length, reason⟩
  | _, read, _ => .ok read.reverse

/-- All characters of some bytes, or the first fault. -/
def decode (bytes : List UInt8) : Except Fault (List Char) :=
  decodeFrom 0 bytes.length [] bytes

/-- The bytes of a character. -/
def encodeChar (c : Char) : List UInt8 :=
  let n := c.toNat
  let tail (shift : Nat) : UInt8 := UInt8.ofNat (0x80 + n / Nat.pow 2 shift % 64)
  if n < 0x80 then [UInt8.ofNat n]
  else if n < 0x800 then [UInt8.ofNat (0xC0 + n / 64), tail 0]
  else if n < 0x10000 then [UInt8.ofNat (0xE0 + n / 4096), tail 6, tail 0]
  else [UInt8.ofNat (0xF0 + n / 262144), tail 12, tail 6, tail 0]

/-- The bytes of some characters. -/
def encode (cs : List Char) : List UInt8 := cs.flatMap encodeChar

/-- The bytes of a string. -/
def encodeString (s : String) : List UInt8 := encode s.toList

end Utf8

end ToolWeave
