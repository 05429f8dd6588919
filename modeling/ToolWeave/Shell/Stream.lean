import ToolWeave.Cancellation
import ToolWeave.Entries
import ToolWeave.Text.Utf8

/-!
# Streams

What processes exchange: bytes, and the instants at which they come.

## Main definitions

* `Shell.Bytes`: bytes as processes exchange them.
* `Shell.Chunk`: bytes written at one instant by one process.
* `Shell.Stream`: what a reader gets, chunk by chunk, and when it ends.

## Design notes

**Time.**  The two ends of a pipe run side by side, though they are carried out one after the other:
the writer leaves chunks with their instants, and a reader that takes a chunk cannot be earlier than
it.

**Input that is still open.**  A process may be observed while more input can still come.  A stream
that does not close makes a reader that wants more stop as waiting; asking again with more input
replays the process from its start.
-/

namespace ToolWeave

namespace Shell

/-- Bytes, as processes exchange them. -/
abbrev Bytes : Type := List UInt8

/-- The bytes of a text. -/
def bytes (s : String) : Bytes := Utf8.encodeString s

/-- The text of some bytes, wrong bytes replaced. -/
def textOf (text : Bytes) : String :=
  match Utf8.decode text with
  | .ok chars => String.ofList chars
  | .error _ => String.ofList (text.map fun b => Char.ofNat b.toNat)

/-- The integer that some bytes spell. -/
def integer? (text : Bytes) : Option Int := (textOf text).toInt?

/-- Joins bytes with a space between them. -/
def spaced (words : List Bytes) : Bytes := [(32 : UInt8)].intercalate words

/-- A text cut after each line feed. -/
def linesOf (text : Bytes) : List Bytes :=
  text.foldr (fun b lines =>
    if b = 10 then [b] :: lines
    else
      match lines with
      | [] => [[b]]
      | line :: rest => (b :: line) :: rest) []

/-- A line without the line feed at its end. -/
def bareLine (line : Bytes) : Bytes := if line.getLast? = some 10 then line.dropLast else line

/-- The lines of a text without their line feeds. -/
def bareLines (text : Bytes) : List Bytes := (linesOf text).map bareLine

/-- An instant after all others that are ever reached. -/
def never : Instant := 1000000000000 * (1000 * Instant.millisecond)

/-- Bytes written at one instant by one process. -/
structure Chunk where
  time : Instant
  writer : Nat
  text : Bytes

/-- What a reader gets: chunks with their instants, and the instant of the end.  Without an end more
can still come. -/
structure Stream where
  chunks : List (Instant × Bytes)
  closes : Option Instant

namespace Stream

/-- The stream that has ended from the start. -/
def ended : Stream := ⟨[], some 0⟩

/-- The stream of a text that is there from the start. -/
def ofBytes (text : Bytes) : Stream := ⟨[(0, text)], some 0⟩

/-- The bytes that are in a stream. -/
def contents (stream : Stream) : Bytes := stream.chunks.flatMap Prod.snd

end Stream

/-- Chunks in the order of their instants. -/
def inOrder (chunks : List Chunk) : List Chunk :=
  chunks.mergeSort fun a b => decide (a.time ≤ b.time)

/-- The bytes of chunks, in the order of their instants. -/
def gathered (chunks : List Chunk) : Bytes := (inOrder chunks).flatMap Chunk.text

end Shell

end ToolWeave
