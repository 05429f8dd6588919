/-!
# Blank characters

The characters that count as white space at the ends of a line: the ASCII ones, the four
information separators, and the spaces and separators of other scripts.

## Main definitions

* `Text.isBlank`: whether a character is white space.
* `Text.strip`: a text without the blank characters at its ends.
* `Text.words`: the words of a text.
-/

namespace ToolWeave

namespace Text

/-- Whether a character is white space. -/
def isBlank (c : Char) : Bool :=
  let code := c.toNat
  (decide (9 ≤ code) && decide (code ≤ 13)) || (decide (28 ≤ code) && decide (code ≤ 32)) ||
  code == 0x85 || code == 0xA0 || code == 0x1680 ||
  (decide (0x2000 ≤ code) && decide (code ≤ 0x200A)) || code == 0x2028 || code == 0x2029 ||
  code == 0x202F || code == 0x205F || code == 0x3000

/-- Every white space character of the ASCII set is blank. -/
theorem isBlank_of_isWhitespace {c : Char} (h : c.isWhitespace = true) : isBlank c = true := by
  simp only [Char.isWhitespace, Bool.or_eq_true, decide_eq_true_eq] at h
  rcases h with ((h | h) | h) | h <;> subst h <;> rfl

/-- The characters without those at the end that satisfy a predicate. -/
def dropEnd (p : Char → Bool) (cs : List Char) : List Char :=
  (cs.reverse.dropWhile p).reverse

/-- The characters without the blank ones at both ends. -/
def stripChars (cs : List Char) : List Char := dropEnd isBlank (cs.dropWhile isBlank)

/-- The text without the blank characters at both ends. -/
def strip (s : String) : String := String.ofList (stripChars s.toList)

/-- The words of a text, which blank characters separate. -/
def words (s : String) : List String :=
  (s.toList.splitOnP isBlank).filterMap fun cs =>
    if cs.isEmpty then none else some (String.ofList cs)

end Text

end ToolWeave
