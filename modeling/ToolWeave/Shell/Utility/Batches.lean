import ToolWeave.Shell.Pattern
import ToolWeave.Shell.Utility.Basic

/-!
# Batches of arguments

How a text becomes the arguments of command lines.

## Main definitions

* `Shell.quotedWords`: the words of a text.
* `Shell.inBatches`: items in batches.
* `Shell.replaceAll`: a text with another one in the place of a mark.
-/

namespace ToolWeave

namespace Shell

/-- Words of a text, as `xargs` cuts it: at space that is not quoted. -/
def quotedWordsFrom : (word : Option Bytes) → (quote : Option UInt8) → Bytes → List Bytes
  | word, _, [] => word.toList.map List.reverse
  | word, none, 92 :: b :: text => quotedWordsFrom (some (b :: word.getD [])) none text
  | word, none, b :: text =>
    if isSpaceByte b then word.toList.map List.reverse ++ quotedWordsFrom none none text
    else if b = 34 || b = 39 then quotedWordsFrom (some (word.getD [])) (some b) text
    else quotedWordsFrom (some (b :: word.getD [])) none text
  | word, some quote, b :: text =>
    if b = quote then quotedWordsFrom word none text
    else quotedWordsFrom (some (b :: word.getD [])) (some quote) text

/-- Words of a text, as `xargs` cuts it. -/
def quotedWords (text : Bytes) : List Bytes := quotedWordsFrom none none text

/-- A text with every occurrence of another replaced. -/
def replaceFrom (mark item : Bytes) : (bound : Nat) → Bytes → Bytes
  | 0, text => text
  | _, [] => []
  | bound + 1, b :: text =>
    if !mark.isEmpty && mark.isPrefixOf (b :: text) then
      item ++ replaceFrom mark item bound ((b :: text).drop mark.length)
    else b :: replaceFrom mark item bound text

/-- A text with every occurrence of another replaced. -/
def replaceAll (mark item text : Bytes) : Bytes := replaceFrom mark item (text.length + 1) text

/-- Items in batches of so many. -/
def inBatches (count : Nat) : (bound : Nat) → List Bytes → List (List Bytes)
  | 0, _ => []
  | _, [] => []
  | bound + 1, items => items.take (max 1 count) :: inBatches count bound (items.drop (max 1 count))

end Shell

end ToolWeave
