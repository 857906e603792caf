/-
# Comparing values

The values of variables are texts. Two texts that are written as integers of 64 bits are ordered as
integers. Otherwise two texts that are written as decimals are ordered by their nearest binary
numbers. Any other two texts are only known to be equal, when their lowercase forms are, and have
no order else. White space around a value never matters.
-/

import Dialogue.Number.Binary64
import Dialogue.Text.Blank
import Dialogue.Text.Match

namespace Dialogue.Value

open Text (trim lowercaseAfter)
open Number (word? decimal?)

/-- The order of two trimmed values, if they have one. -/
def orderChars? (left right : List Char) : Option Ordering :=
  match word? left, word? right with
  | some l, some r => some (compare l r)
  | _, _ =>
    match decimal? left, decimal? right with
    | some l, some r => some (compare l r)
    | _, _ =>
      if lowercaseAfter false left = lowercaseAfter false right then some .eq else none

/-- The order of two values, if they have one. -/
def order? (left right : String) : Option Ordering :=
  orderChars? (trim left.toList) (trim right.toList)

/-- Whether a text is written as a decimal in range. -/
def isDecimal (text : String) : Bool :=
  (decimal? (trim text.toList)).isSome

end Dialogue.Value
