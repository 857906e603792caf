/-
# Ranges of code points

Character properties are data: a property lists its characters as ranges of code points, and a
character has the property when one of the ranges holds its code point. A stride says how far apart
the listed code points of a range are. It is one nearly everywhere, and two where a script writes
its capital and small letters in turn.
-/

namespace Dialogue.Text

/-- The code points `first`, `first + stride`, … that do not pass `last`. -/
structure CodeRange where
  /-- The least code point of the range. -/
  first : Nat
  /-- The greatest code point of the range. -/
  last : Nat
  /-- The distance between neighbours in the range. -/
  stride : Nat

namespace CodeRange

/-- Whether a code point lies in a range. -/
def contains (range : CodeRange) (code : Nat) : Bool :=
  range.first ≤ code && code ≤ range.last && (code - range.first) % range.stride == 0

/-- Whether one of the ranges holds a character. -/
def listed (ranges : List CodeRange) (c : Char) : Bool :=
  ranges.any fun range => range.contains c.toNat

theorem contains_eq_true_iff {range : CodeRange} {code : Nat} :
    range.contains code = true ↔
      range.first ≤ code ∧ code ≤ range.last ∧ (code - range.first) % range.stride = 0 := by
  simp [contains, and_assoc]

@[simp]
theorem listed_nil (c : Char) : listed [] c = false := rfl

theorem listed_eq_true_iff {ranges : List CodeRange} {c : Char} :
    listed ranges c = true ↔ ∃ range ∈ ranges, range.contains c.toNat = true := by
  simp [listed]

end CodeRange

end Dialogue.Text
