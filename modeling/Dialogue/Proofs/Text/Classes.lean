/-
# Classes of characters

Names and words end at white space because no character of a name or a word is white space. The
classes are tables of ranges, so it is enough to compare the ranges, and below code point 128 the
characters one by one.
-/

import Dialogue.Line.Grammar
import Dialogue.Proofs.Text.Words

namespace Dialogue

namespace Text

variable {c : Char} {ranges others : List CodeRange}

/-- No range of the one table meets a range of the other. -/
def CodeRange.AreApart (ranges others : List CodeRange) : Prop :=
  ∀ range ∈ ranges, ∀ other ∈ others, range.last < other.first ∨ other.last < range.first

instance : Decidable (CodeRange.AreApart ranges others) :=
  inferInstanceAs (Decidable (∀ range ∈ ranges, ∀ other ∈ others,
    range.last < other.first ∨ other.last < range.first))

/-- A character that is listed in a table is not listed in a table apart from it. -/
theorem CodeRange.AreApart.listed_eq_false (hapart : AreApart ranges others)
    (hheld : listed ranges c = true) : listed others c = false := by
  rw [Bool.eq_false_iff]
  intro halso
  obtain ⟨range, hmem, hinside⟩ := listed_eq_true_iff.mp hheld
  obtain ⟨other, hmem', hinside'⟩ := listed_eq_true_iff.mp halso
  have := contains_eq_true_iff.mp hinside
  have := contains_eq_true_iff.mp hinside'
  rcases hapart range hmem other hmem' with hbefore | hafter <;> omega

/-- A class is apart from white space if its ASCII characters are and its table is. -/
theorem isBlank_of_class (test : Char → Bool)
    (hsmall : ∀ code < 128, test (Char.ofNat code) = true → isBlank (Char.ofNat code) = false)
    (hapart : CodeRange.AreApart ranges blankRanges)
    (hheld : (if c.toNat < 128 then test c else CodeRange.listed ranges c) = true) :
    isBlank c = false := by
  split at hheld
  · rename_i hbelow
    exact of_ascii (fun c => test c = true → isBlank c = false) hsmall hbelow hheld
  · exact hapart.listed_eq_false hheld

theorem isBlank_of_isWordChar (hword : isWordChar c = true) : isBlank c = false :=
  isBlank_of_class (fun c => c.isAlphanum || c == '_') (by decide +kernel) (by decide +kernel) hword

theorem isWordChar_of_isBlank (hblank : isBlank c = true) : isWordChar c = false := by
  rw [Bool.eq_false_iff]
  intro hword
  rw [isBlank_of_isWordChar hword] at hblank
  cases hblank

theorem isBlank_of_isUppercase (hupper : isUppercase c = true) : isBlank c = false :=
  isBlank_of_class Char.isUpper (by decide +kernel) (by decide +kernel) hupper

end Text

namespace Grammar

theorem isBlank_of_isNameChar {c : Char} (hnamed : isNameChar c = true) :
    Text.isBlank c = false := by
  rw [isNameChar, Bool.or_eq_true, Bool.or_eq_true, beq_iff_eq, beq_iff_eq] at hnamed
  rcases hnamed with (hupper | rfl) | rfl
  · exact Text.isBlank_of_isUppercase hupper
  · decide
  · decide

end Grammar

end Dialogue
