/-
# Blanks and trimming

Lines, names, arguments and values are read without the white space around them. This module says
which characters are white space and removes them from the two ends of a text. The set is wider
than the space, the tab and the line ends: it holds the next-line and no-break characters and the
typographic spaces too, but not the zero-width ones.
-/

import Dialogue.Text.CodeRange

namespace Dialogue.Text

/-- The white space characters. -/
def blankRanges : List CodeRange :=
  [⟨0x09, 0x0D, 1⟩, ⟨0x20, 0x20, 1⟩, ⟨0x85, 0x85, 1⟩, ⟨0xA0, 0xA0, 1⟩, ⟨0x1680, 0x1680, 1⟩,
   ⟨0x2000, 0x200A, 1⟩, ⟨0x2028, 0x2029, 1⟩, ⟨0x202F, 0x202F, 1⟩, ⟨0x205F, 0x205F, 1⟩,
   ⟨0x3000, 0x3000, 1⟩]

/-- Whether a character is white space. -/
def isBlank (c : Char) : Bool :=
  CodeRange.listed blankRanges c

/-- The text without the white space it starts with. -/
def trimLeft (text : List Char) : List Char :=
  text.dropWhile isBlank

/-- The text without the white space it ends with. -/
def trimRight (text : List Char) : List Char :=
  (text.reverse.dropWhile isBlank).reverse

/-- The text without the white space at its two ends. -/
def trim (text : List Char) : List Char :=
  trimRight (trimLeft text)

@[simp]
theorem trimLeft_nil : trimLeft [] = [] := rfl

theorem trimLeft_cons_of_isBlank {c : Char} (rest : List Char) (hblank : isBlank c = true) :
    trimLeft (c :: rest) = trimLeft rest := by
  simp [trimLeft, hblank]

theorem trimLeft_cons_of_not_isBlank {c : Char} (rest : List Char) (hsolid : isBlank c = false) :
    trimLeft (c :: rest) = c :: rest := by
  simp [trimLeft, hsolid]

theorem trimLeft_suffix (text : List Char) : trimLeft text <:+ text :=
  List.dropWhile_suffix isBlank

theorem length_trimLeft_le (text : List Char) : (trimLeft text).length ≤ text.length :=
  (trimLeft_suffix text).length_le

@[simp]
theorem trimRight_nil : trimRight [] = [] := rfl

theorem trimRight_prefix (text : List Char) : trimRight text <+: text := by
  have hshorter := List.dropWhile_suffix isBlank (l := text.reverse)
  simpa [trimRight] using List.reverse_prefix.mpr hshorter

@[simp]
theorem trim_nil : trim [] = [] := rfl

/-- What is left of a text after trimming starts with no white space. -/
theorem isBlank_of_trimLeft_eq_cons {text rest : List Char} {c : Char}
    (h : trimLeft text = c :: rest) : isBlank c = false := by
  have hkept := List.head?_dropWhile_not isBlank text
  simp only [trimLeft] at h
  simpa [h] using hkept

end Dialogue.Text
