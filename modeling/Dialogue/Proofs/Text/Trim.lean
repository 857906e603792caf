/-
# Trimmed texts

A text that has been trimmed neither starts nor ends with white space, and trimming it again changes
nothing.
-/

import Dialogue.Text.Blank

namespace Dialogue.Text

variable {text rest : List Char} {c : Char}

theorem trimLeft_trimLeft (text : List Char) : trimLeft (trimLeft text) = trimLeft text := by
  induction text with
  | nil => rfl
  | cons c rest ih =>
      by_cases hblank : isBlank c = true
      · rw [trimLeft_cons_of_isBlank rest hblank, ih]
      · have hsolid := Bool.eq_false_iff.mpr hblank
        rw [trimLeft_cons_of_not_isBlank rest hsolid, trimLeft_cons_of_not_isBlank rest hsolid]

theorem trimRight_trimRight (text : List Char) : trimRight (trimRight text) = trimRight text := by
  have hagain := trimLeft_trimLeft text.reverse
  rw [trimLeft, trimLeft] at hagain
  rw [trimRight, trimRight, List.reverse_reverse, hagain]

/-- A text that does not start with white space keeps its first character. -/
theorem trimRight_cons_of_not_isBlank (rest : List Char) (hsolid : isBlank c = false) :
    trimRight (c :: rest) = c :: trimRight rest := by
  have hstays : [c].dropWhile isBlank = [c] := List.dropWhile_cons_of_neg (by simp [hsolid])
  rw [trimRight, trimRight, List.reverse_cons, List.dropWhile_append, hstays]
  split
  · rename_i hblank
    rw [List.isEmpty_iff.mp hblank]
    rfl
  · rw [List.reverse_append]
    rfl

theorem trimLeft_trim (text : List Char) : trimLeft (trim text) = trim text := by
  rw [trim]
  cases hstart : trimLeft text with
  | nil => rfl
  | cons c rest =>
      have hsolid := isBlank_of_trimLeft_eq_cons hstart
      rw [trimRight_cons_of_not_isBlank rest hsolid, trimLeft_cons_of_not_isBlank _ hsolid]

theorem trimRight_trim (text : List Char) : trimRight (trim text) = trim text :=
  trimRight_trimRight _

/-- A text that is its own trimmed form does not start with white space. -/
theorem trimLeft_eq_of_trim_eq (htrimmed : trim text = text) : trimLeft text = text := by
  rw [← htrimmed, trimLeft_trim]

theorem trimRight_eq_of_trim_eq (htrimmed : trim text = text) : trimRight text = text := by
  rw [← htrimmed, trimRight_trim]

theorem trim_eq_of_trimRight_eq (hstart : trimLeft text = text) (hstop : trimRight text = text) :
    trim text = text := by
  rw [trim, hstart, hstop]

theorem trim_trim (text : List Char) : trim (trim text) = trim text :=
  trim_eq_of_trimRight_eq (trimLeft_trim text) (trimRight_trim text)

theorem trimLeft_of_solid (hsolid : ∀ c ∈ text, isBlank c = false) : trimLeft text = text := by
  cases text with
  | nil => rfl
  | cons c rest => exact trimLeft_cons_of_not_isBlank rest (hsolid c List.mem_cons_self)

theorem trimRight_of_solid (hsolid : ∀ c ∈ text, isBlank c = false) : trimRight text = text := by
  have hmirrored := trimLeft_of_solid fun c hmem => hsolid c (List.mem_reverse.mp hmem)
  rw [trimLeft] at hmirrored
  rw [trimRight, hmirrored, List.reverse_reverse]

/-- Trimming takes the white space around a word away and nothing else. -/
theorem trim_append_of_solid {before after : List Char} (hleads : ∀ c ∈ before, isBlank c = true)
    (hsolid : ∀ c ∈ text, isBlank c = false) (htrails : ∀ c ∈ after, isBlank c = true) :
    trim (before ++ text ++ after) = text := by
  have hleft : trimLeft (before ++ text ++ after) = trimLeft (text ++ after) := by
    rw [List.append_assoc, trimLeft, trimLeft, List.dropWhile_append_of_pos hleads]
  have hright (word : List Char) : trimRight (word ++ after) = trimRight word := by
    rw [trimRight, trimRight, List.reverse_append, List.dropWhile_append_of_pos]
    exact fun c hmem => htrails c (List.mem_reverse.mp hmem)
  cases text with
  | nil =>
      have hgone := @List.dropWhile_append_of_pos _ isBlank _ [] htrails
      rw [List.append_nil, List.dropWhile_nil] at hgone
      rw [trim, hleft, List.nil_append, trimLeft, hgone, trimRight_nil]
  | cons c rest =>
      have hkept := trimLeft_cons_of_not_isBlank (rest ++ after) (hsolid c List.mem_cons_self)
      rw [trim, hleft, List.cons_append, hkept, ← List.cons_append, hright,
        trimRight_of_solid hsolid]

end Dialogue.Text
