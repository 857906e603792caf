/-
# The numbers of lines

Every item remembers the number of the line of the source that it was read from. So the numbers of
the items increase, and none of them is greater than the number of lines there are. This is one more
than the number of line breaks, of which comments take away none.
-/

import Dialogue.Line.Classify
import Dialogue.Proofs.Comment

namespace Dialogue

/-- A line of a script remembers the text it was read from and the number of its line. -/
theorem Line.source_of_classifyChars {text : List Char} {lineNo : Nat} {line : Line}
    (hread : Line.classifyChars text lineNo = .ok line) :
    line.source = ⟨String.ofList text, lineNo⟩ := by
  simp only [Line.classifyChars] at hread
  split at hread
  · split at hread
    · cases hread
    · cases hread
      rfl
  · split at hread
    · cases hread
      rfl
    · split at hread
      · cases hread
        rfl
      · split at hread
        · cases hread
          rfl
        · cases hread
          rfl

namespace Item

variable {text : List Char} {lineNo : Nat} {item : Item} {line : Line}

/-- A line of a source that is not blank is read as a heading or as a line of a script. -/
theorem ofLine?_cases (hread : ofLine? text lineNo = .ok (some item)) :
    (∃ name, item = .heading ⟨name, lineNo⟩) ∨
      ∃ line, item = .line line ∧ Line.classifyChars (Text.trim text) lineNo = .ok line := by
  rw [ofLine?] at hread
  split at hread
  · cases hread
  · split at hread
    · cases hread
      exact .inl ⟨_, rfl⟩
    · cases hclassified : Line.classifyChars (Text.trim text) lineNo with
      | error error =>
          rw [hclassified] at hread
          cases hread
      | ok line =>
          rw [hclassified] at hread
          cases hread
          exact .inr ⟨line, rfl, rfl⟩

theorem lineNo_of_ofLine? (hread : ofLine? text lineNo = .ok (some item)) :
    item.lineNo = lineNo := by
  obtain ⟨name, rfl⟩ | ⟨line, rfl, hclassified⟩ := ofLine?_cases hread
  · rfl
  · exact congrArg Source.lineNo (Line.source_of_classifyChars hclassified)

theorem raw_of_ofLine? (hread : ofLine? text lineNo = .ok (some (.line line))) :
    line.raw = String.ofList (Text.trim text) := by
  obtain ⟨name, hheading⟩ | ⟨own, hline, hclassified⟩ := ofLine?_cases hread
  · cases hheading
  · cases hline
    exact congrArg Source.raw (Line.source_of_classifyChars hclassified)

/-- The numbers of the items increase, from the number of the first line on. -/
theorem numbered_of_ofLines {lineNo : Nat} {lines : List (List Char)} {items : List Item}
    (hread : ofLines lineNo lines = .ok items) :
    items.Pairwise (·.lineNo < ·.lineNo) ∧
      ∀ item ∈ items, lineNo ≤ item.lineNo ∧ item.lineNo < lineNo + lines.length := by
  induction lines generalizing lineNo items with
  | nil =>
      cases hread
      exact ⟨.nil, fun _ hmem => absurd hmem List.not_mem_nil⟩
  | cons text rest ih =>
      rw [ofLines] at hread
      split at hread
      · cases hread
      · rename_i item hfirst
        split at hread
        · cases hread
        · rename_i later hremaining
          cases hread
          obtain ⟨hincreasing, hbounds⟩ := ih hremaining
          have hhere : ∀ own ∈ item.toList, own.lineNo = lineNo := by
            intro own hmem
            rw [Option.mem_toList] at hmem
            rw [hmem] at hfirst
            exact lineNo_of_ofLine? hfirst
          have halone : item.toList.Pairwise (·.lineNo < ·.lineNo) := by
            cases item with
            | none => exact .nil
            | some own => exact List.pairwise_singleton _ own
          constructor
          · refine List.pairwise_append.mpr ⟨halone, hincreasing, ?_⟩
            intro own hmem other hafter
            have := hbounds other hafter
            rw [hhere own hmem]
            omega
          · intro other hmem
            rw [List.length_cons]
            rcases List.mem_append.mp hmem with hown | hafter
            · rw [hhere other hown]
              omega
            · have := hbounds other hafter
              omega

end Item

theorem length_splitOn (text : List Char) :
    (text.splitOn '\n').length = text.count '\n' + 1 := by
  induction text with
  | nil => rfl
  | cons c rest ih =>
      rw [List.splitOn_cons_eq_if_modifyHead, List.count_cons]
      split
      · rw [List.length_cons, ih]
      · rw [List.length_modifyHead, ih]

/-- Taking characters off the start of a text takes them off its first piece. -/
theorem splitOn_dropWhile {p : Char → Bool} {mark : Char} (hstays : p mark = false)
    (text : List Char) :
    (text.dropWhile p).splitOn mark = (text.splitOn mark).modifyHead (List.dropWhile p) := by
  induction text with
  | nil => rfl
  | cons c rest ih =>
      obtain ⟨piece, pieces, hcut⟩ := List.exists_cons_of_ne_nil (List.splitOn_ne_nil mark rest)
      rw [hcut] at ih
      by_cases hsame : c = mark
      · subst hsame
        rw [List.dropWhile_cons_of_neg (by simp [hstays]), List.splitOn_cons_eq_if_modifyHead,
          if_pos (beq_self_eq_true c)]
        rfl
      · rw [List.splitOn_cons_eq_if_modifyHead, if_neg (by simpa using hsame), hcut,
          List.modifyHead_cons, List.modifyHead_cons, List.dropWhile_cons, List.dropWhile_cons]
        split
        · exact ih
        · rw [List.splitOn_cons_eq_if_modifyHead, if_neg (by simpa using hsame), hcut]
          rfl

theorem count_dropWhile {p : Char → Bool} (hstays : p '\n' = false) (text : List Char) :
    (text.dropWhile p).count '\n' = text.count '\n' := by
  induction text with
  | nil => rfl
  | cons c rest ih =>
      rw [List.dropWhile_cons]
      split
      · rename_i hdropped
        have hother : c ≠ '\n' := by
          rintro rfl
          rw [hstays] at hdropped
          cases hdropped
        rw [ih, List.count_cons_of_ne hother]
      · rfl

namespace Item

/-- A source has one line more than it has line breaks. -/
theorem length_sourceLines (text : List Char) :
    (sourceLines text).length = text.count '\n' + 1 := by
  rw [sourceLines, length_splitOn, count_dropWhile rfl, Comment.count_stripChars]

theorem lineNo_le_of_ofText {text : String} {items : List Item} (hread : ofText text = .ok items) :
    ∀ item ∈ items, item.lineNo ≤ text.toList.count '\n' + 1 := by
  intro item hmem
  have := ((numbered_of_ofLines hread).2 item hmem).2
  have := length_sourceLines text.toList
  omega

end Item

end Dialogue
