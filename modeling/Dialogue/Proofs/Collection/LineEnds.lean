/-
# Line ends

Some systems end a line with a carriage return and a line break. A carriage return in front of a
line break is white space at the end of a line, so it changes nothing in what is read: it belongs to
no mark, it is dropped with a comment or trimmed off a line, and the numbers of the lines count the
line breaks alone.

The proof does not need all lines to end in the same way. It follows a text and another one that has
more carriage returns in front of line breaks through the stages of reading.
-/

import Dialogue.Collection.OfText
import Dialogue.Proofs.Comment
import Dialogue.Proofs.Text.Trim
import Mathlib.Data.List.Forall2

namespace Dialogue

open Text (isBlank trim trimLeft trimRight)

namespace Text

/-- The text with a carriage return in front of every line break. -/
def addReturns (text : String) : String :=
  String.ofList (text.toList.flatMap fun c => if c = '\n' then ['\r', '\n'] else [c])

/-- The second text is the first one with carriage returns put in front of some line breaks. -/
inductive GainsReturns : List Char → List Char → Prop where
  | nil : GainsReturns [] []
  | keep (c : Char) {text other : List Char} (hrest : GainsReturns text other) :
      GainsReturns (c :: text) (c :: other)
  | put {text other : List Char} (hrest : GainsReturns text other) :
      GainsReturns ('\n' :: text) ('\r' :: '\n' :: other)

namespace GainsReturns

variable {text other before before' after after' : List Char}

theorem refl (text : List Char) : GainsReturns text text := by
  induction text with
  | nil => exact .nil
  | cons c rest ih => exact .keep c ih

theorem append (hfirst : GainsReturns before before') (hsecond : GainsReturns after after') :
    GainsReturns (before ++ after) (before' ++ after') := by
  induction hfirst with
  | nil => exact hsecond
  | keep c hrest ih => exact .keep c ih
  | put hrest ih => exact .put ih

/-- A text cut in two gains its carriage returns in the two parts. -/
theorem exists_of_append (hgains : GainsReturns (before ++ after) other) :
    ∃ before' after', other = before' ++ after' ∧ GainsReturns before before' ∧
      GainsReturns after after' := by
  induction before generalizing other with
  | nil => exact ⟨[], other, rfl, .nil, hgains⟩
  | cons c rest ih =>
      cases hgains with
      | keep _ hlater =>
          obtain ⟨rest', after', rfl, hfirst, hsecond⟩ := ih hlater
          exact ⟨c :: rest', after', rfl, .keep c hfirst, hsecond⟩
      | put hlater =>
          obtain ⟨rest', after', rfl, hfirst, hsecond⟩ := ih hlater
          exact ⟨'\r' :: '\n' :: rest', after', rfl, .put hfirst, hsecond⟩

/-- No carriage return comes between the two halves of a mark. -/
theorem exists_of_mark (hgains : GainsReturns ('%' :: '%' :: text) other) :
    ∃ text', other = '%' :: '%' :: text' ∧ GainsReturns text text' := by
  cases hgains with
  | keep _ hlater =>
      cases hlater with
      | keep _ hlast => exact ⟨_, rfl, hlast⟩

theorem head?_eq_percent_iff (hgains : GainsReturns text other) :
    other.head? = some '%' ↔ text.head? = some '%' := by
  cases hgains with
  | nil => exact Iff.rfl
  | keep c hrest => exact Iff.rfl
  | put hrest => exact iff_of_false (by simp) (by simp)

theorem hasMark_iff (hgains : GainsReturns text other) :
    Comment.HasMark other ↔ Comment.HasMark text := by
  induction hgains with
  | nil => exact Iff.rfl
  | keep c hrest ih =>
      rw [Comment.hasMark_cons_iff, Comment.hasMark_cons_iff, hrest.head?_eq_percent_iff, ih]
  | put hrest ih =>
      rw [Comment.hasMark_cons_iff, Comment.hasMark_cons_iff, Comment.hasMark_cons_iff, ih]
      simp

theorem isClear_iff (hgains : GainsReturns text other) :
    Comment.IsClear other ↔ Comment.IsClear text :=
  not_congr (hgains.append (refl ['%'])).hasMark_iff

/-- A comment leaves the same line breaks. -/
theorem lineBreaks_eq (hgains : GainsReturns text other) :
    Comment.lineBreaks other = Comment.lineBreaks text := by
  induction hgains with
  | nil => rfl
  | keep c hrest ih =>
      rw [Comment.lineBreaks, Comment.lineBreaks] at ih ⊢
      rw [List.filter_cons, List.filter_cons, ih]
  | put hrest ih => exact congrArg ('\n' :: ·) ih

/-- Comments are taken out at the same places, with the carriage returns inside of them. -/
theorem stripChars (hgains : GainsReturns text other) :
    GainsReturns (Comment.stripChars text) (Comment.stripChars other) := by
  induction text using Comment.comment_induction generalizing other with
  | clear text hclear =>
      rwa [Comment.stripChars_of_not_hasMark hclear,
        Comment.stripChars_of_not_hasMark (mt hgains.hasMark_iff.mp hclear)]
  | unclosed before inside hopens hunclosed =>
      obtain ⟨before', rest, rfl, hfirst, hsecond⟩ := exists_of_append hgains
      obtain ⟨inside', rfl, hlater⟩ := exists_of_mark hsecond
      rwa [Comment.stripChars_append_of_clear hopens,
        Comment.stripChars_mark_of_not_hasMark hunclosed,
        Comment.stripChars_append_of_clear (hfirst.isClear_iff.mpr hopens),
        Comment.stripChars_mark_of_not_hasMark (mt hlater.hasMark_iff.mp hunclosed)]
  | comment before comment after hopens hcloses ih =>
      obtain ⟨before', rest, rfl, hfirst, hsecond⟩ := exists_of_append hgains
      obtain ⟨inside, rfl, hopened⟩ := exists_of_mark hsecond
      obtain ⟨comment', rest, rfl, hwithin, hthird⟩ := exists_of_append hopened
      obtain ⟨after', rfl, hlater⟩ := exists_of_mark hthird
      rw [Comment.stripChars_comment hopens hcloses,
        Comment.stripChars_comment (hfirst.isClear_iff.mpr hopens)
          (hwithin.isClear_iff.mpr hcloses), hwithin.lineBreaks_eq]
      exact (hfirst.append (refl _)).append (ih hlater)

/-- What is dropped from the start is the same if it is neither a carriage return nor a line
break. -/
theorem dropWhile {p : Char → Bool} (hgains : GainsReturns text other) (hreturns : p '\r' = false)
    (hbreaks : p '\n' = false) : GainsReturns (text.dropWhile p) (other.dropWhile p) := by
  induction hgains with
  | nil => exact .nil
  | keep c hrest ih =>
      rw [List.dropWhile_cons, List.dropWhile_cons]
      split
      · exact ih
      · exact .keep c hrest
  | put hrest ih =>
      rw [List.dropWhile_cons_of_neg (by simp [hbreaks]),
        List.dropWhile_cons_of_neg (by simp [hreturns])]
      exact .put hrest

/-- Line by line, a carriage return is added at the end or nothing is. -/
theorem splitOn (hgains : GainsReturns text other) :
    List.Forall₂ (fun line line' => line' = line ∨ line' = line ++ ['\r'])
      (text.splitOn '\n') (other.splitOn '\n') := by
  induction hgains with
  | nil => exact .cons (.inl rfl) .nil
  | @keep c text other hrest ih =>
      rw [List.splitOn_cons_eq_if_modifyHead, List.splitOn_cons_eq_if_modifyHead]
      split
      · exact .cons (.inl rfl) ih
      · generalize text.splitOn '\n' = lines, other.splitOn '\n' = lines' at ih
        cases ih with
        | nil => exact .nil
        | cons hfirst hlater =>
            exact .cons (hfirst.imp (congrArg (c :: ·)) (congrArg (c :: ·))) hlater
  | @put text other hrest ih =>
      rw [List.splitOn_cons_eq_if_modifyHead, List.splitOn_cons_eq_if_modifyHead,
        List.splitOn_cons_eq_if_modifyHead]
      exact .cons (.inr rfl) ih

end GainsReturns

theorem gainsReturns_addReturns (text : String) :
    GainsReturns text.toList (addReturns text).toList := by
  rw [addReturns, String.toList_ofList]
  induction text.toList with
  | nil => exact .nil
  | cons c rest ih =>
      rw [List.flatMap_cons]
      split
      · rename_i hlineBreak
        rw [hlineBreak]
        exact .put ih
      · exact .keep c ih

/-- White space at the end of a text is trimmed off. -/
theorem trim_concat_of_isBlank (text : List Char) {c : Char} (hblank : isBlank c = true) :
    trim (text ++ [c]) = trim text := by
  have hright (text : List Char) : trimRight (text ++ [c]) = trimRight text := by
    rw [trimRight, trimRight, List.reverse_concat, List.dropWhile_cons_of_pos hblank]
  rw [trim, trim, trimLeft, trimLeft, List.dropWhile_append]
  split
  · rename_i hempty
    rw [List.isEmpty_iff.mp hempty, List.dropWhile_cons_of_pos hblank]
    rfl
  · exact hright _

end Text

namespace Item

/-- Only what is left of the lines after trimming decides what is read. -/
theorem ofLines_congr {lines lines' : List (List Char)}
    (halike : List.Forall₂ (fun line line' => trim line' = trim line) lines lines')
    (lineNo : Nat) : ofLines lineNo lines' = ofLines lineNo lines := by
  induction halike generalizing lineNo with
  | nil => rfl
  | cons hfirst hlater ih => rw [ofLines, ofLines, ofLine?, ofLine?, hfirst, ih]

/-- Carriage returns in front of line breaks change nothing in what is read. -/
theorem ofText_of_gainsReturns {text other : String}
    (hgains : Text.GainsReturns text.toList other.toList) : ofText other = ofText text := by
  have hlines := (hgains.stripChars.dropWhile (p := (· == '\uFEFF')) rfl rfl).splitOn
  refine ofLines_congr (hlines.imp ?_) 1
  rintro line line' (rfl | rfl)
  · rfl
  · exact Text.trim_concat_of_isBlank line rfl

end Item

namespace Collection

/-- A source with carriage returns in front of its line breaks gives the same collection, but for
the source that it keeps, or it is refused with the same error. -/
theorem parse_addReturns (validate : Bool) (text path : String) :
    parse validate (Text.addReturns text) path =
      (parse validate text path).map fun collection =>
        { collection with raw := Text.addReturns text } := by
  have hsame := Item.ofText_of_gainsReturns (Text.gainsReturns_addReturns text)
  simp only [parse, hsame]
  cases Item.ofText text with
  | error error => rfl
  | ok items =>
      dsimp only
      cases addScripts validate (Path.stem path) []
          ((Section.ofItems items).map (Section.script path)) with
      | error error => rfl
      | ok scripts => cases scripts <;> rfl

end Collection

end Dialogue
