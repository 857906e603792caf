/-
# Items and the lines they are written on

The numbers of the items are counted on the text without comments, but they are the numbers of the
lines of the source. A comment leaves its line breaks behind, so the text without comments has as
many lines as the source, and each of them is what remains of the source line with the same number:
the characters of that line which no comment covers.

So a line of the source is read by itself. If nothing remains of it but white space, no item has its
number. Otherwise exactly one item has, and what this item is depends on the remainder alone.
-/

import Dialogue.Proofs.Comment.Covering
import Dialogue.Proofs.Line.Numbering

namespace Dialogue

open Text (trim)

namespace Comment

variable {text : List Char}

/-- The number of the line that a position of a text stands on. -/
def lineAt (text : List Char) (position : Nat) : Nat :=
  (text.take position).count '\n' + 1

/-- What remains of a line of a text: its characters that no comment covers. -/
def remainder (text : List Char) (lineNo : Nat) : List Char :=
  select (fun c position =>
    decide (c ≠ '\n' ∧ lineAt text position = lineNo ∧ ¬Covers text position)) text

/-- No comment covers any position of a line. -/
def Spares (text : List Char) (lineNo : Nat) : Prop :=
  ∀ position, lineAt text position = lineNo → ¬Covers text position

example : remainder "a%%b\nc%%d".toList 2 = ['d'] := by
  decide +kernel

theorem lineAt_cons_succ (c : Char) (rest : List Char) (position : Nat) :
    lineAt (c :: rest) (position + 1) = lineAt rest position + if c = '\n' then 1 else 0 := by
  rw [lineAt, lineAt, List.take_succ_cons, List.count_cons]
  simp only [beq_iff_eq, Nat.add_right_comm]

/-- The first character of a text stands on its first line, unless it is a line break. -/
theorem getD_splitOn_cons {c : Char} (hother : c ≠ '\n') (rest : List Char) (index : Nat) :
    ((c :: rest).splitOn '\n').getD index [] =
      (if index = 0 then [c] else []) ++ (rest.splitOn '\n').getD index [] := by
  obtain ⟨line, lines, hcut⟩ := List.exists_cons_of_ne_nil (List.splitOn_ne_nil '\n' rest)
  rw [List.splitOn_cons_eq_if_modifyHead, if_neg (by simpa using hother), hcut]
  cases index <;> rfl

/-- A text keeps its lines when characters other than line breaks are left out. Each line keeps
those of its own characters that are not left out. -/
theorem getD_splitOn_select (kept : Nat → Prop) [DecidablePred kept] (text : List Char)
    (index : Nat) :
    ((select (fun c position => decide (c = '\n' ∨ kept position)) text).splitOn '\n').getD index
        [] =
      select (fun c position =>
        decide (c ≠ '\n' ∧ lineAt text position = index + 1 ∧ kept position)) text := by
  induction text generalizing kept index with
  | nil => cases index <;> rfl
  | cons c rest ih =>
      have hlater := ih (fun position => kept (position + 1))
      rw [select_cons, select_cons]
      by_cases hlineBreak : c = '\n'
      · -- a line break ends the first line, which is empty
        subst hlineBreak
        simp only [lineAt_cons_succ, ne_eq, not_true_eq_false, false_and, true_or, decide_true,
          decide_false, if_true, Bool.false_eq_true, if_false, List.nil_append, List.cons_append,
          List.splitOn_cons_eq_if_modifyHead, beq_self_eq_true]
        cases index with
        | zero =>
            refine (select_eq_nil (fun d position => ?_) rest).symm
            simp [lineAt]
        | succ index =>
            rw [List.getD_cons_succ, hlater]
            simp only [Nat.add_right_cancel_iff]
      · -- any other character stands on the first line if it is kept
        simp only [lineAt_cons_succ, if_neg hlineBreak, Nat.add_zero, ← hlater]
        by_cases hstays : kept 0
        · rw [if_pos (by simp [hstays]), List.singleton_append, getD_splitOn_cons hlineBreak]
          congr 1
          cases index <;> simp [hlineBreak, hstays, lineAt]
        · simp [hlineBreak, hstays]

theorem getD_splitOn_stripChars (text : List Char) (index : Nat) :
    ((stripChars text).splitOn '\n').getD index [] = remainder text (index + 1) := by
  rw [stripChars_eq_select, getD_splitOn_select fun position => ¬Covers text position]
  rfl

/-- The lines of a text without comments are what remains of the lines of the text. -/
theorem splitOn_stripChars (text : List Char) :
    (stripChars text).splitOn '\n' =
      (List.range (text.count '\n' + 1)).map fun index => remainder text (index + 1) := by
  apply List.ext_getElem
  · rw [length_splitOn, count_stripChars, List.length_map, List.length_range]
  · intro index hbound _
    rw [List.getElem_map, List.getElem_range, ← getD_splitOn_stripChars,
      List.getD_eq_getElem?_getD, List.getElem?_eq_getElem hbound, Option.getD_some]

/-- Of a line that no comment touches everything remains. -/
theorem remainder_of_spares {index : Nat} {line : List Char} (hspared : Spares text (index + 1))
    (hcut : (text.splitOn '\n')[index]? = some line) : remainder text (index + 1) = line := by
  have hall : select (fun c _ => decide (c = '\n' ∨ True)) text = text :=
    select_eq_self fun _ _ _ => by simp
  have hlines := getD_splitOn_select (fun _ => True) text index
  rw [hall, List.getD_eq_getElem?_getD, hcut, Option.getD_some] at hlines
  rw [hlines, remainder]
  refine select_congr fun position c _ => decide_eq_decide.mpr ?_
  exact and_congr_right fun _ => and_congr_right fun hhere => by simp [hspared position hhere]

/-- What follows a comment starts on the same line whether or not the comments are taken out. -/
theorem HasComment.lineAt_eq {before comment after : List Char}
    (hcommented : HasComment text before comment after) :
    (stripChars before ++ lineBreaks comment).count '\n' + 1 =
      lineAt text (before.length + comment.length + 4) := by
  have hfront : text.take (before.length + comment.length + 4) =
      before ++ '%' :: '%' :: (comment ++ ['%', '%']) := by
    have hcut : text = before ++ '%' :: '%' :: (comment ++ ['%', '%']) ++ after := by
      simp [hcommented.split]
    rw [hcut]
    exact List.take_left' (by simp only [List.length_append, List.length_cons]; rfl)
  have hbreaks : (lineBreaks comment).count '\n' = comment.count '\n' := List.count_filter rfl
  have hmark : '%' ≠ '\n' := by decide
  rw [lineAt, hfront]
  simp only [List.count_append, count_stripChars, hbreaks, List.count_cons_of_ne hmark,
    List.count_nil, Nat.add_zero]

end Comment

namespace Item

variable {lines : List (List Char)} {items : List Item} {lineNo : Nat}

/-- What remains of a line of a source. Byte order marks at the start of the first line are taken
off. -/
def remains (text : List Char) (lineNo : Nat) : List Char :=
  if lineNo = 1 then (Comment.remainder text 1).dropWhile (· == '\uFEFF')
  else Comment.remainder text lineNo

theorem sourceLines_eq (text : List Char) :
    sourceLines text =
      (List.range (text.count '\n' + 1)).map fun index => remains text (index + 1) := by
  rw [sourceLines, splitOn_dropWhile rfl, Comment.splitOn_stripChars, List.range_succ_eq_map]
  simp [remains]

/-- The items with the number of a line are what this line is read as: one or none. -/
theorem filter_lineNo_of_ofLines {index : Nat} {line : List Char}
    (hread : ofLines lineNo lines = .ok items) (hfound : lines[index]? = some line) :
    ∃ item : Option Item, ofLine? line (lineNo + index) = .ok item ∧
      items.filter (·.lineNo == lineNo + index) = item.toList := by
  induction lines generalizing lineNo items index with
  | nil => cases hfound
  | cons text rest ih =>
      rw [ofLines] at hread
      split at hread
      · cases hread
      · rename_i own hfirst
        split at hread
        · cases hread
        · rename_i later hremaining
          cases hread
          have hhere : ∀ item ∈ own.toList, item.lineNo = lineNo := by
            intro item hmem
            rw [Option.mem_toList] at hmem
            rw [hmem] at hfirst
            exact lineNo_of_ofLine? hfirst
          have hafter := (numbered_of_ofLines hremaining).2
          rw [List.filter_append]
          cases index with
          | zero =>
              cases hfound
              refine ⟨own, hfirst, ?_⟩
              rw [List.filter_eq_self.mpr, List.filter_eq_nil_iff.mpr, List.append_nil]
              · intro item hmem
                have := hafter item hmem
                simp only [beq_iff_eq]
                omega
              · intro item hmem
                simp [hhere item hmem]
          | succ index =>
              obtain ⟨item, hsingle, hfiltered⟩ := ih hremaining hfound
              have hshifted : lineNo + 1 + index = lineNo + (index + 1) := by omega
              rw [hshifted] at hsingle hfiltered
              refine ⟨item, hsingle, ?_⟩
              rw [List.filter_eq_nil_iff.mpr, List.nil_append, hfiltered]
              intro item hmem
              simp [hhere item hmem]

/-- Only a blank line is read as nothing. -/
theorem ofLine?_eq_none_iff {text : List Char} :
    ofLine? text lineNo = .ok none ↔ trim text = [] := by
  rw [ofLine?]
  split
  · rename_i hblank
    exact iff_of_true rfl hblank
  · rename_i hnonblank
    refine iff_of_false ?_ hnonblank
    intro hnothing
    split at hnothing
    · cases hnothing
    · cases hclassified : Line.classifyChars (trim text) lineNo with
      | error error =>
          rw [hclassified] at hnothing
          cases hnothing
      | ok line =>
          rw [hclassified] at hnothing
          cases hnothing

/-- The items of a source have the places that the source gives them. -/
structure AreInPlace (text : List Char) (items : List Item) : Prop where
  /-- The numbers are numbers of lines of the source. -/
  bounds : ∀ item ∈ items, 1 ≤ item.lineNo ∧ item.lineNo ≤ text.count '\n' + 1
  /-- They increase. -/
  increasing : items.Pairwise (·.lineNo < ·.lineNo)
  /-- A line has one item, or none if nothing but white space remains of it. -/
  single : ∀ lineNo, 1 ≤ lineNo → lineNo ≤ text.count '\n' + 1 →
    items.countP (·.lineNo == lineNo) = if trim (remains text lineNo) = [] then 0 else 1
  /-- An item is what the remainder of its line is read as. -/
  read : ∀ item ∈ items, ofLine? (remains text item.lineNo) item.lineNo = .ok (some item)
  /-- The text of a line of a script is the remainder without the white space around it. -/
  raw : ∀ line, .line line ∈ items →
    line.raw = String.ofList (trim (remains text line.lineNo))

theorem AreInPlace.of_ofLines {text : List Char}
    (hdone : ofLines 1 (sourceLines text) = .ok items) :
    AreInPlace text items := by
  obtain ⟨hincreasing, hwithin⟩ := numbered_of_ofLines hdone
  have hbounds : ∀ item ∈ items, 1 ≤ item.lineNo ∧ item.lineNo ≤ text.count '\n' + 1 := by
    intro item hmem
    have := hwithin item hmem
    rw [length_sourceLines] at this
    omega
  have hofLine : ∀ lineNo, 1 ≤ lineNo → lineNo ≤ text.count '\n' + 1 →
      ∃ item : Option Item, ofLine? (remains text lineNo) lineNo = .ok item ∧
        items.filter (·.lineNo == lineNo) = item.toList := by
    intro lineNo hfirst hlast
    obtain ⟨index, rfl⟩ := Nat.exists_eq_add_of_le hfirst
    apply filter_lineNo_of_ofLines hdone
    rw [sourceLines_eq, List.getElem?_map, List.getElem?_range (by omega), Nat.add_comm 1]
    rfl
  have hread : ∀ item ∈ items,
      ofLine? (remains text item.lineNo) item.lineNo = .ok (some item) := by
    intro item hmem
    obtain ⟨hfirst, hlast⟩ := hbounds item hmem
    obtain ⟨own, hsingle, hfiltered⟩ := hofLine item.lineNo hfirst hlast
    have hlisted : item ∈ items.filter (·.lineNo == item.lineNo) :=
      List.mem_filter.mpr ⟨hmem, beq_self_eq_true _⟩
    rw [hfiltered, Option.mem_toList] at hlisted
    rw [hsingle, hlisted]
  refine ⟨hbounds, hincreasing, ?_, hread, fun line hmem => raw_of_ofLine? (hread _ hmem)⟩
  intro lineNo hfirst hlast
  obtain ⟨own, hsingle, hfiltered⟩ := hofLine lineNo hfirst hlast
  rw [List.countP_eq_length_filter, hfiltered]
  cases own with
  | none => rw [if_pos (ofLine?_eq_none_iff.mp hsingle)]; rfl
  | some item =>
      rw [if_neg]
      · rfl
      · intro hblank
        rw [ofLine?_eq_none_iff.mpr hblank] at hsingle
        cases hsingle

/-- The numbers of the items are those of the lines they are written on. Line by line, the text
without comments is what remains of the source, and what follows a comment stays on its line. Of a
line that no comment touches everything remains. -/
theorem areInPlace_of_ofText {text : String} (hdone : ofText text = .ok items) :
    AreInPlace text.toList items ∧
      (Comment.stripChars text.toList).splitOn '\n' =
        ((List.range (text.toList.count '\n' + 1)).map fun index =>
          Comment.remainder text.toList (index + 1)) ∧
      (∀ index line, (text.toList.splitOn '\n')[index]? = some line →
        Comment.Spares text.toList (index + 1) →
        Comment.remainder text.toList (index + 1) = line) ∧
      ∀ before comment after, Comment.HasComment text.toList before comment after →
        ∃ kept, Comment.stripChars text.toList = kept ++ Comment.stripChars after ∧
          kept.count '\n' + 1 =
            Comment.lineAt text.toList (before.length + comment.length + 4) :=
  ⟨.of_ofLines hdone, Comment.splitOn_stripChars _,
    fun _ _ hcut hspared => Comment.remainder_of_spares hspared hcut,
    fun _ _ _ hcommented => ⟨_, hcommented.stripChars_eq, hcommented.lineAt_eq⟩⟩

/-- A comment that ends in front of a cue, and a mark that opens no comment. -/
theorem areInPlace_of_ofText_cue :
    let text := "%% a\nb %% JOHN\n%%c%%\nHi. %%d"
    let items : List Item := [.line (.cue ⟨⟨"JOHN", 2⟩, "JOHN", none, []⟩),
      .line (.speech ⟨⟨"Hi. %%d", 4⟩, "Hi. %%d"⟩)]
    ofText text = .ok items ∧ AreInPlace text.toList items ∧
      Comment.remainder text.toList 2 = " JOHN".toList ∧
      Comment.remainder text.toList 4 = "Hi. %%d".toList := by
  intro text items
  have hdone : ofText text = .ok items := by
    have hlines : sourceLines "%% a\nb %% JOHN\n%%c%%\nHi. %%d".toList =
        [[], " JOHN".toList, [], "Hi. %%d".toList] := by cbv
    rw [ofText, hlines]
    rfl
  obtain ⟨hplaced, haligned, -, -⟩ := areInPlace_of_ofText hdone
  have hlines : (Comment.stripChars "%% a\nb %% JOHN\n%%c%%\nHi. %%d".toList).splitOn '\n' =
      [[], " JOHN".toList, [], "Hi. %%d".toList] := by cbv
  have hcount : "%% a\nb %% JOHN\n%%c%%\nHi. %%d".toList.count '\n' = 3 := by decide
  rw [hlines, hcount] at haligned
  obtain ⟨-, hsecond, -, hfourth⟩ := by simpa [List.range_succ] using haligned
  exact ⟨hdone, hplaced, hsecond.symm, hfourth.symm⟩

end Item

end Dialogue
