/-
# Sources in parts

A source can be read in parts. What is read of the second part does not depend on the first one,
except that its lines stand further down. The place of the cut matters: it has to lie behind a line
break and outside of comments. A cut inside a comment would leave a mark without a partner on each
side, and a cut inside a line would read its two halves as two lines.

Byte order marks are taken off only at the very start, so the second part must not start with one.
-/

import Dialogue.Proofs.Line.Numbering

namespace Dialogue

/-- The same error in a source that has more lines in front. -/
def SourceError.movedDown (count : Nat) : SourceError → SourceError
  | blankTarget raw lineNo => blankTarget raw (lineNo + count)
  | duplicateScript collection script => duplicateScript collection script
  | invalidCondition collection lineNo cause => invalidCondition collection (lineNo + count) cause

/-- The same line in a source that has more lines in front. -/
def Line.movedDown (count : Nat) : Line → Line
  | cue content => cue { content with lineNo := content.lineNo + count }
  | speech content => speech { content with lineNo := content.lineNo + count }
  | link content => link { content with lineNo := content.lineNo + count }
  | quote content => quote { content with lineNo := content.lineNo + count }
  | tag content => tag { content with lineNo := content.lineNo + count }

/-- The same item in a source that has more lines in front. -/
def Item.movedDown (count : Nat) : Item → Item
  | heading title => heading { title with lineNo := title.lineNo + count }
  | line content => line (content.movedDown count)

theorem Line.classifyChars_add (text : List Char) (lineNo count : Nat) :
    classifyChars text (lineNo + count) =
      ((classifyChars text lineNo).map (movedDown count)).mapError
        (SourceError.movedDown count) := by
  simp only [classifyChars]
  cases Grammar.link? text with
  | some parts =>
      obtain ⟨target, display⟩ := parts
      dsimp only
      cases Text.trim target <;> rfl
  | none =>
      cases Grammar.tag? text with
      | some parts => rfl
      | none =>
          dsimp only
          split
          · rfl
          · cases Grammar.cue? text <;> rfl

namespace Item

variable {lines : List (List Char)} {lineNo : Nat}

theorem ofLine?_add (text : List Char) (lineNo count : Nat) :
    ofLine? text (lineNo + count) =
      ((ofLine? text lineNo).map (Option.map (movedDown count))).mapError
        (SourceError.movedDown count) := by
  simp only [ofLine?]
  split
  · rfl
  · cases Grammar.heading? (Text.trim text) with
    | some name => rfl
    | none =>
        rw [Line.classifyChars_add]
        cases Line.classifyChars (Text.trim text) lineNo <;> rfl

theorem ofLines_add (lineNo count : Nat) (lines : List (List Char)) :
    ofLines (lineNo + count) lines =
      ((ofLines lineNo lines).map (List.map (movedDown count))).mapError
        (SourceError.movedDown count) := by
  induction lines generalizing lineNo with
  | nil => rfl
  | cons text rest ih =>
      rw [ofLines, ofLines, ofLine?_add, Nat.add_right_comm, ih]
      cases ofLine? text lineNo with
      | error error => rfl
      | ok item =>
          cases ofLines (lineNo + 1) rest with
          | error error => rfl
          | ok items => cases item <;> rfl

/-- Lines are read one after the other, and the first that cannot be read decides the error. -/
theorem ofLines_append (lineNo : Nat) (earlier later : List (List Char)) :
    ofLines lineNo (earlier ++ later) =
      match ofLines lineNo earlier with
      | .error error => .error error
      | .ok items => (ofLines (lineNo + earlier.length) later).map (items ++ ·) := by
  induction earlier generalizing lineNo with
  | nil =>
      rw [List.nil_append, ofLines_nil]
      cases ofLines lineNo later <;> rfl
  | cons text rest ih =>
      rw [List.cons_append, ofLines, ofLines, ih, List.length_cons, Nat.add_right_comm,
        Nat.add_assoc lineNo]
      cases ofLine? text lineNo with
      | error error => rfl
      | ok item =>
          cases ofLines (lineNo + 1) rest with
          | error error => rfl
          | ok items =>
              dsimp only
              cases ofLines (lineNo + (rest.length + 1)) later with
              | error error => rfl
              | ok more => simp [Except.map]

/-- A blank line at the end is read as nothing. -/
theorem ofLines_concat_nil (lineNo : Nat) (lines : List (List Char)) :
    ofLines lineNo (lines ++ [[]]) = ofLines lineNo lines := by
  have hblank (lineNo : Nat) : ofLines lineNo [[]] = .ok [] := rfl
  rw [ofLines_append, hblank]
  cases ofLines lineNo lines with
  | error error => rfl
  | ok items => simp [Except.map]

end Item

namespace Comment

variable {text : List Char}

/-- A text that does not end with a percent sign does not end with half of a mark. -/
theorem countMarks_concat_percent (hends : text.getLast? ≠ some '%') :
    countMarks (text ++ ['%']) = countMarks text := by
  have hlater {c : Char} {rest : List Char} (hends : (c :: rest).getLast? ≠ some '%') :
      rest.getLast? ≠ some '%' := by
    cases rest with
    | nil => exact nofun
    | cons d more => rwa [List.getLast?_cons_cons] at hends
  fun_induction countMarks text with
  | case1 rest ih => exact congrArg (· + 1) (ih (hlater (hlater hends)))
  | case2 c rest hplain ih =>
      rw [List.cons_append, countMarks_cons_of_not, ih (hlater hends)]
      rintro ⟨rfl, hnext⟩
      cases rest with
      | nil => exact hends rfl
      | cons d more =>
          cases hnext
          exact hplain more rfl rfl
  | case3 => rfl

/-- Behind a line break no comment is open if the marks in front of it pair up. -/
theorem isClosed_of_lineBreak (hpaired : countMarks text % 2 = 0)
    (hends : text.getLast? = some '\n') : IsClosed text where
  paired := hpaired
  whole := countMarks_concat_percent (by rw [hends]; decide)

/-- A line break at the end stays there: no comment can hold it. -/
theorem getLast?_stripChars (hends : text.getLast? = some '\n') :
    (stripChars text).getLast? = some '\n' := by
  induction text using comment_induction with
  | clear text hclear => rwa [stripChars_of_not_hasMark hclear]
  | unclosed before inside hopens hunclosed =>
      rwa [stripChars_append_of_clear hopens, stripChars_mark_of_not_hasMark hunclosed]
  | comment before comment after hopens hcloses ih =>
      have hwhole : before ++ '%' :: '%' :: (comment ++ '%' :: '%' :: after) =
          (before ++ '%' :: '%' :: comment ++ ['%']) ++ '%' :: after := by
        simp
      have hlast : after.getLast? = some '\n' := by
        rw [hwhole, List.getLast?_append] at hends
        cases after with
        | nil => cases hends
        | cons c rest => rwa [List.getLast?_cons_cons, Option.or_of_isSome (by simp)] at hends
      rw [stripChars_comment hopens hcloses, List.getLast?_append, ih hlast]
      rfl

end Comment

namespace Item

/-- Behind a line break where no comment is open the lines of a source may be cut. -/
theorem sourceLines_append {first second : List Char} (hclosed : Comment.IsClosed first)
    (hends : first.getLast? = some '\n')
    (hplain : (Comment.stripChars second).head? ≠ some '\uFEFF') :
    ∃ earlier, sourceLines first = earlier ++ [[]] ∧
      sourceLines (first ++ second) = earlier ++ sourceLines second := by
  obtain ⟨kept, heq⟩ := List.getLast?_eq_some_iff.mp (Comment.getLast?_stripChars hends)
  have hmarks (rest : List Char) : (kept ++ '\n' :: rest).dropWhile (· == '\uFEFF') =
      kept.dropWhile (· == '\uFEFF') ++ '\n' :: rest := by
    rw [List.dropWhile_append]
    split
    · rename_i hempty
      rw [List.isEmpty_iff.mp hempty]
      rfl
    · rfl
  have hnone : (Comment.stripChars second).dropWhile (· == '\uFEFF') =
      Comment.stripChars second := by
    cases hstart : Comment.stripChars second with
    | nil => rfl
    | cons c rest =>
        rw [hstart] at hplain
        exact List.dropWhile_cons_of_neg (by simpa using hplain)
  refine ⟨(kept.dropWhile (· == '\uFEFF')).splitOn '\n', ?_, ?_⟩
  · rw [sourceLines, heq, hmarks, List.splitOn_append_cons_self, List.splitOn_nil]
  · rw [sourceLines, hclosed.stripChars_append, heq, List.append_assoc, List.singleton_append,
      hmarks, List.splitOn_append_cons_self, sourceLines, hnone]

/-- A source that is cut behind a line break and outside of comments is read in two parts. The lines
of the second part stand further down by the number of lines of the first. An error of the first
part comes first. -/
theorem ofText_append {first second : String}
    (hends : first.toList.getLast? = some '\n')
    (hpaired : Comment.countMarks first.toList % 2 = 0)
    (hplain : (Comment.strip second).toList.head? ≠ some '\uFEFF') :
    ofText (first ++ second) =
      match ofText first with
      | .error error => .error error
      | .ok items =>
        match ofText second with
        | .error error => .error (error.movedDown (first.toList.count '\n'))
        | .ok more => .ok (items ++ more.map (movedDown (first.toList.count '\n'))) := by
  rw [Comment.strip, String.toList_ofList] at hplain
  obtain ⟨earlier, halone, hboth⟩ :=
    sourceLines_append (Comment.isClosed_of_lineBreak hpaired hends) hends hplain
  have hlength : earlier.length = first.toList.count '\n' := by
    have := length_sourceLines first.toList
    rw [halone, List.length_append] at this
    exact Nat.succ.inj this
  rw [ofText, ofText, ofText, String.toList_append, hboth, halone, ofLines_concat_nil,
    ofLines_append, hlength]
  cases ofLines 1 earlier with
  | error error => rfl
  | ok items =>
      dsimp only
      rw [ofLines_add]
      cases ofLines 1 (sourceLines second.toList) <;> rfl

/-- A comment over two lines in the first part moves the second part down. -/
theorem ofText_append_yard :
    ofText ("%% A\n%%\n# Yard\n" ++ "Hi.") =
      .ok [.heading ⟨"Yard", 3⟩, .line (.speech ⟨⟨"Hi.", 4⟩, "Hi."⟩)] := by
  have hfirst : ofText "%% A\n%%\n# Yard\n" = .ok [.heading ⟨"Yard", 3⟩] := by
    have hlines : sourceLines "%% A\n%%\n# Yard\n".toList = [[], [], "# Yard".toList, []] := by cbv
    rw [ofText, hlines]
    rfl
  have hsecond : ofText "Hi." = .ok [.line (.speech ⟨⟨"Hi.", 1⟩, "Hi."⟩)] := by
    have hlines : sourceLines "Hi.".toList = ["Hi.".toList] := by cbv
    rw [ofText, hlines]
    rfl
  have hplain : (Comment.strip "Hi.").toList.head? ≠ some '\uFEFF' := by
    rw [Comment.strip, Comment.stripChars_of_not_hasMark (by decide)]
    decide
  rw [ofText_append (by decide) (by decide) hplain, hfirst, hsecond]
  rfl

end Item

end Dialogue
