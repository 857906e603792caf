/-
# Texts without their comments

Marks are counted from the left, and no character belongs to two of them. They pair up, so a comment
starts at every other mark. This module tells what is left when the comments are taken out: at most
the last mark, if it has no partner, and as many line breaks as before.

Taking out a comment brings together what stands on its two sides. That makes no new mark, because
what is left in front of a comment never ends with half of a mark: otherwise there would have been a
mark further left. The same fact is behind the other results. They are proved by an induction on the
comments of a text: it has no mark, or one without a partner, or a first comment with a text behind.
-/

import Dialogue.Comment
import Mathlib.Data.List.Infix

namespace Dialogue.Comment

/-- There is a mark somewhere in the text. -/
def HasMark (text : List Char) : Prop :=
  ['%', '%'] <:+: text

instance : DecidablePred HasMark :=
  fun text => inferInstanceAs (Decidable (['%', '%'] <:+: text))

/-- There is no mark in the text, and no half of one at its end. -/
def IsClear (text : List Char) : Prop :=
  ¬HasMark (text ++ ['%'])

instance : DecidablePred IsClear :=
  fun text => inferInstanceAs (Decidable ¬HasMark (text ++ ['%']))

/-- The marks of a text, counted from the left. No character belongs to two of them. -/
def countMarks : List Char → Nat
  | '%' :: '%' :: rest => countMarks rest + 1
  | _ :: rest => countMarks rest
  | [] => 0

/-- The text ends outside of comments, and what follows it does not complete a mark. -/
structure IsClosed (text : List Char) : Prop where
  /-- Every mark of the text has a partner. -/
  paired : countMarks text % 2 = 0
  /-- No half of a mark is left at the end. -/
  whole : countMarks (text ++ ['%']) = countMarks text

variable {text before inside comment after rest : List Char} {c : Char}

theorem not_hasMark_nil : ¬HasMark [] := by
  rw [HasMark, List.infix_nil]
  exact List.cons_ne_nil _ _

/-- A mark stands at the start of a text, or later. -/
theorem hasMark_cons_iff :
    HasMark (c :: rest) ↔ (c = '%' ∧ rest.head? = some '%') ∨ HasMark rest := by
  rw [HasMark, List.infix_cons_iff, List.cons_prefix_cons, eq_comm, ← HasMark]
  refine or_congr_left (and_congr_right fun _ => ?_)
  cases rest with
  | nil => simp
  | cons d later => simp [eq_comm]

theorem head?_append_percent (hnext : (before ++ rest).head? = some '%') :
    (before ++ ['%']).head? = some '%' := by
  cases before with
  | nil => rfl
  | cons d later => exact hnext

theorem isClear_nil : IsClear [] := by
  decide

theorem isClear_cons_iff :
    IsClear (c :: rest) ↔ ¬(c = '%' ∧ (rest ++ ['%']).head? = some '%') ∧ IsClear rest := by
  rw [IsClear, List.cons_append, hasMark_cons_iff, not_or, ← IsClear]

/-- No mark starts with the first character of a clear text, whatever follows. -/
theorem IsClear.not_starts (hclear : IsClear (c :: before)) (rest : List Char) :
    ¬(c = '%' ∧ (before ++ rest).head? = some '%') := by
  rintro ⟨hpercent, hnext⟩
  exact (isClear_cons_iff.mp hclear).1 ⟨hpercent, head?_append_percent hnext⟩

/-- A clear text adds no mark to what follows. -/
theorem hasMark_append_iff (hclear : IsClear before) :
    HasMark (before ++ rest) ↔ HasMark rest := by
  induction before with
  | nil => exact Iff.rfl
  | cons c more ih =>
      rw [List.cons_append, hasMark_cons_iff, ih (isClear_cons_iff.mp hclear).2]
      exact or_iff_right (hclear.not_starts rest)

theorem IsClear.append (hclear : IsClear before) (hlater : IsClear after) :
    IsClear (before ++ after) := by
  rwa [IsClear, List.append_assoc, hasMark_append_iff hclear]

theorem cutAtMark_cons_of_not (hplain : ¬(c = '%' ∧ rest.head? = some '%')) :
    cutAtMark (c :: rest) =
      (cutAtMark rest).map fun (before, after) => (c :: before, after) := by
  rw [cutAtMark.eq_def]
  split
  · rename_i hsame
    cases hsame
    exact absurd ⟨rfl, rfl⟩ hplain
  · rename_i hsame
    cases hsame
    rfl
  · rename_i hsame
    cases hsame

/-- The first mark after a clear text is the first mark of the whole. -/
theorem cutAtMark_append (hclear : IsClear before) (rest : List Char) :
    cutAtMark (before ++ rest) =
      (cutAtMark rest).map fun (between, after) => (before ++ between, after) := by
  induction before with
  | nil => simp
  | cons c more ih =>
      rw [List.cons_append, cutAtMark_cons_of_not (hclear.not_starts rest),
        ih (isClear_cons_iff.mp hclear).2, Option.map_map]
      rfl

theorem cutAtMark_eq_none_iff : cutAtMark text = none ↔ ¬HasMark text := by
  fun_induction cutAtMark text with
  | case1 rest => simp [hasMark_cons_iff]
  | case2 c rest hplain ih =>
      rw [Option.map_eq_none_iff, ih, hasMark_cons_iff, or_iff_right]
      rintro ⟨rfl, hnext⟩
      obtain ⟨later, rfl⟩ := List.head?_eq_some_iff.mp hnext
      exact hplain later rfl rfl
  | case3 => exact iff_of_true rfl not_hasMark_nil

/-- The first mark of a text is not preceded by another one, not even by one that overlaps it. -/
theorem isClear_of_cutAtMark (hcut : cutAtMark text = some (before, after)) :
    IsClear before := by
  fun_induction cutAtMark text generalizing before after with
  | case1 rest =>
      cases hcut
      exact isClear_nil
  | case2 c rest hplain ih =>
      obtain ⟨⟨more, after'⟩, hfound, hsame⟩ := Option.map_eq_some_iff.mp hcut
      cases hsame
      refine isClear_cons_iff.mpr ⟨?_, ih hfound⟩
      rintro ⟨rfl, hnext⟩
      -- what follows a percent sign does not start with another one
      rw [eq_append_of_cutAtMark hfound] at hplain
      cases more with
      | nil => exact hplain _ rfl rfl
      | cons d later =>
          cases hnext
          exact hplain _ rfl rfl
  | case3 => cases hcut

theorem countMarks_cons_of_not (hplain : ¬(c = '%' ∧ rest.head? = some '%')) :
    countMarks (c :: rest) = countMarks rest := by
  rw [countMarks.eq_def]
  split
  · rename_i hsame
    cases hsame
    exact absurd ⟨rfl, rfl⟩ hplain
  · rename_i hsame
    cases hsame
    rfl
  · rename_i hsame
    cases hsame

/-- Marks before and after a place where none is cut in two are counted apart. -/
theorem countMarks_append (hwhole : countMarks (before ++ ['%']) = countMarks before)
    (rest : List Char) : countMarks (before ++ rest) = countMarks before + countMarks rest := by
  fun_induction countMarks before with
  | case1 more ih =>
      have hlater : countMarks (more ++ ['%']) = countMarks more := Nat.succ.inj hwhole
      show countMarks (more ++ rest) + 1 = _
      rw [ih hlater]
      omega
  | case2 c more hplain ih =>
      have hapart : ¬(c = '%' ∧ (more ++ ['%']).head? = some '%') := by
        rintro ⟨rfl, hnext⟩
        cases more with
        | nil => cases hwhole
        | cons d later =>
            cases hnext
            exact hplain _ rfl rfl
      have hapart' : ¬(c = '%' ∧ (more ++ rest).head? = some '%') :=
        fun ⟨hpercent, hnext⟩ => hapart ⟨hpercent, head?_append_percent hnext⟩
      rw [List.cons_append, countMarks_cons_of_not hapart] at hwhole
      rw [List.cons_append, countMarks_cons_of_not hapart', ih hwhole]
  | case3 => rw [List.nil_append, Nat.zero_add]

theorem countMarks_eq_zero_iff : countMarks text = 0 ↔ ¬HasMark text := by
  fun_induction countMarks text with
  | case1 rest ih => simp [hasMark_cons_iff]
  | case2 c rest hplain ih =>
      rw [ih, hasMark_cons_iff, or_iff_right]
      rintro ⟨rfl, hnext⟩
      obtain ⟨later, rfl⟩ := List.head?_eq_some_iff.mp hnext
      exact hplain later rfl rfl
  | case3 => exact iff_of_true rfl not_hasMark_nil

theorem countMarks_of_not_hasMark (hclear : ¬HasMark text) : countMarks text = 0 :=
  countMarks_eq_zero_iff.mpr hclear

/-- A clear text is closed and adds nothing to the number of marks. -/
theorem IsClear.isClosed (hclear : IsClear text) : IsClosed text ∧ countMarks text = 0 := by
  have hwithout : ¬HasMark text :=
    fun hmark => hclear (hmark.trans (List.infix_append' [] text ['%']))
  have hnone := countMarks_of_not_hasMark hwithout
  exact ⟨⟨by rw [hnone], by rw [hnone, countMarks_of_not_hasMark hclear]⟩, hnone⟩

theorem countMarks_append_of_clear (hclear : IsClear before) (rest : List Char) :
    countMarks (before ++ rest) = countMarks rest := by
  obtain ⟨hclosed, hnone⟩ := hclear.isClosed
  rw [countMarks_append hclosed.whole, hnone, Nat.zero_add]

theorem countMarks_comment (hopens : IsClear before) (hcloses : IsClear comment)
    (after : List Char) :
    countMarks (before ++ '%' :: '%' :: (comment ++ '%' :: '%' :: after)) =
      countMarks after + 2 := by
  rw [countMarks_append_of_clear hopens, countMarks, countMarks_append_of_clear hcloses, countMarks]

/-- Taking out comments, written without the facts that make it end. -/
theorem stripChars_eq (text : List Char) :
    stripChars text =
      match cutAtMark text with
      | none => text
      | some (before, inside) =>
        match cutAtMark inside with
        | none => text
        | some (comment, after) => before ++ lineBreaks comment ++ stripChars after := by
  rw [stripChars]
  split
  · rename_i hopened
    simp only [hopened]
  · rename_i hopened
    simp only [hopened]
    split
    · rename_i hclosed
      simp only [hclosed]
    · rename_i hclosed
      simp only [hclosed]

theorem stripChars_of_not_hasMark (hclear : ¬HasMark text) : stripChars text = text := by
  rw [stripChars_eq, cutAtMark_eq_none_iff.mpr hclear]

/-- A clear text is kept in front of what follows. -/
theorem stripChars_append_of_clear (hclear : IsClear before) (rest : List Char) :
    stripChars (before ++ rest) = before ++ stripChars rest := by
  rw [stripChars_eq, stripChars_eq rest, cutAtMark_append hclear]
  cases cutAtMark rest with
  | none => rfl
  | some parts =>
      simp only [Option.map_some]
      cases cutAtMark parts.2 with
      | none => rfl
      | some parts' => simp

/-- A mark without a partner is kept. -/
theorem stripChars_mark_of_not_hasMark (hunclosed : ¬HasMark inside) :
    stripChars ('%' :: '%' :: inside) = '%' :: '%' :: inside := by
  rw [stripChars_eq, cutAtMark]
  simp only [cutAtMark_eq_none_iff.mpr hunclosed]

/-- A comment leaves its line breaks. -/
theorem stripChars_mark_comment (hcloses : IsClear comment) (after : List Char) :
    stripChars ('%' :: '%' :: (comment ++ '%' :: '%' :: after)) =
      lineBreaks comment ++ stripChars after := by
  rw [stripChars_eq, cutAtMark]
  simp [cutAtMark_append hcloses, cutAtMark]

/-- A text has no mark, or one without a partner, or a first comment. -/
theorem comment_induction {motive : List Char → Prop}
    (clear : ∀ text, ¬HasMark text → motive text)
    (unclosed : ∀ before inside, IsClear before → ¬HasMark inside →
      motive (before ++ '%' :: '%' :: inside))
    (comment : ∀ before comment after, IsClear before → IsClear comment → motive after →
      motive (before ++ '%' :: '%' :: (comment ++ '%' :: '%' :: after)))
    (text : List Char) : motive text := by
  fun_induction stripChars text with
  | case1 text hopened => exact clear text (cutAtMark_eq_none_iff.mp hopened)
  | case2 text before inside hopened hclosed =>
      rw [eq_append_of_cutAtMark hopened]
      exact unclosed before inside (isClear_of_cutAtMark hopened)
        (cutAtMark_eq_none_iff.mp hclosed)
  | case3 text before inside hopened commented after hclosed ih =>
      rw [eq_append_of_cutAtMark hopened, eq_append_of_cutAtMark hclosed]
      exact comment before commented after (isClear_of_cutAtMark hopened)
        (isClear_of_cutAtMark hclosed) ih

theorem isClear_lineBreaks (text : List Char) : IsClear (lineBreaks text) := by
  induction text with
  | nil => exact isClear_nil
  | cons c rest ih =>
      by_cases hlineBreak : c = '\n'
      · subst hlineBreak
        rw [lineBreaks, List.filter_cons_of_pos rfl, isClear_cons_iff]
        exact ⟨fun ⟨hpercent, _⟩ => absurd hpercent (by decide), ih⟩
      · rw [lineBreaks, List.filter_cons_of_neg (by simpa using hlineBreak)]
        exact ih

theorem stripChars_comment (hopens : IsClear before) (hcloses : IsClear comment)
    (after : List Char) :
    stripChars (before ++ '%' :: '%' :: (comment ++ '%' :: '%' :: after)) =
      before ++ lineBreaks comment ++ stripChars after := by
  rw [stripChars_append_of_clear hopens, stripChars_mark_comment hcloses, List.append_assoc]

/-- A mark is left exactly if the number of marks is odd. -/
theorem hasMark_stripChars_iff (text : List Char) :
    HasMark (stripChars text) ↔ countMarks text % 2 = 1 := by
  induction text using comment_induction with
  | clear text hclear =>
      rw [stripChars_of_not_hasMark hclear, countMarks_of_not_hasMark hclear]
      exact iff_of_false hclear (by decide)
  | unclosed before inside hopens hunclosed =>
      rw [stripChars_append_of_clear hopens, stripChars_mark_of_not_hasMark hunclosed,
        countMarks_append_of_clear hopens, countMarks, countMarks_of_not_hasMark hunclosed,
        hasMark_append_iff hopens, hasMark_cons_iff]
      exact iff_of_true (.inl ⟨rfl, rfl⟩) rfl
  | comment before comment after hopens hcloses ih =>
      have hkept := hopens.append (isClear_lineBreaks comment)
      rw [stripChars_comment hopens hcloses, hasMark_append_iff hkept, ih,
        countMarks_comment hopens hcloses]
      omega

/-- Taking out comments keeps the line breaks. -/
theorem count_stripChars (text : List Char) :
    (stripChars text).count '\n' = text.count '\n' := by
  have hmark : '%' ≠ '\n' := by decide
  induction text using comment_induction with
  | clear text hclear => rw [stripChars_of_not_hasMark hclear]
  | unclosed before inside hopens hunclosed =>
      rw [stripChars_append_of_clear hopens, stripChars_mark_of_not_hasMark hunclosed]
  | comment before comment after hopens hcloses ih =>
      have hbreaks : (lineBreaks comment).count '\n' = comment.count '\n' :=
        List.count_filter rfl
      rw [stripChars_comment hopens hcloses]
      simp only [List.count_append, List.count_cons_of_ne hmark, hbreaks, ih]
      omega

/-- Taking out comments a second time changes nothing. -/
theorem stripChars_stripChars (text : List Char) :
    stripChars (stripChars text) = stripChars text := by
  induction text using comment_induction with
  | clear text hclear => rw [stripChars_of_not_hasMark hclear, stripChars_of_not_hasMark hclear]
  | unclosed before inside hopens hunclosed =>
      rw [stripChars_append_of_clear hopens, stripChars_mark_of_not_hasMark hunclosed,
        stripChars_append_of_clear hopens, stripChars_mark_of_not_hasMark hunclosed]
  | comment before comment after hopens hcloses ih =>
      rw [stripChars_comment hopens hcloses,
        stripChars_append_of_clear (hopens.append (isClear_lineBreaks comment)), ih]

/-- A comment in front of a text leaves it closed or not. -/
theorem isClosed_comment_iff (hopens : IsClear before) (hcloses : IsClear comment) :
    IsClosed (before ++ '%' :: '%' :: (comment ++ '%' :: '%' :: after)) ↔ IsClosed after := by
  have hwhole : before ++ '%' :: '%' :: (comment ++ '%' :: '%' :: after) ++ ['%'] =
      before ++ '%' :: '%' :: (comment ++ '%' :: '%' :: (after ++ ['%'])) := by
    simp
  constructor
  · rintro ⟨hpaired, hcomplete⟩
    rw [hwhole, countMarks_comment hopens hcloses, countMarks_comment hopens hcloses] at hcomplete
    rw [countMarks_comment hopens hcloses] at hpaired
    exact ⟨by omega, by omega⟩
  · rintro ⟨hpaired, hcomplete⟩
    refine ⟨?_, ?_⟩
    · rw [countMarks_comment hopens hcloses]
      omega
    · rw [hwhole, countMarks_comment hopens hcloses, countMarks_comment hopens hcloses, hcomplete]

/-- Where comments are closed a text may be cut, and comments are taken out of the two parts. -/
theorem IsClosed.stripChars_append (hclosed : IsClosed text) (rest : List Char) :
    stripChars (text ++ rest) = stripChars text ++ stripChars rest := by
  induction text using comment_induction with
  | clear text hclear =>
      have hcomplete : IsClear text := by
        rw [IsClear, ← countMarks_eq_zero_iff, hclosed.whole, countMarks_of_not_hasMark hclear]
      rw [stripChars_append_of_clear hcomplete, stripChars_of_not_hasMark hclear]
  | unclosed before inside hopens hunclosed =>
      have hodd := hclosed.paired
      rw [countMarks_append_of_clear hopens, countMarks, countMarks_of_not_hasMark hunclosed]
        at hodd
      cases hodd
  | comment before comment after hopens hcloses ih =>
      have hwhole : before ++ '%' :: '%' :: (comment ++ '%' :: '%' :: after) ++ rest =
          before ++ '%' :: '%' :: (comment ++ '%' :: '%' :: (after ++ rest)) := by
        simp
      rw [hwhole, stripChars_comment hopens hcloses, stripChars_comment hopens hcloses,
        ih ((isClosed_comment_iff hopens hcloses).mp hclosed), ← List.append_assoc]

/-- What is left of a closed text is clear. -/
theorem IsClosed.isClear_stripChars (hclosed : IsClosed text) :
    IsClear (stripChars text) := by
  -- a percent sign behind the text is kept, so the number of marks with it tells what is left
  have halone : stripChars ['%'] = ['%'] :=
    stripChars_of_not_hasMark (by simp [hasMark_cons_iff, not_hasMark_nil])
  have hpaired := hclosed.paired
  rw [IsClear, ← halone, ← hclosed.stripChars_append, hasMark_stripChars_iff, hclosed.whole]
  omega

/-- The comment of a text between two parts of it: the part before it is closed, so its opening mark
is the first one of a pair, and its closing mark is the next one. -/
structure HasComment (text before comment after : List Char) : Prop where
  /-- The text is cut at the two marks. -/
  split : text = before ++ '%' :: '%' :: (comment ++ '%' :: '%' :: after)
  /-- The comment is opened where none is open. -/
  opens : IsClosed before
  /-- No mark closes it earlier. -/
  closes : IsClear comment

/-- The last mark of a text has no partner. -/
structure HasUnclosed (text before inside : List Char) : Prop where
  /-- The text is cut at the mark. -/
  split : text = before ++ '%' :: '%' :: inside
  /-- The mark stands where no comment is open. -/
  opens : IsClosed before
  /-- No mark follows. -/
  unclosed : ¬HasMark inside

theorem HasComment.stripChars_eq (hcommented : HasComment text before comment after) :
    stripChars text = stripChars before ++ lineBreaks comment ++ stripChars after := by
  rw [hcommented.split, hcommented.opens.stripChars_append,
    stripChars_mark_comment hcommented.closes, List.append_assoc]

/-- Taking out one comment takes out two marks: what stands around it makes no new one. -/
theorem HasComment.countMarks_eq (hcommented : HasComment text before comment after) :
    countMarks text = countMarks (before ++ lineBreaks comment ++ after) + 2 := by
  have hwhole := hcommented.opens.whole
  rw [hcommented.split, List.append_assoc, countMarks_append hwhole, countMarks_append hwhole,
    countMarks_append_of_clear (isClear_lineBreaks comment), countMarks,
    countMarks_append_of_clear hcommented.closes, countMarks]
  omega

theorem HasComment.isClear (hcommented : HasComment text before comment after) :
    IsClear (stripChars before ++ lineBreaks comment) :=
  hcommented.opens.isClear_stripChars.append (isClear_lineBreaks comment)

/-- Of a mark without a partner everything is kept. -/
theorem HasUnclosed.stripChars_eq (hunclosed : HasUnclosed text before inside) :
    stripChars text = stripChars before ++ '%' :: '%' :: inside := by
  rw [hunclosed.split, hunclosed.opens.stripChars_append,
    stripChars_mark_of_not_hasMark hunclosed.unclosed]

/-- If the number of marks is odd, then the last of them has no partner. -/
theorem exists_unclosed (hodd : countMarks text % 2 = 1) :
    ∃ before inside, HasUnclosed text before inside := by
  induction text using comment_induction with
  | clear text hclear =>
      rw [countMarks_of_not_hasMark hclear] at hodd
      cases hodd
  | unclosed before inside hopens hunclosed =>
      exact ⟨before, inside, rfl, hopens.isClosed.1, hunclosed⟩
  | comment before comment after hopens hcloses ih =>
      rw [countMarks_comment hopens hcloses] at hodd
      obtain ⟨between, inside, rfl, hclosed, hunclosed⟩ := ih (by omega)
      refine ⟨before ++ '%' :: '%' :: (comment ++ '%' :: '%' :: between), inside, ?_, ?_, hunclosed⟩
      · simp
      · exact (isClosed_comment_iff hopens hcloses).mpr hclosed

/-- What taking out comments leaves of a text. A mark is left exactly if the number of marks is odd,
and then it is the last one, with all that follows it. There are as many line breaks as before. What
is left in front of a comment makes no mark with what follows, and a comment taken out alone takes
two marks with it and makes no new one. The second time nothing is taken out. -/
theorem marks_strip (text : String) :
    (HasMark (strip text).toList ↔ countMarks text.toList % 2 = 1) ∧
      (countMarks text.toList % 2 = 1 → ∃ before inside, HasUnclosed text.toList before inside ∧
        (strip text).toList = stripChars before ++ '%' :: '%' :: inside ∧
        IsClear (stripChars before)) ∧
      (strip text).toList.count '\n' = text.toList.count '\n' ∧
      (∀ before comment after, HasComment text.toList before comment after →
        (strip text).toList = stripChars before ++ lineBreaks comment ++ stripChars after ∧
        IsClear (stripChars before ++ lineBreaks comment) ∧
        countMarks text.toList = countMarks (before ++ lineBreaks comment ++ after) + 2) ∧
      strip (strip text) = strip text := by
  have hchars (text : String) : (strip text).toList = stripChars text.toList :=
    String.toList_ofList
  refine ⟨?_, ?_, ?_, ?_, ?_⟩
  · rw [hchars]
    exact hasMark_stripChars_iff text.toList
  · intro hodd
    obtain ⟨before, inside, hunclosed⟩ := exists_unclosed hodd
    refine ⟨before, inside, hunclosed, ?_, hunclosed.opens.isClear_stripChars⟩
    rw [hchars]
    exact hunclosed.stripChars_eq
  · rw [hchars]
    exact count_stripChars text.toList
  · intro before comment after hcommented
    refine ⟨?_, hcommented.isClear, hcommented.countMarks_eq⟩
    rw [hchars]
    exact hcommented.stripChars_eq
  · rw [← String.toList_inj, hchars, hchars]
    exact stripChars_stripChars text.toList

/-- A percent sign behind a comment stays alone when the comment is taken out. -/
theorem marks_strip_percent :
    HasComment "a%%b%%%c".toList "a".toList "b".toList "%c".toList ∧
      (strip "a%%b%%%c").toList = "a%c".toList := by
  have hcommented : HasComment "a%%b%%%c".toList "a".toList "b".toList "%c".toList :=
    ⟨rfl, ⟨rfl, rfl⟩, by decide⟩
  obtain ⟨-, -, -, htaken, -⟩ := marks_strip "a%%b%%%c"
  have hleft := (htaken _ _ _ hcommented).1
  have hbefore : stripChars "a".toList = "a".toList := stripChars_of_not_hasMark (by decide)
  have hafter : stripChars "%c".toList = "%c".toList := stripChars_of_not_hasMark (by decide)
  rw [hbefore, hafter] at hleft
  exact ⟨hcommented, hleft⟩

end Dialogue.Comment
