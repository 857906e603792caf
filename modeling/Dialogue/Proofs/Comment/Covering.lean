/-
# The positions that comments cover

A comment covers the positions from its opening mark to its closing one. What is left of a text when
its comments are taken out are the characters at the other positions and all line breaks. This says
of every single character where it goes, and not only of the text as a whole.

A text has no other comments than the first one and those of the text after it. So the proofs go
from comment to comment.
-/

import Dialogue.Proofs.Comment

namespace Dialogue.Comment

variable {text before comment after : List Char} {c : Char} {position : Nat}

theorem HasComment.two_le_countMarks (hcommented : HasComment text before comment after) :
    2 ≤ countMarks text := by
  rw [hcommented.countMarks_eq]
  omega

/-- A closed text without marks is clear. -/
theorem IsClosed.isClear (hclosed : IsClosed text) (hwithout : ¬HasMark text) : IsClear text := by
  rw [IsClear, ← countMarks_eq_zero_iff, hclosed.whole, countMarks_of_not_hasMark hwithout]

/-- The first comment of a text is found at its first two marks. -/
theorem eq_of_first_comment {before' comment' after' : List Char} (hopens : IsClear before)
    (hcloses : IsClear comment) (hopens' : IsClear before') (hcloses' : IsClear comment')
    (hsame : before ++ '%' :: '%' :: (comment ++ '%' :: '%' :: after) =
      before' ++ '%' :: '%' :: (comment' ++ '%' :: '%' :: after')) :
    before = before' ∧ comment = comment' ∧ after = after' := by
  have hcut {before : List Char} (hclear : IsClear before) (rest : List Char) :
      cutAtMark (before ++ '%' :: '%' :: rest) = some (before, rest) := by
    simp [cutAtMark_append hclear, cutAtMark]
  have hfirst := hcut hopens (comment ++ '%' :: '%' :: after)
  rw [hsame, hcut hopens'] at hfirst
  obtain ⟨rfl, hinside⟩ := Prod.mk.inj (Option.some.inj hfirst)
  have hsecond := hcut hcloses after
  rw [← hinside, hcut hcloses'] at hsecond
  obtain ⟨rfl, rfl⟩ := Prod.mk.inj (Option.some.inj hsecond)
  exact ⟨rfl, rfl, rfl⟩

/-- The comments of a text are the first one and those of the text after it. -/
theorem hasComment_iff {before' comment' after' : List Char} (hopens : IsClear before)
    (hcloses : IsClear comment) :
    HasComment (before ++ '%' :: '%' :: (comment ++ '%' :: '%' :: after)) before' comment' after' ↔
      (before' = before ∧ comment' = comment ∧ after' = after) ∨
        ∃ between, before' = before ++ '%' :: '%' :: (comment ++ '%' :: '%' :: between) ∧
          HasComment after between comment' after' := by
  constructor
  · rintro ⟨hsplit, hopens', hcloses'⟩
    -- the part in front of the comment has no mark, or it starts with the first comment
    induction before' using comment_induction with
    | clear before' hwithout =>
        exact .inl
          (eq_of_first_comment (hopens'.isClear hwithout) hcloses' hopens hcloses hsplit.symm)
    | unclosed first inside hclear hunclosed =>
        have hodd := hopens'.paired
        rw [countMarks_append_of_clear hclear, countMarks, countMarks_of_not_hasMark hunclosed]
          at hodd
        cases hodd
    | comment first own between hclear hclosed ih =>
        have hwhole : first ++ '%' :: '%' :: (own ++ '%' :: '%' :: between) ++
              '%' :: '%' :: (comment' ++ '%' :: '%' :: after') =
            first ++ '%' :: '%' :: (own ++ '%' :: '%' ::
              (between ++ '%' :: '%' :: (comment' ++ '%' :: '%' :: after'))) := by
          simp
        rw [hwhole] at hsplit
        obtain ⟨rfl, rfl, hlater⟩ := eq_of_first_comment hopens hcloses hclear hclosed hsplit
        exact .inr ⟨between, rfl, hlater, (isClosed_comment_iff hclear hclosed).mp hopens',
          hcloses'⟩
  · rintro (⟨rfl, rfl, rfl⟩ | ⟨between, rfl, hsplit, hopens', hcloses'⟩)
    · exact ⟨rfl, hopens.isClosed.1, hcloses⟩
    · refine ⟨?_, (isClosed_comment_iff hopens hcloses).mpr hopens', hcloses'⟩
      rw [hsplit]
      simp

/-- A position of a text lies in a comment, the marks included. -/
def Covers (text : List Char) (position : Nat) : Prop :=
  ∃ before comment after, HasComment text before comment after ∧
    before.length ≤ position ∧ position < before.length + comment.length + 4

theorem not_covers_of_countMarks (hfew : countMarks text < 2) : ¬Covers text position := by
  rintro ⟨before, comment, after, hcommented, -⟩
  have := hcommented.two_le_countMarks
  omega

/-- The positions that the first comment covers, and those that the text after it covers. -/
theorem covers_iff (hopens : IsClear before) (hcloses : IsClear comment) :
    Covers (before ++ '%' :: '%' :: (comment ++ '%' :: '%' :: after)) position ↔
      (before.length ≤ position ∧ position < before.length + comment.length + 4) ∨
        ∃ later, position = before.length + comment.length + 4 + later ∧ Covers after later := by
  have hsize (between : List Char) :
      (before ++ '%' :: '%' :: (comment ++ '%' :: '%' :: between)).length =
        before.length + comment.length + 4 + between.length := by
    simp only [List.length_append, List.length_cons]
    omega
  constructor
  · rintro ⟨before', comment', after', hcommented, hstart, hstop⟩
    rcases (hasComment_iff hopens hcloses).mp hcommented
      with ⟨rfl, rfl, rfl⟩ | ⟨between, rfl, hother⟩
    · exact .inl ⟨hstart, hstop⟩
    · rw [hsize] at hstart hstop
      refine .inr ⟨position - (before.length + comment.length + 4), by omega, between, comment',
        after', hother, by omega, by omega⟩
  · rintro (⟨hstart, hstop⟩ | ⟨later, rfl, between, comment', after', hother, hstart, hstop⟩)
    · exact ⟨before, comment, after, (hasComment_iff hopens hcloses).mpr (.inl ⟨rfl, rfl, rfl⟩),
        hstart, hstop⟩
    · refine ⟨_, comment', after', (hasComment_iff hopens hcloses).mpr
        (.inr ⟨between, rfl, hother⟩), ?_, ?_⟩ <;> rw [hsize] <;> omega

theorem not_covers_of_lt (hopens : IsClear before) (hcloses : IsClear comment)
    (hearly : position < before.length) :
    ¬Covers (before ++ '%' :: '%' :: (comment ++ '%' :: '%' :: after)) position := by
  rw [covers_iff hopens hcloses]
  rintro (⟨hstart, -⟩ | ⟨later, hsame, -⟩) <;> omega

theorem covers_of_lt (hopens : IsClear before) (hcloses : IsClear comment)
    (hearly : position < comment.length + 4) :
    Covers (before ++ '%' :: '%' :: (comment ++ '%' :: '%' :: after))
      (before.length + position) := by
  rw [covers_iff hopens hcloses]
  exact .inl ⟨by omega, by omega⟩

theorem covers_add_iff (hopens : IsClear before) (hcloses : IsClear comment) :
    Covers (before ++ '%' :: '%' :: (comment ++ '%' :: '%' :: after))
        (before.length + (comment.length + 4 + position)) ↔ Covers after position := by
  rw [covers_iff hopens hcloses]
  constructor
  · rintro (⟨-, hearly⟩ | ⟨later, hsame, hcovered⟩)
    · omega
    · have : later = position := by omega
      rwa [← this]
  · exact fun hcovered => .inr ⟨position, by omega, hcovered⟩

/-- A comment that covers a position starts and ends within the text, so there are finitely many to
look at. -/
theorem covers_iff_exists_lt :
    Covers text position ↔ ∃ start < text.length, ∃ size < text.length,
      HasComment text (text.take start) ((text.drop (start + 2)).take size)
          (text.drop (start + size + 4)) ∧
        start ≤ position ∧ position < start + size + 4 := by
  constructor
  · rintro ⟨before, comment, after, hcommented, hfirst, hlast⟩
    have hlength := congrArg List.length hcommented.split
    simp only [List.length_append, List.length_cons] at hlength
    have hfront : text.take before.length = before := by
      rw [hcommented.split, List.take_left]
    have hmiddle : (text.drop (before.length + 2)).take comment.length = comment := by
      rw [hcommented.split, ← List.drop_drop, List.drop_left]
      exact List.take_left
    have hback : text.drop (before.length + comment.length + 4) = after := by
      have hcut : text = before ++ '%' :: '%' :: (comment ++ ['%', '%']) ++ after := by
        simp [hcommented.split]
      rw [hcut]
      exact List.drop_left' (by simp only [List.length_append, List.length_cons]; rfl)
    refine ⟨before.length, by omega, comment.length, by omega, ?_, hfirst, hlast⟩
    rwa [hfront, hmiddle, hback]
  · rintro ⟨start, hinText, size, -, hcommented, hfirst, hlast⟩
    have hlength := congrArg List.length hcommented.split
    simp only [List.length_append, List.length_cons, List.length_take, List.length_drop] at hlength
    refine ⟨_, _, _, hcommented, ?_, ?_⟩ <;>
      simp only [List.length_take, List.length_drop] <;> omega

instance : Decidable (HasComment text before comment after) :=
  decidable_of_iff
    (text = before ++ '%' :: '%' :: (comment ++ '%' :: '%' :: after) ∧
      (countMarks before % 2 = 0 ∧ countMarks (before ++ ['%']) = countMarks before) ∧
      IsClear comment)
    ⟨fun ⟨hsplit, ⟨hpaired, hwhole⟩, hcloses⟩ => ⟨hsplit, ⟨hpaired, hwhole⟩, hcloses⟩,
      fun ⟨hsplit, ⟨hpaired, hwhole⟩, hcloses⟩ => ⟨hsplit, ⟨hpaired, hwhole⟩, hcloses⟩⟩

instance : Decidable (Covers text position) :=
  decidable_of_iff _ covers_iff_exists_lt.symm

/-- The characters of a text that pass a test on the character and its position. -/
def select (test : Char → Nat → Bool) (text : List Char) : List Char :=
  (text.zipIdx.filter fun entry => test entry.1 entry.2).map Prod.fst

variable {test test' : Char → Nat → Bool}

@[simp]
theorem select_nil (test : Char → Nat → Bool) : select test [] = [] := rfl

theorem select_cons (test : Char → Nat → Bool) (c : Char) (rest : List Char) :
    select test (c :: rest) =
      (if test c 0 then [c] else []) ++ select (fun d position => test d (position + 1)) rest := by
  have hlater : ((rest.zipIdx 1).filter fun entry => test entry.1 entry.2).map Prod.fst =
      select (fun d position => test d (position + 1)) rest := by
    rw [List.zipIdx_succ, List.filter_map, List.map_map, select]
    rfl
  rw [select, List.zipIdx_cons, List.filter_cons, ← hlater]
  split <;> rfl

theorem select_congr
    (hsame : ∀ position c, text[position]? = some c → test c position = test' c position) :
    select test text = select test' text := by
  rw [select, select]
  refine congrArg _ (List.filter_congr fun entry hmem => ?_)
  exact hsame entry.2 entry.1 (List.mk_mem_zipIdx_iff_getElem?.mp hmem)

/-- The text in front and the text behind a cut are selected from apart. -/
theorem select_append (test : Char → Nat → Bool) (before after : List Char) :
    select test (before ++ after) =
      select test before ++ select (fun c position => test c (before.length + position)) after := by
  induction before generalizing test with
  | nil => simp
  | cons c rest ih =>
      rw [List.cons_append, select_cons, select_cons, ih, List.append_assoc]
      simp only [List.length_cons, Nat.add_right_comm]

/-- A test that does not look at positions. -/
theorem select_eq_filter (test : Char → Bool) (text : List Char) :
    select (fun c _ => test c) text = text.filter test := by
  induction text with
  | nil => rfl
  | cons c rest ih =>
      rw [select_cons, ih, List.filter_cons]
      split <;> rfl

theorem select_eq_self
    (hall : ∀ position c, text[position]? = some c → test c position = true) :
    select test text = text := by
  calc select test text = select (fun _ _ => true) text := select_congr hall
    _ = text.filter fun _ => true := select_eq_filter _ text
    _ = text := List.filter_true text

theorem select_eq_nil (hnone : ∀ c position, test c position = false) (text : List Char) :
    select test text = [] := by
  calc select test text = select (fun _ _ => false) text :=
        select_congr fun position c _ => hnone c position
    _ = text.filter fun _ => false := select_eq_filter _ text
    _ = [] := List.filter_false text

theorem lt_length_of_getElem? (hfound : text[position]? = some c) : position < text.length :=
  (List.getElem?_eq_some_iff.mp hfound).1

/-- Taking out comments keeps the line breaks and what no comment covers. -/
theorem stripChars_eq_select (text : List Char) :
    stripChars text =
      select (fun c position => decide (c = '\n' ∨ ¬Covers text position)) text := by
  induction text using comment_induction with
  | clear text hclear =>
      rw [stripChars_of_not_hasMark hclear, select_eq_self]
      intro position c _
      have hfew : countMarks text < 2 := by
        rw [countMarks_of_not_hasMark hclear]
        decide
      exact decide_eq_true (.inr (not_covers_of_countMarks hfew))
  | unclosed before inside hopens hunclosed =>
      rw [stripChars_append_of_clear hopens, stripChars_mark_of_not_hasMark hunclosed,
        select_eq_self]
      intro position c _
      have hfew : countMarks (before ++ '%' :: '%' :: inside) < 2 := by
        rw [countMarks_append_of_clear hopens, countMarks, countMarks_of_not_hasMark hunclosed]
        decide
      exact decide_eq_true (.inr (not_covers_of_countMarks hfew))
  | comment before comment after hopens hcloses ih =>
      let marked := '%' :: '%' :: (comment ++ ['%', '%'])
      have hsize : marked.length = comment.length + 4 := by
        simp [marked]
      have hwhole : before ++ '%' :: '%' :: (comment ++ '%' :: '%' :: after) =
          before ++ (marked ++ after) := by
        simp [marked]
      have hbreaks : lineBreaks comment = select (fun c _ => c == '\n') marked := by
        rw [select_eq_filter]
        simp [marked, lineBreaks]
      rw [stripChars_comment hopens hcloses, hbreaks, ih, hwhole, select_append, select_append,
        List.append_assoc, ← hwhole]
      congr 1
      · refine (select_eq_self fun position c hfound => decide_eq_true (.inr ?_)).symm
        exact not_covers_of_lt hopens hcloses (lt_length_of_getElem? hfound)
      · congr 1
        · refine select_congr fun position c hfound => decide_eq_decide.mpr ?_
          have hearly := hsize ▸ lt_length_of_getElem? hfound
          exact (or_iff_left (not_not_intro (covers_of_lt hopens hcloses hearly))).symm
        · refine select_congr fun position c _ => decide_eq_decide.mpr ?_
          rw [hsize, covers_add_iff hopens hcloses]

end Dialogue.Comment
