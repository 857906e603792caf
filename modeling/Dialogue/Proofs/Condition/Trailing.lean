/-
# Conditions with text after them

A condition may be followed by text that does not belong to it. The whole is refused then, and the
error names the rest: all that follows the condition and the white space behind it. The rest may be
any text that does not go on with the condition, so a text is refused in this way exactly if it can
be cut into a condition and such a rest.
-/

import Dialogue.Proofs.Condition.Grammar

namespace Dialogue

open Text (isBlank trimLeft trimRight)

/-- The text goes on with a joining word: `and` or `or` in any case with white space after it. -/
def StartsWithJoin (text : List Char) : Prop :=
  ∃ (word : List Char) (c : Char) (later : List Char) (join : Join),
    text = word ++ c :: later ∧ word.map Char.toLower = join.chars ∧ isBlank c = true

theorem readJoin?_eq_none_iff {text : List Char} :
    readJoin? text = none ↔ ¬StartsWithJoin text := by
  rw [Option.eq_none_iff_forall_ne_some]
  constructor
  · rintro hunjoined ⟨word, c, later, join, hwhole⟩
    exact hunjoined (join, later) (readJoin?_eq_some_iff.mpr ⟨word, c, hwhole⟩)
  · rintro hunjoined ⟨join, later⟩ hfound
    obtain ⟨word, c, hwhole⟩ := readJoin?_eq_some_iff.mp hfound
    exact hunjoined ⟨word, c, later, join, hwhole⟩

/-- What is left after a condition does not go on with a joining word. -/
theorem ReadsCondition.readJoin?_eq_none : ∀ {text rest : List Char} {condition : Condition},
    ReadsCondition text condition rest → readJoin? (trimLeft rest) = none
  | _, _, _, .operand _ hends => hends
  | _, _, _, .group _ _ hothers => hothers.readJoin?_eq_none

theorem readArguments_ne_trailing (text : List Char) (rest : String) :
    readArguments text ≠ .error (.trailingText rest) := by
  intro hread
  fun_induction readArguments text with
  | case1 | case2 | case3 | case4 | case5 | case7 | case8 | case9 | case11 | case12 => cases hread
  | case6 | case10 =>
      rename_i hfailed ih
      cases hread
      exact ih hfailed

theorem readCall_ne_trailing (text : List Char) (rest : String) :
    readCall text ≠ .error (.trailingText rest) := by
  intro hread
  rw [readCall] at hread
  split at hread
  · cases hread
  · split at hread
    · cases hread
    · split at hread
      · rename_i hfailed
        cases hread
        exact readArguments_ne_trailing _ _ hfailed
      · cases hread
  · cases hread

mutual

theorem readCondition_ne_trailing (text : List Char) (rest : String) :
    readCondition text ≠ .error (.trailingText rest) := by
  intro hread
  rw [readCondition] at hread
  split at hread
  · rename_i hfailed
    cases hread
    exact readOperand_ne_trailing _ _ hfailed
  · rename_i left between hshorter _
    dsimp only at hread
    split at hread
    · cases hread
    · rename_i join beyond hjoins
      have hcloser : beyond.length < text.length := by
        have hconsumed := length_lt_of_readJoin? hjoins
        have hbound := Text.length_trimLeft_le between
        have hbound' := Text.length_trimLeft_le text
        simp only at hshorter
        omega
      split at hread
      · rename_i hfailed
        cases hread
        exact readCondition_ne_trailing _ _ hfailed
      · cases hread
termination_by 2 * text.length + 1
decreasing_by
  · have := Text.length_trimLeft_le text
    omega
  · omega

theorem readOperand_ne_trailing (text : List Char) (rest : String) :
    readOperand text ≠ .error (.trailingText rest) := by
  intro hread
  rw [readOperand.eq_def] at hread
  split at hread
  · cases hread
  · cases hread
  · rename_i inside
    have hcloser : inside.length < ('(' :: inside).length := by
      rw [List.length_cons]
      omega
    split at hread
    · rename_i hfailed
      cases hread
      exact readCondition_ne_trailing _ _ hfailed
    · split at hread
      · cases hread
      · cases hread
  · split at hread
    · rename_i hfailed
      cases hread
      exact readCall_ne_trailing _ _ hfailed
    · cases hread
termination_by 2 * text.length

end

/-- The rest of a text is reported exactly if a condition is read before it. -/
theorem Condition.parse_eq_trailing_iff_reads {text command rest : String} :
    parse text = .error ⟨command, .trailingText rest⟩ ↔
      command = text ∧ rest ≠ "" ∧
        ∃ condition left, ReadsCondition text.toList condition left ∧
          trimLeft left = rest.toList := by
  rw [parse]
  constructor
  · intro hrefused
    split at hrefused
    · rename_i hfailed
      cases hrefused
      exact absurd hfailed (readCondition_ne_trailing _ _)
    · rename_i condition left _ hfound
      split at hrefused
      · cases hrefused
      · rename_i left' hsolid
        cases hrefused
        refine ⟨rfl, ?_, condition, left, readsCondition_of_readCondition hfound, ?_⟩
        · rwa [Ne, ← String.toList_eq_nil_iff, String.toList_ofList]
        · rw [String.toList_ofList]
  · rintro ⟨rfl, hsolid, condition, left, hreads, hwhole⟩
    obtain ⟨hshorter, hfound⟩ := readCondition_of_readsCondition hreads
    simp only [hfound, hwhole]
    split
    · rename_i hblank
      exact absurd (String.toList_eq_nil_iff.mp hblank) hsolid
    · rw [String.ofList_toList]

/-- A text is refused for the text after a condition exactly if it is a condition followed by that
text, and the text after it starts neither with white space nor with a joining word. -/
theorem Condition.parse_eq_trailing_iff (text command rest : String) :
    parse text = .error ⟨command, .trailingText rest⟩ ↔
      command = text ∧ (∃ c later, rest.toList = c :: later ∧ isBlank c = false) ∧
        ¬StartsWithJoin rest.toList ∧
        ∃ written condition, text = written ++ rest ∧ parse written = .ok condition := by
  rw [parse_eq_trailing_iff_reads]
  refine and_congr_right fun _ => ?_
  constructor
  · rintro ⟨hsolid, condition, left, hreads, hwhole⟩
    obtain ⟨written, hcut, hderives⟩ := hreads.exists_derivesCondition
    refine ⟨?_, ?_, String.ofList written, condition, ?_, ?_⟩
    · cases hstart : rest.toList with
      | nil => exact absurd (String.toList_eq_nil_iff.mp hstart) hsolid
      | cons c later =>
          exact ⟨c, later, rfl, Text.isBlank_of_trimLeft_eq_cons (hwhole.trans hstart)⟩
    · rw [← readJoin?_eq_none_iff, ← hwhole]
      exact hreads.readJoin?_eq_none
    · rw [← String.toList_inj, hcut, hwhole, String.toList_append, String.toList_ofList]
    · -- what was read in front of the rest is read alone, too
      have halone := hderives.readsCondition Text.trimLeft_nil rfl
      rw [List.append_nil] at halone
      rwa [parse_eq_ok_iff, String.toList_ofList]
  · rintro ⟨⟨c, later, hstart, hsolid⟩, hunjoined, written, condition, rfl, hread⟩
    have htrimmed : trimLeft rest.toList = rest.toList := by
      rw [hstart, Text.trimLeft_cons_of_not_isBlank later hsolid]
    obtain ⟨blank, halone, hends⟩ := parse_eq_ok_iff.mp hread
    obtain ⟨chars, hcut, hderives⟩ := halone.exists_derivesCondition
    rw [hends, List.append_nil] at hcut
    obtain ⟨left, hreads, hwhole⟩ :=
      hderives.readsCondition htrimmed (readJoin?_eq_none_iff.mpr hunjoined)
    refine ⟨?_, condition, left, ?_, hwhole⟩
    · rintro rfl
      cases hstart
    · rw [String.toList_append, hcut]
      exact hreads

end Dialogue
