/-
# The ends of lowercase forms

White space has no small form of its own, and no small form of another character is white space. So
a text and its lowercase form have white space at their ends together, and a text that matches a
trimmed one is trimmed itself.
-/

import Dialogue.Proofs.Text.Trim
import Dialogue.Proofs.Text.Words

namespace Dialogue.Text

variable {text : List Char} {c d : Char}

/-- The white space characters lie apart from the capitals beyond ASCII and from their small
forms. -/
theorem apart_of_mem_blankRanges :
    ∀ range ∈ blankRanges, ∀ row ∈ caseRows,
      (range.last < row.capitals.first ∨ row.capitals.last < range.first) ∧
        (range.last < row.small ∨
          row.small + (row.capitals.last - row.capitals.first) < range.first) := by
  decide +kernel

theorem isBlank_eq_false_iff :
    isBlank c = false ↔ ∀ range ∈ blankRanges, range.contains c.toNat = false := by
  simp [isBlank, CodeRange.listed]

/-- A code point outside of the bounds of a range is not in it. -/
theorem contains_eq_false_of_bounds {range : CodeRange} {code : Nat}
    (houtside : range.last < code ∨ code < range.first) : range.contains code = false := by
  rw [Bool.eq_false_iff, Ne, CodeRange.contains_eq_true_iff]
  omega

/-- Neither a capital beyond ASCII nor its small form is white space. -/
theorem isBlank_of_mem_caseRows {row : CaseRow} (hlisted : row ∈ caseRows)
    (hheld : row.capitals.contains c.toNat = true) :
    isBlank c = false ∧ isBlank (Char.ofNat (row.map c.toNat)) = false := by
  obtain ⟨hlower, hupper, -⟩ := CodeRange.contains_eq_true_iff.mp hheld
  constructor
  · rw [isBlank_eq_false_iff]
    intro range hmem
    have hapart := (apart_of_mem_blankRanges range hmem row hlisted).1
    exact contains_eq_false_of_bounds (by omega)
  · rcases toNat_ofNat_eq_or (row.map c.toNat) with hsame | hnull
    · rw [isBlank_eq_false_iff, hsame, CaseRow.map]
      intro range hmem
      have hapart := (apart_of_mem_blankRanges range hmem row hlisted).2
      exact contains_eq_false_of_bounds (by omega)
    · rw [isBlank_eq_false_iff, hnull]
      decide

/-- A character and its small form are white space together. -/
theorem isBlank_of_mem_lowercaseChar (hmem : d ∈ lowercaseChar c) : isBlank d = isBlank c := by
  have hlowers := lowersTo_lowercaseChar c
  generalize lowercaseChar c = small at hlowers hmem
  cases hlowers with
  | ascii hbelow =>
      have hall : ∀ code < 128, isBlank (Char.ofNat code).toLower = isBlank (Char.ofNat code) := by
        decide +kernel
      rw [List.mem_singleton.mp hmem]
      exact of_ascii (fun c => isBlank c.toLower = isBlank c) hall hbelow
  | dotted hsame =>
      have hall : ['i', '\u0307'].all (fun small => isBlank small == isBlank 'İ') = true := by
        decide +kernel
      rw [hsame]
      exact beq_iff_eq.mp (List.all_eq_true.mp hall d hmem)
  | listed hinTable hheld =>
      obtain ⟨hcapital, hsmall⟩ := isBlank_of_mem_caseRows hinTable hheld
      rw [List.mem_singleton.mp hmem, hcapital, hsmall]
  | itself hbeyond => rw [List.mem_singleton.mp hmem]

/-- Whether a character is white space does not depend on its ASCII case. -/
theorem isBlank_toLower (c : Char) : isBlank c.toLower = isBlank c := by
  by_cases hbelow : c.toNat < 128
  · apply isBlank_of_mem_lowercaseChar
    rw [lowercaseChar_of_lt hbelow]
    exact List.mem_singleton.mpr rfl
  · rw [toLower_of_not_upper (.inr (by omega))]

theorem lowercaseChar_ne_nil (c : Char) : lowercaseChar c ≠ [] := by
  have hlowers := lowersTo_lowercaseChar c
  generalize lowercaseChar c = small at hlowers ⊢
  cases hlowers <;> exact List.cons_ne_nil _ _

/-- The lowercase form of one character of a text: there is one, and white space stays white
space. -/
theorem lowercaseAfter_cons_spec (before : Bool) (c : Char) (rest : List Char) :
    ∃ small, lowercaseAfter before (c :: rest) =
        small ++ lowercaseAfter (endsCased before c) rest ∧
      small ≠ [] ∧ ∀ d ∈ small, isBlank d = isBlank c := by
  refine ⟨_, rfl, ?_⟩
  split
  · rename_i hsigma
    have hfinal : isBlank 'ς' = isBlank 'Σ' := by decide +kernel
    have hinner : isBlank 'σ' = isBlank 'Σ' := by decide +kernel
    refine ⟨List.cons_ne_nil _ _, fun d hmem => ?_⟩
    rw [hsigma, List.mem_singleton.mp hmem]
    split
    · exact hfinal
    · exact hinner
  · exact ⟨lowercaseChar_ne_nil c, fun d => isBlank_of_mem_lowercaseChar⟩

theorem lowercaseAfter_eq_nil_iff (before : Bool) :
    lowercaseAfter before text = [] ↔ text = [] := by
  cases text with
  | nil => simp
  | cons c rest =>
      obtain ⟨small, heq, hnonempty, -⟩ := lowercaseAfter_cons_spec before c rest
      rw [heq]
      simp [hnonempty]

/-- A lowercase form starts with white space if the text does. -/
theorem head?_lowercaseAfter (before : Bool) (text : List Char) :
    (lowercaseAfter before text).head?.map isBlank = text.head?.map isBlank := by
  cases text with
  | nil => rfl
  | cons c rest =>
      obtain ⟨small, heq, hnonempty, hblank⟩ := lowercaseAfter_cons_spec before c rest
      obtain ⟨first, later, rfl⟩ := List.exists_cons_of_ne_nil hnonempty
      rw [heq]
      exact congrArg some (hblank first List.mem_cons_self)

/-- A lowercase form ends with white space if the text does. The induction is on the text: the last
character has a small form that ends the whole one. -/
theorem getLast?_lowercaseAfter (before : Bool) (text : List Char) :
    (lowercaseAfter before text).getLast?.map isBlank = text.getLast?.map isBlank := by
  induction text generalizing before with
  | nil => rfl
  | cons c rest ih =>
      obtain ⟨small, heq, hnonempty, hblank⟩ := lowercaseAfter_cons_spec before c rest
      rw [heq]
      cases rest with
      | nil =>
          rw [lowercaseAfter_nil, List.append_nil, List.getLast?_eq_some_getLast hnonempty]
          exact congrArg some (hblank _ (List.getLast_mem hnonempty))
      | cons next later =>
          have hmore : lowercaseAfter (endsCased before c) (next :: later) ≠ [] :=
            mt (lowercaseAfter_eq_nil_iff _).mp (List.cons_ne_nil _ _)
          rw [List.getLast?_append, Option.or_of_isSome (List.getLast?_isSome.mpr hmore), ih,
            List.getLast?_cons_cons]

theorem trimLeft_eq_self_iff : trimLeft text = text ↔ text.head?.map isBlank ≠ some true := by
  cases text with
  | nil => simp
  | cons c rest =>
      constructor
      · intro htrimmed
        simp [isBlank_of_trimLeft_eq_cons htrimmed]
      · intro hsolid
        exact trimLeft_cons_of_not_isBlank rest (by simpa using hsolid)

theorem trimRight_eq_self_iff : trimRight text = text ↔ text.getLast?.map isBlank ≠ some true := by
  rw [← List.head?_reverse, ← trimLeft_eq_self_iff]
  constructor
  · intro htrimmed
    exact List.reverse_inj.mp (htrimmed.trans (List.reverse_reverse _).symm)
  · intro htrimmed
    exact (congrArg List.reverse htrimmed).trans (List.reverse_reverse text)

/-- A text is trimmed if neither of its ends is white space. -/
theorem trim_eq_self_iff :
    trim text = text ↔
      text.head?.map isBlank ≠ some true ∧ text.getLast?.map isBlank ≠ some true := by
  rw [← trimLeft_eq_self_iff, ← trimRight_eq_self_iff]
  constructor
  · intro htrimmed
    exact ⟨trimLeft_eq_of_trim_eq htrimmed, trimRight_eq_of_trim_eq htrimmed⟩
  · rintro ⟨hleft, hright⟩
    exact trim_eq_of_trimRight_eq hleft hright

/-- A name that matches a trimmed one is trimmed. -/
theorem trim_eq_of_sameName {name other : String} (hsame : sameName name other = true)
    (htrimmed : trim name.toList = name.toList) : trim other.toList = other.toList := by
  have hforms : lowercaseAfter false name.toList = lowercaseAfter false other.toList :=
    String.ofList_inj.mp (sameName_iff.mp hsame)
  rw [trim_eq_self_iff] at htrimmed ⊢
  rw [← head?_lowercaseAfter false, ← getLast?_lowercaseAfter false] at htrimmed ⊢
  rwa [← hforms]

/-- A name that matches an empty one is empty. -/
theorem eq_empty_iff_of_sameName {name other : String} (hsame : sameName name other = true) :
    name = "" ↔ other = "" := by
  have hforms : lowercaseAfter false name.toList = lowercaseAfter false other.toList :=
    String.ofList_inj.mp (sameName_iff.mp hsame)
  rw [← String.toList_eq_nil_iff, ← String.toList_eq_nil_iff, ← lowercaseAfter_eq_nil_iff false,
    hforms, lowercaseAfter_eq_nil_iff]

end Dialogue.Text
