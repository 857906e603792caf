/-
# Lowercase forms around a hash

The lowercase form of a text is made character by character, except that a Greek capital sigma looks
at its neighbours. It does not look through a hash, and no other character has a hash in its small
form. So a hash cuts a text and its lowercase form at the same place, and the two parts have
lowercase forms of their own.
-/

import Dialogue.Proofs.Text.Words

namespace Dialogue.Text

variable {text rest : List Char}

theorem isCaseIgnorable_hash : isCaseIgnorable '#' = false := by
  decide +kernel

theorem isCased_hash : isCased '#' = false := by
  decide +kernel

/-- A capital sigma looks no further than a hash. -/
theorem startsCased_append_hash (text rest : List Char) :
    startsCased (text ++ '#' :: rest) = startsCased text := by
  have hstop : ('#' :: rest).dropWhile isCaseIgnorable = '#' :: rest :=
    List.dropWhile_cons_of_neg (by simp [isCaseIgnorable_hash])
  rw [startsCased, startsCased, List.dropWhile_append, hstop]
  cases text.dropWhile isCaseIgnorable with
  | nil => exact isCased_hash
  | cons c later => rfl

theorem lowercaseAfter_hash (before : Bool) (rest : List Char) :
    lowercaseAfter before ('#' :: rest) = '#' :: lowercaseAfter false rest := by
  have hafter : endsCased before '#' = false := by
    rw [endsCased, isCaseIgnorable_hash, isCased_hash]
    rfl
  rw [lowercaseAfter_cons_of_ne before rest (by decide), hafter, lowercaseChar_of_lt (by decide)]
  rfl

/-- The lowercase form of a text with a hash is made on both sides of the hash. -/
theorem lowercaseAfter_append_hash (before : Bool) (text rest : List Char) :
    lowercaseAfter before (text ++ '#' :: rest) =
      lowercaseAfter before text ++ '#' :: lowercaseAfter false rest := by
  induction text generalizing before with
  | nil => exact lowercaseAfter_hash before rest
  | cons c later ih =>
      rw [List.cons_append, lowercaseAfter, startsCased_append_hash, ih, ← List.append_assoc]
      rfl

/-- A small letter from A to Z is no sign, so a sign that stands before the letters is its own small
form only. -/
theorem toLower_eq_of_lt {c : Char} (hsign : c.toLower.toNat < 65) : c.toLower = c := by
  by_cases hbelow : c.toNat < 128
  · have hall : ∀ code < 128, (Char.ofNat code).toLower.toNat < 65 →
        (Char.ofNat code).toLower = Char.ofNat code := by
      decide
    exact of_ascii (fun c => c.toLower.toNat < 65 → c.toLower = c) hall hbelow hsign
  · exact toLower_of_not_upper (.inr (by omega))

/-- No small form brings in a sign that stands before the letters. -/
theorem sign_not_mem_lowercaseChar {sign c : Char} (hfirst : 0 < sign.toNat)
    (hlast : sign.toNat < 65)
    (hother : c ≠ sign) : sign ∉ lowercaseChar c := by
  have hlowers := lowersTo_lowercaseChar c
  generalize lowercaseChar c = small at hlowers ⊢
  cases hlowers with
  | ascii hbelow =>
      rw [List.mem_singleton]
      intro hsame
      exact hother ((toLower_eq_of_lt (hsame ▸ hlast)).symm.trans hsame.symm)
  | dotted hsame =>
      have hall : ∀ small ∈ ['i', '\u0307'], 65 ≤ small.toNat :=
        List.forall_mem_cons.mpr ⟨by decide, List.forall_mem_singleton.mpr (by decide)⟩
      exact fun hmem => absurd (hall sign hmem) (Nat.not_le_of_lt hlast)
  | @listed row hmem hheld =>
      rw [List.mem_singleton]
      intro hsame
      have hsmall : 107 ≤ row.small := by
        rcases small_of_mem_caseRows row hmem with hbeyond | hkelvin <;> omega
      have hcode : sign.toNat = (Char.ofNat (row.map c.toNat)).toNat := congrArg Char.toNat hsame
      rw [CaseRow.map] at hcode
      rcases toNat_ofNat_eq_or (row.small + (c.toNat - row.capitals.first)) with hsame | hnull <;>
        omega
  | itself hbeyond =>
      rw [List.mem_singleton]
      exact Ne.symm hother

/-- No small form brings in a hash. -/
theorem hash_not_mem_lowercaseChar {c : Char} (hother : c ≠ '#') : '#' ∉ lowercaseChar c :=
  sign_not_mem_lowercaseChar (by decide) (by decide) hother

theorem hash_mem_lowercaseAfter_iff {before : Bool} :
    '#' ∈ lowercaseAfter before text ↔ '#' ∈ text := by
  induction text generalizing before with
  | nil => exact Iff.rfl
  | cons c later ih =>
      rw [lowercaseAfter, List.mem_append, ih, List.mem_cons]
      refine or_congr_left ?_
      by_cases hhash : c = '#'
      · subst hhash
        rw [if_neg (by decide), lowercaseChar_of_lt (by decide)]
        exact iff_of_true (by decide) rfl
      · refine iff_of_false ?_ (Ne.symm hhash)
        split
        · split <;> decide
        · exact hash_not_mem_lowercaseChar hhash

end Dialogue.Text
