/-
# Words whose letters have one capital

Some names are matched letter by letter from A to Z and others by their full lowercase forms. The
two can only differ where a character beyond ASCII has a small form with ASCII letters in it. There
are two such characters: the Kelvin sign, whose small form is `k`, and the dotted capital `İ`, whose
small form is an `i` with a mark after it. So on a word of small letters without a `k` the two ways
of matching agree.
-/

import Dialogue.Text.Match

namespace Dialogue.Text

/-- How a character gets its small form. -/
inductive LowersTo (c : Char) : List Char → Prop where
  /-- An ASCII character has its ASCII small form. -/
  | ascii (hbelow : c.toNat < 128) : LowersTo c [c.toLower]
  /-- The dotted capital has a small letter and a mark. -/
  | dotted (hsame : c = 'İ') : LowersTo c ['i', '\u0307']
  /-- A capital in the table has the small form of its row. -/
  | listed {row : CaseRow} (hmem : row ∈ caseRows)
      (hheld : row.capitals.contains c.toNat = true) : LowersTo c [Char.ofNat (row.map c.toNat)]
  /-- Any other character is its own small form. -/
  | itself (hbeyond : 128 ≤ c.toNat) : LowersTo c [c]

theorem lowersTo_lowercaseChar (c : Char) : LowersTo c (lowercaseChar c) := by
  rw [lowercaseChar]
  split
  · exact .ascii ‹_›
  · split
    · exact .dotted ‹_›
    · split
      · rename_i row hfound
        exact .listed (List.mem_of_find?_eq_some hfound)
          (List.find?_some (p := fun row : CaseRow => row.capitals.contains c.toNat) hfound)
      · exact .itself (Nat.le_of_not_lt ‹_›)

/-- What holds of all ASCII codes holds of all ASCII characters. -/
theorem of_ascii (P : Char → Prop) {c : Char} (hall : ∀ code < 128, P (Char.ofNat code))
    (hbelow : c.toNat < 128) : P c := by
  have hown := hall c.toNat hbelow
  rwa [Char.ofNat_toNat] at hown

/-- A small letter from a to z that only ASCII characters have as their whole small form. -/
def IsPlainLetter (c : Char) : Prop :=
  c.isLower = true ∧ c ≠ 'k'

instance : DecidablePred IsPlainLetter := fun c =>
  inferInstanceAs (Decidable (c.isLower = true ∧ c ≠ 'k'))

/-- Whether a text is a word of plain letters. -/
def isPlainWord (word : String) : Bool :=
  word.toList.all fun c => decide (IsPlainLetter c)

theorem isPlainWord_iff {word : String} :
    isPlainWord word = true ↔ ∀ c ∈ word.toList, IsPlainLetter c := by
  rw [isPlainWord, List.all_eq_true]
  simp only [decide_eq_true_eq]

theorem IsPlainLetter.toNat_bounds {c : Char} (hplain : IsPlainLetter c) :
    97 ≤ c.toNat ∧ c.toNat ≤ 122 := by
  have hsmall : (decide ('a'.val ≤ c.val) && decide (c.val ≤ 'z'.val)) = true := hplain.1
  rw [Bool.and_eq_true, decide_eq_true_eq, decide_eq_true_eq] at hsmall
  exact hsmall

theorem toLower_of_not_upper {c : Char} (h : c.toNat < 65 ∨ 90 < c.toNat) : c.toLower = c := by
  apply dif_neg
  rintro ⟨hlower, hupper⟩
  have hlower : 65 ≤ c.toNat := hlower
  have hupper : c.toNat ≤ 90 := hupper
  omega

theorem IsPlainLetter.toLower_eq {c : Char} (hplain : IsPlainLetter c) : c.toLower = c := by
  have hbounds := hplain.toNat_bounds
  exact toLower_of_not_upper (.inr (by omega))

/-- A code point names itself or, if there is no such character, the null character. -/
theorem toNat_ofNat_eq_or (code : Nat) :
    (Char.ofNat code).toNat = code ∨ (Char.ofNat code).toNat = 0 := by
  by_cases hvalid : code.isValidChar
  · rw [Char.ofNat, dif_pos hvalid]
    exact .inl rfl
  · rw [Char.ofNat, dif_neg hvalid]
    exact .inr rfl

/-- A number beyond ASCII is the code point of a character beyond ASCII or of none. -/
theorem not_isPlainLetter_ofNat {code : Nat} (hbeyond : 128 ≤ code) :
    ¬ IsPlainLetter (Char.ofNat code) := by
  intro hplain
  have hbounds := hplain.toNat_bounds
  rcases toNat_ofNat_eq_or code with hsame | hnull <;> omega

/-- The small forms beyond ASCII stay there, with the Kelvin sign as the one exception. -/
theorem small_of_mem_caseRows :
    ∀ row ∈ caseRows,
      128 ≤ row.small ∨ row.small = 107 ∧ row.capitals.first = row.capitals.last := by
  decide +kernel

/-- No character beyond ASCII has a plain letter as its small form. -/
theorem not_isPlainLetter_map {row : CaseRow} {code : Nat} (hlisted : row ∈ caseRows)
    (hheld : row.capitals.contains code = true) : ¬ IsPlainLetter (Char.ofNat (row.map code)) := by
  rcases small_of_mem_caseRows row hlisted with hbeyond | ⟨hkelvin, hsingle⟩
  · exact not_isPlainLetter_ofNat (Nat.le_trans hbeyond (Nat.le_add_right _ _))
  · obtain ⟨hlower, hupper, -⟩ := CodeRange.contains_eq_true_iff.mp hheld
    have hsole : row.map code = 107 := by
      rw [CaseRow.map, hkelvin]
      omega
    rw [hsole]
    decide

/-- A text with a plain word as its lowercase form is that word up to the case of the letters from
A to Z. The induction is on the text, and what stands before it does not matter: only a capital
sigma looks there, and its small forms are no plain letters. -/
theorem map_toLower_of_lowercaseAfter {word text : List Char} {before : Bool}
    (hplain : ∀ c ∈ word, IsPlainLetter c) (heq : lowercaseAfter before text = word) :
    text.map Char.toLower = word := by
  induction text generalizing word before with
  | nil => exact heq
  | cons c rest ih =>
      subst heq
      rw [lowercaseAfter] at hplain ⊢
      have htail := ih (fun d hmem => hplain d (List.mem_append_right _ hmem)) rfl
      have hhead := fun d hmem => hplain d (List.mem_append_left _ hmem)
      by_cases hsigma : c = 'Σ'
      · rw [if_pos hsigma] at hhead
        have hfinal := hhead _ (List.mem_singleton.mpr rfl)
        split at hfinal <;> exact absurd hfinal (by decide)
      · rw [if_neg hsigma] at hhead ⊢
        have hlowers := lowersTo_lowercaseChar c
        generalize lowercaseChar c = small at hlowers hhead ⊢
        cases hlowers with
        | ascii hbelow =>
            rw [List.map_cons, htail]
            rfl
        | dotted hsame => exact absurd (hhead '\u0307' (by decide)) (by decide)
        | listed hmem hheld =>
            exact absurd (hhead _ (List.mem_singleton.mpr rfl)) (not_isPlainLetter_map hmem hheld)
        | itself hbeyond =>
            have hbounds := (hhead c (List.mem_singleton.mpr rfl)).toNat_bounds
            omega

/-- A text that is a plain word up to the case of the letters from A to Z is ASCII, so its lowercase
form is taken letter by letter. -/
theorem lowercaseAfter_of_map_toLower {word text : List Char} {before : Bool}
    (hplain : ∀ c ∈ word, IsPlainLetter c) (heq : text.map Char.toLower = word) :
    lowercaseAfter before text = word := by
  induction text generalizing word before with
  | nil => exact heq
  | cons c rest ih =>
      subst heq
      rw [List.map_cons] at hplain ⊢
      have hbounds := (hplain _ List.mem_cons_self).toNat_bounds
      have hascii : c.toNat < 128 := by
        apply Nat.lt_of_not_le
        intro hbeyond
        rw [toLower_of_not_upper (.inr (by omega))] at hbounds
        omega
      have hother : c ≠ 'Σ' := by
        rintro rfl
        exact absurd hascii (by decide)
      rw [lowercaseAfter_cons_of_ne before rest hother, lowercaseChar_of_lt hascii,
        ih (fun d hmem => hplain d (List.mem_cons_of_mem _ hmem)) rfl]
      rfl

/-- A text of signs and digits is its own lowercase form. -/
theorem lowercaseAfter_of_lt {text : List Char} (hbelow : ∀ c ∈ text, c.toNat < 65)
    (before : Bool) : lowercaseAfter before text = text := by
  induction text generalizing before with
  | nil => rfl
  | cons c rest ih =>
      have hfirst := hbelow c List.mem_cons_self
      have hother : c ≠ 'Σ' := by
        rintro rfl
        exact absurd hfirst (by decide)
      rw [lowercaseAfter_cons_of_ne before rest hother, lowercaseChar_of_lt (by omega),
        toLower_of_not_upper (.inl hfirst), ih fun d hmem => hbelow d (List.mem_cons_of_mem _ hmem)]
      rfl

/-- On a plain word the two ways of matching agree. -/
theorem sameWord_iff_lowercase_eq {word : String} (hplain : isPlainWord word = true)
    (name : String) : sameWord name word = true ↔ lowercase name = word := by
  rw [isPlainWord_iff] at hplain
  have hsmall : word.toList.map Char.toLower = word.toList := by
    calc word.toList.map Char.toLower
        = word.toList.map id := List.map_congr_left fun c hmem => (hplain c hmem).toLower_eq
      _ = word.toList := List.map_id _
  rw [sameWord_iff, hsmall, lowercase, ← String.toList_inj, String.toList_ofList]
  exact ⟨lowercaseAfter_of_map_toLower hplain, map_toLower_of_lowercaseAfter hplain⟩

end Dialogue.Text
