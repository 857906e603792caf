/-
# Whole numbers as binary numbers

A whole number of more than 53 bits may have no binary number of its own. The nearest one keeps the
order of whole numbers, except that close neighbours fall together, and it is out of range from half
of a spacing below 2 ^ 1024 on. A text that writes a whole number is read as this nearest number,
whatever its sign, its leading zeros and the white space around it.
-/

import Dialogue.Proofs.Number.Rounding
import Dialogue.Proofs.Text.Trim
import Dialogue.Proofs.Text.Words

namespace Dialogue.Number

open Text (isBlank trim)

section Magnitudes

variable {m n : Nat}

theorem nearestUnits_one_mono (hle : m ≤ n) : nearestUnits m 1 ≤ nearestUnits n 1 :=
  nearestUnits_mono Nat.one_pos Nat.one_pos (by rwa [Nat.mul_one, Nat.mul_one])

/-- A whole number that lies on its grid is its own nearest binary number. -/
theorem nearestUnits_of_grain_dvd (honGrid : grain n ∣ n) : nearestUnits n 1 = n := by
  have hfixed := roundTo_mul (grain_pos n) Nat.one_pos honGrid
  rw [nearestUnits_eq, Nat.div_one]
  rwa [Nat.mul_one] at hfixed

/-- A whole number of at most 53 bits is its own nearest binary number. -/
theorem nearestUnits_of_log2_le (hfew : n.log2 ≤ 52) : nearestUnits n 1 = n := by
  have hsingle : grain n = 1 := by
    rw [grain, Nat.sub_eq_zero_of_le hfew]
  exact nearestUnits_of_grain_dvd (hsingle ▸ Nat.one_dvd n)

theorem log2_mul_pow (hnonzero : n ≠ 0) (exponent : Nat) :
    (n * 2 ^ exponent).log2 = n.log2 + exponent := by
  have hpositive : 0 < 2 ^ exponent := Nat.two_pow_pos exponent
  rw [Nat.log2_eq_iff (Nat.mul_ne_zero hnonzero hpositive.ne'), Nat.add_right_comm, Nat.pow_add,
    Nat.pow_add]
  exact ⟨Nat.mul_le_mul_right _ (Nat.log2_self_le hnonzero),
    Nat.mul_lt_mul_of_pos_right Nat.lt_log2_self hpositive⟩

/-- Doubling a whole number doubles its nearest binary number. -/
theorem nearestUnits_mul_pow (n exponent : Nat) :
    nearestUnits (n * 2 ^ exponent) 1 = nearestUnits n 1 * 2 ^ exponent := by
  rcases Nat.eq_zero_or_pos n with rfl | hpositive
  · rw [Nat.zero_mul]
    simp [nearestUnits, roundHalfEven]
  have hlog := log2_mul_pow hpositive.ne' exponent
  rcases Nat.le_total n.log2 52 with hfew | hmany
  · -- both numbers have at most 53 significant bits
    have honGrid : grain (n * 2 ^ exponent) ∣ n * 2 ^ exponent := by
      rw [grain, hlog]
      exact Nat.dvd_mul_left_of_dvd (Nat.pow_dvd_pow 2 (by omega)) n
    rw [nearestUnits_of_grain_dvd honGrid, nearestUnits_of_log2_le hfew]
  · have hcoarser : grain (n * 2 ^ exponent) = grain n * 2 ^ exponent := by
      rw [grain, hlog, Nat.sub_add_comm hmany]
      exact Nat.pow_add 2 _ _
    have hpositive := grain_pos n
    rw [nearestUnits_eq, nearestUnits_eq, roundTo, roundTo, Nat.div_one, Nat.div_one, hcoarser,
      Nat.one_mul, Nat.one_mul, roundHalfEven_mul_mul hpositive (Nat.two_pow_pos exponent),
      Nat.mul_assoc]

theorem nearestUnits_pow (exponent : Nat) : nearestUnits (2 ^ exponent) 1 = 2 ^ exponent :=
  nearestUnits_of_grain_dvd (grain_dvd_pow (Nat.le_of_eq Nat.log2_two_pow))

/-- A whole number reaches a power of two by rounding only from half of a spacing below it. -/
theorem nearestUnits_lt_pow_iff (n exponent : Nat) :
    nearestUnits n 1 < 2 ^ (exponent + 54) ↔ n + 2 ^ exponent < 2 ^ (exponent + 54) := by
  have hpositive : 0 < 2 ^ exponent := Nat.two_pow_pos exponent
  have hpower : 2 ^ (exponent + 54) = 2 ^ 53 * (2 * 2 ^ exponent) := by ring
  have hhalf : 2 ^ (exponent + 53) = 2 ^ 53 * 2 ^ exponent := by ring
  rcases Nat.lt_or_ge n (2 ^ (exponent + 53)) with hlow | hhigh
  · have := nearestUnits_one_mono (Nat.le_of_lt hlow)
    rw [nearestUnits_pow] at this
    omega
  rcases Nat.lt_or_ge n (2 ^ (exponent + 54)) with hinside | houtside
  · have hlog : n.log2 = exponent + 53 := by
      rw [Nat.log2_eq_iff (by omega)]
      exact ⟨hhigh, hinside⟩
    have hspacing : grain n = 2 * 2 ^ exponent := by
      rw [grain, hlog, show exponent + 53 - 52 = exponent + 1 by omega]
      exact Nat.pow_succ'
    have hspaced : 0 < 2 * 2 ^ exponent := by omega
    rw [nearestUnits_eq, roundTo, Nat.div_one, hspacing, Nat.one_mul, hpower,
      Nat.mul_lt_mul_right hspaced]
    have hreach := @roundHalfEven_le_iff n _ hspaced (2 ^ 53 - 1)
    omega
  · have := nearestUnits_one_mono houtside
    rw [nearestUnits_pow] at this
    omega

/-- A whole number moves by at most the 2 ^ 53rd part of it in rounding. -/
theorem nearestUnits_near (n : Nat) :
    2 ^ 53 * n ≤ 2 ^ 53 * nearestUnits n 1 + n ∧ 2 ^ 53 * nearestUnits n 1 ≤ 2 ^ 53 * n + n := by
  rcases Nat.le_total n.log2 52 with hfew | hmany
  · rw [nearestUnits_of_log2_le hfew]
    omega
  have hcoarse : 2 ^ 52 * grain n ≤ n := by
    have hsplit : 2 ^ 52 * grain n = 2 ^ n.log2 := by
      rw [grain, Nat.pow_eq, ← Nat.pow_add, Nat.add_sub_cancel' hmany]
    have hnonzero : n ≠ 0 := by
      rintro rfl
      exact absurd hmany (by decide)
    exact hsplit ▸ Nat.log2_self_le hnonzero
  rw [nearestUnits_eq, roundTo, Nat.div_one, Nat.one_mul]
  have hnear := @roundHalfEven_near n _ (grain_pos n)
  omega

end Magnitudes

/-- The binary number nearest to a whole number, which is a whole number too. -/
def nearestWhole (n : Int) : Int :=
  signed (n < 0) (nearestUnits n.natAbs 1)

/-- The first magnitude of whole numbers that is out of range. -/
def wholeLimit : Nat :=
  Nat.pow 2 1024 - Nat.pow 2 970

/-- Whether a whole number is in range. -/
def fitsBinary (n : Int) : Bool :=
  n.natAbs < wholeLimit

variable {m n : Int}

theorem nearestWhole_signed (negative : Bool) (magnitude : Nat) :
    nearestWhole (signed negative magnitude) = signed negative (nearestUnits magnitude 1) := by
  have hzero : nearestUnits 0 1 = 0 := nearestUnits_of_log2_le (by decide)
  cases negative with
  | false => simp [nearestWhole, signed]
  | true =>
      rcases Nat.eq_zero_or_pos magnitude with rfl | hpositive
      · simp [nearestWhole, signed, hzero]
      · simp [nearestWhole, signed, hpositive]

theorem natAbs_signed (negative : Bool) (magnitude : Nat) :
    (signed negative magnitude).natAbs = magnitude := by
  cases negative <;> simp [signed]

theorem signed_mul (negative : Bool) (magnitude factor : Nat) :
    signed negative (magnitude * factor) = signed negative magnitude * factor := by
  cases negative <;> simp [signed]

/-- Rounding keeps the order of whole numbers, but it may make different ones equal. -/
theorem nearestWhole_mono (hle : m ≤ n) : nearestWhole m ≤ nearestWhole n := by
  have hmagnitudes := @nearestUnits_one_mono m.natAbs n.natAbs
  have hreversed := @nearestUnits_one_mono n.natAbs m.natAbs
  simp only [nearestWhole, signed, decide_eq_true_eq]
  split_ifs <;> omega

theorem compare_congr {k l : Int} (hless : m < n ↔ k < l) (hsame : m = n ↔ k = l) :
    compare m n = compare k l := by
  simp only [compare, compareOfLessAndEq, hless, hsame]

/-- Rounding makes whole numbers equal or leaves them in their order. -/
theorem compare_nearestWhole (m n : Int) :
    compare (nearestWhole m) (nearestWhole n) =
      if nearestWhole m = nearestWhole n then .eq else compare m n := by
  split
  · exact compare_eq_iff_eq.mpr ‹_›
  · rename_i hapart
    have hordered : nearestWhole m < nearestWhole n ↔ m < n := by
      refine ⟨fun hless => Int.not_le.mp fun hreversed => ?_, fun hless => ?_⟩
      · exact Int.not_le.mpr hless (nearestWhole_mono hreversed)
      · exact lt_of_le_of_ne (nearestWhole_mono hless.le) hapart
    exact compare_congr hordered
      (iff_of_false hapart fun hsame => hapart (congrArg nearestWhole hsame))

/-- Only close neighbours fall together in rounding. -/
theorem natAbs_sub_le_of_nearestWhole_eq (hsame : nearestWhole m = nearestWhole n) :
    2 ^ 53 * (m - n).natAbs ≤ m.natAbs + n.natAbs := by
  have hfirst := nearestUnits_near m.natAbs
  have hsecond := nearestUnits_near n.natAbs
  simp only [nearestWhole, signed, decide_eq_true_eq] at hsame
  split_ifs at hsame <;> omega

/-- Integers of 64 bits are in range. -/
theorem fitsBinary_of_fitsWord (hfits : fitsWord n = true) : fitsBinary n = true := by
  have hlimits : wordLimit < wholeLimit := by decide +kernel
  rw [fitsWord, Bool.and_eq_true, decide_eq_true_eq, decide_eq_true_eq] at hfits
  rw [fitsBinary, decide_eq_true_eq]
  omega

/-- The signs that may stand before the magnitude of a whole number. Before zero each of them
may. -/
inductive IsSignOf (n : Int) : List Char → Prop where
  | none (hpositive : 0 ≤ n) : IsSignOf n []
  | plus (hpositive : 0 ≤ n) : IsSignOf n ['+']
  | minus (hnegative : n ≤ 0) : IsSignOf n ['-']

/-- A text writes a whole number in decimal: the magnitude with any zeros before it, a sign or none
before these, and white space around it all. -/
inductive Writes (n : Int) : String → Prop where
  | written {before sign after : List Char} {zeros : Nat}
      (hleads : ∀ c ∈ before, isBlank c = true) (hmarks : IsSignOf n sign)
      (htrails : ∀ c ∈ after, isBlank c = true) :
      Writes n (String.ofList (before ++
        (sign ++ (List.replicate zeros '0' ++ Nat.toDigits 10 n.natAbs)) ++ after))

/-- A number without a sign is written by its digits alone. -/
theorem writes_repr (magnitude : Nat) : Writes magnitude magnitude.repr := by
  have hempty : ∀ c ∈ [], isBlank c = true := List.forall_mem_nil _
  have hwritten := @Writes.written magnitude [] [] [] 0 hempty (.none (Int.natCast_nonneg _)) hempty
  rwa [List.append_nil, List.nil_append, List.nil_append, List.replicate_zero, List.nil_append,
    Int.natAbs_natCast] at hwritten

theorem toNat_lt_of_isDigit {c : Char} (hdigit : c.isDigit = true) : c.toNat < 58 := by
  rw [Char.isDigit, Bool.and_eq_true, decide_eq_true_eq, decide_eq_true_eq] at hdigit
  exact Nat.lt_succ_of_le hdigit.2

/-- No digit is white space. -/
theorem isBlank_of_isDigit {c : Char} (hdigit : c.isDigit = true) : isBlank c = false := by
  have hall : ∀ code < 128, (Char.ofNat code).isDigit = true →
      isBlank (Char.ofNat code) = false := by
    decide +kernel
  exact Text.of_ascii (fun c => c.isDigit = true → isBlank c = false) hall
    (Nat.lt_trans (toNat_lt_of_isDigit hdigit) (by decide)) hdigit

/-- A sign is taken off the digits after it. -/
theorem IsSignOf.splitSign {sign digits : List Char} (hmarks : IsSignOf n sign)
    (hnonempty : digits ≠ []) (hall : ∀ c ∈ digits, c.isDigit = true) :
    ∃ negative, Number.splitSign (sign ++ digits) = (negative, digits) ∧
      signed negative n.natAbs = n := by
  cases hmarks with
  | none hpositive =>
      obtain ⟨c, rest, rfl⟩ := List.exists_cons_of_ne_nil hnonempty
      have hdigit := hall c List.mem_cons_self
      refine ⟨false, ?_, Int.natAbs_of_nonneg hpositive⟩
      rw [List.nil_append, Number.splitSign]
      all_goals
        rintro _ hsign
        cases hsign
        cases hdigit
  | plus hpositive => exact ⟨false, rfl, Int.natAbs_of_nonneg hpositive⟩
  | minus hnegative =>
      refine ⟨true, rfl, ?_⟩
      rw [signed, if_pos rfl]
      omega

theorem IsSignOf.solid {sign : List Char} (hmarks : IsSignOf n sign) :
    ∀ c ∈ sign, isBlank c = false := by
  cases hmarks with
  | none => exact fun _ hmem => absurd hmem List.not_mem_nil
  | plus | minus => exact List.forall_mem_singleton.mpr (by decide)

/-- A written whole number is read as itself, without the white space around it. -/
theorem Writes.integer?_trim {text : String} (hwritten : Writes n text) :
    integer? (trim text.toList) = some n := by
  obtain @⟨before, sign, after, zeros, hleads, hmarks, htrails⟩ := hwritten
  have hdigits : ∀ c ∈ List.replicate zeros '0' ++ Nat.toDigits 10 n.natAbs, c.isDigit = true := by
    intro c hmem
    rcases List.mem_append.mp hmem with hzero | hdigit
    · rw [List.eq_of_mem_replicate hzero]
      rfl
    · exact Nat.isDigit_of_mem_toDigits (by decide) (by decide) hdigit
  have hvalue : Nat.ofDigitChars 10 (List.replicate zeros '0' ++ Nat.toDigits 10 n.natAbs) 0 =
      n.natAbs := by
    rw [Nat.ofDigitChars_append, Nat.ofDigitChars_replicate_zero, Nat.mul_zero,
      Nat.ofDigitChars_toDigits (by decide) (by decide)]
  have hnonempty : List.replicate zeros '0' ++ Nat.toDigits 10 n.natAbs ≠ [] :=
    List.append_ne_nil_of_right_ne_nil _ (List.ne_nil_of_length_pos Nat.length_toDigits_pos)
  generalize List.replicate zeros '0' ++ Nat.toDigits 10 n.natAbs = magnitude at *
  obtain ⟨negative, hsplits, hsigns⟩ := hmarks.splitSign hnonempty hdigits
  have hsolid : ∀ c ∈ sign ++ magnitude, isBlank c = false := by
    intro c hmem
    rcases List.mem_append.mp hmem with hinSign | hinDigits
    · exact hmarks.solid c hinSign
    · exact isBlank_of_isDigit (hdigits c hinDigits)
  rw [String.toList_ofList, Text.trim_append_of_solid hleads hsolid htrails, integer?, hsplits]
  dsimp only
  rw [natural?, if_pos ⟨hnonempty, List.all_eq_true.mpr hdigits⟩, hvalue, Option.map_some, hsigns]

/-- A text writes one whole number only. -/
theorem Writes.unique {text : String} (hfirst : Writes m text) (hsecond : Writes n text) : m = n :=
  Option.some.inj (hfirst.integer?_trim.symm.trans hsecond.integer?_trim)

variable {text : List Char}

/-- An integer is written as digits with a sign or none before them. -/
theorem exists_digits_of_integer? (hread : integer? text = some n) :
    ∃ negative digits, splitSign text = (negative, digits) ∧ digits ≠ [] ∧
      (∀ c ∈ digits, c.isDigit = true) ∧ signed negative (Nat.ofDigitChars 10 digits 0) = n := by
  rw [integer?] at hread
  generalize splitSign text = cut at hread ⊢
  obtain ⟨negative, digits⟩ := cut
  obtain ⟨magnitude, hwritten, hvalue⟩ := Option.map_eq_some_iff.mp hread
  rw [natural?] at hwritten
  split at hwritten
  · rename_i hsolid
    cases hwritten
    exact ⟨_, _, rfl, hsolid.1, List.all_eq_true.mp hsolid.2, hvalue⟩
  · cases hwritten

/-- No character of a written integer stands behind the digits. -/
theorem toNat_lt_of_integer? (hread : integer? text = some n) : ∀ c ∈ text, c.toNat < 58 := by
  obtain ⟨negative, digits, hcut, -, hall, -⟩ := exists_digits_of_integer? hread
  have hbelow : ∀ c ∈ digits, c.toNat < 58 := fun c hmem => toNat_lt_of_isDigit (hall c hmem)
  unfold splitSign at hcut
  split at hcut <;> cases hcut
  · exact List.forall_mem_cons.mpr ⟨by decide, hbelow⟩
  · exact List.forall_mem_cons.mpr ⟨by decide, hbelow⟩
  · exact hbelow

theorem word?_eq_some_iff (hread : integer? text = some n) :
    word? text = some m ↔ fitsWord n = true ∧ n = m := by
  rw [word?, hread, Option.filter_some, Option.ite_none_right_eq_some, Option.some.injEq]

theorem parse?_of_integer? (hread : integer? text = some n) :
    ∃ negative magnitude, signed negative magnitude = n ∧
      Decimal.parse? text = some ⟨negative, magnitude, 0⟩ := by
  obtain ⟨negative, digits, hcut, hnonempty, hall, hvalue⟩ := exists_digits_of_integer? hread
  have hwhole := @List.takeWhile_append_of_pos _ Char.isDigit _ [] hall
  have hrest := @List.dropWhile_append_of_pos _ Char.isDigit _ [] hall
  rw [List.append_nil, List.takeWhile_nil, List.append_nil] at hwhole
  rw [List.append_nil, List.dropWhile_nil] at hrest
  refine ⟨negative, _, hvalue, ?_⟩
  simp only [Decimal.parse?, hcut, hwhole, hrest, Decimal.splitFraction, hnonempty, false_and,
    if_false, Decimal.exponent?, Option.map_some, List.append_nil]
  rfl

/-- Many digits make a great number. -/
theorem le_of_length_toDigits {limit length magnitude : Nat} (hpositive : 0 < length)
    (hbound : limit ≤ 10 ^ length) (hlong : length < (Nat.toDigits 10 magnitude).length) :
    limit ≤ magnitude := by
  refine Nat.le_trans hbound (Nat.le_of_not_lt fun hless => ?_)
  exact Nat.not_le_of_lt hlong ((Nat.length_toDigits_le_iff (by decide) hpositive).mpr hless)

/-- Out of range is what reaches 2 ^ 1024, and that is what stands within half of the spacing below
it. -/
theorem exists_limits :
    ∃ exponent, wholeLimit + 2 ^ exponent = 2 ^ (exponent + 54) ∧
      unitLimit = 2 ^ (exponent + 54) * unitsOfOne :=
  ⟨970, by decide +kernel, by decide +kernel⟩

theorem exists_unitsOfOne_eq : ∃ exponent, unitsOfOne = 2 ^ exponent :=
  ⟨1074, by decide +kernel⟩

theorem unitsOfOne_pos : (0 : Int) < unitsOfOne := by
  decide +kernel

/-- The nearest binary number to a whole number, in units, and whether it is in range. -/
theorem nearestUnits_whole (magnitude : Nat) :
    nearestUnits (magnitude * unitsOfOne) 1 = nearestUnits magnitude 1 * unitsOfOne ∧
      (nearestUnits magnitude 1 * unitsOfOne < unitLimit ↔ magnitude < wholeLimit) := by
  obtain ⟨scale, hisPower⟩ := exists_unitsOfOne_eq
  obtain ⟨exponent, hbelow, htop⟩ := exists_limits
  rw [htop, hisPower, Nat.mul_lt_mul_right (Nat.two_pow_pos scale), nearestUnits_lt_pow_iff,
    ← hbelow, Nat.add_lt_add_iff_right]
  exact ⟨nearestUnits_mul_pow magnitude scale, Iff.rfl⟩

/-- The nearest binary number to a decimal without a fraction and an exponent. -/
theorem nearest?_whole (negative : Bool) (magnitude : Nat) :
    Decimal.nearest? ⟨negative, magnitude, 0⟩ =
      if magnitude < wholeLimit then some (signed negative (nearestUnits magnitude 1) * unitsOfOne)
      else none := by
  obtain ⟨hunits, hrange⟩ := nearestUnits_whole magnitude
  rcases Nat.eq_zero_or_pos magnitude with rfl | hpositive
  · have hinside : 0 < wholeLimit := by decide +kernel
    have hzero : signed negative 0 = 0 := by cases negative <;> rfl
    rw [nearestUnits_of_log2_le (by decide), Decimal.nearest?, if_pos rfl, if_pos hinside, hzero,
      Int.zero_mul]
  · simp only [Decimal.nearest?, Int.toNat_zero, Int.neg_zero, Nat.pow_eq, Nat.pow_zero,
      Nat.mul_one, hunits, hrange, signed_mul, Int.zero_add, if_neg hpositive.ne']
    split
    · rename_i hlong
      have houtside : wholeLimit ≤ magnitude :=
        le_of_length_toDigits (by decide) (by decide +kernel) (Int.ofNat_lt.mp hlong)
      rw [if_neg (Nat.not_lt_of_le houtside)]
    · exact if_neg (by omega)

/-- A text that writes a whole number is read as the nearest binary number, if that is in range. -/
theorem decimal?_of_integer? (hread : integer? text = some n) :
    decimal? text = if fitsBinary n then some (nearestWhole n * unitsOfOne) else none := by
  obtain ⟨negative, magnitude, rfl, hparsed⟩ := parse?_of_integer? hread
  rw [decimal?, hparsed, Option.bind_some, nearest?_whole, fitsBinary, natAbs_signed,
    nearestWhole_signed]
  simp only [decide_eq_true_eq]

theorem decimal?_eq_some_iff (hread : integer? text = some n) :
    decimal? text = some m ↔ fitsBinary n = true ∧ nearestWhole n * unitsOfOne = m := by
  rw [decimal?_of_integer? hread, Option.ite_none_right_eq_some, Option.some.injEq]

end Dialogue.Number
