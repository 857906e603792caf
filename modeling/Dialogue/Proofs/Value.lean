/-
# The order of values

Values are compared in three ways: as integers of 64 bits, as nearest binary numbers, or as texts
that may be equal. Which way is taken depends on both of them, so in a chain of three values each
pair may be compared differently. It is an order all the same, because rounding keeps the order of
integers. Integers beyond 64 bits are compared after rounding, where close neighbours are equal, and
those that are out of range are only compared as texts.
-/

import Dialogue.Value
import Dialogue.Proofs.Number.Whole

namespace Dialogue.Value

open Number (word? decimal? integer? fitsWord fitsBinary nearestWhole unitsOfOne Writes)
open Text (lowercaseAfter trim)

variable {left right middle : List Char} {m n : Int}

/-- Two values that are not both integers of 64 bits. -/
def AreMixed (left right : List Char) : Prop :=
  ∀ m n, word? left = some m → word? right ≠ some n

/-- Two values that are not both decimals in range. -/
def AreTexts (left right : List Char) : Prop :=
  ∀ x y, decimal? left = some x → decimal? right ≠ some y

/-- How two values are compared, and what comes of it. -/
inductive Compared (left right : List Char) : Option Ordering → Prop where
  | words {m n : Int} (hfirst : word? left = some m) (hsecond : word? right = some n) :
      Compared left right (some (compare m n))
  | decimals {x y : Int} (hmixed : AreMixed left right) (hfirst : decimal? left = some x)
      (hsecond : decimal? right = some y) : Compared left right (some (compare x y))
  | same (hmixed : AreMixed left right) (htexts : AreTexts left right)
      (hforms : lowercaseAfter false left = lowercaseAfter false right) :
      Compared left right (some .eq)
  | apart (hmixed : AreMixed left right) (htexts : AreTexts left right)
      (hforms : lowercaseAfter false left ≠ lowercaseAfter false right) : Compared left right none

theorem compared (left right : List Char) : Compared left right (orderChars? left right) := by
  unfold orderChars?
  split
  · exact .words ‹_› ‹_›
  · rename_i hmixed
    have hmixed : AreMixed left right := fun m n hfirst hsecond => hmixed m n hfirst hsecond
    split
    · exact .decimals hmixed ‹_› ‹_›
    · rename_i htexts
      have htexts : AreTexts left right := fun x y hfirst hsecond => htexts x y hfirst hsecond
      split
      · exact .same hmixed htexts ‹_›
      · exact .apart hmixed htexts ‹_›

theorem orderChars?_of_mixed (hmixed : AreMixed left right) :
    orderChars? left right =
      match decimal? left, decimal? right with
      | some x, some y => some (compare x y)
      | _, _ =>
        if lowercaseAfter false left = lowercaseAfter false right then some .eq else none := by
  unfold orderChars?
  split
  · rename_i m n hfirst hsecond
    exact absurd hsecond (hmixed m n hfirst)
  · rfl

theorem orderChars?_of_texts (hmixed : AreMixed left right) (htexts : AreTexts left right) :
    orderChars? left right =
      if lowercaseAfter false left = lowercaseAfter false right then some .eq else none := by
  rw [orderChars?_of_mixed hmixed]
  split
  · rename_i x y hfirst hsecond
    exact absurd hsecond (htexts x y hfirst)
  · rfl

namespace Compared

variable {order : Option Ordering}

/-- Two values are compared in one way only. -/
theorem eq (hway : Compared left right order) : orderChars? left right = order := by
  cases hway with
  | words hfirst hsecond => rw [orderChars?, hfirst, hsecond]
  | decimals hmixed hfirst hsecond => rw [orderChars?_of_mixed hmixed, hfirst, hsecond]
  | same hmixed htexts hforms => rw [orderChars?_of_texts hmixed htexts, if_pos hforms]
  | apart hmixed htexts hforms => rw [orderChars?_of_texts hmixed htexts, if_neg hforms]

/-- Values that are exchanged are compared in the same way. -/
theorem swap (hway : Compared left right order) :
    Compared right left (order.map Ordering.swap) := by
  have hexchange {f : List Char → Option Int} (h : ∀ m n, f left = some m → f right ≠ some n) :
      ∀ m n, f right = some m → f left ≠ some n :=
    fun m n hfirst hsecond => h n m hsecond hfirst
  cases hway with
  | words hfirst hsecond =>
      rw [Option.map_some, Int.compare_swap]
      exact .words hsecond hfirst
  | decimals hmixed hfirst hsecond =>
      rw [Option.map_some, Int.compare_swap]
      exact .decimals (hexchange hmixed) hsecond hfirst
  | same hmixed htexts hforms => exact .same (hexchange hmixed) (hexchange htexts) hforms.symm
  | apart hmixed htexts hforms =>
      exact .apart (hexchange hmixed) (hexchange htexts) (Ne.symm hforms)

end Compared

theorem orderChars?_self (text : List Char) : orderChars? text text = some .eq := by
  have hway := compared text text
  generalize orderChars? text text = order at hway ⊢
  cases hway with
  | words hfirst hsecond | decimals _ hfirst hsecond =>
      cases hfirst.symm.trans hsecond
      exact congrArg some (compare_eq_iff_eq.mpr rfl)
  | same => rfl
  | apart _ _ hforms => exact absurd rfl hforms

theorem orderChars?_swap (left right : List Char) :
    orderChars? right left = (orderChars? left right).map Ordering.swap :=
  (compared left right).swap.eq

/-- An integer of 64 bits is a decimal in range as well. -/
theorem decimal?_of_word? (hread : word? left = some n) :
    decimal? left = some (nearestWhole n * unitsOfOne) := by
  obtain ⟨hwhole, hfits⟩ := Option.filter_eq_some_iff.mp hread
  rw [Number.decimal?_of_integer? hwhole, if_pos (Number.fitsBinary_of_fitsWord hfits)]

/-- Rounding never turns the order of integers round. -/
theorem le_of_decimal?_of_word? {x y : Int} (hfirst : word? left = some m)
    (hsecond : word? right = some n) (hisFirst : decimal? left = some x)
    (hisSecond : decimal? right = some y) (hle : m ≤ n) : x ≤ y := by
  cases (decimal?_of_word? hfirst).symm.trans hisFirst
  cases (decimal?_of_word? hsecond).symm.trans hisSecond
  exact Int.mul_le_mul_of_nonneg_right (Number.nearestWhole_mono hle) Number.unitsOfOne_pos.le

theorem not_areMixed_iff :
    ¬ AreMixed left right ↔ ∃ m n, word? left = some m ∧ word? right = some n := by
  simp [AreMixed]

/-- A value is less than another if both are decimals in range and the integers of 64 bits say so
or, when they are not both such integers, the nearest binary numbers do. -/
theorem orderChars?_eq_lt_iff :
    orderChars? left right = some .lt ↔
      ∃ x y, decimal? left = some x ∧ decimal? right = some y ∧ x ≤ y ∧
        (AreMixed left right → x < y) ∧
        ∀ m n, word? left = some m → word? right = some n → m < n := by
  constructor
  · intro hless
    have hway := compared left right
    rw [hless] at hway
    generalize hout : some Ordering.lt = order at hway
    cases hway with
    | words hfirst hsecond =>
        have hbefore := compare_lt_iff_lt.mp (Option.some.inj hout).symm
        have hisFirst := decimal?_of_word? hfirst
        have hisSecond := decimal?_of_word? hsecond
        refine ⟨_, _, hisFirst, hisSecond, ?_, ?_, ?_⟩
        · exact le_of_decimal?_of_word? hfirst hsecond hisFirst hisSecond (Int.le_of_lt hbefore)
        · exact fun hmixed => absurd hsecond (hmixed _ _ hfirst)
        · intro m n hisFirst hisSecond
          rw [hfirst] at hisFirst
          rw [hsecond] at hisSecond
          cases hisFirst
          cases hisSecond
          exact hbefore
    | decimals hmixed hfirst hsecond =>
        have hbefore := compare_lt_iff_lt.mp (Option.some.inj hout).symm
        exact ⟨_, _, hfirst, hsecond, Int.le_of_lt hbefore, fun _ => hbefore,
          fun m n hisFirst hisSecond => absurd hisSecond (hmixed m n hisFirst)⟩
    | same => cases hout
    | apart => cases hout
  · rintro ⟨x, y, hfirst, hsecond, -, hrounded, hwords⟩
    have hway := compared left right
    generalize orderChars? left right = order at hway ⊢
    cases hway with
    | words hisFirst hisSecond =>
        exact congrArg some (compare_lt_iff_lt.mpr (hwords _ _ hisFirst hisSecond))
    | decimals hmixed hisFirst hisSecond =>
        cases hfirst.symm.trans hisFirst
        cases hsecond.symm.trans hisSecond
        exact congrArg some (compare_lt_iff_lt.mpr (hrounded hmixed))
    | same _ htexts | apart _ htexts => exact absurd hsecond (htexts x y hfirst)

/-- In a chain of three values the first is less than the last. If these two are integers of 64 bits
and the one between them is not, both steps were made after rounding, so it is enough that rounding
keeps the order. -/
theorem orderChars?_trans (hearly : orderChars? left middle = some .lt)
    (hlate : orderChars? middle right = some .lt) : orderChars? left right = some .lt := by
  obtain ⟨x, y, hisX, hisY, hxy, hearlyMixed, hearlyWords⟩ := orderChars?_eq_lt_iff.mp hearly
  obtain ⟨y', z, hisY', hisZ, hyz, hlateMixed, hlateWords⟩ := orderChars?_eq_lt_iff.mp hlate
  cases hisY.symm.trans hisY'
  refine orderChars?_eq_lt_iff.mpr ⟨x, z, hisX, hisZ, Int.le_trans hxy hyz, ?_, ?_⟩
  · intro hmixed
    by_contra hlevel
    have hearlyBoth : ¬ AreMixed left middle :=
      fun hapart => hlevel (Int.lt_of_lt_of_le (hearlyMixed hapart) hyz)
    have hlateBoth : ¬ AreMixed middle right :=
      fun hapart => hlevel (Int.lt_of_le_of_lt hxy (hlateMixed hapart))
    obtain ⟨m, -, hfirst, -⟩ := not_areMixed_iff.mp hearlyBoth
    obtain ⟨-, n, -, hsecond⟩ := not_areMixed_iff.mp hlateBoth
    exact hmixed m n hfirst hsecond
  · intro m n hfirst hsecond
    cases hbetween : word? middle with
    | some k =>
        exact Int.lt_trans (hearlyWords m k hfirst hbetween) (hlateWords k n hbetween hsecond)
    | none =>
        have hbefore : x < y := hearlyMixed fun _ _ _ hword => by cases hbetween.symm.trans hword
        have hafter : y < z := hlateMixed fun _ _ hword => by cases hbetween.symm.trans hword
        by_contra hreversed
        have := le_of_decimal?_of_word? hsecond hfirst hisZ hisX (Int.not_lt.mp hreversed)
        omega

/-- Comparing values is a consistent order. A value is equal to itself, exchanged values have the
exchanged order, and in a chain of lesser values the first is less than the last, whatever mixture
of integers, decimals and other texts they are. -/
theorem order?_isConsistent (a b c : String) :
    order? a a = some .eq ∧ order? b a = (order? a b).map Ordering.swap ∧
      (order? a b = some .lt → order? b c = some .lt → order? a c = some .lt) :=
  ⟨orderChars?_self _, orderChars?_swap _ _, orderChars?_trans⟩

/-- Two integers of 64 bits with a decimal between them: both steps are made after rounding. -/
theorem order?_isConsistent_decimal :
    let a := "9007199254740993"
    let b := " 9.007199254740995e15"
    let c := "+9007199254740999"
    order? a b = some .lt ∧ order? b c = some .lt ∧ order? a c = some .lt ∧
      order? c a = some .gt := by
  intro a b c
  have hearly : order? a b = some .lt := by decide +kernel
  have hlate : order? b c = some .lt := by decide +kernel
  have hboth := (order?_isConsistent a b c).2.2 hearly hlate
  refine ⟨hearly, hlate, hboth, ?_⟩
  rw [(order?_isConsistent a c c).2.1, hboth]
  rfl

variable {a b : String}

/-- Integers are compared as integers of 64 bits, else after rounding, else as texts. -/
theorem orderChars?_of_integer? (hfirst : integer? left = some m)
    (hsecond : integer? right = some n) :
    orderChars? left right =
      if fitsWord m ∧ fitsWord n then some (compare m n)
      else if fitsBinary m ∧ fitsBinary n then some (compare (nearestWhole m) (nearestWhole n))
      else if left = right then some .eq else none := by
  by_cases hwords : fitsWord m ∧ fitsWord n
  · have hfirstWord := (Number.word?_eq_some_iff hfirst).mpr ⟨hwords.1, rfl⟩
    have hsecondWord := (Number.word?_eq_some_iff hsecond).mpr ⟨hwords.2, rfl⟩
    rw [if_pos hwords, (Compared.words hfirstWord hsecondWord).eq]
  have hmixed : AreMixed left right := fun _ _ hisFirst hisSecond =>
    hwords ⟨((Number.word?_eq_some_iff hfirst).mp hisFirst).1,
      ((Number.word?_eq_some_iff hsecond).mp hisSecond).1⟩
  by_cases hinRange : fitsBinary m ∧ fitsBinary n
  · have hscaled : compare (nearestWhole m * unitsOfOne) (nearestWhole n * unitsOfOne) =
        compare (nearestWhole m) (nearestWhole n) :=
      Number.compare_congr (Int.mul_lt_mul_right Number.unitsOfOne_pos)
        (Int.mul_eq_mul_right_iff Number.unitsOfOne_pos.ne')
    have hfirstRounded := (Number.decimal?_eq_some_iff hfirst).mpr ⟨hinRange.1, rfl⟩
    have hsecondRounded := (Number.decimal?_eq_some_iff hsecond).mpr ⟨hinRange.2, rfl⟩
    rw [if_neg hwords, if_pos hinRange, (Compared.decimals hmixed hfirstRounded hsecondRounded).eq,
      hscaled]
  · have htexts : AreTexts left right := fun _ _ hisFirst hisSecond =>
      hinRange ⟨((Number.decimal?_eq_some_iff hfirst).mp hisFirst).1,
        ((Number.decimal?_eq_some_iff hsecond).mp hisSecond).1⟩
    have hplain {text : List Char} {k : Int} (hread : integer? text = some k) :
        lowercaseAfter false text = text :=
      have hbelow : ∀ c ∈ text, c.toNat < 65 :=
        fun c hmem => Nat.lt_trans (Number.toNat_lt_of_integer? hread c hmem) (by decide)
      Text.lowercaseAfter_of_lt hbelow false
    rw [if_neg hwords, if_neg hinRange, orderChars?_of_texts hmixed htexts, hplain hfirst,
      hplain hsecond]

/-- When two texts that write whole numbers are compared as exactly these. -/
inductive ComparesExactly (a b : String) (m n : Int) : Prop where
  /-- Both are integers of 64 bits. -/
  | words (hfirst : fitsWord m = true) (hsecond : fitsWord n = true)
  /-- Both are in range, and rounding does not make them equal unless they are. -/
  | rounded (hfirst : fitsBinary m = true) (hsecond : fitsBinary n = true)
      (hapart : nearestWhole m = nearestWhole n → m = n)
  /-- The texts are the same but for the white space around them. -/
  | alike (hsame : trim a.toList = trim b.toList)

/-- Whole numbers in range are compared exactly when they are not close neighbours. -/
theorem ComparesExactly.of_apart (hfirst : fitsBinary m = true) (hsecond : fitsBinary n = true)
    (hapart : m.natAbs + n.natAbs < 2 ^ 53 * (m - n).natAbs) : ComparesExactly a b m n := by
  refine .rounded hfirst hsecond fun hsame => ?_
  exact absurd (Number.natAbs_sub_le_of_nearestWhole_eq hsame) (Nat.not_le_of_lt hapart)

theorem ComparesExactly.order?_eq (hfirst : Writes m a) (hsecond : Writes n b)
    (hexactly : ComparesExactly a b m n) : order? a b = some (compare m n) := by
  have horder := orderChars?_of_integer? hfirst.integer?_trim hsecond.integer?_trim
  cases hexactly with
  | words hisFirst hisSecond =>
      rwa [if_pos ⟨hisFirst, hisSecond⟩] at horder
  | rounded hisFirst hisSecond hapart =>
      have hinRange : fitsBinary m = true ∧ fitsBinary n = true := ⟨hisFirst, hisSecond⟩
      have hkept : compare (nearestWhole m) (nearestWhole n) = compare m n := by
        rw [Number.compare_nearestWhole]
        split
        · exact (compare_eq_iff_eq.mpr (hapart ‹_›)).symm
        · rfl
      rw [if_pos hinRange, hkept, ite_self] at horder
      exact horder
  | alike hsame =>
      have hreads := hfirst.integer?_trim
      rw [hsame] at hreads
      cases hreads.symm.trans hsecond.integer?_trim
      rw [order?, hsame, orderChars?_self, compare_eq_iff_eq.mpr rfl]

/-- Whole numbers that are not compared exactly are equal if they are in range, and have no order
else. -/
theorem order?_of_not_comparesExactly (hfirst : Writes m a) (hsecond : Writes n b)
    (hinexactly : ¬ ComparesExactly a b m n) :
    order? a b = if fitsBinary m ∧ fitsBinary n then some .eq else none := by
  have hwords : ¬ (fitsWord m = true ∧ fitsWord n = true) :=
    fun hboth => hinexactly (.words hboth.1 hboth.2)
  rw [order?, orderChars?_of_integer? hfirst.integer?_trim hsecond.integer?_trim, if_neg hwords]
  split
  · rename_i hinRange
    have htogether : nearestWhole m = nearestWhole n := by
      by_contra hapart
      exact hinexactly (.rounded hinRange.1 hinRange.2 fun hsame => absurd hsame hapart)
    rw [Number.compare_nearestWhole, if_pos htogether]
  · exact if_neg fun hsame => hinexactly (.alike hsame)

theorem order?_eq_compare_iff (hfirst : Writes m a) (hsecond : Writes n b) :
    order? a b = some (compare m n) ↔ ComparesExactly a b m n := by
  refine ⟨fun horder => ?_, ComparesExactly.order?_eq hfirst hsecond⟩
  by_contra hinexactly
  rw [order?_of_not_comparesExactly hfirst hsecond hinexactly] at horder
  split at horder
  · rename_i hinRange
    have hsame := compare_eq_iff_eq.mp (Option.some.inj horder).symm
    exact hinexactly (.rounded hinRange.1 hinRange.2 fun _ => hsame)
  · cases horder

end Dialogue.Value
