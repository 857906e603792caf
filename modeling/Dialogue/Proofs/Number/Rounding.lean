/-
# Rounding to the nearest binary number

A fraction is rounded on a grid whose spacing grows with the magnitude, so that a rounded value has
53 significant bits. Rounding on one grid is known from when it reaches a point of the grid. From
one grid to the next, rounded values do not cross the power of two between them, so a greater
fraction is never rounded to a smaller value.
-/

import Dialogue.Number.Binary64
import Mathlib.Data.Nat.Log
import Mathlib.Tactic.Ring
import Mathlib.Tactic.SplitIfs

namespace Dialogue.Number

variable {numerator denominator n d : Nat}

/-- A fraction is rounded to at most a whole number if it is no further than half-way to the next
one. Half-way an even number takes it. -/
theorem roundHalfEven_le_iff (hpositive : 0 < denominator) (bound : Nat) :
    roundHalfEven numerator denominator ≤ bound ↔
      2 * numerator < (2 * bound + 1) * denominator ∨
        2 * numerator = (2 * bound + 1) * denominator ∧ bound % 2 = 0 := by
  have hcut := Nat.div_add_mod numerator denominator
  have hsmall := Nat.mod_lt numerator hpositive
  rw [roundHalfEven]
  generalize numerator / denominator = quotient at *
  generalize numerator % denominator = remainder at *
  rcases Nat.lt_trichotomy quotient bound with hbelow | rfl | habove
  · -- the quotient and one more are both within the bound
    obtain ⟨more, rfl⟩ := Nat.exists_eq_add_of_lt hbelow
    have : (2 * (quotient + more + 1) + 1) * denominator =
        2 * (denominator * quotient) + 2 * (denominator * more) + 3 * denominator := by ring
    split_ifs <;> omega
  · have : (2 * quotient + 1) * denominator = 2 * (denominator * quotient) + denominator := by ring
    split_ifs <;> omega
  · obtain ⟨more, rfl⟩ := Nat.exists_eq_add_of_lt habove
    have : denominator * (bound + more + 1) =
        denominator * bound + denominator * more + denominator := by ring
    have : (2 * bound + 1) * denominator = 2 * (denominator * bound) + denominator := by ring
    split_ifs <;> omega

/-- A greater fraction is not rounded to a smaller number. -/
theorem roundHalfEven_mono (hpositive : 0 < denominator) (hfirst : 0 < d)
    (hle : numerator * d ≤ n * denominator) :
    roundHalfEven numerator denominator ≤ roundHalfEven n d := by
  have htop := (roundHalfEven_le_iff hfirst _).mp (Nat.le_refl (roundHalfEven n d))
  rw [roundHalfEven_le_iff hpositive]
  generalize roundHalfEven n d = bound at *
  have hscaled : 2 * numerator * d ≤ 2 * n * denominator := by
    rw [Nat.mul_assoc, Nat.mul_assoc]
    exact Nat.mul_le_mul_left 2 hle
  rcases htop with hbefore | ⟨hhalfway, heven⟩
  · left
    have := Nat.mul_lt_mul_of_pos_right hbefore hpositive
    refine Nat.lt_of_mul_lt_mul_right (a := d) ?_
    calc 2 * numerator * d ≤ 2 * n * denominator := hscaled
      _ < (2 * bound + 1) * d * denominator := this
      _ = (2 * bound + 1) * denominator * d := by ring
  · have hreached : 2 * numerator ≤ (2 * bound + 1) * denominator := by
      refine Nat.le_of_mul_le_mul_right ?_ hfirst
      calc 2 * numerator * d ≤ 2 * n * denominator := hscaled
        _ = (2 * bound + 1) * d * denominator := by rw [hhalfway]
        _ = (2 * bound + 1) * denominator * d := by ring
    rcases Nat.lt_or_eq_of_le hreached with hless | hsame
    · exact .inl hless
    · exact .inr ⟨hsame, heven⟩

/-- A whole number is rounded to itself. -/
theorem roundHalfEven_mul (hpositive : 0 < denominator) (whole : Nat) :
    roundHalfEven (whole * denominator) denominator = whole := by
  rw [roundHalfEven, Nat.mul_div_cancel _ hpositive, Nat.mul_mod_left]
  simp [hpositive]

/-- Rounding depends on the value of a fraction only. -/
theorem roundHalfEven_mul_mul {factor : Nat} (hpositive : 0 < denominator) (hfirst : 0 < factor) :
    roundHalfEven (numerator * factor) (denominator * factor) =
      roundHalfEven numerator denominator := by
  have hscaled := Nat.mul_pos hpositive hfirst
  apply Nat.le_antisymm
  · exact roundHalfEven_mono hscaled hpositive (Nat.le_of_eq (by ring))
  · exact roundHalfEven_mono hpositive hscaled (Nat.le_of_eq (by ring))

/-- A fraction moves by at most one half in rounding. -/
theorem roundHalfEven_near (hpositive : 0 < denominator) :
    2 * numerator ≤ 2 * (roundHalfEven numerator denominator * denominator) + denominator ∧
      2 * (roundHalfEven numerator denominator * denominator) ≤ 2 * numerator + denominator := by
  have hcut := Nat.div_add_mod' numerator denominator
  have hsmall := Nat.mod_lt numerator hpositive
  rw [roundHalfEven]
  have hnext := Nat.add_one_mul (numerator / denominator) denominator
  split_ifs <;> omega

/-- The multiple of a spacing that is nearest to a fraction. -/
def roundTo (spacing numerator denominator : Nat) : Nat :=
  roundHalfEven numerator (denominator * spacing) * spacing

theorem roundTo_mono {spacing : Nat} (hspaced : 0 < spacing) (hpositive : 0 < denominator)
    (hfirst : 0 < d) (hle : numerator * d ≤ n * denominator) :
    roundTo spacing numerator denominator ≤ roundTo spacing n d := by
  refine Nat.mul_le_mul_right spacing ?_
  refine roundHalfEven_mono (Nat.mul_pos hpositive hspaced) (Nat.mul_pos hfirst hspaced) ?_
  calc numerator * (d * spacing) = numerator * d * spacing := (Nat.mul_assoc _ _ _).symm
    _ ≤ n * denominator * spacing := Nat.mul_le_mul_right spacing hle
    _ = n * (denominator * spacing) := Nat.mul_assoc _ _ _

/-- A multiple of the spacing stays where it is. -/
theorem roundTo_mul {spacing point : Nat} (hspaced : 0 < spacing) (hpositive : 0 < denominator)
    (honGrid : spacing ∣ point) : roundTo spacing (point * denominator) denominator = point := by
  obtain ⟨whole, rfl⟩ := honGrid
  have hsame : spacing * whole * denominator = whole * (denominator * spacing) := by ring
  rw [roundTo, hsame, roundHalfEven_mul (Nat.mul_pos hpositive hspaced), Nat.mul_comm]

theorem nearestUnits_eq (numerator denominator : Nat) :
    nearestUnits numerator denominator =
      roundTo (grain (numerator / denominator)) numerator denominator :=
  rfl

theorem grain_pos (units : Nat) : 0 < grain units :=
  Nat.pow_pos Nat.two_pos

/-- The powers of two above a number, and the one right below it, lie on its grid. -/
theorem grain_dvd_pow {units exponent : Nat} (hle : units.log2 ≤ exponent) :
    grain units ∣ 2 ^ exponent :=
  Nat.pow_dvd_pow 2 (Nat.le_trans (Nat.sub_le _ _) hle)

/-- No point of the grid below a fraction is passed in rounding. -/
theorem le_nearestUnits {point : Nat} (hpositive : 0 < denominator)
    (honGrid : grain (numerator / denominator) ∣ point) (hle : point * denominator ≤ numerator) :
    point ≤ nearestUnits numerator denominator := by
  have hspaced := grain_pos (numerator / denominator)
  rw [nearestUnits_eq, ← roundTo_mul hspaced hpositive honGrid]
  exact roundTo_mono hspaced hpositive hpositive (Nat.mul_le_mul_right _ hle)

/-- No point of the grid above a fraction is passed in rounding. -/
theorem nearestUnits_le {point : Nat} (hpositive : 0 < denominator)
    (honGrid : grain (numerator / denominator) ∣ point) (hle : numerator ≤ point * denominator) :
    nearestUnits numerator denominator ≤ point := by
  have hspaced := grain_pos (numerator / denominator)
  calc nearestUnits numerator denominator
      ≤ roundTo (grain (numerator / denominator)) (point * denominator) denominator :=
        roundTo_mono hspaced hpositive hpositive (Nat.mul_le_mul_right _ hle)
    _ = point := roundTo_mul hspaced hpositive honGrid

/-- The power of two above a fraction is not passed in rounding. -/
theorem nearestUnits_le_pow (hpositive : 0 < denominator) :
    nearestUnits numerator denominator ≤ 2 ^ ((numerator / denominator).log2 + 1) := by
  refine nearestUnits_le hpositive (grain_dvd_pow (Nat.le_succ _)) (Nat.le_of_lt ?_)
  exact (Nat.div_lt_iff_lt_mul hpositive).mp Nat.lt_log2_self

/-- The power of two below a fraction is not passed in rounding. -/
theorem pow_le_nearestUnits (hpositive : 0 < denominator) (one_le : denominator ≤ numerator) :
    2 ^ (numerator / denominator).log2 ≤ nearestUnits numerator denominator := by
  refine le_nearestUnits hpositive (grain_dvd_pow (Nat.le_refl _)) ?_
  have hwhole : numerator / denominator ≠ 0 := (Nat.div_pos one_le hpositive).ne'
  exact (Nat.le_div_iff_mul_le hpositive).mp (Nat.log2_self_le hwhole)

/-- A greater fraction has no smaller nearest binary number. If the two lie on different grids, a
power of two stands between them. -/
theorem nearestUnits_mono (hpositive : 0 < denominator) (hfirst : 0 < d)
    (hle : numerator * d ≤ n * denominator) :
    nearestUnits numerator denominator ≤ nearestUnits n d := by
  have hwhole : numerator / denominator ≤ n / d := by
    rw [Nat.le_div_iff_mul_le hfirst]
    refine Nat.le_of_mul_le_mul_right ?_ hpositive
    calc numerator / denominator * d * denominator
        = numerator / denominator * denominator * d := Nat.mul_right_comm _ _ _
      _ ≤ numerator * d := Nat.mul_le_mul_right d (Nat.div_mul_le_self _ _)
      _ ≤ n * denominator := hle
  have hlogs : (numerator / denominator).log2 ≤ (n / d).log2 := by
    rw [Nat.log2_eq_log_two, Nat.log2_eq_log_two]
    exact Nat.log_mono_right hwhole
  rcases Nat.lt_or_eq_of_le hlogs with hless | hsame
  · have one_le : d ≤ n := by
      by_contra hbelow
      rw [Nat.div_eq_of_lt (Nat.lt_of_not_le hbelow), Nat.log2_zero] at hless
      exact Nat.not_lt_zero _ hless
    calc nearestUnits numerator denominator
        ≤ 2 ^ ((numerator / denominator).log2 + 1) := nearestUnits_le_pow hpositive
      _ ≤ 2 ^ (n / d).log2 := Nat.pow_le_pow_right Nat.two_pos hless
      _ ≤ nearestUnits n d := pow_le_nearestUnits hfirst one_le
  · rw [nearestUnits_eq, nearestUnits_eq, grain, grain, hsame]
    exact roundTo_mono (grain_pos (n / d)) hpositive hfirst hle

end Dialogue.Number
