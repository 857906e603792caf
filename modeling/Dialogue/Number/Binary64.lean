/-
# Nearest binary numbers of 64 bits

Decimals are compared after rounding to binary numbers with 53 significant bits, the smallest of
which is 2 ^ -1074. All of them are whole multiples of that smallest one, so a rounded value is kept
as an integer: the number of such units. A value half-way between two neighbours goes to the one
with an even last bit. A value whose magnitude would round to 2 ^ 1024 is out of range.
-/

import Dialogue.Number.Decimal

namespace Dialogue.Number

/-- The whole number nearest to `numerator / denominator`; a half goes to the even neighbour. -/
def roundHalfEven (numerator denominator : Nat) : Nat :=
  let quotient := numerator / denominator
  let remainder := numerator % denominator
  if 2 * remainder < denominator then quotient
  else if denominator < 2 * remainder then quotient + 1
  else if quotient % 2 = 0 then quotient else quotient + 1

/-- The distance, in units, between neighbouring numbers with 53 significant bits at a number of
units. It is one where the numbers have fewer bits than that. -/
def grain (units : Nat) : Nat :=
  Nat.pow 2 (units.log2 - 52)

/-- The number of units nearest to `numerator / denominator` units that has 53 significant bits. -/
def nearestUnits (numerator denominator : Nat) : Nat :=
  let spacing := grain (numerator / denominator)
  roundHalfEven numerator (denominator * spacing) * spacing

/-- The units of one. -/
def unitsOfOne : Nat :=
  Nat.pow 2 1074

/-- The units of 2 ^ 1024, the first magnitude that is out of range. -/
def unitLimit : Nat :=
  Nat.pow 2 2098

/-- The nearest binary number to a decimal, in units, or nothing if it is out of range. The first
digit of the decimal decides first: with more than 400 digits before the point it is out of range,
and with more than 400 zeros after it the nearest number is zero. -/
def Decimal.nearest? (x : Decimal) : Option Int :=
  let size := (Nat.toDigits 10 x.digits).length
  if x.digits = 0 then some 0
  else if 400 < x.exponent + size then none
  else if x.exponent + size < -400 then some 0
  else
    let units :=
      nearestUnits (x.digits * Nat.pow 10 x.exponent.toNat * unitsOfOne)
        (Nat.pow 10 (-x.exponent).toNat)
    if units < unitLimit then some (signed x.negative units) else none

/-- The nearest binary number to the decimal that a text is written as, in units. -/
def decimal? (text : List Char) : Option Int :=
  (Decimal.parse? text).bind Decimal.nearest?

end Dialogue.Number
