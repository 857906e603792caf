/-
# The range of JSON numbers

A number stands for something unless it is too great for a binary number of 64 bits. How great it
is shows in a short decimal: of the digits, as many are kept from the left as a whole number of 64
bits can hold. These digits and the power of ten they are counted in are each rounded to 53
significant bits before they are multiplied, so close to the limit a number may fall on the other
side of it than its exact value does.
-/

import Dialogue.Number.Binary64

namespace Dialogue.Json

open Number (Decimal)

/-- The first whole number that takes more than 64 bits. -/
def natLimit : Nat :=
  Nat.pow 2 64

/-- A whole number with digits added to it as long as it keeps to 64 bits, and how many digits are
left over. -/
def addDigits (n : Nat) : List Char → Nat × Nat
  | [] => (n, 0)
  | c :: rest =>
    let longer := 10 * n + (c.toNat - '0'.toNat)
    if longer < natLimit then addDigits longer rest else (n, rest.length + 1)

/-- The power of ten that the rest of a number is written as. It is zero when nothing is left. -/
def power? : List Char → Option Int
  | [] => some 0
  | c :: rest => if c = 'e' ∨ c = 'E' then Number.integer? rest else none

/-- The short decimal for a number. Digits before the point that are left over count as zeros, those
after it do not count. -/
def shorten? (written : List Char) : Option Decimal :=
  let (negative, unsigned) := Number.splitSign written
  let whole := unsigned.takeWhile Char.isDigit
  let (fraction, rest) := Decimal.splitFraction (unsigned.dropWhile Char.isDigit)
  let (kept, zeros) := addDigits 0 whole
  let (digits, ignored) := addDigits kept fraction
  (power? rest).map fun power =>
    ⟨negative, digits, power + zeros - (fraction.length - ignored : Nat)⟩

/-- The whole number with 53 significant bits that is nearest to a whole number. -/
def rounded (n : Nat) : Nat :=
  Number.nearestUnits n 1

/-- The greatest power of ten below the limit of the range. -/
def powerLimit : Nat := 308

/-- The first magnitude that is out of range. -/
def magnitudeLimit : Nat :=
  Nat.pow 2 1024

/-- Whether a short decimal is in range. -/
def fitsRange (x : Decimal) : Bool :=
  x.digits == 0 || x.exponent ≤ 0 ||
    (x.exponent ≤ powerLimit &&
      rounded (rounded x.digits * rounded (Nat.pow 10 x.exponent.toNat)) < magnitudeLimit)

/-- Whether a text is written as a number in range. -/
def isInRange (written : List Char) : Bool :=
  (shorten? written).any fitsRange

@[simp]
theorem addDigits_nil (n : Nat) : addDigits n [] = (n, 0) := rfl

/-- A number without a power of ten is in range if its digits keep to 64 bits. -/
theorem fitsRange_of_exponent_le {x : Decimal} (h : x.exponent ≤ 0) : fitsRange x = true := by
  simp [fitsRange, h]

end Dialogue.Json
