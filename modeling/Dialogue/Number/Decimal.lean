/-
# Written decimals

A decimal is written with an optional sign, digits with at most one point among or around them, and
an optional exponent after the letter `e` in either case. There must be a digit before the exponent,
on one of the two sides of the point. The value is exact here, except that a huge exponent is cut
short; rounding is another module's matter.
-/

import Dialogue.Number.Integer

namespace Dialogue.Number

/-- A decimal: `digits · 10 ^ exponent`, with a sign. -/
structure Decimal where
  /-- Whether the value is negative. -/
  negative : Bool
  /-- The digits without the point, as one number. -/
  digits : Nat
  /-- The power of ten that the digits are counted in. -/
  exponent : Int
deriving DecidableEq

namespace Decimal

/-- The digits after a point at the start of a text, and the text after them. -/
def splitFraction : List Char → List Char × List Char
  | '.' :: rest => (rest.takeWhile Char.isDigit, rest.dropWhile Char.isDigit)
  | text => ([], text)

/-- A magnitude that no exponent needs to pass: decimals with a greater one are far out of range or
nearly zero. -/
def exponentLimit : Nat :=
  Nat.pow 2 16

/-- The magnitude that the digits of an exponent stand for. Once it has reached the limit, further
digits do not count. -/
def magnitude (digits : List Char) : Nat :=
  digits.foldl
    (fun n c => if n < exponentLimit then 10 * n + (c.toNat - '0'.toNat) else n) 0

/-- The exponent that the rest of a decimal is written as. It is zero when nothing is left. -/
def exponent? : List Char → Option Int
  | [] => some 0
  | c :: rest =>
    if c = 'e' ∨ c = 'E' then
      let (negative, digits) := splitSign rest
      if digits ≠ [] ∧ digits.all Char.isDigit then some (signed negative (magnitude digits))
      else none
    else none

/-- The decimal that a text is written as. -/
def parse? (text : List Char) : Option Decimal :=
  let (negative, unsigned) := splitSign text
  let whole := unsigned.takeWhile Char.isDigit
  let (fraction, rest) := splitFraction (unsigned.dropWhile Char.isDigit)
  if whole = [] ∧ fraction = [] then none
  else (exponent? rest).map fun exponent =>
    ⟨negative, Nat.ofDigitChars 10 (whole ++ fraction) 0, exponent - fraction.length⟩

end Decimal

end Dialogue.Number
