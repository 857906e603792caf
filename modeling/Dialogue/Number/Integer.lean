/-
# Written integers

An integer is written with an optional sign and decimal digits. Leading zeros are allowed, and a
minus sign before zero means nothing. Some uses of integers admit only those of 64 bits.
-/

namespace Dialogue.Number

/-- The number that digits stand for, if the text has digits and nothing else. -/
def natural? (text : List Char) : Option Nat :=
  if text ≠ [] ∧ text.all Char.isDigit then some (Nat.ofDigitChars 10 text 0) else none

/-- Whether a text starts with a minus sign, and the text after its sign. -/
def splitSign : List Char → Bool × List Char
  | '-' :: rest => (true, rest)
  | '+' :: rest => (false, rest)
  | text => (false, text)

/-- A magnitude with its sign. -/
def signed (negative : Bool) (magnitude : Nat) : Int :=
  if negative then -magnitude else magnitude

/-- The integer that a text is written as. -/
def integer? (text : List Char) : Option Int :=
  let (negative, digits) := splitSign text
  (natural? digits).map (signed negative)

/-- The first magnitude that is too great for an integer of 64 bits, its sign included. -/
def wordLimit : Nat :=
  Nat.pow 2 63

/-- Whether an integer has 64 bits. -/
def fitsWord (n : Int) : Bool :=
  -wordLimit ≤ n && n < wordLimit

/-- The integer of 64 bits that a text is written as. -/
def word? (text : List Char) : Option Int :=
  (integer? text).filter fitsWord

@[simp]
theorem natural?_nil : natural? [] = none := rfl

/-- The digits of a number stand for it. -/
theorem natural?_toDigits (n : Nat) : natural? (Nat.toDigits 10 n) = some n := by
  have hnonempty : Nat.toDigits 10 n ≠ [] :=
    List.ne_nil_of_length_pos Nat.length_toDigits_pos
  have hdigits : (Nat.toDigits 10 n).all Char.isDigit = true :=
    List.all_eq_true.mpr fun c hmem => Nat.isDigit_of_mem_toDigits (by omega) (by omega) hmem
  simp [natural?, hnonempty, hdigits, Nat.ofDigitChars_toDigits]

end Dialogue.Number
