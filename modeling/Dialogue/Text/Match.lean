/-
# Matching without regard to case

Names in a dialogue are compared in two ways. Script names, paths, variables and values are matched
by their full lowercase forms. The words of the directives that open and close blocks are matched
letter by letter, and there only the letters from A to Z have a small form.
-/

import Dialogue.Text.Lowercase

namespace Dialogue.Text

/-- Whether two names have the same lowercase form. -/
def sameName (a b : String) : Bool :=
  lowercase a == lowercase b

/-- Whether two words are equal up to the case of the letters from A to Z. -/
def sameWord (a b : String) : Bool :=
  a.toList.map Char.toLower == b.toList.map Char.toLower

theorem sameName_iff {a b : String} : sameName a b = true ↔ lowercase a = lowercase b := by
  simp [sameName]

@[simp]
theorem sameName_self (a : String) : sameName a a = true := by
  simp [sameName]

theorem sameName_comm (a b : String) : sameName a b = sameName b a :=
  BEq.comm

theorem sameName_trans {a b c : String} (hab : sameName a b = true) (hbc : sameName b c = true) :
    sameName a c = true := by
  simp_all [sameName]

theorem sameWord_iff {a b : String} :
    sameWord a b = true ↔ a.toList.map Char.toLower = b.toList.map Char.toLower := by
  simp [sameWord]

end Dialogue.Text
