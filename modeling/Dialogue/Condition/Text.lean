/-
# The text of a condition

Conditions are shown in one written form: arguments are separated by a comma and a space, quoted
arguments stand in quotes with the quotes in them escaped, and every group stands in parentheses.
-/

import Dialogue.Condition.Basic

namespace Dialogue

/-- Text that may stand between quotes: every quote in it follows a backslash. -/
def escapeQuotes (text : List Char) : List Char :=
  text.flatMap fun c => if c = '"' then ['\\', '"'] else [c]

/-- The written form of an argument. -/
def Argument.chars (argument : Argument) : List Char :=
  if argument.quoted then '"' :: escapeQuotes argument.text.toList ++ ['"']
  else argument.text.toList

/-- The written form of a call. -/
def Call.chars (call : Call) : List Char :=
  call.method.toList ++ '(' :: [',', ' '].intercalate (call.arguments.map Argument.chars) ++ [')']

/-- The word of a join. -/
def Join.chars : Join → List Char
  | and => ['a', 'n', 'd']
  | or => ['o', 'r']

/-- The written form of a condition. -/
def Condition.chars : Condition → List Char
  | call c => c.chars
  | group left join right => '(' :: left.chars ++ ' ' :: join.chars ++ ' ' :: right.chars ++ [')']

/-- The written form of a call. -/
def Call.text (call : Call) : String :=
  String.ofList call.chars

/-- The written form of a condition. -/
def Condition.text (condition : Condition) : String :=
  String.ofList condition.chars

@[simp]
theorem escapeQuotes_nil : escapeQuotes [] = [] := rfl

theorem escapeQuotes_cons (c : Char) (rest : List Char) :
    escapeQuotes (c :: rest) =
      (if c = '"' then ['\\', '"'] else [c]) ++ escapeQuotes rest := by
  simp [escapeQuotes]

@[simp]
theorem escapeQuotes_append (a b : List Char) :
    escapeQuotes (a ++ b) = escapeQuotes a ++ escapeQuotes b := by
  simp [escapeQuotes]

@[simp]
theorem Call.toList_text (call : Call) : call.text.toList = call.chars := by
  simp [Call.text]

@[simp]
theorem Condition.toList_text (condition : Condition) :
    condition.text.toList = condition.chars := by
  simp [Condition.text]

end Dialogue
