/-
# Writing JSON

A value is written in one of two layouts: on one line without any white space, or with one member
or item a line, indented by two spaces a level. Quotes, backslashes and control characters are
escaped in strings, five of the control characters by a letter; all other characters stand for
themselves.
-/

import Dialogue.Json.Basic

namespace Dialogue.Json

/-- Where white space goes between the tokens of a text. -/
structure Layout where
  /-- What starts a line at a depth. -/
  lineBreak : Nat → List Char
  /-- What stands between a name and its value. -/
  colon : List Char

/-- No white space at all. -/
def Layout.compact : Layout where
  lineBreak _ := []
  colon := [':']

/-- One member or item a line, indented by two spaces a level. -/
def Layout.indented : Layout where
  lineBreak depth := '\n' :: List.replicate (2 * depth) ' '
  colon := [':', ' ']

/-- A character of a string, escaped if it must be. -/
def escape (c : Char) : List Char :=
  match c with
  | '"' => ['\\', '"']
  | '\\' => ['\\', '\\']
  | '\x08' => ['\\', 'b']
  | '\t' => ['\\', 't']
  | '\n' => ['\\', 'n']
  | '\x0C' => ['\\', 'f']
  | '\r' => ['\\', 'r']
  | c =>
    if c.toNat < 0x20 then
      ['\\', 'u', '0', '0', Nat.digitChar (c.toNat / 16), Nat.digitChar (c.toNat % 16)]
    else [c]

/-- A string between its quotes. One that stands for no text is written as half of a surrogate
pair. -/
def quote : Option String → List Char
  | some text => '"' :: text.toList.flatMap escape ++ ['"']
  | none => ['"', '\\', 'u', 'd', '8', '0', '0', '"']

mutual

/-- A value at a depth. -/
def write (layout : Layout) (depth : Nat) : Json → List Char
  | null => ['n', 'u', 'l', 'l']
  | bool true => ['t', 'r', 'u', 'e']
  | bool false => ['f', 'a', 'l', 's', 'e']
  | number written => written.toList
  | string text => quote text
  | array [] => ['[', ']']
  | array (item :: rest) =>
    '[' :: layout.lineBreak (depth + 1) ++ write layout (depth + 1) item ++
      writeItems layout (depth + 1) rest ++ layout.lineBreak depth ++ [']']
  | object [] => ['{', '}']
  | object ((name, value) :: rest) =>
    '{' :: layout.lineBreak (depth + 1) ++ quote name ++ layout.colon ++
      write layout (depth + 1) value ++ writeMembers layout (depth + 1) rest ++
      layout.lineBreak depth ++ ['}']

/-- The items of an array after the first. -/
def writeItems (layout : Layout) (depth : Nat) : List Json → List Char
  | [] => []
  | item :: rest =>
    ',' :: layout.lineBreak depth ++ write layout depth item ++ writeItems layout depth rest

/-- The members of an object after the first. -/
def writeMembers (layout : Layout) (depth : Nat) : List (Option String × Json) → List Char
  | [] => []
  | (name, value) :: rest =>
    ',' :: layout.lineBreak depth ++ quote name ++ layout.colon ++ write layout depth value ++
      writeMembers layout depth rest

end

/-- The text of a value on one line. -/
def compact (value : Json) : String :=
  String.ofList (write .compact 0 value)

/-- The text of a value with one member or item a line. -/
def indented (value : Json) : String :=
  String.ofList (write .indented 0 value)

end Dialogue.Json
