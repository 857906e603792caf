/-
# JSON values

The value of a JSON text, as far as this library tells values apart. A number is kept as it is
written, so that no digit is lost, and the members of an object are kept in order with repeated
names. A string may name half of a surrogate pair alone; then it stands for no text at all, and
`none` says so.
-/

import Dialogue.Json.Range

namespace Dialogue

/-- The value of a JSON text. -/
inductive Json where
  | null
  | bool (value : Bool)
  /-- A number as it is written. -/
  | number (written : String)
  /-- A string, or `none` if an escaped surrogate in it has no partner. -/
  | string (text : Option String)
  | array (items : List Json)
  | object (members : List (Option String × Json))

namespace Json

/-- The string of a text. -/
def ofText (text : String) : Json :=
  string (some text)

/-- The number of a whole number. -/
def ofNat (n : Nat) : Json :=
  number n.repr

/-- The object with given members. -/
def ofMembers (members : List (String × Json)) : Json :=
  object (members.map fun (name, value) => (some name, value))

/-- The text of a string. -/
def text? : Json → Option String
  | string text => text
  | _ => none

/-- The whole number that a number is written as, if it has at most 64 bits. -/
def nat? : Json → Option Nat
  | number written => (Number.natural? written.toList).filter (· < natLimit)
  | _ => none

/-- The items of an array. -/
def items? : Json → Option (List Json)
  | array items => some items
  | _ => none

mutual

/-- Whether a value nests no deeper than a number of levels, and everything in it stands for
something: strings for texts and numbers for values in range. -/
def isReadable (levels : Nat) : Json → Bool
  | null | bool _ => true
  | number written => isInRange written.toList
  | string text => text.isSome
  | array items => levels != 0 && areReadable (levels - 1) items
  | object members => levels != 0 && membersAreReadable (levels - 1) members

/-- Whether all values of a list are readable. -/
def areReadable (levels : Nat) : List Json → Bool
  | [] => true
  | item :: rest => item.isReadable levels && areReadable levels rest

/-- Whether the names and the values of members are readable. -/
def membersAreReadable (levels : Nat) : List (Option String × Json) → Bool
  | [] => true
  | (name, value) :: rest =>
    name.isSome && value.isReadable levels && membersAreReadable levels rest

end

end Json

end Dialogue
