/-
# Records in JSON

A record with named fields is written as an object with a member for each field. The order of the
members does not matter and others are ignored, but no field may be given twice. A record may also
be written as an array of its fields in order, where the last ones may be left out.
-/

import Dialogue.Json.Basic

namespace Dialogue.Json

/-- The values of the members with a name. -/
def valuesNamed (name : String) (members : List (Option String × Json)) : List Json :=
  members.filterMap fun (other, value) => if other = some name then some value else none

/-- The value of the member with a name, if there is one. There may not be two. -/
def field? (members : List (Option String × Json)) (name : String) : Option (Option Json) :=
  match valuesNamed name members with
  | [] => some none
  | [value] => some (some value)
  | _ => none

/-- The values of the fields with given names, in the order of the names. A field may be
missing. -/
def fields? (names : List String) : Json → Option (List (Option Json))
  | object members =>
    if members.all fun (name, _) => name.isSome then names.mapM (field? members) else none
  | array items =>
    if items.length ≤ names.length then
      some (items.map some ++ List.replicate (names.length - items.length) none)
    else none
  | _ => none

end Dialogue.Json
