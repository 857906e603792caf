/-
# Collections in JSON

A collection is stored as JSON and read back. Every structure is a record of its fields; a line
also says its kind. Of the fields that may be missing, an absent shown name, an empty list of
attributes and an empty set of links are left out when a collection is written.

A line has to be read to its end before its kind is known, also the members that are ignored
afterwards. So everything in it has to stand for something, and it may not nest too deeply.
-/

import Dialogue.Collection.Basic
import Dialogue.Json.Reader
import Dialogue.Json.Record
import Dialogue.Json.Writer

namespace Dialogue

namespace Json

/-- The JSON of a list of texts. -/
def ofTexts (texts : List String) : Json :=
  array (texts.map ofText)

/-- The texts of an array of strings. -/
def texts? (value : Json) : Option (List String) :=
  value.items?.bind fun items => items.mapM text?

/-- A member that is left out if the list is empty. -/
def memberOfTexts (name : String) (texts : List String) : List (String × Json) :=
  if texts = [] then [] else [(name, ofTexts texts)]

/-- The texts of a field, none if it is missing. -/
def textsOfField? : Option Json → Option (List String)
  | some value => value.texts?
  | none => some []

end Json

namespace Cue

/-- The fields of a cue. -/
def toMembers (cue : Cue) : List (String × Json) :=
  [("raw", .ofText cue.raw), ("line_no", .ofNat cue.lineNo),
    ("identifier", .ofText cue.identifier)] ++
    (cue.shownAs.map fun name => ("alias", Json.ofText name)).toList ++
    Json.memberOfTexts "attributes" cue.attributes

/-- The shown name of a cue. It may be missing or null. -/
def shownAsOfField? : Option Json → Option (Option String)
  | none | some .null => some none
  | some value => value.text?.map some

/-- The cue with given fields. -/
def ofJson? (value : Json) : Option Cue :=
  match value.fields? ["raw", "line_no", "identifier", "alias", "attributes"] with
  | some [some raw, some lineNo, some identifier, shownAs, attributes] => do
    return ⟨⟨← raw.text?, ← lineNo.nat?⟩, ← identifier.text?, ← shownAsOfField? shownAs,
      ← Json.textsOfField? attributes⟩
  | _ => none

end Cue

namespace Speech

/-- The fields of a speech. -/
def toMembers (speech : Speech) : List (String × Json) :=
  [("raw", .ofText speech.raw), ("line_no", .ofNat speech.lineNo), ("text", .ofText speech.text)]

/-- The speech with given fields. -/
def ofJson? (value : Json) : Option Speech :=
  match value.fields? ["raw", "line_no", "text"] with
  | some [some raw, some lineNo, some text] => do
    return ⟨⟨← raw.text?, ← lineNo.nat?⟩, ← text.text?⟩
  | _ => none

end Speech

namespace Link

/-- The fields of a link. -/
def toMembers (link : Link) : List (String × Json) :=
  [("raw", .ofText link.raw), ("line_no", .ofNat link.lineNo), ("target", .ofText link.target),
    ("display_name", .ofText link.displayName)]

/-- The link with given fields. -/
def ofJson? (value : Json) : Option Link :=
  match value.fields? ["raw", "line_no", "target", "display_name"] with
  | some [some raw, some lineNo, some target, some displayName] => do
    return ⟨⟨← raw.text?, ← lineNo.nat?⟩, ← target.text?, ← displayName.text?⟩
  | _ => none

end Link

namespace Quote

/-- The fields of a quote. -/
def toMembers (quote : Quote) : List (String × Json) :=
  [("raw", .ofText quote.raw), ("line_no", .ofNat quote.lineNo), ("text", .ofText quote.text)]

/-- The quote with given fields. -/
def ofJson? (value : Json) : Option Quote :=
  match value.fields? ["raw", "line_no", "text"] with
  | some [some raw, some lineNo, some text] => do
    return ⟨⟨← raw.text?, ← lineNo.nat?⟩, ← text.text?⟩
  | _ => none

end Quote

namespace Tag

/-- The fields of a tag. -/
def toMembers (tag : Tag) : List (String × Json) :=
  [("raw", .ofText tag.raw), ("line_no", .ofNat tag.lineNo), ("name", .ofText tag.name),
    ("args", .ofText tag.args)]

/-- The tag with given fields. -/
def ofJson? (value : Json) : Option Tag :=
  match value.fields? ["raw", "line_no", "name", "args"] with
  | some [some raw, some lineNo, some name, some args] => do
    return ⟨⟨← raw.text?, ← lineNo.nat?⟩, ← name.text?, ← args.text?⟩
  | _ => none

end Tag

namespace Line

/-- The JSON of a line: its kind and its fields. -/
def toJson : Line → Json
  | cue line => .ofMembers (("type", .ofText "character") :: line.toMembers)
  | speech line => .ofMembers (("type", .ofText "dialogue") :: line.toMembers)
  | link line => .ofMembers (("type", .ofText "link") :: line.toMembers)
  | quote line => .ofMembers (("type", .ofText "quote") :: line.toMembers)
  | tag line => .ofMembers (("type", .ofText "tag") :: line.toMembers)

/-- The kind of a line, and its fields without the kind. In an array the kind comes first. -/
def splitKind? : Json → Option (String × Json)
  | .object members =>
    match Json.field? members "type" with
    | some (some (.string (some kind))) =>
      some (kind, .object (members.filter fun (name, _) => name ≠ some "type"))
    | _ => none
  | .array (.string (some kind) :: fields) => some (kind, .array fields)
  | _ => none

/-- The number of levels that a line may nest, itself included. A collection may nest 127 levels,
and its lines are on the fifth. -/
def levels : Nat := 123

/-- The line with given JSON. -/
def ofJson? (value : Json) : Option Line :=
  if value.isReadable levels then
    match splitKind? value with
    | some ("character", fields) => (Cue.ofJson? fields).map cue
    | some ("dialogue", fields) => (Speech.ofJson? fields).map speech
    | some ("link", fields) => (Link.ofJson? fields).map link
    | some ("quote", fields) => (Quote.ofJson? fields).map quote
    | some ("tag", fields) => (Tag.ofJson? fields).map tag
    | _ => none
  else none

end Line

namespace Script

/-- The JSON of a script. -/
def toJson (script : Script) : Json :=
  .ofMembers ([("name", .ofText script.name), ("path", .ofText script.path),
    ("lines", .array (script.lines.map Line.toJson))] ++
    Json.memberOfTexts "links" script.links.toList)

/-- The script with given JSON. -/
def ofJson? (value : Json) : Option Script :=
  match value.fields? ["name", "path", "lines", "links"] with
  | some [some name, some path, some lines, links] => do
    return ⟨← name.text?, ← path.text?, ← (← lines.items?).mapM Line.ofJson?,
      PathSet.ofList (← Json.textsOfField? links)⟩
  | _ => none

end Script

namespace Collection

/-- The JSON of a collection. -/
def toJson (collection : Collection) : Json :=
  .ofMembers [("name", .ofText collection.name), ("path", .ofText collection.path),
    ("raw", .ofText collection.raw), ("scripts", .array (collection.scripts.map Script.toJson))]

/-- The collection with given JSON. -/
def ofJson? (value : Json) : Option Collection :=
  match value.fields? ["name", "path", "raw", "scripts"] with
  | some [some name, some path, some raw, some scripts] => do
    return ⟨← name.text?, ← path.text?, ← raw.text?, ← (← scripts.items?).mapM Script.ofJson?⟩
  | _ => none

/-- The stored form of a collection. -/
def stored (collection : Collection) : String :=
  collection.toJson.indented

/-- The collection with a stored form. -/
def ofStored? (text : String) : Option Collection :=
  (Json.parse? text).bind ofJson?

end Collection

end Dialogue
