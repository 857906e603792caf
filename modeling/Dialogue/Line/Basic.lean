/-
# Lines of a script

A script is a list of lines, and a line is of one of five kinds. A cue names the speaker, a speech
is said by the speaker named last, a link offers a choice, a quote is shown without a speaker, and
a tag instructs the playback. Every line remembers the text it was read from and the number of
that text's line in the source, counted from one.
-/

import Dialogue.Text.Match

namespace Dialogue

/-- Where a line comes from. -/
structure Source where
  /-- The text the line was read from, without the white space around it. -/
  raw : String
  /-- The number of the line in the source, counted from one. -/
  lineNo : Nat
deriving DecidableEq

/-- A line that names the speaker of the speeches after it, such as `JOHN as Johnny - happy`. -/
structure Cue extends Source where
  /-- The name in uppercase letters, such as `JOHN`. -/
  identifier : String
  /-- The name to show in its place, such as `Johnny`. -/
  shownAs : Option String
  /-- What is added after a dash, such as `happy`. -/
  attributes : List String
deriving DecidableEq

/-- A line that the speaker says. -/
structure Speech extends Source where
  /-- What is said. -/
  text : String
deriving DecidableEq

/-- A line that offers to go on with another script, such as `[[market#Stall|To the market]]`. -/
structure Link extends Source where
  /-- The script to go to: `#name`, `file` or `file#name`. -/
  target : String
  /-- The text of the choice. -/
  displayName : String
deriving DecidableEq

/-- A line that is shown without a speaker. -/
structure Quote extends Source where
  /-- What is shown. -/
  text : String
deriving DecidableEq

/-- A line that instructs the playback, such as `#set mood happy`. -/
structure Tag extends Source where
  /-- The word after the hash. -/
  name : String
  /-- The text after the name. -/
  args : String
deriving DecidableEq

/-- A line of a script. -/
inductive Line where
  | cue (cue : Cue)
  | speech (speech : Speech)
  | link (link : Link)
  | quote (quote : Quote)
  | tag (tag : Tag)
deriving DecidableEq

/-- Whether a link stays in its own collection. -/
def Link.isLocal (link : Link) : Bool :=
  link.target.toList.head? == some '#'

/-- Whether a tag has a name, up to the case of the letters from A to Z. -/
def Tag.isNamed (tag : Tag) (name : String) : Bool :=
  Text.sameWord tag.name name

namespace Line

/-- Where a line comes from. -/
def source : Line → Source
  | cue line => line.toSource
  | speech line => line.toSource
  | link line => line.toSource
  | quote line => line.toSource
  | tag line => line.toSource

/-- The text a line was read from. -/
def raw (line : Line) : String :=
  line.source.raw

/-- The number of a line in its source. -/
def lineNo (line : Line) : Nat :=
  line.source.lineNo

/-- The tag on a line, if it is one. -/
def tag? : Line → Option Tag
  | tag line => some line
  | _ => none

/-- The link on a line, if it is one. -/
def link? : Line → Option Link
  | link line => some line
  | _ => none

end Line

end Dialogue
