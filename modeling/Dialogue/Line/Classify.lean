/-
# Reading lines

A source is read line by line, after its comments have been taken out. White space around a line
and blank lines do not matter, and neither do byte order marks at the very start. A line is a
heading, which opens a script, or a line of a script. The written forms are tried in a fixed order:
link, tag, quote, cue; a line of no such form is a speech.
-/

import Dialogue.Error
import Dialogue.Line.Basic
import Dialogue.Line.Grammar

namespace Dialogue

open Text (trim)

/-- A heading of a source. -/
structure Heading where
  /-- The name of the script that it opens. -/
  name : String
  /-- The number of its line in the source. -/
  lineNo : Nat
deriving DecidableEq

/-- What a line of a source is read as. -/
inductive Item where
  /-- A heading, which opens a script. -/
  | heading (heading : Heading)
  /-- A line of a script. -/
  | line (line : Line)
deriving DecidableEq

/-- The number of an item's line in the source. -/
def Item.lineNo : Item → Nat
  | .heading title => title.lineNo
  | .line content => content.lineNo

/-- The text of a choice: what the link displays or, if that is blank, its target without the
hashes in front. -/
def Link.nameOf (target : List Char) (display : Option (List Char)) : List Char :=
  match trim (display.getD []) with
  | [] => trim (target.dropWhile (· == '#'))
  | shown => shown

/-- The line of a script that a text is read as. -/
def Line.classifyChars (text : List Char) (lineNo : Nat) : Except SourceError Line :=
  let source : Source := ⟨String.ofList text, lineNo⟩
  match Grammar.link? text with
  | some (target, display) =>
    match trim target with
    | [] => .error (.blankTarget source.raw lineNo)
    | target =>
      .ok (.link ⟨source, String.ofList target, String.ofList (Link.nameOf target display)⟩)
  | none =>
    match Grammar.tag? text with
    | some (name, args) => .ok (.tag ⟨source, String.ofList name, String.ofList args⟩)
    | none =>
      if text.head? = some '>' then .ok (.quote ⟨source, String.ofList (trim text.tail)⟩)
      else
        match Grammar.cue? text with
        | some parts =>
          .ok (.cue ⟨source, String.ofList parts.identifier, parts.shownAs.map String.ofList,
            parts.attributes.map String.ofList⟩)
        | none => .ok (.speech ⟨source, source.raw⟩)

/-- The line of a script that a text is read as. -/
def Line.classify (text : String) (lineNo : Nat) : Except SourceError Line :=
  Line.classifyChars text.toList lineNo

namespace Item

/-- What one line of a source is read as. A blank line is read as nothing. -/
def ofLine? (text : List Char) (lineNo : Nat) : Except SourceError (Option Item) :=
  match trim text with
  | [] => .ok none
  | text =>
    match Grammar.heading? text with
    | some name => .ok (some (.heading ⟨String.ofList name, lineNo⟩))
    | none => (Line.classifyChars text lineNo).map fun line => some (.line line)

/-- What the lines of a source are read as, when the first of them has a given number. -/
def ofLines (lineNo : Nat) : List (List Char) → Except SourceError (List Item)
  | [] => .ok []
  | text :: rest =>
    match ofLine? text lineNo with
    | .error error => .error error
    | .ok item =>
      match ofLines (lineNo + 1) rest with
      | .error error => .error error
      | .ok items => .ok (item.toList ++ items)

/-- The lines of a source, without comments and without byte order marks at the start. -/
def sourceLines (text : List Char) : List (List Char) :=
  ((Comment.stripChars text).dropWhile (· == '\uFEFF')).splitOn '\n'

/-- What a source is read as. The first line that cannot be read decides the error. -/
def ofText (text : String) : Except SourceError (List Item) :=
  ofLines 1 (sourceLines text.toList)

@[simp]
theorem ofLines_nil (lineNo : Nat) : ofLines lineNo [] = .ok [] := rfl

end Item

end Dialogue
