/-
# Reading collections

The items of a source fall into sections. Every heading opens one, and what stands before the first
heading is a section without a heading. Each section is a script. A source with nothing to play
gives one script without lines.

A source is refused for the first section whose name matches an earlier one or, if conditions are
to be checked, that holds a condition that cannot be read.
-/

import Dialogue.Collection.Basic
import Dialogue.Directive
import Dialogue.Line.Classify

namespace Dialogue

/-- A part of a source that gives one script. -/
structure Section where
  /-- The heading that opens the section. -/
  heading : Option Heading
  /-- The lines up to the next heading. -/
  lines : List Line

namespace Section

/-- The lines before the first heading, and the items from that heading on. -/
def takeLines : List Item → List Line × List Item
  | .line line :: rest =>
    let (lines, after) := takeLines rest
    (line :: lines, after)
  | items => ([], items)

/-- The first section of some items, and the items after it. -/
def splitFirst : List Item → Section × List Item
  | .heading heading :: rest =>
    let (lines, after) := takeLines rest
    (⟨some heading, lines⟩, after)
  | items =>
    let (lines, after) := takeLines items
    (⟨none, lines⟩, after)

theorem length_takeLines_le (items : List Item) : (takeLines items).2.length ≤ items.length := by
  fun_induction takeLines items with
  | case1 line rest lines after heq ih =>
    rw [heq] at ih
    simp only [List.length_cons] at ih ⊢
    omega
  | case2 items => simp

theorem length_splitFirst_lt (item : Item) (rest : List Item) :
    (splitFirst (item :: rest)).2.length < (item :: rest).length := by
  cases item with
  | heading heading => exact Nat.lt_succ_of_le (length_takeLines_le rest)
  | line line => exact Nat.lt_succ_of_le (length_takeLines_le rest)

/-- The sections of some items. -/
def ofItems : List Item → List Section
  | [] => []
  | item :: rest => (splitFirst (item :: rest)).1 :: ofItems (splitFirst (item :: rest)).2
termination_by items => items.length
decreasing_by exact length_splitFirst_lt item rest

/-- The items of a section. -/
def items (part : Section) : List Item :=
  (part.heading.map Item.heading).toList ++ part.lines.map Item.line

/-- The script of a section of the collection at a path. -/
def script (path : String) (part : Section) : Script where
  name := match part.heading with
    | some heading => heading.name
    | none => Script.defaultName
  path := match part.heading with
    | some heading => path ++ "#" ++ heading.name
    | none => path
  lines := part.lines
  links := PathSet.ofList
    ((part.lines.filterMap Line.link?).map fun link => Path.resolve path link.target)

@[simp]
theorem ofItems_nil : ofItems [] = [] := by
  rw [ofItems]

theorem ofItems_cons (item : Item) (rest : List Item) :
    ofItems (item :: rest) =
      (splitFirst (item :: rest)).1 :: ofItems (splitFirst (item :: rest)).2 := by
  rw [ofItems]

end Section

namespace Tag

/-- Why the condition of a tag cannot be read, if it has one and that is so. -/
def invalidCondition? (tag : Tag) : Option SyntaxError :=
  if tag.hasCondition then
    match Condition.parse tag.args with
    | .error cause => some cause
    | .ok _ => none
  else none

end Tag

namespace Script

/-- The line of the first condition of a script that cannot be read, and why. -/
def invalidCondition? (script : Script) : Option (Nat × SyntaxError) :=
  (script.lines.filterMap Line.tag?).findSome? fun tag =>
    tag.invalidCondition?.map fun cause => (tag.lineNo, cause)

end Script

namespace Collection

/-- Adds scripts to earlier ones. A script is refused if its name matches that of an earlier one
or, if conditions are to be checked, for its first condition that cannot be read. -/
def addScripts (validate : Bool) (name : String) (earlier : List Script) :
    List Script → Except SourceError (List Script)
  | [] => .ok earlier
  | script :: rest =>
    if earlier.any fun other => Text.sameName other.name script.name then
      .error (.duplicateScript name script.name)
    else
      match if validate then script.invalidCondition? else none with
      | some (lineNo, cause) => .error (.invalidCondition name lineNo cause)
      | none => addScripts validate name (earlier ++ [script]) rest

/-- Reads a source as the collection at a path. -/
def parse (validate : Bool) (text path : String) : Except SourceError Collection :=
  let name := Path.stem path
  match Item.ofText text with
  | .error error => .error error
  | .ok items =>
    match addScripts validate name [] ((Section.ofItems items).map (Section.script path)) with
    | .error error => .error error
    | .ok [] => .ok ⟨name, path, text, [.empty path]⟩
    | .ok scripts => .ok ⟨name, path, text, scripts⟩

end Collection

end Dialogue
