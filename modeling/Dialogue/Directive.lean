/-
# Directives

A tag whose name the playback knows is a directive. Four of them shape a script into blocks: one
opens a block with a condition, two continue it with another condition or without one, and one
closes it. The names are matched by their lowercase forms.
-/

import Dialogue.Line.Basic

namespace Dialogue

/-- What a tag that the playback knows asks for. -/
inductive Directive where
  /-- Opens a block that plays if a condition holds. -/
  | ifHolds
  /-- Continues a block that plays if no earlier condition held and its own does. -/
  | elseIfHolds
  /-- Continues a block that plays if no earlier condition held. -/
  | otherwise
  /-- Closes a block. -/
  | endIf
  /-- Ends the playback. -/
  | finish
  /-- Sets a variable. -/
  | set
  /-- Leaves a message for debugging. -/
  | debug
  /-- Leaves a warning. -/
  | warn
  /-- Leaves an error message. -/
  | error
  /-- Fails the playback. -/
  | throw
  /-- Leaves a reminder as a warning. -/
  | todo
deriving DecidableEq

/-- The directive with a name. -/
def Directive.ofName? (name : String) : Option Directive :=
  match Text.lowercase name with
  | "if" => some ifHolds
  | "elseif" => some elseIfHolds
  | "else" => some otherwise
  | "endif" => some endIf
  | "end" => some finish
  | "set" => some set
  | "debug" => some debug
  | "warn" => some warn
  | "error" => some error
  | "throw" => some throw
  | "todo" => some todo
  | _ => none

namespace Tag

/-- Whether a tag opens a block. -/
def opensBlock (tag : Tag) : Bool :=
  tag.isNamed "if"

/-- Whether a tag closes a block. -/
def closesBlock (tag : Tag) : Bool :=
  tag.isNamed "endif"

/-- Whether a tag continues a block with another condition. -/
def retriesBlock (tag : Tag) : Bool :=
  tag.isNamed "elseif"

/-- Whether a tag continues a block without a condition. -/
def reversesBlock (tag : Tag) : Bool :=
  tag.isNamed "else"

/-- Whether the arguments of a tag are a condition. -/
def hasCondition (tag : Tag) : Bool :=
  tag.opensBlock || tag.retriesBlock

end Tag

end Dialogue
