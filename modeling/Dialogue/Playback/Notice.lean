/-
# Notices

While it runs, a playback leaves notices for the authors of scripts: what it does that cannot be
seen otherwise, and what looks like a mistake. Nothing depends on them.
-/

import Dialogue.Condition.Text
import Dialogue.Error

namespace Dialogue

/-- How important a notice is. -/
inductive Level where
  | debug
  | warn
  | error
deriving DecidableEq

/-- What a notice tells. -/
inductive Remark where
  /-- A speech was confirmed while none was waiting. -/
  | noSpeechPending
  /-- A choice was made while none was waiting. -/
  | noChoicesPending
  /-- A choice was made that was not offered. -/
  | notOffered (target : String)
  /-- A link was followed that the script did not announce. -/
  | notAnnounced (path script : String)
  /-- Another script is entered. -/
  | jumping (path : String)
  /-- The playback failed. -/
  | halted
  /-- Nobody knows a tag. -/
  | unhandledTag (name : String)
  /-- Nobody knows a method. -/
  | unknownMethod (name : String)
  /-- A method has no verdict. -/
  | undecided (call : Call)
  /-- A block whose condition does not hold is never closed. -/
  | unclosedBlock (name : String)
  /-- The block of a branch that has been played is never closed. -/
  | unclosedBranch
  /-- A variable was set. -/
  | assigned (name value : String)
  /-- The author of the script says something. -/
  | authored (level : Level) (text : String)
deriving DecidableEq

/-- A notice: a remark and the place it was made at. -/
structure Notice where
  /-- The place. -/
  location : Location
  /-- The remark. -/
  remark : Remark
deriving DecidableEq

/-- How important a remark is. -/
def Remark.level : Remark → Level
  | jumping _ | halted | assigned _ _ => .debug
  | authored level _ => level
  | _ => .warn

/-- The message of a remark. -/
def Remark.message : Remark → String
  | noSpeechPending => "resume() called without a pending dialogue line"
  | noChoicesPending => "select_choice() called without pending choices"
  | notOffered target => "Selected choice '" ++ target ++ "' was not among the offered choices"
  | notAnnounced path script =>
    "Link to " ++ path ++ " is not in the link table of script '" ++ script ++ "'"
  | jumping path => "Jumping to " ++ path
  | halted => "Playback halted"
  | unhandledTag name => "Unhandled tag #" ++ name ++ ", skipping"
  | unknownMethod name => "Unknown condition '" ++ name ++ "', treating it as false"
  | undecided call => "'" ++ call.text ++ "' could not be decided, treating it as false"
  | unclosedBlock name => "Unterminated #" ++ name ++ " block. Did you forget an #endif?"
  | unclosedBranch => "Unterminated block. Did you forget an #endif?"
  | assigned name value => "Set " ++ name ++ " = " ++ value
  | authored _ text => text

/-- How important a notice is. -/
def Notice.level (notice : Notice) : Level :=
  notice.remark.level

/-- The text of a notice. The place stands before the remark, except that a failure is said to be
at its place. -/
def Notice.text (notice : Notice) : String :=
  match notice.remark with
  | .halted => notice.remark.message ++ " at " ++ notice.location.text
  | remark => notice.location.text ++ " " ++ remark.message

end Dialogue
