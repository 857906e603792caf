/-
# Errors

Reading a source can fail, and so can playing a script. Every failure is a value that says what
went wrong; its message is made from that value in one place. An error of a running playback says
where the playback stood, except where no script was running yet or the failure lies in another
source.
-/

import Dialogue.Condition.Reader

namespace Dialogue

/-- A place in a running playback. -/
structure Location where
  /-- The name of the collection. -/
  collection : String
  /-- The name of the script. -/
  script : String
  /-- The number of the line in the source of the collection. -/
  lineNo : Nat
deriving DecidableEq

/-- A place as messages show it. -/
def Location.text (location : Location) : String :=
  "[" ++ location.collection ++ "/" ++ location.script ++ " @ " ++ location.lineNo.repr ++ "]"

/-- Why a text is not the source of a collection. -/
inductive SourceError where
  /-- A link has a blank target. -/
  | blankTarget (raw : String) (lineNo : Nat)
  /-- Two scripts have matching names. -/
  | duplicateScript (collection script : String)
  /-- The argument of a directive that opens or continues a block is not a condition. -/
  | invalidCondition (collection : String) (lineNo : Nat) (cause : SyntaxError)
deriving DecidableEq

/-- The message for a text that is not the source of a collection. -/
def SourceError.message : SourceError → String
  | blankTarget raw lineNo =>
    "Link target '" ++ raw ++ "' on line " ++ lineNo.repr ++ " contained no text!"
  | duplicateScript collection script =>
    "A duplicate script with name '" ++ script ++
      "' was encountered while parsing collection '" ++ collection ++
      "'. Please change the name of one of the scripts."
  | invalidCondition collection lineNo cause =>
    "Invalid condition on line " ++ lineNo.repr ++ " of collection '" ++ collection ++ "': " ++
      cause.message

/-- What is wrong with the arguments of a call, a tag or an operation. -/
inductive ArgumentFault where
  /-- A call that needs the path of a script has no argument. -/
  | noScriptPath (method : String)
  /-- A count of visits is not an integer. -/
  | countNotInteger (text : String)
  /-- A count of visits is less than one. -/
  | countTooSmall (count : Int)
  /-- A comparison does not have two arguments. -/
  | notTwoArguments (method : String) (count : Nat)
  /-- An assignment lacks a name or a value. -/
  | noNameAndValue (args : String)
  /-- No choice is pending at an index. -/
  | noChoice (index : Nat)
deriving DecidableEq

/-- The message for wrong arguments. -/
def ArgumentFault.message : ArgumentFault → String
  | noScriptPath method => method ++ "() needs a script path"
  | countNotInteger text =>
    "Expected the second argument of visited() to be an integer, got '" ++ text ++ "'"
  | countTooSmall count =>
    "visited() needs a visit count of at least 1, got " ++ count.repr ++
      ". Use notvisited() instead"
  | notTwoArguments method count =>
    method ++ "() takes exactly 2 arguments, got " ++ count.repr
  | noNameAndValue args => "#set expects a name and a value, got '" ++ args ++ "'"
  | noChoice index => "No pending choice at index " ++ index.repr

/-- Why a file cannot be read as text. -/
inductive FileFault where
  /-- Nothing is there. -/
  | notFound
  /-- The path names a folder. -/
  | isFolder
  /-- A component before the last one names a file. -/
  | notFolder
  /-- The path or one of its components is too long. -/
  | nameTooLong
  /-- The path holds a null character. -/
  | nullInName
  /-- The bytes of the file are not text. -/
  | notText
deriving DecidableEq

/-- The message for a file that cannot be read as text. -/
def FileFault.message : FileFault → String
  | notFound => "No such file or directory (os error 2)"
  | isFolder => "Is a directory (os error 21)"
  | notFolder => "Not a directory (os error 20)"
  | nameTooLong => "File name too long (os error 36)"
  | nullInName => "file name contained an unexpected NUL byte"
  | notText => "stream did not contain valid UTF-8"

/-- Why an operation on collections or playbacks fails. -/
inductive Error where
  /-- A text is not the source of a collection. -/
  | source (error : SourceError)
  /-- A file cannot be read. -/
  | unreadable (path : String) (fault : FileFault)
  /-- A path leads to no script. There is a place when a link was followed to get there. -/
  | missingScript (path : String) (location : Option Location)
  /-- A collection to be played has no scripts. -/
  | emptyCollection (collection : String)
  /-- A condition that was reached cannot be read. -/
  | condition (location : Location) (error : SyntaxError)
  /-- A speech was reached before any cue. -/
  | noSpeaker (location : Location)
  /-- Variables or visits are asked for and no store is attached. -/
  | noStore (location : Location)
  /-- Arguments are wrong. -/
  | arguments (location : Location) (fault : ArgumentFault)
  /-- The script or the host gave up. -/
  | thrown (location : Location) (message : String)
deriving DecidableEq

namespace Error

/-- Where the playback stood, if the error says so. -/
def location? : Error → Option Location
  | source _ | unreadable _ _ | emptyCollection _ => none
  | missingScript _ location => location
  | condition location _ | noSpeaker location | noStore location | arguments location _
  | thrown location _ => some location

/-- What is wrong with a condition, if the error is about one. -/
def syntax? : Error → Option SyntaxError
  | source (.invalidCondition _ _ cause) => some cause
  | condition _ error => some error
  | _ => none

/-- The message for an error. -/
def message : Error → String
  | source error => error.message
  | unreadable path fault => "Failed to read script file " ++ path ++ ": " ++ fault.message
  | missingScript path location =>
    (match location with
      | some location => location.text ++ " "
      | none => "") ++ "Could not find script at path '" ++ path ++ "'."
  | emptyCollection collection =>
    "Script collection '" ++ collection ++ "' contains no scripts."
  | condition location error => location.text ++ " " ++ error.message
  | noSpeaker location =>
    location.text ++ " Tried to output a dialogue line but no character was set."
  | noStore location =>
    location.text ++ " No variable store has been attached! Attach one to the runner before " ++
      "playing scripts that read or write variables."
  | arguments location fault => location.text ++ " " ++ fault.message
  | thrown location message => location.text ++ " " ++ message

end Error

end Dialogue
