/-
# The state of a playback

A playback stands before a line of a script. It knows who speaks, which choices the script has
offered so far, and which store it writes to. It runs line by line until it waits for its host, be
it for a speech to be read or for a choice to be made, or until it is over.
-/

import Dialogue.Collection.Basic
import Dialogue.Error
import Dialogue.Store.Shelf

namespace Dialogue

/-- Where a playback stands. -/
structure State where
  /-- The collection of the running script. -/
  collection : Collection
  /-- The index of the running script in its collection. -/
  scriptIndex : Nat
  /-- The index of the line to run. It may pass the end when the script is exhausted. -/
  cursor : Nat
  /-- The cue that names the speaker. -/
  speaker : Option Cue
  /-- The links that the script has offered so far. -/
  choices : List Link
  /-- Whether the playback ends once the current step does. -/
  finished : Bool
  /-- The mark of the store, if there is one. -/
  store : Option StoreId
  /-- Whether the line to run continues a block of which no condition has held. -/
  retrying : Bool

/-- What a playback waits for. -/
inductive Suspension where
  /-- A speech waits to be read. -/
  | speech (cue : Cue) (speech : Speech)
  /-- A choice waits to be made. -/
  | choices (links : List Link)
deriving DecidableEq

/-- How far a playback has come. -/
inductive Status where
  | notStarted
  | running
  | suspended (suspension : Suspension)
  | complete
deriving DecidableEq

/-- What a step of a playback leads to. -/
inductive Progress where
  /-- A line has run and the playback goes on. -/
  | moved
  /-- The playback waits. -/
  | suspended (suspension : Suspension)
  /-- The playback is over. -/
  | complete
deriving DecidableEq

/-- A playback: where it stands and how far it has come. -/
structure Playback where
  /-- Where the playback stands. -/
  state : State
  /-- How far the playback has come. -/
  status : Status

namespace State

/-- The running script. -/
def script (state : State) : Script :=
  state.collection.scripts.getD state.scriptIndex (.empty state.collection.path)

/-- The line to run. -/
def line? (state : State) : Option Line :=
  state.script.lines[state.cursor]?

/-- Where the playback is. Past the end of a script that is its last line. -/
def location (state : State) : Location where
  collection := state.collection.name
  script := state.script.name
  lineNo := ((state.line?.or state.script.lines.getLast?).map Line.lineNo).getD 0

/-- The path of a script that is named relative to the running one. The word `this` names the
running script itself. -/
def resolve (state : State) (relative : String) : String :=
  let trimmed := String.ofList (Text.trim relative.toList)
  if Text.sameWord trimmed "this" then state.script.path else state.collection.resolve trimmed

/-- The mark of the store, which has to be there. -/
def storeId (state : State) : Except Error StoreId :=
  match state.store with
  | some id => .ok id
  | none => .error (.noStore state.location)

/-- The state before the first line of a script. -/
def enter (state : State) (collection : Collection) (scriptIndex : Nat) : State :=
  { state with
    collection, scriptIndex, cursor := 0, speaker := none, choices := [], retrying := false }

/-- The state before the first line of the first script to play. -/
def start (collection : Collection) (scriptIndex : Nat) (store : Option StoreId) : State where
  collection := collection
  scriptIndex := scriptIndex
  cursor := 0
  speaker := none
  choices := []
  finished := false
  store := store
  retrying := false

end State

namespace Playback

/-- The playback of a collection from the script with a name. Without a name it starts with the
script without a heading or else with the first one. -/
def start (collection : Collection) (name : Option String) (store : Option StoreId) :
    Except Error Playback :=
  if collection.scripts = [] then .error (.emptyCollection collection.name)
  else
    match name, collection.scriptIndex? name with
    | _, some index => .ok ⟨.start collection index store, .notStarted⟩
    | none, none => .ok ⟨.start collection 0 store, .notStarted⟩
    | some name, none => .error (.missingScript (collection.path ++ "#" ++ name) none)

/-- What the playback waits for. -/
def pending? (playback : Playback) : Option Suspension :=
  match playback.status with
  | .suspended suspension => some suspension
  | _ => none

/-- Whether the playback is over. -/
def isComplete (playback : Playback) : Bool :=
  playback.status == .complete

end Playback

end Dialogue
