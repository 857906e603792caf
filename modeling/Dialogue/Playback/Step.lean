/-
# Steps

A step runs at most one line. A cue sets the speaker, a link adds a choice, a quote is shown, a tag
is carried out, and a speech is said and has to be confirmed. At the end of a script the playback
is over if there are no choices, follows a single choice by itself if it is set up to, and offers
the choices otherwise. While a playback waits or is over, a step does nothing. An error ends the
playback.

A script that is left or played to the end counts as visited.
-/

import Dialogue.Library.Basic
import Dialogue.Playback.Scene

namespace Dialogue

/-- What a playback is set up with. -/
structure Setup (μ : Type) where
  /-- The host that shows the playback. -/
  host : Host μ
  /-- The library that links out of the collection are looked up in. -/
  library : Option Library
  /-- Whether a single choice is followed without asking. -/
  autoFollow : Bool

namespace Scene

variable {μ : Type} (setup : Setup μ)

/-- Ends the playback without further ado. -/
def halt (scene : Scene μ) : Scene μ :=
  { scene with state := { scene.state with finished := true }, status := .complete }

/-- Ends the playback in order: the running script has been visited and the host is told. -/
def conclude (scene : Scene μ) : Scene μ :=
  let scene := halt { scene with stage := scene.stage.markVisited scene.state }
  { scene with stage := scene.stage.called .finish (setup.host.finish scene.stage.toWorld) }

/-- Makes the playback wait. -/
def suspend (scene : Scene μ) (suspension : Suspension) : Outcome μ Progress :=
  .ok (.suspended suspension) { scene with status := .suspended suspension }

/-- Leaves the running script and enters another one. -/
def enter (scene : Scene μ) (collection : Collection) (scriptIndex : Nat) : Scene μ :=
  { scene with
    state := scene.state.enter collection scriptIndex
    stage := scene.stage.markVisited scene.state }

/-- The script that a path leads to from a state, given as the path of a collection and the name
of a script. The path of the own collection needs no library. If nothing is there, `missing` is the
error. -/
def destination (library : Option Library) (state : State) (file name : String)
    (missing : Error) : Except Error (Collection × Nat) :=
  if state.collection.isAt file then
    match state.collection.scriptIndex? (some name) with
    | some index => .ok (state.collection, index)
    | none => .error missing
  else
    match library with
    | none => .error missing
    | some library =>
      match library file with
      | .error (.missingScript _ _) => .error missing
      | .error error => .error error
      | .ok collection =>
        match collection.scriptIndex? (some name) with
        | some index => .ok (collection, index)
        | none => .error missing

/-- Follows a link to its script. -/
def follow (link : Link) (scene : Scene μ) : Outcome μ Unit :=
  let state := scene.state
  let path := state.resolve link.target
  let location := { state.location with lineNo := link.lineNo }
  let scene :=
    if state.script.linksTo path then scene
    else { scene with stage := scene.stage.note location (.notAnnounced path state.script.name) }
  let (file, name) := Path.splitName path
  match destination setup.library state file name (.missingScript path (some location)) with
  | .error error => .error error scene
  | .ok (collection, index) => .ok () ((scene.note (.jumping path)).enter collection index)

/-- Goes on after the last line of a script. -/
def exhaust (scene : Scene μ) : Outcome μ Progress :=
  match scene.state.choices with
  | [] => .ok .complete (scene.conclude setup)
  | choices =>
    match setup.autoFollow, choices with
    | true, [link] =>
      match scene.follow setup link with
      | .error error scene => .error error scene
      | .ok () scene => .ok .moved scene
    | _, _ =>
      let world := setup.host.choices choices scene.stage.toWorld
      suspend { scene with stage := scene.stage.called (.choices choices) world } (.choices choices)

/-- Runs a line. -/
def run (line : Line) (scene : Scene μ) : Outcome μ Progress :=
  match line with
  | .cue cue => .ok .moved (scene.withState { scene.state with speaker := some cue })
  | .speech speech =>
    match scene.state.speaker with
    | none => .error (.noSpeaker scene.state.location) scene
    | some cue =>
      let world := setup.host.speech cue speech scene.stage.toWorld
      suspend { scene with stage := scene.stage.called (.speech cue speech) world }
        (.speech cue speech)
  | .link link =>
    .ok .moved (scene.withState { scene.state with choices := scene.state.choices ++ [link] })
  | .quote quote =>
    let world := setup.host.quote quote scene.stage.toWorld
    .ok .moved { scene with stage := scene.stage.called (.quote quote) world }
  | .tag tag =>
    match scene.runTag setup.host tag with
    | .error error scene => .error error scene
    | .ok () scene => .ok .moved scene

/-- Moves past the line that has been run. The playback ends here if it was told to and does not
wait. -/
def moveOn (progress : Progress) (scene : Scene μ) : Outcome μ Progress :=
  let scene := scene.withState { scene.state with cursor := scene.state.cursor + 1 }
  match progress with
  | .moved =>
    if scene.state.finished then .ok .complete (scene.conclude setup) else .ok .moved scene
  | progress => .ok progress scene

/-- A step of a playback that has started and neither waits nor is over. -/
def play (scene : Scene μ) : Outcome μ Progress :=
  if scene.state.finished then .ok .complete (scene.conclude setup)
  else
    match scene.state.line? with
    | none => scene.exhaust setup
    | some line =>
      match scene.run setup line with
      | .error error scene => .error error scene
      | .ok progress scene => scene.moveOn setup progress

/-- Starts the playback. -/
def begin (scene : Scene μ) : Scene μ :=
  let world := setup.host.start scene.state scene.stage.toWorld
  { scene with
    status := .running
    stage := scene.stage.called (.start scene.state.script.path) world }

/-- A step of a playback, before an error ends it. -/
def attempt (scene : Scene μ) : Outcome μ Progress :=
  match scene.status with
  | .complete => .ok .complete scene
  | .suspended suspension => .ok (.suspended suspension) scene
  | .notStarted => (scene.begin setup).play setup
  | .running => scene.play setup

/-- Leaves a notice of a failure, if the error says where it happened. -/
def noteFailure (scene : Scene μ) (error : Error) : Scene μ :=
  match error.location? with
  | some location => { scene with stage := scene.stage.note location .halted }
  | none => scene

/-- A step of a playback. -/
def step (scene : Scene μ) : Outcome μ Progress :=
  match scene.attempt setup with
  | .error error scene => .error error (scene.noteFailure error).halt
  | .ok progress scene => .ok progress scene

/-- Steps until the playback waits or is over, but not more often than a limit. Without an answer
the limit has been reached. -/
def advance (limit : Nat) (scene : Scene μ) : Outcome μ (Option Progress) :=
  match limit with
  | 0 => .ok none scene
  | limit + 1 =>
    match scene.step setup with
    | .error error scene => .error error scene
    | .ok .moved scene => advance limit scene
    | .ok progress scene => .ok (some progress) scene

end Scene

end Dialogue
