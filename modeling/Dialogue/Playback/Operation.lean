/-
# Operations on a playback

Apart from steps, a host confirms a speech, makes a choice and may end the playback. A call that
does not fit what the playback waits for changes nothing; it leaves a notice or fails. A choice
whose link leads nowhere ends the playback.
-/

import Dialogue.Playback.Step

namespace Dialogue

/-- Something that is done to a playback. -/
inductive Operation where
  /-- Runs at most one line. -/
  | step
  /-- Steps until the playback waits or is over, with a limit on the steps. -/
  | advance (limit : Nat)
  /-- Confirms the speech that waits. -/
  | resume
  /-- Chooses a link. -/
  | select (link : Link)
  /-- Chooses the offered link at an index. -/
  | selectAt (index : Nat)
  /-- Ends the playback with its next step. -/
  | finish
deriving DecidableEq

/-- What an operation answers. -/
inductive Answer where
  /-- What the last step led to. -/
  | progress (progress : Progress)
  /-- The limit on steps has been reached. -/
  | unfinished
  /-- The operation has nothing to say. -/
  | done
deriving DecidableEq

namespace Scene

variable {μ : Type} (setup : Setup μ)

/-- Confirms the speech that waits. -/
def resume (scene : Scene μ) : Scene μ :=
  match scene.status with
  | .suspended (.speech _ _) => { scene with status := .running }
  | _ => scene.note .noSpeechPending

/-- Chooses a link. One that was not offered may be chosen, but that is noticed. -/
def select (link : Link) (scene : Scene μ) : Outcome μ Unit :=
  match scene.status with
  | .suspended (.choices offered) =>
    let scene := if link ∈ offered then scene else scene.note (.notOffered link.target)
    match scene.follow setup link with
    | .error error scene => .error error scene.halt
    | .ok () scene => .ok () { scene with status := .running }
  | _ => .ok () (scene.note .noChoicesPending)

/-- The offered link at an index. -/
def offered? (scene : Scene μ) (index : Nat) : Option Link :=
  match scene.status with
  | .suspended (.choices offered) => offered[index]?
  | _ => none

/-- Chooses the offered link at an index. -/
def selectAt (index : Nat) (scene : Scene μ) : Outcome μ Unit :=
  match scene.offered? index with
  | some link => scene.select setup link
  | none => .error (.arguments scene.state.location (.noChoice index)) scene

/-- Ends the playback with its next step. -/
def finish (scene : Scene μ) : Scene μ :=
  scene.withState { scene.state with finished := true }

/-- Carries out an operation. -/
def perform (operation : Operation) (scene : Scene μ) : Outcome μ Answer :=
  match operation with
  | .step => (scene.step setup).map Answer.progress
  | .advance limit =>
    (scene.advance setup limit).map fun
      | some progress => .progress progress
      | none => .unfinished
  | .resume => .ok .done scene.resume
  | .select link => (scene.select setup link).map fun _ => .done
  | .selectAt index => (scene.selectAt setup index).map fun _ => .done
  | .finish => .ok .done scene.finish

end Scene

end Dialogue
