/-
# Scenes

A scene is a playback on its stage. The tags that the playback knows are carried out here. A tag is
left on the last line that it uses up, and the playback moves past that line afterwards.
-/

import Dialogue.Playback.Block
import Dialogue.Playback.Verdict

namespace Dialogue

/-- A playback on its stage. -/
structure Scene (μ : Type) extends Playback where
  /-- What lies around the playback. -/
  stage : Stage μ

/-- What an operation on a scene leads to: a result or an error, and the scene after it. -/
inductive Outcome (μ α : Type) where
  | ok (value : α) (scene : Scene μ)
  | error (error : Error) (scene : Scene μ)

namespace Outcome

variable {μ α β : Type}

/-- The scene after an operation. -/
def scene : Outcome μ α → Scene μ
  | ok _ scene => scene
  | error _ scene => scene

/-- What an operation answers. -/
def result : Outcome μ α → Except Error α
  | ok value _ => .ok value
  | error failure _ => .error failure

/-- Changes the result of an operation. -/
def map (f : α → β) : Outcome μ α → Outcome μ β
  | ok value scene => ok (f value) scene
  | error failure scene => error failure scene

@[simp]
theorem scene_map (f : α → β) (outcome : Outcome μ α) : (outcome.map f).scene = outcome.scene := by
  cases outcome <;> rfl

@[simp]
theorem result_map (f : α → β) (outcome : Outcome μ α) :
    (outcome.map f).result = outcome.result.map f := by
  cases outcome <;> rfl

end Outcome

namespace Scene

variable {μ : Type} (host : Host μ)

/-- Leaves a notice at the place of the playback. -/
def note (scene : Scene μ) (remark : Remark) : Scene μ :=
  { scene with stage := scene.stage.note scene.state.location remark }

/-- The scene with another state. -/
def withState (scene : Scene μ) (state : State) : Scene μ :=
  { scene with state := state }

/-- Skips the branches that follow one that has been played, up to the end of their block. -/
def skipBlock (scene : Scene μ) : Scene μ :=
  match scene.state.skipTo Tag.closesBlock with
  | (some _, state) => scene.withState state
  | (none, state) => (scene.withState state).note .unclosedBranch

/-- Skips a branch whose condition does not hold. A tag with another condition is left to be run
next. -/
def skipBranch (scene : Scene μ) (name : String) : Scene μ :=
  match scene.state.skipTo Tag.endsBranch with
  | (some found, state) =>
    if found.retriesBlock then
      scene.withState { state with cursor := state.cursor - 1, retrying := true }
    else scene.withState state
  | (none, state) => (scene.withState state).note (.unclosedBlock name)

/-- Runs a tag with a condition: the branch after it is played if the condition holds. -/
def runCondition (tag : Tag) (scene : Scene μ) : Outcome μ Unit :=
  let scene := scene.withState { scene.state with retrying := false }
  match scene.state.decide host tag.args scene.stage with
  | .error error stage => .error error { scene with stage := stage }
  | .ok true stage => .ok () { scene with stage := stage }
  | .ok false stage => .ok () (skipBranch { scene with stage := stage } tag.name)

/-- The text between quotes, if a text stands in quotes, or else the text itself. -/
def unquote (text : List Char) : List Char :=
  match text with
  | '"' :: rest => if rest.getLast? = some '"' then rest.dropLast else text
  | _ => text

/-- The name and the value of an assignment: what stands before and after the first white
space. -/
def assignment? (args : String) : Option (String × String) :=
  let text := Text.trim args.toList
  match text.dropWhile (!Text.isBlank ·) with
  | [] => none
  | rest =>
    some (String.ofList (text.takeWhile (!Text.isBlank ·)),
      String.ofList (unquote (Text.trim rest)))

/-- Runs a tag that sets a variable. -/
def runAssignment (tag : Tag) (scene : Scene μ) : Outcome μ Unit :=
  match scene.state.storeId with
  | .error error => .error error scene
  | .ok id =>
    match assignment? tag.args with
    | none =>
      .error (.arguments scene.state.location (.noNameAndValue tag.args)) scene
    | some (name, value) =>
      let store := (scene.stage.stores.get id).set name (some value)
      .ok () (note { scene with stage := scene.stage.putStore id store } (.assigned name value))

/-- Runs a tag that the playback does not know: the host may handle it. -/
def runUnknown (tag : Tag) (scene : Scene μ) : Outcome μ Unit :=
  let (reply, world) := host.tag tag scene.state scene.stage.toWorld
  let state := { scene.state with
    finished := scene.state.finished || reply.finish
    store := reply.store.or scene.state.store }
  let scene := { scene with state := state, stage := scene.stage.called (.tag tag) world }
  match reply.outcome with
  | .error error => .error error scene
  | .ok true => .ok () scene
  | .ok false => .ok () (scene.note (.unhandledTag tag.name))

/-- The text of a reminder. -/
def reminder (args : String) : String :=
  if args = "" then "TODO" else "TODO: " ++ args

/-- Runs a tag. A tag with another condition is reached in two ways: from a branch that was not
played, and then its condition counts, or from one that was, and then the block is over. -/
def runTag (tag : Tag) (scene : Scene μ) : Outcome μ Unit :=
  match Directive.ofName? tag.name with
  | none => scene.runUnknown host tag
  | some .ifHolds => scene.runCondition host tag
  | some .elseIfHolds =>
    if scene.state.retrying then scene.runCondition host tag else .ok () scene.skipBlock
  | some .otherwise => .ok () scene.skipBlock
  | some .endIf => .ok () scene
  | some .finish => .ok () (scene.withState { scene.state with finished := true })
  | some .set => scene.runAssignment tag
  | some .debug => .ok () (scene.note (.authored .debug tag.args))
  | some .warn => .ok () (scene.note (.authored .warn tag.args))
  | some .error => .ok () (scene.note (.authored .error tag.args))
  | some .throw => .error (.thrown scene.state.location tag.args) scene
  | some .todo => .ok () (scene.note (.authored .warn (reminder tag.args)))

end Scene

end Dialogue
