/-
# Sessions

In a session several playbacks stand on one stage. They have the host, the library and the stores
in common, and their operations may come in any order. Each has its own place in its script and its
own way with single choices. A playback can also be driven without a break: speeches are confirmed
at once, and choices are taken from a list of picks.
-/

import Dialogue.Playback.Operation

namespace Dialogue

variable {μ : Type}

/-- What a playback that is driven without a break comes to. -/
inductive Ending where
  /-- It is over. -/
  | complete
  /-- A choice waits and there is no pick left. -/
  | outOfPicks
  /-- The limit on rounds has been reached. -/
  | outOfRounds
deriving DecidableEq

namespace Scene

/-- Gives the playback a new store of its own. -/
def attach (scene : Scene μ) (store : Store) : Scene μ :=
  let id := scene.stage.stores.fresh
  { scene with
    state := { scene.state with store := some id }
    stage := scene.stage.putStore id store }

/-- The store of the playback, if there is one. -/
def store? (scene : Scene μ) : Option Store :=
  scene.state.store.map scene.stage.stores.get

/-- Changes the store of the playback, if there is one. -/
def modifyStore (scene : Scene μ) (change : Store → Store) : Scene μ :=
  match scene.state.store with
  | some id => { scene with stage := scene.stage.putStore id (change (scene.stage.stores.get id)) }
  | none => scene

/-- Drives the playback for a number of rounds. A round is a step and, if the playback waits after
it, the confirmation of the speech or the next pick. -/
def drive (setup : Setup μ) : (rounds : Nat) → (picks : List Nat) → Scene μ → Outcome μ Ending
  | 0, _, scene => .ok .outOfRounds scene
  | rounds + 1, picks, scene =>
    match scene.step setup with
    | .error error scene => .error error scene
    | .ok .complete scene => .ok .complete scene
    | .ok .moved scene => drive setup rounds picks scene
    | .ok (.suspended (.speech _ _)) scene => drive setup rounds picks scene.resume
    | .ok (.suspended (.choices _)) scene =>
      match picks with
      | [] => .ok .outOfPicks scene
      | pick :: picks =>
        match scene.selectAt setup pick with
        | .error error scene => .error error scene
        | .ok () scene => drive setup rounds picks scene

end Scene

/-- A playback in a session. -/
structure Player where
  /-- The playback. -/
  playback : Playback
  /-- Whether the playback follows a single choice without asking. -/
  autoFollow : Bool

/-- Playbacks on one stage. -/
structure Session (μ : Type) where
  /-- The host of all playbacks. -/
  host : Host μ
  /-- The library of all playbacks. -/
  library : Option Library
  /-- The playbacks. -/
  players : List Player
  /-- What lies around the playbacks. -/
  stage : Stage μ

namespace Session

/-- What a player's playback is set up with. -/
def setup (session : Session μ) (player : Player) : Setup μ :=
  ⟨session.host, session.library, player.autoFollow⟩

/-- The scene of a player. -/
def scene (session : Session μ) (player : Player) : Scene μ :=
  { player.playback with stage := session.stage }

/-- Adds a player. -/
def add (session : Session μ) (player : Player) : Session μ :=
  { session with players := session.players ++ [player] }

/-- The session after the scene of the player at an index has changed. -/
def update (session : Session μ) (index : Nat) (scene : Scene μ) : Session μ :=
  { session with
    players := session.players.modify index fun player =>
      { player with playback := scene.toPlayback }
    stage := scene.stage }

/-- Lets the player at an index act, if there is one. -/
def act {α : Type} (session : Session μ) (index : Nat)
    (action : Setup μ → Scene μ → Outcome μ α) : Option (Except Error α × Session μ) :=
  session.players[index]?.map fun player =>
    let outcome := action (session.setup player) (session.scene player)
    (outcome.result, session.update index outcome.scene)

/-- Carries out an operation on the playback of the player at an index, if there is one. -/
def perform (session : Session μ) (index : Nat) (operation : Operation) :
    Option (Except Error Answer × Session μ) :=
  session.act index fun setup scene => scene.perform setup operation

end Session

end Dialogue
