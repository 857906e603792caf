/-
# Runs

A run is any finite sequence of operations on one playback, whether or not they fit what the
playback waits for. It starts with a new playback, on a stage where no call has been made and no
notice has been left.
-/

import Dialogue.Playback.Operation

namespace Dialogue

variable {μ : Type}

/-- A host that shows nothing and knows no tags and no methods. -/
def Host.idle : Host μ where
  start := fun _ world => world
  speech := fun _ _ world => world
  quote := fun _ world => world
  choices := fun _ world => world
  finish := fun world => world
  tag := fun _ _ world => ({ outcome := .ok false }, world)
  condition := fun _ _ world => (none, world)

/-- A new playback stands before the first line of a script of its collection. -/
theorem Playback.lt_length_of_start {collection : Collection} {name : Option String}
    {store : Option StoreId} {playback : Playback}
    (hstarted : Playback.start collection name store = .ok playback) :
    ∃ index, index < collection.scripts.length ∧
      playback = ⟨.start collection index store, .notStarted⟩ := by
  unfold Playback.start at hstarted
  split at hstarted
  · cases hstarted
  · rename_i hfilled
    split at hstarted
    · rename_i index hfound
      cases hstarted
      exact ⟨index, Collection.lt_length_of_scriptIndex? hfound, rfl⟩
    · cases hstarted
      exact ⟨0, List.length_pos_iff.mpr hfilled, rfl⟩
    · cases hstarted

theorem Playback.eq_of_start {collection : Collection} {name : Option String}
    {store : Option StoreId} {playback : Playback}
    (hstarted : Playback.start collection name store = .ok playback) :
    ∃ index, playback = ⟨.start collection index store, .notStarted⟩ := by
  obtain ⟨index, -, hsame⟩ := lt_length_of_start hstarted
  exact ⟨index, hsame⟩

theorem Playback.start_of_scriptIndex? {collection : Collection} {name : Option String}
    {index : Nat} (hfound : collection.scriptIndex? name = some index) (store : Option StoreId) :
    Playback.start collection name store = .ok ⟨.start collection index store, .notStarted⟩ := by
  have hfilled : collection.scripts ≠ [] :=
    List.ne_nil_of_length_pos (Nat.zero_lt_of_lt (Collection.lt_length_of_scriptIndex? hfound))
  unfold Playback.start
  rw [if_neg hfilled, hfound]

/-- A playback on a stage where nothing has happened yet. -/
def Playback.opening (playback : Playback) (world : World μ) : Scene μ :=
  ⟨playback, ⟨world, [], []⟩⟩

namespace Scene

variable (setup : Setup μ)

/-- The scene after some operations. An operation that fails is followed by the next one. -/
def performAll (operations : List Operation) (scene : Scene μ) : Scene μ :=
  operations.foldl (fun scene operation => (scene.perform setup operation).scene) scene

theorem performAll_append (earlier later : List Operation) (scene : Scene μ) :
    scene.performAll setup (earlier ++ later) =
      (scene.performAll setup earlier).performAll setup later :=
  List.foldl_append

variable {setup} {scene after : Scene μ}

theorem advance_succ (hmoved : scene.step setup = .ok .moved after) (limit : Nat) :
    scene.advance setup (limit + 1) = after.advance setup limit := by
  rw [advance, hmoved]

/-- An advance makes no second step if the first one does not move. -/
theorem scene_advance_of_stops (hstops : ∀ after, scene.step setup ≠ .ok .moved after)
    (limit : Nat) : (scene.advance setup (limit + 1)).scene = (scene.step setup).scene := by
  rw [advance]
  cases hstepped : scene.step setup with
  | error error after => rfl
  | ok progress after =>
      cases progress with
      | moved => exact absurd hstepped (hstops after)
      | suspended _ | complete => rfl

/-- What an advance has done is told by going along its steps: none are left, or the first one moves
and the others follow, or it does not and is the last one. -/
theorem advance_relates {Q : Nat → Scene μ → Scene μ → Prop} (hspent : ∀ scene, Q 0 scene scene)
    (hmoves : ∀ {limit scene between after}, scene.step setup = .ok .moved between →
      Q limit between after → Q (limit + 1) scene after)
    (hstops : ∀ {limit scene}, (∀ after, scene.step setup ≠ .ok .moved after) →
      Q (limit + 1) scene (scene.step setup).scene)
    (limit : Nat) (scene : Scene μ) : Q limit scene (scene.advance setup limit).scene := by
  induction limit generalizing scene with
  | zero => exact hspent scene
  | succ limit ih =>
      by_cases hmoved : ∃ after, scene.step setup = .ok .moved after
      · obtain ⟨after, hmoved⟩ := hmoved
        rw [advance_succ hmoved]
        exact hmoves hmoved (ih after)
      · rw [not_exists] at hmoved
        rw [scene_advance_of_stops hmoved]
        exact hstops hmoved

/-- An advance keeps what every step keeps. -/
theorem advance_keeps {P : Scene μ → Prop}
    (hsteps : ∀ {scene}, P scene → P (scene.step setup).scene) (limit : Nat) (hstart : P scene) :
    P (scene.advance setup limit).scene := by
  refine advance_relates (Q := fun _ before after => P before → P after) (fun _ => id) ?_ ?_ limit
    scene hstart
  · intro _ before between after hmoved hlater hbefore
    have hbetween := hsteps hbefore
    rw [hmoved] at hbetween
    exact hlater hbetween
  · exact fun _ hbefore => hsteps hbefore

end Scene

end Dialogue
