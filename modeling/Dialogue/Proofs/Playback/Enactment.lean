/-
# Enacting a block tree

A playback runs the flat lines of a script: it skips forward to the tags that end branches and
remembers whether it has landed on a further condition or has come to it from a branch. Here the
same script is enacted directly from its block tree, by recursion on the tree and without any
skipping: of a chain, the conditions are decided in order up to the first one that holds, and its
branch is enacted and no other.

What the playback stands at does not matter to the tree; it is kept up only because a host and an
error are told the place.
-/

import Dialogue.Playback.Step
import Dialogue.Proofs.Playback.BlockTree

namespace Dialogue

variable {μ : Type}

/-- What enacting some lines comes to. -/
inductive Passage (μ : Type) where
  /-- All lines have been enacted. -/
  | onward (scene : Scene μ)
  /-- A line has told the playback to end. -/
  | stopped (scene : Scene μ)
  /-- A line has failed. -/
  | failed (error : Error) (scene : Scene μ)

/-- The scene with the playback standing at a line. -/
def Scene.standAt (scene : Scene μ) (position : Nat) : Scene μ :=
  scene.withState { scene.state with cursor := position }

namespace Passage

/-- Goes on with other lines if all lines so far have been enacted. -/
def andThen (passage : Passage μ) (next : Scene μ → Passage μ) : Passage μ :=
  match passage with
  | onward scene => next scene
  | stopped scene => stopped scene
  | failed error scene => failed error scene

/-- The passage with the playback standing at a line once all lines have been enacted. -/
def endAt (passage : Passage μ) (position : Nat) : Passage μ :=
  passage.andThen fun scene => onward (scene.standAt position)

end Passage

theorem Passage.endAt_andThen (passage : Passage μ) (next : Scene μ → Passage μ) (position : Nat) :
    (passage.andThen next).endAt position =
      passage.andThen fun scene => (next scene).endAt position := by
  cases passage <;> rfl

namespace Scene

variable (setup : Setup μ)

/-- Enacts a plain line. A speech is said and counts as read at once. -/
def enactLine (line : Line) (scene : Scene μ) : Passage μ :=
  match line with
  | .cue cue => .onward (scene.withState { scene.state with speaker := some cue })
  | .speech speech =>
    match scene.state.speaker with
    | none => .failed (.noSpeaker scene.state.location) scene
    | some cue =>
      let world := setup.host.speech cue speech scene.stage.toWorld
      .onward { scene with stage := scene.stage.called (.speech cue speech) world }
  | .link link =>
    .onward (scene.withState { scene.state with choices := scene.state.choices ++ [link] })
  | .quote quote =>
    let world := setup.host.quote quote scene.stage.toWorld
    .onward { scene with stage := scene.stage.called (.quote quote) world }
  | .tag tag =>
    match scene.runTag setup.host tag with
    | .error error scene => .failed error scene
    | .ok () scene => if scene.state.finished then .stopped scene else .onward scene

/-- Decides a condition and goes on with one of two passages. -/
def choose (condition : String) (holds fails : Scene μ → Passage μ) (scene : Scene μ) :
    Passage μ :=
  match scene.state.decide setup.host condition scene.stage with
  | .error error stage => .failed error { scene with stage := stage }
  | .ok true stage => holds { scene with stage := stage }
  | .ok false stage => fails { scene with stage := stage }

end Scene

mutual

/-- Enacts a block. Its first line stands at a position of the script, which matters only for what
the host and errors are told about the place. -/
def Block.enact (setup : Setup μ) (position : Nat) (scene : Scene μ) : Block → Passage μ
  | .done => .onward scene
  | .line line _ rest =>
    ((scene.standAt position).enactLine setup line).andThen fun scene =>
      rest.enact setup (position + 1) scene
  | .chain tag _ body others rest =>
    let next := position + 1 + body.size
    ((scene.standAt position).choose setup tag.args
        (fun scene => body.enact setup (position + 1) scene)
        (fun scene => others.enact setup next scene)).andThen fun scene =>
      rest.enact setup (next + others.size) scene

/-- Enacts what is left of a chain of which no condition has held. -/
def Branches.enact (setup : Setup μ) (position : Nat) (scene : Scene μ) : Branches → Passage μ
  | .endIf _ _ => .onward scene
  | .otherwise _ _ body _ _ => body.enact setup (position + 1) scene
  | .elseIf tag _ body others =>
    (scene.standAt position).choose setup tag.args
      (fun scene => body.enact setup (position + 1) scene)
      (fun scene => others.enact setup (position + 1 + body.size) scene)

end

theorem Scene.endAt_choose (setup : Setup μ) (condition : String)
    (holds fails : Scene μ → Passage μ) (scene : Scene μ) (position : Nat) :
    (scene.choose setup condition holds fails).endAt position =
      scene.choose setup condition (fun scene => (holds scene).endAt position)
        fun scene => (fails scene).endAt position := by
  rw [choose, choose]
  split <;> rfl

namespace Scene

variable {setup : Setup μ} {scene after : Scene μ}

/-- The playback runs through the lines of a script. It has not been told to end, and it has not
landed on a further condition. -/
structure Plays (scene : Scene μ) (lines : List Line) : Prop where
  lines : scene.state.script.lines = lines
  running : scene.status = .running
  unfinished : scene.state.finished = false
  settled : scene.state.retrying = false

/-- Another scene stands at the same place of the same script. -/
structure SameSpot (scene after : Scene μ) : Prop where
  script : after.state.script = scene.state.script
  cursor : after.state.cursor = scene.state.cursor
  status : after.status = scene.status
  retrying : after.state.retrying = scene.state.retrying

variable {lines : List Line} {position : Nat} {host : Host μ} {tag : Tag}

theorem Plays.standAt (hplays : scene.Plays lines) (position : Nat) :
    (scene.standAt position).Plays lines :=
  ⟨hplays.lines, hplays.running, hplays.unfinished, hplays.settled⟩

theorem Plays.of_sameSpot (hplays : scene.Plays lines) (hsame : scene.SameSpot after)
    (hunfinished : after.state.finished = false) : after.Plays lines where
  lines := by rw [hsame.script, hplays.lines]
  running := by rw [hsame.status, hplays.running]
  unfinished := hunfinished
  settled := by rw [hsame.retrying, hplays.settled]

theorem Plays.line?_standAt {line : Line} {rest : List Line} (hplays : scene.Plays lines)
    (hhere : lines.drop position = line :: rest) :
    (scene.standAt position).state.line? = some line := by
  have hfound : lines[position]? = some line := by
    rw [← Nat.add_zero position, ← List.getElem?_drop, hhere]
    rfl
  rw [← hplays.lines] at hfound
  exact hfound

theorem sameSpot_runUnknown (hrun : scene.runUnknown host tag = .ok () after) :
    scene.SameSpot after := by
  simp only [runUnknown] at hrun
  split at hrun
  · cases hrun
  · cases hrun
    exact ⟨rfl, rfl, rfl, rfl⟩
  · cases hrun
    exact ⟨rfl, rfl, rfl, rfl⟩

theorem sameSpot_runAssignment (hrun : scene.runAssignment tag = .ok () after) :
    scene.SameSpot after := by
  simp only [runAssignment] at hrun
  split at hrun
  · cases hrun
  · split at hrun
    · cases hrun
    · cases hrun
      exact ⟨rfl, rfl, rfl, rfl⟩

/-- A tag that is no part of a chain leaves the playback where it is. -/
theorem sameSpot_runTag (hplain : (Line.tag tag).isPlain = true)
    (hrun : scene.runTag host tag = .ok () after) : scene.SameSpot after := by
  have hinert : tag.opensBlock = false ∧ tag.endsBranch = false := by
    simpa [Line.isPlain, Line.tag?] using hplain
  have hnotIf := hinert.1
  have hnotEnd := hinert.2
  rw [Bool.eq_false_iff, Ne, Tag.opensBlock_iff] at hnotIf
  rw [Bool.eq_false_iff, Ne, Tag.endsBranch_iff] at hnotEnd
  rw [runTag] at hrun
  split at hrun
  case h_1 => exact sameSpot_runUnknown hrun
  case h_2 hknown => exact absurd hknown hnotIf
  case h_3 hknown => exact absurd (.inl (.inr hknown)) hnotEnd
  case h_4 hknown => exact absurd (.inl (.inl hknown)) hnotEnd
  case h_7 => exact sameSpot_runAssignment hrun
  case h_11 => cases hrun
  all_goals
    cases hrun
    exact ⟨rfl, rfl, rfl, rfl⟩

/-- A plain line goes on in the same script. -/
theorem Plays.of_enactLine {line : Line} (hplays : scene.Plays lines)
    (hplain : line.isPlain = true) (henacted : scene.enactLine setup line = .onward after) :
    after.Plays lines := by
  cases line with
  | cue cue =>
      cases henacted
      exact ⟨hplays.lines, hplays.running, hplays.unfinished, hplays.settled⟩
  | speech speech =>
      simp only [enactLine] at henacted
      split at henacted
      · cases henacted
      · cases henacted
        exact ⟨hplays.lines, hplays.running, hplays.unfinished, hplays.settled⟩
  | link link =>
      cases henacted
      exact ⟨hplays.lines, hplays.running, hplays.unfinished, hplays.settled⟩
  | quote quote =>
      cases henacted
      exact ⟨hplays.lines, hplays.running, hplays.unfinished, hplays.settled⟩
  | tag tag =>
      simp only [enactLine] at henacted
      split at henacted
      · cases henacted
      · rename_i hrun
        split at henacted
        · cases henacted
        · rename_i hunfinished
          cases henacted
          exact hplays.of_sameSpot (sameSpot_runTag hplain hrun) (Bool.eq_false_iff.mpr hunfinished)

end Scene

namespace Scene

variable {setup : Setup μ} {scene after : Scene μ} {lines : List Line}

theorem Plays.of_choose {condition : String} {holds fails : Scene μ → Passage μ}
    (hplays : scene.Plays lines)
    (honHolds : ∀ between : Scene μ, between.Plays lines →
      holds between = .onward after → after.Plays lines)
    (honFails : ∀ between : Scene μ, between.Plays lines →
      fails between = .onward after → after.Plays lines)
    (hchosen : scene.choose setup condition holds fails = .onward after) : after.Plays lines := by
  have hsame (stage : Stage μ) : ({ scene with stage := stage } : Scene μ).Plays lines :=
    ⟨hplays.lines, hplays.running, hplays.unfinished, hplays.settled⟩
  rw [choose] at hchosen
  split at hchosen
  · cases hchosen
  · exact honHolds _ (hsame _) hchosen
  · exact honFails _ (hsame _) hchosen

end Scene

theorem Passage.eq_onward_of_andThen {passage : Passage μ} {next : Scene μ → Passage μ}
    {after : Scene μ} (honward : passage.andThen next = .onward after) :
    ∃ between, passage = .onward between ∧ next between = .onward after := by
  cases passage with
  | onward between => exact ⟨between, rfl, honward⟩
  | stopped between => cases honward
  | failed error between => cases honward

mutual

theorem Block.plays_enact {setup : Setup μ} {lines : List Line} {after : Scene μ} :
    (block : Block) → ∀ {position : Nat} {scene : Scene μ}, scene.Plays lines →
      block.enact setup position scene = .onward after → after.Plays lines
  | .done, _, _, hplays, henacted => by
      rw [Block.enact] at henacted
      cases henacted
      exact hplays
  | .line line hplain rest, position, _, hplays, henacted => by
      rw [Block.enact] at henacted
      obtain ⟨between, hplayed, honward⟩ := Passage.eq_onward_of_andThen henacted
      exact rest.plays_enact ((hplays.standAt position).of_enactLine hplain hplayed) honward
  | .chain tag _ body others rest, position, _, hplays, henacted => by
      rw [Block.enact] at henacted
      obtain ⟨between, hchosen, honward⟩ := Passage.eq_onward_of_andThen henacted
      refine rest.plays_enact ?_ honward
      exact (hplays.standAt position).of_choose
        (fun _ hplays hplayed => body.plays_enact hplays hplayed)
        (fun _ hplays hplayed => others.plays_enact hplays hplayed) hchosen

theorem Branches.plays_enact {setup : Setup μ} {lines : List Line} {after : Scene μ} :
    (branches : Branches) → ∀ {position : Nat} {scene : Scene μ}, scene.Plays lines →
      branches.enact setup position scene = .onward after → after.Plays lines
  | .endIf _ _, _, _, hplays, henacted => by
      rw [Branches.enact] at henacted
      cases henacted
      exact hplays
  | .otherwise _ _ body _ _, _, _, hplays, henacted => by
      rw [Branches.enact] at henacted
      exact body.plays_enact hplays henacted
  | .elseIf tag _ body others, position, _, hplays, henacted => by
      rw [Branches.enact] at henacted
      exact (hplays.standAt position).of_choose
        (fun _ hplays hplayed => body.plays_enact hplays hplayed)
        (fun _ hplays hplayed => others.plays_enact hplays hplayed) henacted

end

end Dialogue
