/-
# What a playback remembers of a script

A pass through a script begins when the script is entered, be it for the first time or once more.
The lines that have been run since then, each with its place in the script, are all that the
playback remembers: the speaker is the last cue among them, and the choices are the links among
them. Lines of skipped branches are not run and leave nothing, and a jump forgets everything.

So a speech is said by the last cue of its pass, a speech before the first cue of its pass is an
error, and what is offered are the links of the pass.
-/

import Dialogue.Proofs.Playback.Consistency

namespace Dialogue

variable {μ : Type}

/-- The cue on a line, if it is one. -/
def Line.cue? : Line → Option Cue
  | cue line => some line
  | _ => none

/-- The lines that have been run since the running script was entered, each with its index. -/
abbrev Pass := List (Nat × Line)

namespace Pass

/-- The links of a pass, in the order in which they were run. -/
def links (pass : Pass) : List Link :=
  pass.filterMap fun entry => entry.2.link?

end Pass

namespace Playback

/-- The line that a step would run, with its index. There is none if the playback waits, is over or
is told to end, or if the script is exhausted. -/
def next? (playback : Playback) : Option (Nat × Line) :=
  match playback.status with
  | .notStarted | .running =>
    if playback.state.finished then none
    else playback.state.line?.map fun line => (playback.state.cursor, line)
  | .suspended _ | .complete => none

end Playback

namespace Outcome

end Outcome

namespace Scene

variable (setup : Setup μ)

end Scene

namespace State

/-- From one state to another a line has been taken up: the speaker and the choices have changed as
the line says. -/
structure TakesUp (line : Line) (before after : State) : Prop where
  script : after.script = before.script
  speaker : after.speaker = line.cue?.or before.speaker
  choices : after.choices = before.choices ++ line.link?.toList

theorem speaker_skipTo (state : State) (wanted : Tag → Bool) :
    (state.skipTo wanted).2.speaker = state.speaker := by
  rw [skipTo]
  split <;> rfl

end State

namespace Scene

variable {setup : Setup μ} {scene after : Scene μ} {line : Line} {index : Nat} {pass : Pass}

theorem speaker_skipBlock (scene : Scene μ) :
    scene.skipBlock.state.speaker = scene.state.speaker := by
  rw [skipBlock, ← State.speaker_skipTo scene.state Tag.closesBlock]
  split <;> rename_i hfound <;> rw [hfound] <;> rfl

theorem speaker_skipBranch (scene : Scene μ) (name : String) :
    (scene.skipBranch name).state.speaker = scene.state.speaker := by
  rw [skipBranch, ← State.speaker_skipTo scene.state Tag.endsBranch]
  split
  · rename_i hfound
    rw [hfound]
    split <;> rfl
  · rename_i hfound
    rw [hfound]
    rfl

theorem speaker_runCondition (host : Host μ) (tag : Tag) (scene : Scene μ) :
    (scene.runCondition host tag).scene.state.speaker = scene.state.speaker := by
  rw [runCondition]
  split
  · rfl
  · rfl
  · exact speaker_skipBranch _ _

/-- No tag changes the speaker. -/
theorem speaker_runTag (host : Host μ) (tag : Tag) (scene : Scene μ) :
    (scene.runTag host tag).scene.state.speaker = scene.state.speaker := by
  rw [runTag]
  cases Directive.ofName? tag.name with
  | none =>
      simp only [runUnknown]
      split <;> rfl
  | some directive =>
      cases directive with
      | ifHolds => exact speaker_runCondition host tag scene
      | elseIfHolds =>
          dsimp only
          split
          · exact speaker_runCondition host tag scene
          · exact speaker_skipBlock scene
      | otherwise => exact speaker_skipBlock scene
      | set =>
          simp only [runAssignment]
          split
          · rfl
          · split <;> rfl
      | finish | endIf | throw | debug | warn | error | todo => rfl

theorem takesUp_run (setup : Setup μ) (line : Line) (scene : Scene μ) :
    scene.state.TakesUp line (scene.run setup line).scene.state := by
  have hunchanged : scene.state.choices = scene.state.choices ++ [] := (List.append_nil _).symm
  cases line with
  | cue cue => exact ⟨rfl, rfl, hunchanged⟩
  | speech speech =>
      rw [run]
      split <;> exact ⟨rfl, rfl, hunchanged⟩
  | link link => exact ⟨rfl, rfl, rfl⟩
  | quote quote => exact ⟨rfl, rfl, hunchanged⟩
  | tag tag =>
      have hspeaker := speaker_runTag setup.host tag scene
      have hchoices := (proceeds_runTag setup.host tag scene).choices
      have hstays := staysIn_runTag setup.host tag scene
      have hscript : (scene.runTag setup.host tag).scene.state.script = scene.state.script := by
        rw [State.script, hstays.collection, hstays.scriptIndex]
        rfl
      rw [run]
      generalize scene.runTag setup.host tag = outcome at hspeaker hchoices hscript ⊢
      cases outcome <;> exact ⟨hscript, hspeaker, hchoices.trans hunchanged⟩

theorem next?_of_running (hrunning : scene.status = .running) :
    scene.next? =
      if scene.state.finished then none
      else scene.state.line?.map fun line => (scene.state.cursor, line) := by
  rw [Playback.next?, hrunning]

theorem next?_begin (hsilent : scene.status = .notStarted) :
    (scene.begin setup).next? = scene.next? := by
  rw [next?_of_running rfl, Playback.next?, hsilent]
  rfl

theorem line?_of_next? (hnext : scene.next? = some (index, line)) :
    scene.status ≠ .complete ∧ scene.state.finished = false ∧ scene.state.line? = some line ∧
      scene.state.cursor = index := by
  rw [Playback.next?] at hnext
  cases hstatus : scene.status with
  | suspended _ | complete =>
      rw [hstatus] at hnext
      cases hnext
  | notStarted | running =>
      rw [hstatus] at hnext
      dsimp only at hnext
      split at hnext
      · cases hnext
      · rename_i hunfinished
        obtain ⟨line, hhere, hsame⟩ := Option.map_eq_some_iff.mp hnext
        cases hsame
        exact ⟨by simp, Bool.eq_false_iff.mpr hunfinished, hhere, rfl⟩

theorem exists_moveOn_eq_ok (setup : Setup μ) (progress : Progress) (scene : Scene μ) :
    ∃ last after, scene.moveOn setup progress = .ok last after := by
  simp only [moveOn]
  split
  · split <;> exact ⟨_, _, rfl⟩
  · exact ⟨_, _, rfl⟩

theorem step_of_next? (hrunning : scene.status = .running)
    (hnext : scene.next? = some (index, line)) :
    scene.step setup =
      match scene.run setup line with
      | .error error after => .error error (after.noteFailure error).halt
      | .ok progress after => after.moveOn setup progress := by
  obtain ⟨-, hunfinished, hhere, -⟩ := line?_of_next? hnext
  rw [step_of_running hrunning, play, hunfinished, if_neg Bool.false_ne_true, hhere]
  dsimp only
  cases scene.run setup line with
  | error error after => rfl
  | ok progress after =>
      obtain ⟨last, later, hmoves⟩ := exists_moveOn_eq_ok setup progress after
      dsimp only
      rw [hmoves]

/-- A step that runs a line takes it up and moves past it, unless the playback is over then. -/
theorem takesUp_step (setup : Setup μ) (hrunning : scene.status = .running)
    (hnext : scene.next? = some (index, line)) :
    scene.state.TakesUp line (scene.step setup).scene.state ∧
      ((scene.step setup).scene.status ≠ .complete →
        scene.state.cursor < (scene.step setup).scene.state.cursor) := by
  have htakes := takesUp_run setup line scene
  have hnotBack := (gathers_run setup (line?_of_next? hnext).2.2.1).2
  have hruns := runsTo_run setup line scene
  rw [step_of_next? hrunning hnext]
  generalize scene.run setup line = outcome at htakes hnotBack hruns ⊢
  cases hruns with
  | failed hstays =>
      rename_i error after
      refine ⟨?_, fun hunended => absurd rfl hunended⟩
      have hsame := state_noteFailure error after
      refine ⟨?_, ?_, ?_⟩
      · exact (congrArg State.script hsame).trans htakes.script
      · exact (congrArg State.speaker hsame).trans htakes.speaker
      · exact (congrArg State.choices hsame).trans htakes.choices
  | moved hstays =>
      have hfarther := Nat.lt_succ_of_le (hnotBack _ rfl)
      simp only [moveOn]
      split
      · exact ⟨⟨htakes.script, htakes.speaker, htakes.choices⟩, fun _ => hfarther⟩
      · exact ⟨⟨htakes.script, htakes.speaker, htakes.choices⟩, fun _ => hfarther⟩
  | speaks cue speech =>
      exact ⟨⟨htakes.script, htakes.speaker, htakes.choices⟩, fun _ => Nat.lt_succ_self _⟩

end Scene

end Dialogue
