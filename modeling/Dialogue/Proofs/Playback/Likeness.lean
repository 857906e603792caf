/-
# Playbacks on stages that are alike

All that a playback learns from its stage is what its stores hold and what its host answers. So two
playbacks that stand at the same place go on in the same way on two stages, as long as neither the
stores nor the host tell the stages apart. What the stages have in common is left open: it is any
relation that a call to the host, a notice and a change of a store keep up. The hosts need not be
the same either.

What is said here of one operation is used twice. Notices that were left before make no difference
to a playback, and neither does an offer of a single choice that the host overlooks.
-/

import Dialogue.Proofs.Playback.Frame
import Dialogue.Proofs.Playback.Run

namespace Dialogue

variable {μ ν α β : Type}

/-- A relation between stages that cannot be lost while two playbacks, each with its own set-up, do
the same on them. A single choice counts only where it is not followed without asking. -/
structure Setup.Likeness (setup : Setup μ) (other : Setup ν)
    (alike : Stage μ → Stage ν → Prop) : Prop where
  library : setup.library = other.library
  stores : ∀ {first second}, alike first second → first.stores = second.stores
  note : ∀ {first second}, alike first second → ∀ location remark,
    alike (first.note location remark) (second.note location remark)
  putStore : ∀ {first second}, alike first second → ∀ id store,
    alike (first.putStore id store) (second.putStore id store)
  start : ∀ {first second}, alike first second → ∀ path state,
    alike (first.called (.start path) (setup.host.start state first.toWorld))
      (second.called (.start path) (other.host.start state second.toWorld))
  speech : ∀ {first second}, alike first second → ∀ cue speech,
    alike (first.called (.speech cue speech) (setup.host.speech cue speech first.toWorld))
      (second.called (.speech cue speech) (other.host.speech cue speech second.toWorld))
  quote : ∀ {first second}, alike first second → ∀ quote,
    alike (first.called (.quote quote) (setup.host.quote quote first.toWorld))
      (second.called (.quote quote) (other.host.quote quote second.toWorld))
  choices : ∀ {first second}, alike first second → ∀ links,
    (setup.autoFollow = true → ∀ link, links ≠ [link]) →
      alike (first.called (.choices links) (setup.host.choices links first.toWorld))
        (second.called (.choices links) (other.host.choices links second.toWorld))
  finish : ∀ {first second}, alike first second →
    alike (first.called .finish (setup.host.finish first.toWorld))
      (second.called .finish (other.host.finish second.toWorld))
  tag : ∀ {first second}, alike first second → ∀ tag state,
    (setup.host.tag tag state first.toWorld).1 = (other.host.tag tag state second.toWorld).1 ∧
      alike (first.called (.tag tag) (setup.host.tag tag state first.toWorld).2)
        (second.called (.tag tag) (other.host.tag tag state second.toWorld).2)
  condition : ∀ {first second}, alike first second → ∀ call state,
    (setup.host.condition call state first.toWorld).1 =
        (other.host.condition call state second.toWorld).1 ∧
      alike (first.called (.condition call) (setup.host.condition call state first.toWorld).2)
        (second.called (.condition call) (other.host.condition call state second.toWorld).2)

/-- Two scenes with the same playback on stages that are alike. -/
inductive Scene.Alike (alike : Stage μ → Stage ν → Prop) : Scene μ → Scene ν → Prop where
  | on (playback : Playback) {first : Stage μ} {second : Stage ν} (hstages : alike first second) :
      Alike alike ⟨playback, first⟩ ⟨playback, second⟩

/-- Two operations have come to the same, on stages that are still alike. -/
inductive Outcome.Alike (alike : Stage μ → Stage ν → Prop) : Outcome μ α → Outcome ν α → Prop where
  | ok (value : α) {scene : Scene μ} {twin : Scene ν} (hscenes : scene.Alike alike twin) :
      Alike alike (.ok value scene) (.ok value twin)
  | error (error : Error) {scene : Scene μ} {twin : Scene ν} (hscenes : scene.Alike alike twin) :
      Alike alike (.error error scene) (.error error twin)

variable {alike : Stage μ → Stage ν → Prop}

theorem Scene.alike_iff {scene : Scene μ} {twin : Scene ν} :
    scene.Alike alike twin ↔
      scene.toPlayback = twin.toPlayback ∧ alike scene.stage twin.stage := by
  constructor
  · rintro ⟨playback, hstages⟩
    exact ⟨rfl, hstages⟩
  · obtain ⟨playback, first⟩ := scene
    obtain ⟨other, second⟩ := twin
    rintro ⟨rfl, hstages⟩
    exact .on playback hstages

theorem Scene.Alike.playback {scene : Scene μ} {twin : Scene ν} (hscenes : scene.Alike alike twin) :
    scene.toPlayback = twin.toPlayback :=
  (Scene.alike_iff.mp hscenes).1

namespace Outcome

variable {outcome : Outcome μ α} {twin : Outcome ν α}

theorem Alike.scene (houtcomes : outcome.Alike alike twin) :
    outcome.scene.Alike alike twin.scene := by
  cases houtcomes with
  | ok value hscenes => exact hscenes
  | error error hscenes => exact hscenes

theorem Alike.result (houtcomes : outcome.Alike alike twin) : outcome.result = twin.result := by
  cases houtcomes <;> rfl

theorem Alike.map (houtcomes : outcome.Alike alike twin) (f : α → β) :
    (outcome.map f).Alike alike (twin.map f) := by
  cases houtcomes with
  | ok value hscenes => exact .ok (f value) hscenes
  | error error hscenes => exact .error error hscenes

end Outcome

/-- The only choice at the end of a script, if there is one and the playback is not told to end. -/
def State.onlyChoice? (state : State) : Option Link :=
  match state.finished, state.line?, state.choices with
  | false, none, [link] => some link
  | _, _, _ => none

variable {setup : Setup μ} {other : Setup ν}

theorem Call.agree_decide (hlikeness : setup.Likeness other alike) (state : State) (call : Call) :
    Agree alike (call.decide setup.host state) (call.decide other.host state) := by
  intro first second hrelated
  rw [Call.decide, Call.decide]
  cases Method.ofName? call.method with
  | some method =>
      dsimp only
      rw [hlikeness.stores hrelated]
      cases method.verdict state second.stores call with
      | error error => exact .error hrelated
      | ok verdict =>
          cases verdict with
          | some verdict => exact .ok hrelated
          | none => exact .ok (hlikeness.note hrelated _ _)
  | none =>
      obtain ⟨hreplies, hstill⟩ := hlikeness.condition hrelated call state
      dsimp only
      generalize setup.host.condition call state first.toWorld = reply,
        other.host.condition call state second.toWorld = answer at hreplies hstill ⊢
      obtain ⟨verdict, world⟩ := reply
      obtain ⟨decision, scenery⟩ := answer
      cases hreplies
      cases verdict with
      | some verdict => exact .ok hstill
      | none => exact .ok (hlikeness.note hstill _ _)

theorem State.agree_decide (hlikeness : setup.Likeness other alike) (state : State)
    (text : String) :
    Agree alike (state.decide setup.host text) (state.decide other.host text) := by
  rw [State.decide, State.decide]
  cases Condition.parse text with
  | error error => exact fun hrelated => .error hrelated
  | ok condition => exact condition.agree_eval (Call.agree_decide hlikeness state)

theorem Stage.alike_markVisited {first : Stage μ} {second : Stage ν}
    (hlikeness : setup.Likeness other alike) (hstages : alike first second) (state : State) :
    alike (first.markVisited state) (second.markVisited state) := by
  rw [markVisited, markVisited, hlikeness.stores hstages]
  cases state.store with
  | none => exact hstages
  | some id => exact hlikeness.putStore hstages id _

namespace Scene

variable {scene : Scene μ} {twin : Scene ν}

theorem Alike.note (hscenes : scene.Alike alike twin) (hlikeness : setup.Likeness other alike)
    (remark : Remark) : (scene.note remark).Alike alike (twin.note remark) := by
  cases hscenes with
  | on playback hstages => exact .on playback (hlikeness.note hstages _ remark)

theorem Alike.withState (hscenes : scene.Alike alike twin) (state : State) :
    (scene.withState state).Alike alike (twin.withState state) := by
  cases hscenes with
  | on playback hstages => exact .on ⟨state, playback.status⟩ hstages

theorem alike_skipBlock (hlikeness : setup.Likeness other alike)
    (hscenes : scene.Alike alike twin) : scene.skipBlock.Alike alike twin.skipBlock := by
  rw [skipBlock, skipBlock, hscenes.playback]
  generalize twin.state.skipTo Tag.closesBlock = found
  obtain ⟨found, state⟩ := found
  cases found with
  | some tag => exact hscenes.withState state
  | none => exact (hscenes.withState state).note hlikeness _

theorem alike_skipBranch (hlikeness : setup.Likeness other alike)
    (hscenes : scene.Alike alike twin) (name : String) :
    (scene.skipBranch name).Alike alike (twin.skipBranch name) := by
  rw [skipBranch, skipBranch, hscenes.playback]
  generalize twin.state.skipTo Tag.endsBranch = found
  obtain ⟨found, state⟩ := found
  cases found with
  | some tag =>
      dsimp only
      split
      · exact hscenes.withState _
      · exact hscenes.withState state
  | none => exact (hscenes.withState state).note hlikeness _

theorem alike_runCondition (hlikeness : setup.Likeness other alike)
    (hscenes : scene.Alike alike twin) (tag : Tag) :
    (scene.runCondition setup.host tag).Alike alike (twin.runCondition other.host tag) := by
  cases hscenes with
  | @on playback first second hstages =>
      have hdecides := State.agree_decide hlikeness { playback.state with retrying := false }
        tag.args hstages
      simp only [runCondition, Scene.withState]
      generalize State.decide setup.host _ tag.args first = result,
        State.decide other.host _ tag.args second = answer at hdecides ⊢
      cases hdecides with
      | error hstill => exact .error _ (.on _ hstill)
      | @ok value _ _ hstill =>
          cases value with
          | true => exact .ok () (.on _ hstill)
          | false => exact .ok () (alike_skipBranch hlikeness (.on _ hstill) tag.name)

theorem alike_runAssignment (hlikeness : setup.Likeness other alike)
    (hscenes : scene.Alike alike twin) (tag : Tag) :
    (scene.runAssignment tag).Alike alike (twin.runAssignment tag) := by
  cases hscenes with
  | on playback hstages =>
      rw [runAssignment, runAssignment]
      dsimp only
      cases playback.state.storeId with
      | error error => exact .error error (.on playback hstages)
      | ok id =>
          dsimp only
          cases assignment? tag.args with
          | none => exact .error _ (.on playback hstages)
          | some assignment =>
              dsimp only
              rw [hlikeness.stores hstages]
              exact .ok () (.note (.on playback (hlikeness.putStore hstages id _)) hlikeness _)

theorem alike_runUnknown (hlikeness : setup.Likeness other alike)
    (hscenes : scene.Alike alike twin) (tag : Tag) :
    (scene.runUnknown setup.host tag).Alike alike (twin.runUnknown other.host tag) := by
  cases hscenes with
  | @on playback first second hstages =>
      obtain ⟨hreplies, hstill⟩ := hlikeness.tag hstages tag playback.state
      unfold runUnknown
      generalize setup.host.tag tag playback.state first.toWorld = reply,
        other.host.tag tag playback.state second.toWorld = answer at hreplies hstill ⊢
      obtain ⟨reply, world⟩ := reply
      obtain ⟨answer, scenery⟩ := answer
      cases hreplies
      dsimp only
      cases reply.outcome with
      | error error => exact .error error (.on _ hstill)
      | ok handled =>
          cases handled with
          | true => exact .ok () (.on _ hstill)
          | false => exact .ok () (.note (.on _ hstill) hlikeness _)

theorem alike_runTag (hlikeness : setup.Likeness other alike) (hscenes : scene.Alike alike twin)
    (tag : Tag) : (scene.runTag setup.host tag).Alike alike (twin.runTag other.host tag) := by
  rw [runTag, runTag]
  cases Directive.ofName? tag.name with
  | none => exact alike_runUnknown hlikeness hscenes tag
  | some directive =>
      cases directive with
      | ifHolds => exact alike_runCondition hlikeness hscenes tag
      | elseIfHolds =>
          dsimp only
          rw [hscenes.playback]
          split
          · exact alike_runCondition hlikeness hscenes tag
          · exact .ok () (alike_skipBlock hlikeness hscenes)
      | otherwise => exact .ok () (alike_skipBlock hlikeness hscenes)
      | endIf => exact .ok () hscenes
      | finish =>
          rw [hscenes.playback]
          exact .ok () (hscenes.withState _)
      | set => exact alike_runAssignment hlikeness hscenes tag
      | throw =>
          rw [hscenes.playback]
          exact .error _ hscenes
      | debug | warn | error | todo => exact .ok () (hscenes.note hlikeness _)

theorem alike_run (hlikeness : setup.Likeness other alike) (hscenes : scene.Alike alike twin)
    (line : Line) : (scene.run setup line).Alike alike (twin.run other line) := by
  cases line with
  | cue cue =>
      rw [run, run, hscenes.playback]
      exact .ok _ (hscenes.withState _)
  | speech speech =>
      cases hscenes with
      | on playback hstages =>
          rw [run, run]
          dsimp only
          cases playback.state.speaker with
          | none => exact .error _ (.on playback hstages)
          | some cue => exact .ok _ (.on _ (hlikeness.speech hstages cue speech))
  | link link =>
      rw [run, run, hscenes.playback]
      exact .ok _ (hscenes.withState _)
  | quote quote =>
      cases hscenes with
      | on playback hstages => exact .ok _ (.on playback (hlikeness.quote hstages quote))
  | tag tag =>
      have houtcomes := alike_runTag hlikeness hscenes tag
      rw [run, run]
      generalize scene.runTag setup.host tag = outcome,
        twin.runTag other.host tag = answer at houtcomes ⊢
      cases houtcomes with
      | ok value hscenes => exact .ok _ hscenes
      | error error hscenes => exact .error error hscenes

theorem Alike.halt (hscenes : scene.Alike alike twin) : scene.halt.Alike alike twin.halt := by
  cases hscenes with
  | on playback hstages => exact .on _ hstages

theorem alike_conclude (hlikeness : setup.Likeness other alike)
    (hscenes : scene.Alike alike twin) :
    (scene.conclude setup).Alike alike (twin.conclude other) := by
  cases hscenes with
  | on playback hstages =>
      exact .on _ (hlikeness.finish (Stage.alike_markVisited hlikeness hstages playback.state))

theorem alike_moveOn (hlikeness : setup.Likeness other alike) (hscenes : scene.Alike alike twin)
    (progress : Progress) :
    (scene.moveOn setup progress).Alike alike (twin.moveOn other progress) := by
  cases hscenes with
  | on playback hstages =>
      have hmoves : Scene.Alike alike
          ⟨⟨{ playback.state with cursor := playback.state.cursor + 1 }, playback.status⟩, _⟩
          ⟨_, _⟩ := .on _ hstages
      cases progress with
      | moved =>
          rw [moveOn, moveOn]
          by_cases hended : playback.state.finished = true
          · exact if_pos hended ▸ if_pos hended ▸ .ok _ (alike_conclude hlikeness hmoves)
          · exact if_neg hended ▸ if_neg hended ▸ .ok _ hmoves
      | suspended suspension => exact .ok _ hmoves
      | complete => exact .ok _ hmoves

theorem alike_noteUnannounced (hlikeness : setup.Likeness other alike)
    (hscenes : scene.Alike alike twin) (link : Link) :
    (scene.noteUnannounced link).Alike alike (twin.noteUnannounced link) := by
  cases hscenes with
  | on playback hstages =>
      rw [noteUnannounced, noteUnannounced]
      dsimp only
      split
      · exact .on playback hstages
      · exact .on playback (hlikeness.note hstages _ _)

theorem target_eq_of_alike (hlikeness : setup.Likeness other alike)
    (hscenes : scene.Alike alike twin) (link : Link) :
    scene.target setup link = twin.target other link := by
  rw [target, target, hlikeness.library, hscenes.playback]

theorem alike_enter (hlikeness : setup.Likeness other alike) (hscenes : scene.Alike alike twin)
    (collection : Collection) (index : Nat) :
    (scene.enter collection index).Alike alike (twin.enter collection index) := by
  cases hscenes with
  | on playback hstages => exact .on _ (Stage.alike_markVisited hlikeness hstages playback.state)

theorem alike_follow (hlikeness : setup.Likeness other alike) (hscenes : scene.Alike alike twin)
    (link : Link) : (scene.follow setup link).Alike alike (twin.follow other link) := by
  have hnoted := alike_noteUnannounced hlikeness hscenes link
  have htargets := target_eq_of_alike hlikeness hscenes link
  cases hfound : twin.target other link with
  | error error =>
      rw [follow_of_error hfound, follow_of_error (htargets.trans hfound)]
      exact .error error hnoted
  | ok place =>
      obtain ⟨collection, index⟩ := place
      rw [follow_of_ok hfound, follow_of_ok (htargets.trans hfound), hscenes.playback]
      exact .ok () (alike_enter hlikeness (hnoted.note hlikeness _) collection index)

/-- The playbacks deal with a single choice at the end of a script in the same way, or there is none
where they stand. -/
def AgreeOnSingle (setup : Setup μ) (other : Setup ν) (twin : Scene ν) : Prop :=
  setup.autoFollow = other.autoFollow ∨ twin.state.onlyChoice? = none

/-- Offers the choices and makes the playback wait for one. -/
def offer (setup : Setup μ) (scene : Scene μ) : Outcome μ Progress :=
  suspend
    { scene with
      stage := scene.stage.called (.choices scene.state.choices)
        (setup.host.choices scene.state.choices scene.stage.toWorld) }
    (.choices scene.state.choices)

theorem exhaust_of_single {link : Link} (hauto : setup.autoFollow = true)
    (hsingle : scene.state.choices = [link]) :
    scene.exhaust setup =
      match scene.follow setup link with
      | .error error after => .error error after
      | .ok () after => .ok .moved after := by
  cases hfollowed : scene.follow setup link with
  | error error after =>
      rw [exhaust, hsingle, hauto]
      dsimp only
      rw [hfollowed]
  | ok value after =>
      rw [exhaust, hsingle, hauto]
      dsimp only
      rw [hfollowed]

/-- Choices are offered unless there is a single one that is followed without asking. -/
theorem exhaust_of_offered (hoffers : scene.state.choices ≠ [])
    (hasks : setup.autoFollow = true → ∀ link, scene.state.choices ≠ [link]) :
    scene.exhaust setup = scene.offer setup := by
  rw [exhaust, offer]
  split
  · rename_i hnone
    exact absurd hnone hoffers
  · split
    · rename_i link hauto hsingle
      exact absurd hsingle (hasks hauto link)
    · rfl

theorem alike_exhaust (hlikeness : setup.Likeness other alike) (hscenes : scene.Alike alike twin)
    (hasks : setup.autoFollow = other.autoFollow ∨ ∀ link, twin.state.choices ≠ [link]) :
    (scene.exhaust setup).Alike alike (twin.exhaust other) := by
  have hsame : scene.state.choices = twin.state.choices := by rw [hscenes.playback]
  by_cases hnone : twin.state.choices = []
  · rw [exhaust, exhaust, hsame, hnone]
    exact .ok _ (alike_conclude hlikeness hscenes)
  by_cases hfollowed : setup.autoFollow = true ∧ ∃ link, twin.state.choices = [link]
  · obtain ⟨hauto, link, hsingle⟩ := hfollowed
    have halsoAuto : other.autoFollow = true :=
      (hasks.resolve_right fun hseveral => hseveral link hsingle) ▸ hauto
    rw [exhaust_of_single hauto (hsame.trans hsingle), exhaust_of_single halsoAuto hsingle]
    have houtcomes := alike_follow hlikeness hscenes link
    generalize scene.follow setup link = outcome, twin.follow other link = answer at houtcomes ⊢
    cases houtcomes with
    | ok value hscenes => exact .ok _ hscenes
    | error error hscenes => exact .error error hscenes
  · have hseveral (hauto : setup.autoFollow = true) (link : Link) : twin.state.choices ≠ [link] :=
      fun hsingle => hfollowed ⟨hauto, link, hsingle⟩
    have halsoSeveral (hauto : other.autoFollow = true) (link : Link) :
        twin.state.choices ≠ [link] := by
      rcases hasks with hasks | hseveral'
      · exact hseveral (hasks.trans hauto) link
      · exact hseveral' link
    rw [exhaust_of_offered (hsame ▸ hnone) (hsame ▸ hseveral),
      exhaust_of_offered hnone halsoSeveral]
    cases hscenes with
    | on playback hstages => exact .ok _ (.on _ (hlikeness.choices hstages _ hseveral))

theorem alike_play (hlikeness : setup.Likeness other alike) (hscenes : scene.Alike alike twin)
    (hasks : AgreeOnSingle setup other twin) :
    (scene.play setup).Alike alike (twin.play other) := by
  rw [play, play, hscenes.playback]
  split
  · exact .ok _ (alike_conclude hlikeness hscenes)
  · rename_i hunfinished
    split
    · rename_i hexhausted
      refine alike_exhaust hlikeness hscenes (hasks.imp id fun hnone link hsingle => ?_)
      rw [State.onlyChoice?, Bool.eq_false_iff.mpr hunfinished, hexhausted, hsingle] at hnone
      cases hnone
    · rename_i line _
      have houtcomes := alike_run hlikeness hscenes line
      generalize scene.run setup line = outcome, twin.run other line = answer at houtcomes ⊢
      cases houtcomes with
      | ok progress hscenes => exact alike_moveOn hlikeness hscenes progress
      | error error hscenes => exact .error error hscenes

theorem alike_begin (hlikeness : setup.Likeness other alike) (hscenes : scene.Alike alike twin) :
    (scene.begin setup).Alike alike (twin.begin other) := by
  cases hscenes with
  | on playback hstages => exact .on _ (hlikeness.start hstages _ _)

theorem alike_attempt (hlikeness : setup.Likeness other alike) (hscenes : scene.Alike alike twin)
    (hasks : AgreeOnSingle setup other twin) :
    (scene.attempt setup).Alike alike (twin.attempt other) := by
  rw [attempt, attempt, hscenes.playback]
  cases twin.status with
  | complete => exact .ok _ hscenes
  | suspended suspension => exact .ok _ hscenes
  | notStarted => exact alike_play hlikeness (alike_begin hlikeness hscenes) hasks
  | running => exact alike_play hlikeness hscenes hasks

theorem alike_noteFailure (hlikeness : setup.Likeness other alike)
    (hscenes : scene.Alike alike twin) (error : Error) :
    (scene.noteFailure error).Alike alike (twin.noteFailure error) := by
  cases hscenes with
  | on playback hstages =>
      rw [noteFailure, noteFailure]
      cases error.location? with
      | none => exact .on playback hstages
      | some location => exact .on playback (hlikeness.note hstages location _)

theorem alike_step (hlikeness : setup.Likeness other alike) (hscenes : scene.Alike alike twin)
    (hasks : AgreeOnSingle setup other twin) :
    (scene.step setup).Alike alike (twin.step other) := by
  have houtcomes := alike_attempt hlikeness hscenes hasks
  rw [step, step]
  generalize scene.attempt setup = outcome, twin.attempt other = answer at houtcomes ⊢
  cases houtcomes with
  | ok progress hscenes => exact .ok progress hscenes
  | error error hscenes => exact .error error (alike_noteFailure hlikeness hscenes error).halt

theorem alike_advance (hlikeness : setup.Likeness other alike)
    (hasks : setup.autoFollow = other.autoFollow) (limit : Nat) (hscenes : scene.Alike alike twin) :
    (scene.advance setup limit).Alike alike (twin.advance other limit) := by
  induction limit generalizing scene twin with
  | zero => exact .ok _ hscenes
  | succ limit ih =>
      have houtcomes := alike_step hlikeness hscenes (.inl hasks)
      rw [advance, advance]
      generalize scene.step setup = outcome, twin.step other = answer at houtcomes ⊢
      cases houtcomes with
      | error error hscenes => exact .error error hscenes
      | ok progress hscenes =>
          cases progress with
          | moved => exact ih hscenes
          | suspended suspension => exact .ok _ hscenes
          | complete => exact .ok _ hscenes

theorem alike_resume (hlikeness : setup.Likeness other alike) (hscenes : scene.Alike alike twin) :
    scene.resume.Alike alike twin.resume := by
  rw [resume, resume, hscenes.playback]
  split
  · cases hscenes with
    | on playback hstages => exact .on _ hstages
  · exact hscenes.note hlikeness _

theorem alike_select (hlikeness : setup.Likeness other alike) (hscenes : scene.Alike alike twin)
    (link : Link) : (scene.select setup link).Alike alike (twin.select other link) := by
  rw [select, select, hscenes.playback]
  split
  · rename_i offered _
    have hchooses : Scene.Alike alike
        (if link ∈ offered then scene else scene.note (.notOffered link.target))
        (if link ∈ offered then twin else twin.note (.notOffered link.target)) := by
      split
      · exact hscenes
      · exact hscenes.note hlikeness _
    have houtcomes := alike_follow hlikeness hchooses link
    dsimp only
    generalize Scene.follow setup link _ = outcome, Scene.follow other link _ = answer
      at houtcomes ⊢
    cases houtcomes with
    | ok value hscenes =>
        cases hscenes with
        | on playback hstages => exact .ok () (.on _ hstages)
    | error error hscenes => exact .error error hscenes.halt
  · exact .ok () (hscenes.note hlikeness _)

theorem alike_selectAt (hlikeness : setup.Likeness other alike) (hscenes : scene.Alike alike twin)
    (index : Nat) : (scene.selectAt setup index).Alike alike (twin.selectAt other index) := by
  rw [selectAt, selectAt, offered?, offered?, hscenes.playback]
  split
  · exact alike_select hlikeness hscenes _
  · exact .error _ hscenes

/-- An operation comes to the same on stages that are alike, if both playbacks ask or neither asks
before they follow a single choice. -/
theorem alike_perform (hlikeness : setup.Likeness other alike)
    (hasks : setup.autoFollow = other.autoFollow) (operation : Operation)
    (hscenes : scene.Alike alike twin) :
    (scene.perform setup operation).Alike alike (twin.perform other operation) := by
  cases operation with
  | step => exact (alike_step hlikeness hscenes (.inl hasks)).map _
  | advance limit => exact (alike_advance hlikeness hasks limit hscenes).map _
  | resume => exact .ok _ (alike_resume hlikeness hscenes)
  | select link => exact (alike_select hlikeness hscenes link).map _
  | selectAt index => exact (alike_selectAt hlikeness hscenes index).map _
  | finish =>
      cases hscenes with
      | on playback hstages => exact .ok _ (.on _ hstages)

end Scene

end Dialogue
