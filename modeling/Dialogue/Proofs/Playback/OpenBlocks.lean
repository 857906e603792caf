/-
# Playing scripts whose blocks are left open

Blocks that are still open at the end of a script do no harm: closing them there changes nothing
that can be seen from outside. A playback of the script as it is and one of the closed script run
the same lines. Past the old end the second one may have closing tags left, which it runs without
effect, while the first one is at the end already. So the two need not take the same number of
steps, but an advance takes them as far as each other.
-/

import Dialogue.Proofs.Playback.Closing
import Dialogue.Proofs.Playback.Driving
import Dialogue.Proofs.Playback.Misplaced
import Dialogue.Proofs.Playback.Returning

namespace Dialogue

variable {μ α β : Type}

/-- Two playbacks stand at twin states, wait for the same, and have called the host in the same way
with the same effect. -/
structure Scene.Twins (scene twin : Scene μ) : Prop where
  state : scene.state.Twins twin.state
  status : twin.status = scene.status
  stage : scene.stage.SameButNotices twin.stage

/-- Two operations have come to the same, and the playbacks are still twins. -/
inductive Outcome.Twins : Outcome μ α → Outcome μ α → Prop where
  | ok (value : α) {scene twin : Scene μ} (htwins : scene.Twins twin) :
      Twins (.ok value scene) (.ok value twin)
  | error (error : Error) {scene twin : Scene μ} (htwins : scene.Twins twin) :
      Twins (.error error scene) (.error error twin)

namespace Outcome.Twins

variable {outcome twin : Outcome μ α}

theorem scene (houtcomes : outcome.Twins twin) : outcome.scene.Twins twin.scene := by
  cases houtcomes with
  | ok value htwins => exact htwins
  | error error htwins => exact htwins

theorem result (houtcomes : outcome.Twins twin) : twin.result = outcome.result := by
  cases houtcomes <;> rfl

theorem map (houtcomes : outcome.Twins twin) (f : α → β) : (outcome.map f).Twins (twin.map f) := by
  cases houtcomes with
  | ok value htwins => exact .ok (f value) htwins
  | error error htwins => exact .error error htwins

end Outcome.Twins

namespace Scene

variable {setup closed : Setup μ} {scene twin : Scene μ} {line : Line} {host : Host μ}

/-! ## Small changes -/

theorem Twins.withState (htwins : scene.Twins twin) {state other : State}
    (hstates : state.Twins other) : (scene.withState state).Twins (twin.withState other) :=
  ⟨hstates, htwins.status, htwins.stage⟩

theorem Twins.withStage (htwins : scene.Twins twin) {stage other : Stage μ}
    (hstages : stage.SameButNotices other) :
    Scene.Twins { scene with stage := stage } { twin with stage := other } :=
  ⟨htwins.state, htwins.status, hstages⟩

/-- Notices do not matter. -/
theorem Twins.note (htwins : scene.Twins twin) (remark other : Remark) :
    (scene.note remark).Twins (twin.note other) :=
  htwins.withStage ⟨htwins.stage.world, htwins.stage.calls⟩

/-- It does not matter either if only one side leaves a notice. -/
theorem Twins.note_left (htwins : scene.Twins twin) (remark : Remark) :
    (scene.note remark).Twins twin :=
  ⟨htwins.state, htwins.status, htwins.stage.world, htwins.stage.calls⟩

theorem Twins.called (htwins : scene.Twins twin) (callback : Callback)
    (effect : World μ → World μ) :
    Scene.Twins
      { scene with stage := scene.stage.called callback (effect scene.stage.toWorld) }
      { twin with stage := twin.stage.called callback (effect twin.stage.toWorld) } :=
  htwins.withStage (htwins.stage.called callback effect)

theorem Twins.halt (htwins : scene.Twins twin) : scene.halt.Twins twin.halt :=
  ⟨{ htwins.state with finished := rfl }, rfl, htwins.stage⟩

theorem Twins.noteFailure (htwins : scene.Twins twin) (error : Error) :
    (scene.noteFailure error).Twins (twin.noteFailure error) := by
  rw [Scene.noteFailure, Scene.noteFailure]
  cases error.location? with
  | none => exact htwins
  | some location => exact htwins.withStage ⟨htwins.stage.world, htwins.stage.calls⟩

/-! ## Tags -/

/-- Skipping to the end of a block takes twins to the same tag or past the old end. -/
theorem twins_skipBlock (htwins : scene.Twins twin) (hhere : scene.state.line? = some line) :
    scene.skipBlock.Twins twin.skipBlock := by
  rw [skipBlock, skipBlock]
  obtain ⟨tag, index, hold, hnew⟩ | ⟨found, index, hold, hnew, hpast, -⟩ :=
    htwins.state.skipTo_cases hhere Tag.closesBlock
  · rw [hold, hnew]
    exact htwins.withState (htwins.state.withCursor rfl)
  · have hscenes := htwins.withState (htwins.state.withCursor
      ((Nat.min_eq_right hpast).trans (Nat.min_self _).symm))
    rw [hold, hnew]
    cases found with
    | some tag => exact hscenes.note_left _
    | none => exact hscenes.note _ _

/-- So does skipping a branch. A closing tag that only the second one finds is left behind, as
it has no condition to try. -/
theorem twins_skipBranch (htwins : scene.Twins twin) (hhere : scene.state.line? = some line)
    (name : String) : (scene.skipBranch name).Twins (twin.skipBranch name) := by
  rw [skipBranch, skipBranch]
  obtain ⟨tag, index, hold, hnew⟩ | ⟨found, index, hold, hnew, hpast, hclosing⟩ :=
    htwins.state.skipTo_cases hhere Tag.endsBranch
  · have hjumps : ∀ index, State.Twins { scene.state with cursor := index }
        { twin.state with cursor := index } := fun index => htwins.state.withCursor rfl
    rw [hold, hnew]
    dsimp only
    split
    · exact htwins.withState { hjumps (index - 1) with retrying := rfl }
    · exact htwins.withState (hjumps index)
  · have hscenes := htwins.withState (htwins.state.withCursor
      ((Nat.min_eq_right hpast).trans (Nat.min_self _).symm))
    rw [hold, hnew]
    cases found with
    | some tag =>
        have hfinal : tag.retriesBlock = false :=
          Tag.retriesBlock_eq_false (Tag.closesBlock_iff.mp (hclosing tag rfl)) (by decide)
        dsimp only
        rw [hfinal, if_neg Bool.false_ne_true]
        exact hscenes.note_left _
    | none => exact hscenes.note _ _

theorem twins_runCondition (hblind : host.IsBlind) (htwins : scene.Twins twin)
    (hhere : scene.state.line? = some line) (tag : Tag) :
    (scene.runCondition host tag).Twins (twin.runCondition host tag) := by
  have hready : State.Twins { scene.state with retrying := false }
      { twin.state with retrying := false } := { htwins.state with retrying := rfl }
  have hsame := State.decide_eq_of_twins hblind hready hhere tag.args
  have hdecides := State.agree_decide (Setup.likeness_sameButNotices ⟨host, none, false⟩)
    { scene.state with retrying := false } tag.args htwins.stage
  simp only [runCondition, Scene.withState, hsame]
  generalize State.decide host _ tag.args scene.stage = result,
    State.decide host _ tag.args twin.stage = answer at hdecides ⊢
  cases hdecides with
  | error hstill => exact .error _ ⟨hready, htwins.status, hstill⟩
  | @ok value _ _ hstill =>
      have hdecided : Scene.Twins ⟨⟨{ scene.state with retrying := false }, scene.status⟩, _⟩
        ⟨⟨{ twin.state with retrying := false }, twin.status⟩, _⟩ := ⟨hready, htwins.status, hstill⟩
      cases value with
      | true => exact .ok () hdecided
      | false => exact .ok () (twins_skipBranch hdecided hhere tag.name)

theorem twins_runAssignment (htwins : scene.Twins twin) (hhere : scene.state.line? = some line)
    (tag : Tag) : (scene.runAssignment tag).Twins (twin.runAssignment tag) := by
  rw [runAssignment, runAssignment, htwins.state.storeId_eq hhere, htwins.state.location_eq hhere]
  cases scene.state.storeId with
  | error error => exact .error error htwins
  | ok id =>
      dsimp only
      cases assignment? tag.args with
      | none => exact .error _ htwins
      | some assignment =>
          dsimp only
          rw [htwins.stage.world]
          exact .ok () ((htwins.withStage (htwins.stage.putStore id _)).note _ _)

/-- The host gets two states that differ, but it is blind to that. -/
theorem twins_runUnknown (hblind : host.IsBlind) (htwins : scene.Twins twin) (tag : Tag) :
    (scene.runUnknown host tag).Twins (twin.runUnknown host tag) := by
  have hcalled := htwins.called (.tag tag) fun world => (host.tag tag scene.state world).2
  have hreplies := congrArg (fun world => host.tag tag scene.state world) htwins.stage.world
  unfold runUnknown
  rw [hblind.tag tag htwins.state, ← hreplies]
  rw [← hreplies] at hcalled
  generalize host.tag tag scene.state scene.stage.toWorld = reply at hcalled ⊢
  obtain ⟨reply, world⟩ := reply
  have htold : State.Twins
      { scene.state with
        finished := scene.state.finished || reply.finish
        store := reply.store.or scene.state.store }
      { twin.state with
        finished := twin.state.finished || reply.finish
        store := reply.store.or twin.state.store } :=
    { htwins.state with
      finished := congrArg (· || reply.finish) htwins.state.finished
      store := congrArg reply.store.or htwins.state.store }
  have hanswered := hcalled.withState htold
  dsimp only
  cases reply.outcome with
  | error error => exact .error error hanswered
  | ok handled =>
      cases handled with
      | true => exact .ok () hanswered
      | false => exact .ok () (hanswered.note _ _)

theorem twins_runTag (hblind : host.IsBlind) (htwins : scene.Twins twin)
    (hhere : scene.state.line? = some line) (tag : Tag) :
    (scene.runTag host tag).Twins (twin.runTag host tag) := by
  rw [runTag, runTag]
  cases Directive.ofName? tag.name with
  | none => exact twins_runUnknown hblind htwins tag
  | some directive =>
      cases directive with
      | ifHolds => exact twins_runCondition hblind htwins hhere tag
      | elseIfHolds =>
          dsimp only
          rw [htwins.state.retrying]
          split
          · exact twins_runCondition hblind htwins hhere tag
          · exact .ok () (twins_skipBlock htwins hhere)
      | otherwise => exact .ok () (twins_skipBlock htwins hhere)
      | endIf => exact .ok () htwins
      | finish => exact .ok () (htwins.withState { htwins.state with finished := rfl })
      | set => exact twins_runAssignment htwins hhere tag
      | throw =>
          dsimp only
          rw [htwins.state.location_eq hhere]
          exact .error _ htwins
      | debug | warn | error | todo => exact .ok () (htwins.note _ _)

/-! ## Lines and links -/

theorem twins_run (hcloses : setup.ClosesTo closed) (hblind : setup.host.IsBlind)
    (htwins : scene.Twins twin) (hhere : scene.state.line? = some line) :
    (scene.run setup line).Twins (twin.run closed line) := by
  cases line with
  | cue cue => exact .ok _ (htwins.withState { htwins.state with speaker := rfl })
  | speech speech =>
      rw [run, run, htwins.state.speaker, htwins.state.location_eq hhere, hcloses.host]
      cases scene.state.speaker with
      | none => exact .error _ htwins
      | some cue =>
          have hsaid := htwins.called (.speech cue speech) (setup.host.speech cue speech)
          exact .ok _ ⟨hsaid.state, rfl, hsaid.stage⟩
  | link link =>
      have hadds := congrArg (· ++ [link]) htwins.state.choices
      exact .ok _ (htwins.withState { htwins.state with choices := hadds })
  | quote quote =>
      rw [run, run, hcloses.host]
      exact .ok _ (htwins.called (.quote quote) (setup.host.quote quote))
  | tag tag =>
      have houtcomes := twins_runTag hblind htwins hhere tag
      rw [run, run, hcloses.host]
      generalize scene.runTag setup.host tag = outcome,
        twin.runTag setup.host tag = answer at houtcomes ⊢
      cases houtcomes with
      | ok value htwins => exact .ok _ htwins
      | error error htwins => exact .error error htwins

theorem Twins.markVisited (htwins : scene.Twins twin) :
    (scene.stage.markVisited scene.state).SameButNotices
      (twin.stage.markVisited twin.state) := by
  rw [Stage.markVisited, Stage.markVisited, htwins.state.store, htwins.state.script.path,
    htwins.stage.world]
  cases scene.state.store with
  | none => exact htwins.stage
  | some id => exact htwins.stage.putStore id _

theorem twins_conclude (hcloses : setup.ClosesTo closed) (htwins : scene.Twins twin) :
    (scene.conclude setup).Twins (twin.conclude closed) := by
  rw [conclude, conclude, hcloses.host]
  exact (htwins.withStage htwins.markVisited).halt.called .finish setup.host.finish

theorem twins_moveOn (hcloses : setup.ClosesTo closed) (htwins : scene.Twins twin)
    (progress : Progress) :
    (scene.moveOn setup progress).Twins (twin.moveOn closed progress) := by
  have hcursor := htwins.state.cursor
  have hmoves : (scene.withState { scene.state with cursor := scene.state.cursor + 1 }).Twins
      (twin.withState { twin.state with cursor := twin.state.cursor + 1 }) :=
    htwins.withState (htwins.state.withCursor (by omega))
  cases progress with
  | moved =>
      simp only [moveOn]
      rw [hmoves.state.finished]
      split
      · exact .ok _ (twins_conclude hcloses hmoves)
      · exact .ok _ hmoves
  | suspended suspension => exact .ok _ hmoves
  | complete => exact .ok _ hmoves

/-- A link leads to the same script for twins, or it leads nowhere for both. -/
theorem target_cases (hcloses : setup.ClosesTo closed) (htwins : scene.Twins twin) (link : Link) :
    (∃ error, scene.target setup link = .error error ∧ twin.target closed link = .error error) ∨
      ∃ collection other index, scene.target setup link = .ok (collection, index) ∧
        twin.target closed link = .ok (other, index) ∧ collection.ClosesTo other := by
  have hown := htwins.state.collection
  have hscripts := htwins.state.script
  have hlocation : { twin.state.location with lineNo := link.lineNo } =
      { scene.state.location with lineNo := link.lineNo } := by
    simp only [State.location, hown.name, hscripts.name]
  have hsame (file : String) :
      twin.state.collection.isAt file = scene.state.collection.isAt file := by
    rw [Collection.isAt, Collection.isAt, hown.path]
  unfold target
  dsimp only
  rw [htwins.state.resolve_eq, hlocation]
  generalize Error.missingScript _ _ = missing
  generalize Path.splitName (scene.state.resolve link.target) = parts
  obtain ⟨file, name⟩ := parts
  dsimp only
  unfold destination
  rw [hsame]
  split
  · rw [hown.scriptIndex?_eq]
    cases scene.state.collection.scriptIndex? (some name) with
    | none => exact .inl ⟨missing, rfl, rfl⟩
    | some index => exact .inr ⟨_, _, index, rfl, rfl, hown⟩
  · have hlibraries := hcloses.library
    generalize setup.library = library, closed.library = other at hlibraries ⊢
    cases hlibraries with
    | none => exact .inl ⟨missing, rfl, rfl⟩
    | some hagree =>
        dsimp only
        obtain ⟨error, hfailed, halsoFailed⟩ | ⟨collection, served, hfound, halsoFound, hsame⟩ :=
          hagree file
        · rw [hfailed, halsoFailed]
          cases error <;> exact .inl ⟨_, rfl, rfl⟩
        · rw [hfound, halsoFound]
          dsimp only
          rw [hsame.scriptIndex?_eq]
          cases collection.scriptIndex? (some name) with
          | none => exact .inl ⟨missing, rfl, rfl⟩
          | some index => exact .inr ⟨_, _, index, rfl, rfl, hsame⟩

theorem Twins.noteUnannounced (htwins : scene.Twins twin) (link : Link) :
    (scene.noteUnannounced link).Twins (twin.noteUnannounced link) := by
  have hscripts := htwins.state.script
  rw [Scene.noteUnannounced, Scene.noteUnannounced]
  dsimp only
  rw [htwins.state.resolve_eq, Script.linksTo, Script.linksTo, hscripts.links]
  split
  · exact htwins
  · exact htwins.withStage ⟨htwins.stage.world, htwins.stage.calls⟩

theorem Twins.enter (htwins : scene.Twins twin) {collection other : Collection}
    (hsame : collection.ClosesTo other) (index : Nat) :
    (scene.enter collection index).Twins (twin.enter other index) where
  state :=
    { collection := hsame
      scriptIndex := rfl
      cursor := rfl
      speaker := rfl
      choices := rfl
      finished := htwins.state.finished
      store := htwins.state.store
      retrying := rfl }
  status := htwins.status
  stage := htwins.markVisited

theorem twins_follow (hcloses : setup.ClosesTo closed) (htwins : scene.Twins twin) (link : Link) :
    (scene.follow setup link).Twins (twin.follow closed link) := by
  have hnoted := htwins.noteUnannounced link
  obtain ⟨error, hfailed, halsoFailed⟩ | ⟨collection, other, index, hfound, halsoFound, hsame⟩ :=
    target_cases hcloses htwins link
  · rw [follow_of_error hfailed, follow_of_error halsoFailed]
    exact .error error hnoted
  · rw [follow_of_ok hfound, follow_of_ok halsoFound]
    exact .ok () ((hnoted.note _ _).enter hsame index)

/-! ## Steps -/

theorem twins_exhaust (hcloses : setup.ClosesTo closed) (htwins : scene.Twins twin) :
    (scene.exhaust setup).Twins (twin.exhaust closed) := by
  have hchoices := htwins.state.choices
  by_cases hnone : scene.state.choices = []
  · rw [exhaust, exhaust, hchoices, hnone]
    exact .ok _ (twins_conclude hcloses htwins)
  by_cases hfollowed : setup.autoFollow = true ∧ ∃ link, scene.state.choices = [link]
  · obtain ⟨hauto, link, hsingle⟩ := hfollowed
    rw [exhaust_of_single hauto hsingle,
      exhaust_of_single (hcloses.autoFollow.trans hauto) (hchoices.trans hsingle)]
    have houtcomes := twins_follow hcloses htwins link
    generalize scene.follow setup link = outcome, twin.follow closed link = answer at houtcomes ⊢
    cases houtcomes with
    | ok value htwins => exact .ok _ htwins
    | error error htwins => exact .error error htwins
  · have hasks (hauto : setup.autoFollow = true) (link : Link) : scene.state.choices ≠ [link] :=
      fun hsingle => hfollowed ⟨hauto, link, hsingle⟩
    rw [exhaust_of_offered hnone hasks, exhaust_of_offered (hchoices ▸ hnone) fun hauto link =>
      hchoices ▸ hasks (hcloses.autoFollow ▸ hauto) link]
    have hoffers := htwins.called (.choices scene.state.choices)
      (setup.host.choices scene.state.choices)
    rw [offer, offer, hchoices, hcloses.host]
    exact .ok _ ⟨hoffers.state, rfl, hoffers.stage⟩

/-- The second playback has come to the end of its script if the first one has, unless they end
before they see it. -/
def Abreast (scene twin : Scene μ) : Prop :=
  scene.state.finished = false → scene.state.line? = none → twin.state.line? = none

theorem twins_play (hcloses : setup.ClosesTo closed) (hblind : setup.host.IsBlind)
    (htwins : scene.Twins twin) (habreast : scene.Abreast twin) :
    (scene.play setup).Twins (twin.play closed) := by
  rw [play, play, htwins.state.finished]
  split
  · exact .ok _ (twins_conclude hcloses htwins)
  · rename_i hunfinished
    cases hhere : scene.state.line? with
    | none =>
        rw [habreast (Bool.eq_false_iff.mpr hunfinished) hhere]
        exact twins_exhaust hcloses htwins
    | some line =>
        rw [htwins.state.line?_eq hhere]
        have houtcomes := twins_run hcloses hblind htwins hhere
        dsimp only
        generalize scene.run setup line = outcome, twin.run closed line = answer at houtcomes ⊢
        cases houtcomes with
        | ok progress htwins => exact twins_moveOn hcloses htwins progress
        | error error htwins => exact .error error htwins

theorem twins_begin (hcloses : setup.ClosesTo closed) (hblind : setup.host.IsBlind)
    (htwins : scene.Twins twin) : (scene.begin setup).Twins (twin.begin closed) := by
  have hcalled := htwins.called (.start scene.state.script.path) (setup.host.start scene.state)
  rw [begin, begin, hcloses.host, htwins.state.script.path, hblind.start htwins.state]
  exact ⟨hcalled.state, rfl, hcalled.stage⟩

/-- Twins that are abreast take the same step. -/
theorem twins_step (hcloses : setup.ClosesTo closed) (hblind : setup.host.IsBlind)
    (htwins : scene.Twins twin) (habreast : scene.Abreast twin) :
    (scene.step setup).Twins (twin.step closed) := by
  have hattempts : (scene.attempt setup).Twins (twin.attempt closed) := by
    rw [attempt, attempt, htwins.status]
    cases scene.status with
    | complete => exact .ok _ htwins
    | suspended suspension => exact .ok _ htwins
    | notStarted => exact twins_play hcloses hblind (twins_begin hcloses hblind htwins) habreast
    | running => exact twins_play hcloses hblind htwins habreast
  rw [step, step]
  generalize scene.attempt setup = outcome, twin.attempt closed = answer at hattempts ⊢
  cases hattempts with
  | ok progress htwins => exact .ok progress htwins
  | error error htwins => exact .error error (htwins.noteFailure error).halt

/-- Twins of which neither one begins behind the other. -/
structure SideBySide (scene twin : Scene μ) : Prop extends scene.Twins twin where
  begins : scene.status = .notStarted → scene.state.line? = none → twin.state.line? = none

theorem SideBySide.of_begun (htwins : scene.Twins twin) (hbegun : scene.status ≠ .notStarted) :
    scene.SideBySide twin :=
  ⟨htwins, fun hsilent => absurd hsilent hbegun⟩

/-! ## Falling behind

At the end of the old script the second playback may still have closing tags to run. It takes a step
for each of them, and the first one takes none.
-/

theorem step_of_closing {tag : Tag} (hrunning : twin.status = .running)
    (hunfinished : twin.state.finished = false) (hhere : twin.state.line? = some (.tag tag))
    (hclosing : tag.closesBlock = true) :
    twin.step closed = .ok .moved (twin.standAt (twin.state.cursor + 1)) := by
  have hran : twin.run closed (.tag tag) = .ok .moved twin := by
    rw [run, runTag, Tag.closesBlock_iff.mp hclosing]
  rw [step_of_line hrunning hunfinished hhere, hran]
  dsimp only
  rw [moveOn_moved, hunfinished, if_neg Bool.false_ne_true]

/-- Twins take the same step, or the second one has fallen behind and catches up by a line. -/
theorem twins_step_or_behind (hcloses : setup.ClosesTo closed) (hblind : setup.host.IsBlind)
    (hpair : scene.SideBySide twin) :
    (scene.step setup).Twins (twin.step closed) ∨
      ∃ after, twin.step closed = .ok .moved after ∧ scene.SideBySide after ∧
        after.state.linesLeft < twin.state.linesLeft := by
  have htwins := hpair.toTwins
  by_cases habreast : scene.Abreast twin
  · exact .inl (twins_step hcloses hblind htwins habreast)
  simp only [Abreast, Classical.not_imp] at habreast
  obtain ⟨hunfinished, hexhausted, hmore⟩ := habreast
  cases hstatus : scene.status with
  | complete | suspended suspension =>
      rw [step, step, attempt, attempt, htwins.status, hstatus]
      exact .inl (.ok _ htwins)
  | notStarted => exact absurd (hpair.begins hstatus hexhausted) hmore
  | running =>
      obtain ⟨tag, hhere, hclosing⟩ := (htwins.state.line?_of_none hexhausted).resolve_left hmore
      have hpast : scene.state.script.lines.length ≤ scene.state.cursor :=
        List.getElem?_eq_none_iff.mp hexhausted
      have hcursor := htwins.state.cursor
      have htogether : min (twin.state.cursor + 1) scene.state.script.lines.length =
          min scene.state.cursor scene.state.script.lines.length := by omega
      have hstill := htwins.withState (htwins.state.withCursor htogether)
      refine .inr ⟨_, step_of_closing (htwins.status.trans hstatus)
        (htwins.state.finished.trans hunfinished) hhere hclosing, .of_begun hstill ?_, ?_⟩
      · exact fun hsilent => by cases hstatus.symm.trans hsilent
      · exact State.linesLeft_lt (.of_eq rfl rfl rfl) hmore (Nat.lt_succ_self _)

/-- With some steps of its own the second playback catches up. -/
theorem exists_catchUp (hcloses : setup.ClosesTo closed) (hblind : setup.host.IsBlind)
    (hpair : scene.SideBySide twin) :
    ∃ (count : Nat) (after : Scene μ),
      (∀ limit, twin.advance closed (limit + count) = after.advance closed limit) ∧
      (scene.step setup).Twins (after.step closed) := by
  induction hleft : twin.state.linesLeft using Nat.strongRecOn generalizing twin with
  | ind left ih =>
      obtain htogether | ⟨after, hmoved, hstill, hfewer⟩ :=
        twins_step_or_behind hcloses hblind hpair
      · exact ⟨0, twin, fun _ => rfl, htogether⟩
      · obtain ⟨count, last, hskips, htogether⟩ := ih _ (hleft ▸ hfewer) hstill rfl
        refine ⟨count + 1, last, fun limit => ?_, htogether⟩
        rw [← Nat.add_assoc, advance_succ hmoved, hskips]

/-! ## Advances -/

theorem status_step_of_begun (hbegun : scene.status ≠ .notStarted) :
    (scene.step setup).scene.status ≠ .notStarted := by
  have hsteps := stepsTo_step setup scene
  have hhalts (error : Error) (hfailed : (scene.step setup).result = .error error) :
      (scene.step setup).scene.status = .complete := status_of_step_error hfailed
  generalize scene.step setup = outcome at hsteps hhalts ⊢
  cases hsteps with
  | still hidle hquiet => exact hbegun
  | ran _ _ _ hstatus | jumped _ _ _ _ _ hstatus | spoke _ hstatus | offered _ hstatus
  | ended _ hstatus => exact fun hsilent => by cases hstatus.symm.trans hsilent
  | failed hgathers hstatus =>
      rw [hhalts _ rfl]
      nofun

theorem status_advance_of_begun (limit : Nat) (hbegun : scene.status ≠ .notStarted) :
    (scene.advance setup limit).scene.status ≠ .notStarted :=
  advance_keeps (P := (·.status ≠ .notStarted)) status_step_of_begun limit hbegun

theorem status_opened (setup : Setup μ) (scene : Scene μ) :
    (scene.opened setup).status ≠ .notStarted := by
  rw [opened]
  split
  · exact fun hsilent => by cases hsilent
  · assumption

theorem status_step_ne_notStarted (setup : Setup μ) (scene : Scene μ) :
    (scene.step setup).scene.status ≠ .notStarted := by
  rw [← step_opened]
  exact status_step_of_begun (status_opened setup scene)

theorem status_advance_ne_notStarted (setup : Setup μ) (limit : Nat) (scene : Scene μ) :
    (scene.advance setup (limit + 1)).scene.status ≠ .notStarted := by
  rw [advance, ← step_opened, ← advance]
  exact status_advance_of_begun (limit + 1) (status_opened setup scene)

/-- After the same step both advances go on, or both are over. -/
theorem advance_cases (htogether : (scene.step setup).Twins (twin.step closed)) :
    (∃ after last, scene.step setup = .ok .moved after ∧ twin.step closed = .ok .moved last ∧
      after.SideBySide last) ∨
    ∀ limit other, (scene.advance setup (limit + 1)).Twins (twin.advance closed (other + 1)) := by
  have hbegun := status_step_ne_notStarted setup scene
  simp only [advance]
  generalize scene.step setup = outcome, twin.step closed = answer at htogether hbegun ⊢
  cases htogether with
  | error error htwins => exact .inr fun _ _ => .error error htwins
  | ok progress htwins =>
      cases progress with
      | moved => exact .inl ⟨_, _, rfl, rfl, .of_begun htwins hbegun⟩
      | suspended suspension => exact .inr fun _ _ => .ok _ htwins
      | complete => exact .inr fun _ _ => .ok _ htwins

/-- However far the first playback advances, the second one advances as far. -/
theorem exists_advance_closed (hcloses : setup.ClosesTo closed) (hblind : setup.host.IsBlind)
    (limit : Nat) (hpair : scene.SideBySide twin) :
    ∃ other, (scene.advance setup limit).Twins (twin.advance closed other) := by
  induction limit generalizing scene twin with
  | zero => exact ⟨0, .ok none hpair.toTwins⟩
  | succ limit ih =>
      obtain ⟨count, last, hskips, htogether⟩ := exists_catchUp hcloses hblind hpair
      rcases advance_cases htogether with ⟨after, later, hmoved, halsoMoved, hstill⟩ | hstops
      · obtain ⟨other, houtcomes⟩ := ih hstill
        refine ⟨other + 1 + count, ?_⟩
        rw [hskips, advance_succ hmoved, advance_succ halsoMoved]
        exact houtcomes
      · refine ⟨0 + 1 + count, ?_⟩
        rw [hskips]
        exact hstops limit 0

/-- However far the second playback advances, the first one advances as far. -/
theorem exists_advance_open (hcloses : setup.ClosesTo closed) (hblind : setup.host.IsBlind)
    (limit : Nat) (hpair : scene.SideBySide twin) :
    ∃ other, (scene.advance setup other).Twins (twin.advance closed limit) := by
  induction limit generalizing scene twin with
  | zero => exact ⟨0, .ok none hpair.toTwins⟩
  | succ limit ih =>
      rcases twins_step_or_behind hcloses hblind hpair with htogether | ⟨after, hmoved, hstill, -⟩
      · rcases advance_cases htogether with ⟨after, later, hmoved, halsoMoved, hstill⟩ | hstops
        · obtain ⟨other, houtcomes⟩ := ih hstill
          refine ⟨other + 1, ?_⟩
          rw [advance_succ hmoved, advance_succ halsoMoved]
          exact houtcomes
        · exact ⟨0 + 1, hstops 0 limit⟩
      · -- The first playback waits at the end of its script for the second one to get there.
        obtain ⟨other, houtcomes⟩ := ih hstill
        refine ⟨other, ?_⟩
        rw [advance_succ hmoved]
        exact houtcomes

/-! ## Other operations -/

theorem Twins.resume (htwins : scene.Twins twin) : scene.resume.Twins twin.resume := by
  rw [Scene.resume, Scene.resume, htwins.status]
  split
  · exact ⟨htwins.state, rfl, htwins.stage⟩
  · exact htwins.note _ _

theorem twins_select (hcloses : setup.ClosesTo closed) (htwins : scene.Twins twin) (link : Link) :
    (scene.select setup link).Twins (twin.select closed link) := by
  rw [select, select, htwins.status]
  split
  · rename_i offered _
    have hchooses : Scene.Twins
        (if link ∈ offered then scene else scene.note (.notOffered link.target))
        (if link ∈ offered then twin else twin.note (.notOffered link.target)) := by
      split
      · exact htwins
      · exact htwins.note _ _
    have houtcomes := twins_follow hcloses hchooses link
    dsimp only
    generalize Scene.follow setup link _ = outcome, Scene.follow closed link _ = answer
      at houtcomes ⊢
    cases houtcomes with
    | ok value htwins => exact .ok () ⟨htwins.state, rfl, htwins.stage⟩
    | error error htwins => exact .error error htwins.halt
  · exact .ok () (htwins.note _ _)

/-- Operations that two playbacks can be told alike: any but single steps, and an index only if a
choice is offered under it. -/
def Fits (scene : Scene μ) : Operation → Prop
  | .step => False
  | .selectAt index => scene.offered? index ≠ none
  | .advance _ | .resume | .select _ | .finish => True

theorem Twins.fits_iff (htwins : scene.Twins twin) (operation : Operation) :
    twin.Fits operation ↔ scene.Fits operation := by
  cases operation with
  | selectAt index => rw [Fits, Fits, offered?, offered?, htwins.status]
  | step | advance _ | resume | select _ | finish => exact Iff.rfl

/-- What fits and is no advance comes to the same for twins. -/
theorem twins_perform (hcloses : setup.ClosesTo closed) (htwins : scene.Twins twin)
    {operation : Operation} (hfits : scene.Fits operation)
    (hdirect : ∀ limit, operation ≠ .advance limit) :
    (scene.perform setup operation).Twins (twin.perform closed operation) := by
  cases operation with
  | step => exact absurd hfits not_false
  | advance limit => exact absurd rfl (hdirect limit)
  | resume => exact .ok _ htwins.resume
  | select link => exact (twins_select hcloses htwins link).map _
  | selectAt index =>
      have hsame : twin.offered? index = scene.offered? index := by
        rw [offered?, offered?, htwins.status]
      obtain ⟨link, hoffered⟩ := Option.ne_none_iff_exists'.mp hfits
      rw [perform, perform, selectAt, selectAt, hsame, hoffered]
      exact (twins_select hcloses htwins link).map _
  | finish => exact .ok _ (htwins.withState { htwins.state with finished := rfl })

theorem line?_select_of_notStarted (setup : Setup μ) (link : Link)
    (hsilent : (scene.select setup link).scene.status = .notStarted) :
    scene.status = .notStarted ∧
      (scene.select setup link).scene.state.line? = scene.state.line? := by
  generalize hchosen : scene.select setup link = outcome at hsilent ⊢
  unfold select at hchosen
  split at hchosen
  · dsimp only at hchosen
    split at hchosen
    · cases hchosen
      cases hsilent
    · cases hchosen
      cases hsilent
  · cases hchosen
    exact ⟨hsilent, rfl⟩

/-- A playback that still has not begun is where it was. -/
theorem line?_perform_of_notStarted (setup : Setup μ) (operation : Operation)
    (hsilent : (scene.perform setup operation).scene.status = .notStarted) :
    scene.status = .notStarted ∧
      (scene.perform setup operation).scene.state.line? = scene.state.line? := by
  cases operation with
  | step =>
      rw [perform, Outcome.scene_map] at hsilent
      exact absurd hsilent (status_step_ne_notStarted setup scene)
  | advance limit =>
      rw [perform, Outcome.scene_map] at hsilent ⊢
      cases limit with
      | zero => exact ⟨hsilent, rfl⟩
      | succ limit => exact absurd hsilent (status_advance_ne_notStarted setup limit scene)
  | resume =>
      rw [perform] at hsilent ⊢
      generalize hconfirmed : scene.resume = after at hsilent ⊢
      unfold resume at hconfirmed
      split at hconfirmed
      · cases hconfirmed
        cases hsilent
      · cases hconfirmed
        exact ⟨hsilent, rfl⟩
  | select link =>
      rw [perform, Outcome.scene_map] at hsilent ⊢
      exact line?_select_of_notStarted setup link hsilent
  | selectAt index =>
      rw [perform, Outcome.scene_map, selectAt] at hsilent ⊢
      cases hoffered : scene.offered? index with
      | some link =>
          rw [hoffered] at hsilent
          exact line?_select_of_notStarted setup link hsilent
      | none =>
          rw [hoffered] at hsilent
          exact ⟨hsilent, rfl⟩
  | finish => exact ⟨hsilent, rfl⟩

end Scene

/-! ## Runs -/

/-- Two operations are the same, up to the limit of an advance. -/
inductive Operation.SameButLimit : Operation → Operation → Prop where
  | same (operation : Operation) : SameButLimit operation operation
  | advance (limit other : Nat) : SameButLimit (.advance limit) (.advance other)

namespace Scene

/-- In a run, each operation fits the playback when its turn comes. -/
def FitsAll (setup : Setup μ) : List Operation → Scene μ → Prop
  | [], _ => True
  | operation :: later, scene =>
    scene.Fits operation ∧ FitsAll setup later (scene.perform setup operation).scene

/-- Two playbacks go through operations that are the same up to the limits of advances. Each
operation answers the same in both, and they are twins before and after it. -/
inductive GoAlong (setup closed : Setup μ) :
    List Operation → List Operation → Scene μ → Scene μ → Prop where
  | done {scene twin : Scene μ} (htwins : scene.Twins twin) : GoAlong setup closed [] [] scene twin
  | next {scene twin : Scene μ} {operation other : Operation} {later others : List Operation}
      (htwins : scene.Twins twin) (hsame : operation.SameButLimit other)
      (hanswer : (twin.perform closed other).result = (scene.perform setup operation).result)
      (honward : GoAlong setup closed later others (scene.perform setup operation).scene
        (twin.perform closed other).scene) :
      GoAlong setup closed (operation :: later) (other :: others) scene twin

variable {setup closed : Setup μ} {scene twin : Scene μ}

theorem exists_perform_closed (hcloses : setup.ClosesTo closed) (hblind : setup.host.IsBlind)
    (hpair : scene.SideBySide twin) {operation : Operation} (hfits : scene.Fits operation) :
    ∃ other, operation.SameButLimit other ∧
      (scene.perform setup operation).Twins (twin.perform closed other) := by
  by_cases hdirect : ∀ limit, operation ≠ .advance limit
  · exact ⟨operation, .same operation, twins_perform hcloses hpair.toTwins hfits hdirect⟩
  · obtain ⟨limit, hadvances⟩ := Classical.not_forall.mp hdirect
    obtain rfl := Classical.not_not.mp hadvances
    obtain ⟨other, houtcomes⟩ := exists_advance_closed hcloses hblind limit hpair
    exact ⟨.advance other, .advance limit other, houtcomes.map _⟩

theorem exists_perform_open (hcloses : setup.ClosesTo closed) (hblind : setup.host.IsBlind)
    (hpair : scene.SideBySide twin) {operation : Operation} (hfits : twin.Fits operation) :
    ∃ other : Operation, other.SameButLimit operation ∧
      (scene.perform setup other).Twins (twin.perform closed operation) := by
  by_cases hdirect : ∀ limit, operation ≠ .advance limit
  · have hsame := twins_perform hcloses hpair.toTwins ((hpair.fits_iff operation).mp hfits) hdirect
    exact ⟨operation, .same operation, hsame⟩
  · obtain ⟨limit, hadvances⟩ := Classical.not_forall.mp hdirect
    obtain rfl := Classical.not_not.mp hadvances
    obtain ⟨other, houtcomes⟩ := exists_advance_open hcloses hblind limit hpair
    exact ⟨.advance other, .advance other limit, houtcomes.map _⟩

/-- Neither one falls behind before the beginning. -/
theorem SideBySide.perform (hpair : scene.SideBySide twin) {operation other : Operation}
    (houtcomes : (scene.perform setup operation).Twins (twin.perform closed other)) :
    (scene.perform setup operation).scene.SideBySide (twin.perform closed other).scene where
  toTwins := houtcomes.scene
  begins hsilent hexhausted := by
    obtain ⟨hbegins, hhere⟩ := line?_perform_of_notStarted setup operation hsilent
    obtain ⟨-, hthere⟩ := line?_perform_of_notStarted closed other
      (houtcomes.scene.status.trans hsilent)
    rw [hthere]
    exact hpair.begins hbegins (hhere.symm.trans hexhausted)

theorem exists_goAlong_closed (hcloses : setup.ClosesTo closed) (hblind : setup.host.IsBlind)
    (operations : List Operation) (hpair : scene.SideBySide twin)
    (hfits : scene.FitsAll setup operations) :
    ∃ others, GoAlong setup closed operations others scene twin := by
  induction operations generalizing scene twin with
  | nil => exact ⟨[], .done hpair.toTwins⟩
  | cons operation later ih =>
      obtain ⟨other, hsame, houtcomes⟩ := exists_perform_closed hcloses hblind hpair hfits.1
      obtain ⟨others, honward⟩ := ih (hpair.perform houtcomes) hfits.2
      exact ⟨other :: others, .next hpair.toTwins hsame houtcomes.result honward⟩

theorem exists_goAlong_open (hcloses : setup.ClosesTo closed) (hblind : setup.host.IsBlind)
    (others : List Operation) (hpair : scene.SideBySide twin)
    (hfits : twin.FitsAll closed others) :
    ∃ operations, GoAlong setup closed operations others scene twin := by
  induction others generalizing scene twin with
  | nil => exact ⟨[], .done hpair.toTwins⟩
  | cons other later ih =>
      obtain ⟨operation, hsame, houtcomes⟩ := exists_perform_open hcloses hblind hpair hfits.1
      obtain ⟨operations, honward⟩ := ih (hpair.perform houtcomes) hfits.2
      exact ⟨operation :: operations, .next hpair.toTwins hsame houtcomes.result honward⟩

end Scene

/-- A name finds the first script in both collections, or it is missing in both. -/
theorem Playback.start_cases {collection closed : Collection} (hsame : collection.ClosesTo closed)
    (name : Option String) (store : Option StoreId) :
    (∃ error, Playback.start collection name store = .error error ∧
      Playback.start closed name store = .error error) ∨
    ∃ index,
      Playback.start collection name store = .ok ⟨.start collection index store, .notStarted⟩ ∧
      Playback.start closed name store = .ok ⟨.start closed index store, .notStarted⟩ := by
  unfold Playback.start
  have hfilled : closed.scripts = [] ↔ collection.scripts = [] := by
    have hscripts := hsame.scripts
    generalize collection.scripts = old, closed.scripts = new at hscripts
    cases hscripts <;> simp
  rw [hsame.scriptIndex?_eq, hsame.name, hsame.path]
  by_cases hempty : collection.scripts = []
  · rw [if_pos hempty, if_pos (hfilled.mpr hempty)]
    exact .inl ⟨_, rfl, rfl⟩
  · rw [if_neg hempty, if_neg fun hnone => hempty (hfilled.mp hnone)]
    cases collection.scriptIndex? name with
    | some index => exact .inr ⟨index, rfl, rfl⟩
    | none =>
        cases name with
        | none => exact .inr ⟨0, rfl, rfl⟩
        | some name => exact .inl ⟨_, rfl, rfl⟩

namespace Scene

variable {setup closed : Setup μ} {collection other : Collection}

theorem sideBySide_opening (hsame : collection.ClosesTo other) (index : Nat)
    (store : Option StoreId) (world : World μ) :
    (Playback.opening ⟨.start collection index store, .notStarted⟩ world).SideBySide
      (Playback.opening ⟨.start other index store, .notStarted⟩ world) where
  state := ⟨hsame, rfl, rfl, rfl, rfl, rfl, rfl, rfl⟩
  status := rfl
  stage := .refl _
  begins := by
    intro _ hexhausted
    have hempty : (State.start collection index store).script.lines = [] :=
      List.eq_nil_of_length_eq_zero (Nat.le_zero.mp (List.getElem?_eq_none_iff.mp hexhausted))
    have hscripts : (State.start collection index store).script.ClosesTo
        (State.start other index store).script := hsame.getD_scripts index
    show (State.start other index store).script.lines[0]? = none
    rw [hscripts.eq_nil hempty]
    rfl

/-- Two collections play alike, each with its own set-up. Neither can be started, for the same
reason, or the playbacks go along with each other: any run of one of them has a run of the other
beside it. -/
def PlayAlike (setup closed : Setup μ) (collection other : Collection) (name : Option String)
    (store : Option StoreId) (world : World μ) : Prop :=
  (∃ error, Playback.start collection name store = .error error ∧
    Playback.start other name store = .error error) ∨
  ∃ playback twin, Playback.start collection name store = .ok playback ∧
    Playback.start other name store = .ok twin ∧
    (∀ operations, (playback.opening world).FitsAll setup operations →
      ∃ others, GoAlong setup closed operations others (playback.opening world)
        (twin.opening world)) ∧
    ∀ others, (twin.opening world).FitsAll closed others →
      ∃ operations, GoAlong setup closed operations others (playback.opening world)
        (twin.opening world)

/-- Closing the blocks that scripts leave open makes no difference to a host or a driver. -/
theorem playAlike_of_closesTo (hcloses : setup.ClosesTo closed) (hblind : setup.host.IsBlind)
    (hsame : collection.ClosesTo other) (name : Option String) (store : Option StoreId)
    (world : World μ) : PlayAlike setup closed collection other name store world := by
  obtain hfailed | ⟨index, hstarted, halsoStarted⟩ := Playback.start_cases hsame name store
  · exact .inl hfailed
  · have hpair := sideBySide_opening hsame index store world
    exact .inr ⟨_, _, hstarted, halsoStarted,
      fun operations hfits => exists_goAlong_closed hcloses hblind operations hpair hfits,
      fun others hfits => exists_goAlong_open hcloses hblind others hpair hfits⟩

/-- The hall of an inn ends within two blocks. -/
theorem playAlike_of_closesTo_hall :
    let outer : Tag := ⟨⟨"#if visited(Yard)", 1⟩, "if", "visited(Yard)"⟩
    let quote : Line := .quote ⟨⟨"> It is dark.", 2⟩, "It is dark."⟩
    let inner : Tag := ⟨⟨"#if gt(lamps, 0)", 3⟩, "if", "gt(lamps, 0)"⟩
    let light : Line := .quote ⟨⟨"> A lamp burns.", 4⟩, "A lamp burns."⟩
    let closing (lineNo : Nat) : Tag := ⟨⟨"#endif", lineNo⟩, "endif", ""⟩
    let hall : Script := ⟨"Hall", "inn#Hall", [.tag outer, quote, .tag inner, light], .empty⟩
    let yard : Script := ⟨"Yard", "inn#Yard", [], .empty⟩
    let inn : Collection := ⟨"inn", "inn", "", [hall, yard]⟩
    let shut : Script :=
      { hall with lines := hall.lines ++ [closing 5, closing 6].map .tag }
    let other : Collection := { inn with scripts := inn.scripts.set 0 shut }
    let setup : Setup Unit := ⟨.idle, none, true⟩
    setup.ClosesTo setup ∧ setup.host.IsBlind ∧ inn.ClosesTo other ∧
      PlayAlike setup setup inn other (some "Hall") (some ⟨0⟩) ⟨(), .empty⟩ := by
  intro outer quote inner light closing hall yard inn shut other setup
  let block : Block :=
    .chain outer (by decide)
      (.line quote rfl (.chain inner (by decide) (.line light rfl .done)
        (.endIf (closing 5) (by decide)) .done))
      (.endIf (closing 6) (by decide)) .done
  have hnested : hall.lines ++ [closing 5, closing 6].map .tag = block.lines := rfl
  have hcloses : inn.ClosesTo other :=
    Collection.closesTo_set rfl (Script.closesTo_of_block (by decide) hnested)
  exact ⟨.refl setup, Host.isBlind_idle, hcloses,
    playAlike_of_closesTo (.refl setup) Host.isBlind_idle hcloses _ _ _⟩

end Scene

end Dialogue
