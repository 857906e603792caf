/-
# Counting visits

A playback passes a script when it leaves the script by a link and when it plays it to the end. In a
session whose playbacks share a store, every pass counts as one visit in that store and nothing else
does: neither a link that leads nowhere nor an error nor a call that does not fit. So the counts of
a store are those it had, with one added for every pass since, whichever playback made it.

What a step has passed is read off its outcome, and not off the store. The record of the stage shows
the same passes in another way, as jumps that were noticed and ends that the host was told.
-/

import Dialogue.Playback.Session
import Dialogue.Proofs.Playback.Frame
import Dialogue.Proofs.Playback.Run

namespace Dialogue

variable {μ : Type}

/-! ## Passes -/

/-- Whether the visits of a script count for a path. -/
def Script.countsFor (script : Script) (path : String) : Bool :=
  Text.sameName script.path path

/-- The script that a step from a scene has passed, if it has passed one. A step that completes the
playback has played the script to its end. A step that goes on although no line was left has
followed a link. -/
def Outcome.passed (before : Scene μ) : Outcome μ Progress → List Script
  | ok .complete _ => if before.status = .complete then [] else [before.state.script]
  | ok .moved _ => if before.state.line? = none then [before.state.script] else []
  | ok (.suspended _) _ | error _ _ => []

/-- The script that a jump from a scene has left, unless it has failed. -/
def Outcome.left (before : Scene μ) : Outcome μ Unit → List Script
  | ok () _ => [before.state.script]
  | error _ _ => []

namespace Scene

variable (setup : Setup μ)

/-- The scripts that a number of steps pass. -/
def passedBySteps : Nat → Scene μ → List Script
  | 0, _ => []
  | limit + 1, scene =>
    (scene.step setup).passed scene ++
      match scene.step setup with
      | .ok .moved after => passedBySteps limit after
      | _ => []

/-- The script that a choice leaves, if one waits and its link leads somewhere. -/
def passedByChoice (link : Link) (scene : Scene μ) : List Script :=
  match scene.status with
  | .suspended (.choices _) => (scene.select setup link).left scene
  | _ => []

/-- The scripts that an operation passes. -/
def passed (operation : Operation) (scene : Scene μ) : List Script :=
  match operation with
  | .step => (scene.step setup).passed scene
  | .advance limit => scene.passedBySteps setup limit
  | .select link => scene.passedByChoice setup link
  | .selectAt index => (scene.offered? index).toList.flatMap (scene.passedByChoice setup)
  | .resume | .finish => []

end Scene

/-- A turn in a session: an operation on one of its playbacks, and what that is set up with. -/
structure Turn (μ : Type) where
  /-- The index of the player. -/
  player : Nat
  /-- What the playback is set up with. -/
  setup : Setup μ
  /-- The operation. -/
  operation : Operation

namespace Session

/-- The session after a turn. Nothing happens if there is no such player. -/
def takeTurn (session : Session μ) (turn : Turn μ) : Session μ :=
  match session.act turn.player fun _ scene => scene.perform turn.setup turn.operation with
  | some (_, after) => after
  | none => session

/-- The scripts that a turn passes. -/
def passedInTurn (session : Session μ) (turn : Turn μ) : List Script :=
  match session.players[turn.player]? with
  | some player => (session.scene player).passed turn.setup turn.operation
  | none => []

/-- The session after some turns. A turn that fails is followed by the next one. -/
def takeTurns (session : Session μ) (turns : List (Turn μ)) : Session μ :=
  turns.foldl takeTurn session

/-- The scripts that are passed in some turns. -/
def passed : List (Turn μ) → Session μ → List Script
  | [], _ => []
  | turn :: later, session => session.passedInTurn turn ++ passed later (session.takeTurn turn)

end Session

/-! ## Hosts that do not count -/

/-- The counts of visits in a store are the same in two worlds. -/
def World.SameVisits (id : StoreId) (before after : World μ) : Prop :=
  ∀ path, (after.stores.get id).visitCount path = (before.stores.get id).visitCount path

/-- A host that leaves the counts of visits in a store alone and gives no playback another store. It
may set variables. -/
structure Host.SparesVisits (host : Host μ) (id : StoreId) : Prop where
  start : ∀ state world, World.SameVisits id world (host.start state world)
  speech : ∀ cue speech world, World.SameVisits id world (host.speech cue speech world)
  quote : ∀ quote world, World.SameVisits id world (host.quote quote world)
  choices : ∀ links world, World.SameVisits id world (host.choices links world)
  finish : ∀ world, World.SameVisits id world (host.finish world)
  tag : ∀ tag state world, World.SameVisits id world (host.tag tag state world).2
  condition : ∀ call state world, World.SameVisits id world (host.condition call state world).2
  keepsStore : ∀ tag state world, (host.tag tag state world).1.store = none

theorem Host.sparesVisits_idle (id : StoreId) : (Host.idle : Host μ).SparesVisits id where
  start _ _ _ := rfl
  speech _ _ _ _ := rfl
  quote _ _ _ := rfl
  choices _ _ _ := rfl
  finish _ _ := rfl
  tag _ _ _ _ := rfl
  condition _ _ _ _ := rfl
  keepsStore _ _ _ := rfl

/-! ## Stages -/

/-- Whether a remark tells that another script is entered. -/
def Remark.isJump : Remark → Bool
  | jumping _ => true
  | _ => false

namespace Stage

/-- How many passes the record shows: the ends that the host was told and the jumps that were
noticed. -/
def passes (stage : Stage μ) : Nat :=
  stage.calls.count .finish + stage.notices.countP fun notice => notice.remark.isJump

/-- From one stage to another, each of some scripts has counted once, in the store and in the
record, and nothing else has. -/
structure Counts (id : StoreId) (before : Stage μ) (passed : List Script) (after : Stage μ) :
    Prop where
  visits : ∀ path, (after.stores.get id).visitCount path =
    (before.stores.get id).visitCount path + UInt32.ofNat (passed.countP (·.countsFor path))
  recorded : after.passes = before.passes + passed.length

variable {id : StoreId} {stage before between after : Stage μ} {first second : List Script}

theorem Counts.of_same (hsame : World.SameVisits id before.toWorld after.toWorld)
    (hpasses : after.passes = before.passes) : before.Counts id [] after where
  visits path := by
    rw [hsame path]
    exact (UInt32.add_zero _).symm
  recorded := hpasses

theorem Counts.refl (stage : Stage μ) : stage.Counts id [] stage :=
  .of_same (fun _ => rfl) rfl

theorem Counts.trans (hearly : before.Counts id first between)
    (hlate : between.Counts id second after) : before.Counts id (first ++ second) after where
  visits path := by
    rw [hlate.visits, hearly.visits, List.countP_append, UInt32.ofNat_add, UInt32.add_assoc]
  recorded := by
    rw [hlate.recorded, hearly.recorded, List.length_append, Nat.add_assoc]

theorem passes_note (stage : Stage μ) (location : Location) (remark : Remark) :
    (stage.note location remark).passes = stage.passes + if remark.isJump then 1 else 0 := by
  simp only [passes, note, List.countP_append, List.countP_singleton]
  omega

theorem passes_called (stage : Stage μ) (callback : Callback) (world : World μ) :
    (stage.called callback world).passes =
      stage.passes + if callback = .finish then 1 else 0 := by
  simp only [passes, called, List.count_append, List.count_singleton, beq_iff_eq]
  omega

theorem counts_note (stage : Stage μ) (location : Location) {remark : Remark}
    (hstays : remark.isJump = false) : stage.Counts id [] (stage.note location remark) := by
  refine .of_same (fun _ => rfl) ?_
  rw [passes_note, hstays]
  rfl

theorem counts_called {callback : Callback} {world : World μ} (hgoesOn : callback ≠ .finish)
    (hsame : World.SameVisits id stage.toWorld world) :
    stage.Counts id [] (stage.called callback world) := by
  refine .of_same hsame ?_
  rw [passes_called, if_neg hgoesOn]
  rfl

theorem passes_markVisited (stage : Stage μ) (state : State) :
    (stage.markVisited state).passes = stage.passes := by
  rw [markVisited]
  split <;> rfl

theorem visitCount_markVisited_of_held {state : State} (hheld : state.store = some id)
    (path : String) :
    ((stage.markVisited state).stores.get id).visitCount path =
      (stage.stores.get id).visitCount path +
        UInt32.ofNat ([state.script].countP (·.countsFor path)) := by
  simp only [markVisited, hheld, putStore, Shelf.get_put, if_true, Store.visitCount_markVisited,
    List.countP_singleton, Script.countsFor, Text.sameName_iff, eq_comm (a := Text.lowercase path)]
  split
  · rfl
  · exact (UInt32.add_zero _).symm

/-- A visit of the running script, with the jump or the end that goes with it. -/
theorem counts_markVisited {state : State} (hheld : state.store = some id)
    (hsame : World.SameVisits id (stage.markVisited state).toWorld after.toWorld)
    (hrecorded : after.passes = stage.passes + 1) :
    stage.Counts id [state.script] after where
  visits path := by
    rw [hsame path, visitCount_markVisited_of_held hheld]
  recorded := hrecorded

end Stage

/-! ## Running lines -/

section

variable {id : StoreId} {host : Host μ}

theorem Call.counts_decide (hspares : host.SparesVisits id) (state : State) (call : Call) :
    Meets (Stage.Counts id · []) (fun _ => True) (call.decide host state) where
  reaches {before _ _} hrun := by
    rw [Call.decide] at hrun
    split at hrun
    · split at hrun
      · cases hrun
      · cases hrun
        exact .refl _
      · cases hrun
        exact Stage.counts_note _ _ rfl
    · have hsame := hspares.condition call state before.toWorld
      split at hrun
      · rename_i hanswered
        rw [hanswered] at hsame
        cases hrun
        exact Stage.counts_called (by simp) hsame
      · rename_i hanswered
        rw [hanswered] at hsame
        cases hrun
        have hgoesOn : Callback.condition call ≠ .finish := by simp
        exact (Stage.counts_called hgoesOn hsame).trans (Stage.counts_note _ _ rfl)
  fails hrun := by
    rw [Call.decide] at hrun
    split at hrun
    · split at hrun
      · cases hrun
        exact ⟨.refl _, trivial⟩
      · cases hrun
      · cases hrun
    · split at hrun
      · cases hrun
      · cases hrun

theorem State.counts_decide (hspares : host.SparesVisits id) (state : State) (text : String) :
    Meets (Stage.Counts id · []) (fun _ => True) (state.decide host text) := by
  rw [State.decide]
  split
  · refine ⟨fun hrun => ?_, fun hrun => ?_⟩
    · cases hrun
    · cases hrun
      exact ⟨.refl _, trivial⟩
  · rename_i condition _
    exact condition.meets_eval Stage.Counts.refl Stage.Counts.trans
      (Call.counts_decide hspares state)

end

namespace Scene

/-- From one scene to another, each of some scripts has counted once and nothing else has, and the
playback has kept its store. -/
structure Counts (id : StoreId) (before : Scene μ) (passed : List Script) (after : Scene μ) :
    Prop where
  stage : before.stage.Counts id passed after.stage
  store : after.state.store = before.state.store

variable {id : StoreId} {setup : Setup μ} {scene before between after : Scene μ}
  {first second : List Script} {host : Host μ}

theorem Counts.refl (scene : Scene μ) : scene.Counts id [] scene :=
  ⟨.refl _, rfl⟩

theorem Counts.trans (hearly : before.Counts id first between)
    (hlate : between.Counts id second after) : before.Counts id (first ++ second) after :=
  ⟨hearly.stage.trans hlate.stage, hlate.store.trans hearly.store⟩

theorem Counts.of_stage {stage : Stage μ} (hcounts : scene.stage.Counts id first stage) :
    scene.Counts id first { scene with stage := stage } :=
  ⟨hcounts, rfl⟩

theorem counts_note (scene : Scene μ) {remark : Remark} (hstays : remark.isJump = false) :
    scene.Counts id [] (scene.note remark) :=
  .of_stage (Stage.counts_note _ _ hstays)

theorem counts_skipTo (scene : Scene μ) (wanted : Tag → Bool) :
    scene.Counts id [] (scene.withState (scene.state.skipTo wanted).2) := by
  refine ⟨.refl _, ?_⟩
  show (scene.state.skipTo wanted).2.store = scene.state.store
  rw [State.skipTo]
  split <;> rfl

theorem counts_skipBlock (scene : Scene μ) : scene.Counts id [] scene.skipBlock := by
  have hskips : scene.Counts id [] (scene.withState (scene.state.skipTo Tag.closesBlock).2) :=
    scene.counts_skipTo Tag.closesBlock
  rw [skipBlock]
  split
  · rename_i hfound
    rw [hfound] at hskips
    exact hskips
  · rename_i hfound
    rw [hfound] at hskips
    exact hskips.trans (counts_note _ rfl)

theorem counts_skipBranch (scene : Scene μ) (name : String) :
    scene.Counts id [] (scene.skipBranch name) := by
  have hskips : scene.Counts id [] (scene.withState (scene.state.skipTo Tag.endsBranch).2) :=
    scene.counts_skipTo Tag.endsBranch
  rw [skipBranch]
  split
  · rename_i hfound
    rw [hfound] at hskips
    split
    · exact ⟨.refl _, hskips.store⟩
    · exact hskips
  · rename_i hfound
    rw [hfound] at hskips
    exact hskips.trans (counts_note _ rfl)

theorem counts_runCondition (hspares : host.SparesVisits id) (tag : Tag) (scene : Scene μ) :
    scene.Counts id [] (scene.runCondition host tag).scene := by
  have hmeets := State.counts_decide hspares { scene.state with retrying := false } tag.args
  have hsettles : scene.Counts id [] (scene.withState { scene.state with retrying := false }) :=
    ⟨.refl _, rfl⟩
  apply hsettles.trans
  rw [runCondition]
  split
  · rename_i hfailed
    exact .of_stage (hmeets.fails hfailed).1
  · rename_i hdecided
    exact .of_stage (hmeets.reaches hdecided)
  · rename_i hdecided
    exact (Counts.of_stage (hmeets.reaches hdecided)).trans (counts_skipBranch _ _)

/-- Setting a variable leaves the counts alone. -/
theorem counts_runAssignment (tag : Tag) (hheld : scene.state.store = some id) :
    scene.Counts id [] (scene.runAssignment tag).scene := by
  rw [runAssignment, State.storeId, hheld]
  simp only []
  split
  · exact .refl scene
  · rename_i name value _
    have hsets : scene.stage.Counts id []
        (scene.stage.putStore id ((scene.stage.stores.get id).set name (some value))) := by
      refine .of_same (fun path => ?_) rfl
      rw [Stage.putStore, Shelf.get_put, if_pos rfl, Store.visitCount_set]
    exact (Counts.of_stage hsets).trans (counts_note _ rfl)

theorem counts_runUnknown (hspares : host.SparesVisits id) (tag : Tag) (scene : Scene μ) :
    scene.Counts id [] (scene.runUnknown host tag).scene := by
  have hsame := hspares.tag tag scene.state scene.stage.toWorld
  have hkeeps := hspares.keepsStore tag scene.state scene.stage.toWorld
  have hgoesOn : Callback.tag tag ≠ .finish := by simp
  have hcounts := Stage.counts_called hgoesOn hsame
  simp only [runUnknown, hkeeps, Option.none_or]
  split
  · exact ⟨hcounts, rfl⟩
  · exact ⟨hcounts, rfl⟩
  · exact ⟨hcounts.trans (Stage.counts_note _ _ rfl), rfl⟩

theorem counts_runTag (hspares : host.SparesVisits id) (tag : Tag)
    (hheld : scene.state.store = some id) :
    scene.Counts id [] (scene.runTag host tag).scene := by
  rw [runTag]
  cases Directive.ofName? tag.name with
  | none => exact counts_runUnknown hspares tag scene
  | some directive =>
      cases directive with
      | ifHolds => exact counts_runCondition hspares tag scene
      | elseIfHolds =>
          by_cases hretrying : scene.state.retrying = true
          · simp only [hretrying, if_true]
            exact counts_runCondition hspares tag scene
          · simp only [hretrying, Bool.false_eq_true, if_false]
            exact counts_skipBlock scene
      | otherwise => exact counts_skipBlock scene
      | endIf | throw => exact .refl scene
      | finish => exact ⟨.refl _, rfl⟩
      | set => exact counts_runAssignment tag hheld
      | debug | warn | error | todo => exact counts_note scene rfl

theorem counts_run (hspares : setup.host.SparesVisits id) (line : Line)
    (hheld : scene.state.store = some id) :
    scene.Counts id [] (scene.run setup line).scene := by
  cases line with
  | cue cue => exact ⟨.refl _, rfl⟩
  | speech speech =>
      rw [run]
      split
      · exact .refl scene
      · exact ⟨Stage.counts_called (by simp) (hspares.speech _ _ _), rfl⟩
  | link link => exact ⟨.refl _, rfl⟩
  | quote quote => exact .of_stage (Stage.counts_called (by simp) (hspares.quote _ _))
  | tag tag =>
      have hcounts := counts_runTag hspares tag hheld
      rw [run]
      split
      · rename_i hfailed
        rw [hfailed] at hcounts
        exact hcounts
      · rename_i hmoved
        rw [hmoved] at hcounts
        exact hcounts

/-! ## Leaving and ending a script -/

theorem counts_conclude (hspares : setup.host.SparesVisits id)
    (hheld : scene.state.store = some id) :
    scene.Counts id [scene.state.script] (scene.conclude setup) := by
  refine ⟨Stage.counts_markVisited hheld (hspares.finish _) ?_, rfl⟩
  rw [conclude, Stage.passes_called, if_pos rfl]
  exact congrArg (· + 1) (Stage.passes_markVisited _ _)

theorem counts_noteUnannounced (link : Link) (scene : Scene μ) :
    scene.Counts id [] (scene.noteUnannounced link) := by
  rw [noteUnannounced]
  split
  · exact .refl scene
  · exact .of_stage (Stage.counts_note _ _ rfl)

theorem counts_enter (hsame : between.state = scene.state) (path : String)
    (collection : Collection) (index : Nat) (hheld : scene.state.store = some id) :
    between.Counts id [scene.state.script]
      ((between.note (.jumping path)).enter collection index) := by
  rw [← hsame] at hheld ⊢
  refine ⟨Stage.counts_markVisited hheld (fun other => ?_) ?_, rfl⟩
  · rw [enter, note, Stage.markVisited, Stage.markVisited]
    simp only [hheld]
    rfl
  · rw [enter, Stage.passes_markVisited, note, Stage.passes_note]
    rfl

/-- A link that leads somewhere makes its script count, one that leads nowhere does not. -/
theorem counts_follow (setup : Setup μ) (link : Link) (hheld : scene.state.store = some id) :
    scene.Counts id ((scene.follow setup link).left scene) (scene.follow setup link).scene := by
  have hnoted : scene.Counts id [] (scene.noteUnannounced link) :=
    scene.counts_noteUnannounced link
  have hsame : (scene.noteUnannounced link).state = scene.state := by
    rw [(noteUnannounced_spec link scene).1]
  cases hfound : scene.target setup link with
  | error error =>
      rw [follow_of_error hfound]
      exact hnoted
  | ok place =>
      obtain ⟨collection, index⟩ := place
      rw [follow_of_ok hfound]
      exact hnoted.trans (counts_enter hsame _ collection index hheld)

/-! ## Steps -/

theorem counts_exhaust (hspares : setup.host.SparesVisits id) (hheld : scene.state.store = some id)
    (hgoing : scene.status ≠ .complete) (hexhausted : scene.state.line? = none) :
    scene.Counts id ((scene.exhaust setup).passed scene) (scene.exhaust setup).scene := by
  rw [exhaust]
  split
  · rw [Outcome.passed, if_neg hgoing]
    exact counts_conclude hspares hheld
  · split
    · rename_i link _ _
      have hcounts := counts_follow setup link hheld
      generalize scene.follow setup link = outcome at hcounts ⊢
      cases outcome with
      | error error after => exact hcounts
      | ok value after =>
          simp only [Outcome.passed, hexhausted, if_true]
          exact hcounts
    · exact ⟨Stage.counts_called (by simp) (hspares.choices _ _), rfl⟩

theorem counts_play (hspares : setup.host.SparesVisits id) (hheld : scene.state.store = some id)
    (hgoing : scene.status ≠ .complete) :
    scene.Counts id ((scene.play setup).passed scene) (scene.play setup).scene := by
  rw [play]
  split
  · rw [Outcome.passed, if_neg hgoing]
    exact counts_conclude hspares hheld
  · split
    · rename_i hexhausted
      exact counts_exhaust hspares hheld hgoing hexhausted
    · rename_i line hhere
      have hcounts := counts_run hspares line hheld
      have hruns := runsTo_run setup line scene
      generalize scene.run setup line = outcome at hcounts hruns ⊢
      cases hruns with
      | failed hstays => exact hcounts
      | moved hstays =>
          rename_i after
          have hsameScript : after.state.script = scene.state.script := by
            rw [State.script, hstays.collection, hstays.scriptIndex]
            rfl
          have hsameStore : after.state.store = some id := hcounts.store.trans hheld
          have hmoves : scene.Counts id []
              (after.withState { after.state with cursor := after.state.cursor + 1 }) :=
            ⟨hcounts.stage, hcounts.store⟩
          simp only [moveOn]
          split
          · rw [Outcome.passed, if_neg hgoing, ← hsameScript]
            exact hmoves.trans (counts_conclude hspares hsameStore)
          · simp only [Outcome.passed, hhere, reduceCtorEq, if_false]
            exact hmoves
      | speaks cue speech =>
          simp only [moveOn]
          exact ⟨hcounts.stage, rfl⟩

theorem counts_attempt (hspares : setup.host.SparesVisits id)
    (hheld : scene.state.store = some id) :
    scene.Counts id ((scene.attempt setup).passed scene) (scene.attempt setup).scene := by
  rw [attempt]
  cases hstatus : scene.status with
  | complete =>
      rw [Outcome.passed, if_pos hstatus]
      exact .refl scene
  | suspended suspension => exact .refl scene
  | notStarted =>
      have hbegins : scene.Counts id [] (scene.begin setup) :=
        ⟨Stage.counts_called (by simp) (hspares.start _ _), rfl⟩
      have hstill : (scene.begin setup).state.store = some id := hheld
      have hplays := counts_play hspares hstill nofun
      have hsame : ((scene.begin setup).play setup).passed (scene.begin setup) =
          ((scene.begin setup).play setup).passed scene := by
        cases (scene.begin setup).play setup with
        | error error after => rfl
        | ok progress after =>
            cases progress with
            | moved => rfl
            | suspended suspension => rfl
            | complete =>
                rw [Outcome.passed, Outcome.passed, if_neg nofun, if_neg (by rw [hstatus]; nofun)]
                rfl
      rw [hsame] at hplays
      exact hbegins.trans hplays
  | running => exact counts_play hspares hheld (by rw [hstatus]; nofun)

theorem counts_noteFailure (error : Error) (scene : Scene μ) :
    scene.Counts id [] (scene.noteFailure error).halt := by
  rw [noteFailure]
  split
  · exact ⟨Stage.counts_note _ _ rfl, rfl⟩
  · exact ⟨.refl _, rfl⟩

/-- A step makes the script count that it passes. -/
theorem counts_step (hspares : setup.host.SparesVisits id) (hheld : scene.state.store = some id) :
    scene.Counts id ((scene.step setup).passed scene) (scene.step setup).scene := by
  have hcounts := counts_attempt hspares hheld
  rw [step]
  generalize scene.attempt setup = outcome at hcounts ⊢
  cases outcome with
  | ok progress after => exact hcounts
  | error error after => exact hcounts.trans (counts_noteFailure error after)

theorem counts_advance (hspares : setup.host.SparesVisits id) (limit : Nat)
    (hheld : scene.state.store = some id) :
    scene.Counts id (scene.passedBySteps setup limit) (scene.advance setup limit).scene := by
  refine advance_relates (Q := fun limit scene after => scene.state.store = some id →
      scene.Counts id (scene.passedBySteps setup limit) after)
    (fun scene _ => .refl scene) ?_ ?_ limit scene hheld
  · intro limit scene between after hmoved hlater hheld
    have hcounts := counts_step hspares hheld
    rw [passedBySteps, hmoved]
    rw [hmoved] at hcounts
    exact hcounts.trans (hlater (hcounts.store.trans hheld))
  · intro limit scene hstops hheld
    have hcounts := counts_step hspares hheld
    rw [passedBySteps]
    split
    · exact absurd ‹_› (hstops _)
    · exact hcounts.trans (.refl _)

/-! ## Operations -/

theorem counts_select (setup : Setup μ) (link : Link) (hheld : scene.state.store = some id) :
    scene.Counts id (scene.passedByChoice setup link) (scene.select setup link).scene := by
  rw [passedByChoice, select]
  cases hstatus : scene.status with
  | suspended suspension =>
      cases suspension with
      | speech cue speech => exact counts_note scene rfl
      | choices offered =>
          dsimp only
          generalize hnoted : (if link ∈ offered then scene
            else scene.note (.notOffered link.target)) = between
          have hnotes : scene.Counts id [] between := by
            rw [← hnoted]
            split
            · exact .refl scene
            · exact counts_note scene rfl
          have hsame : between.state = scene.state := by
            rw [← hnoted]
            split <;> rfl
          have hcounts := counts_follow setup link (hnotes.store.trans hheld)
          generalize between.follow setup link = outcome at hcounts ⊢
          cases outcome with
          | error error after => exact hnotes.trans ⟨hcounts.stage, hcounts.store⟩
          | ok value after =>
              rw [Outcome.left, hsame] at hcounts
              exact hnotes.trans ⟨hcounts.stage, hcounts.store⟩
  | notStarted | running | complete => exact counts_note scene rfl

/-- An operation makes the scripts count that it passes. -/
theorem counts_perform (hspares : setup.host.SparesVisits id) (operation : Operation)
    (hheld : scene.state.store = some id) :
    scene.Counts id (scene.passed setup operation) (scene.perform setup operation).scene := by
  cases operation with
  | step =>
      rw [perform, Outcome.scene_map]
      exact counts_step hspares hheld
  | advance limit =>
      rw [perform, Outcome.scene_map]
      exact counts_advance hspares limit hheld
  | resume =>
      rw [perform, resume]
      split
      · exact ⟨.refl _, rfl⟩
      · exact counts_note scene rfl
  | select link =>
      rw [perform, Outcome.scene_map]
      exact counts_select setup link hheld
  | selectAt index =>
      rw [perform, Outcome.scene_map, selectAt, passed]
      cases scene.offered? index with
      | none => exact .refl scene
      | some link =>
          rw [Option.toList_some, List.flatMap_singleton]
          exact counts_select setup link hheld
  | finish => exact ⟨.refl _, rfl⟩

end Scene

/-! ## Sessions -/

namespace Session

variable {id : StoreId} {session : Session μ} {turn : Turn μ}

/-- All playbacks of a session write to one store. -/
def SharesStore (session : Session μ) (id : StoreId) : Prop :=
  ∀ player ∈ session.players, player.playback.state.store = some id

theorem takeTurn_of_none (habsent : session.players[turn.player]? = none) :
    session.takeTurn turn = session := by
  rw [takeTurn, act, habsent, Option.map_none]

theorem takeTurn_of_some {player : Player}
    (hpresent : session.players[turn.player]? = some player) :
    session.takeTurn turn =
      session.update turn.player
        ((session.scene player).perform turn.setup turn.operation).scene := by
  rw [takeTurn, act, hpresent, Option.map_some]

theorem sharesStore_update (hshares : session.SharesStore id) (index : Nat) {scene : Scene μ}
    (hheld : scene.state.store = some id) : (session.update index scene).SharesStore id := by
  intro player hmem
  obtain ⟨place, hfound⟩ := List.mem_iff_getElem?.mp hmem
  rw [update, List.getElem?_modify] at hfound
  obtain ⟨earlier, hthere, rfl⟩ := Option.map_eq_some_iff.mp hfound
  split
  · exact hheld
  · exact hshares earlier (List.mem_of_getElem? hthere)

/-- A turn makes the scripts count that it passes, and the playbacks go on sharing their store. -/
theorem counts_takeTurn (hshares : session.SharesStore id)
    (hspares : turn.setup.host.SparesVisits id) :
    session.stage.Counts id (session.passedInTurn turn) (session.takeTurn turn).stage ∧
      (session.takeTurn turn).SharesStore id := by
  cases hpresent : session.players[turn.player]? with
  | none =>
      rw [takeTurn_of_none hpresent, passedInTurn, hpresent]
      exact ⟨.refl _, hshares⟩
  | some player =>
      have hheld : (session.scene player).state.store = some id :=
        hshares player (List.mem_of_getElem? hpresent)
      have hcounts := Scene.counts_perform hspares turn.operation hheld
      rw [takeTurn_of_some hpresent, passedInTurn, hpresent]
      exact ⟨hcounts.stage, sharesStore_update hshares _ (hcounts.store.trans hheld)⟩

theorem counts_takeTurns {turns : List (Turn μ)} (hshares : session.SharesStore id)
    (hspares : ∀ turn ∈ turns, turn.setup.host.SparesVisits id) :
    session.stage.Counts id (session.passed turns) (session.takeTurns turns).stage := by
  induction turns generalizing session with
  | nil => exact .refl _
  | cons turn later ih =>
      obtain ⟨hfirst, hshares⟩ := counts_takeTurn hshares (hspares turn List.mem_cons_self)
      exact hfirst.trans (ih hshares fun turn hmem => hspares turn (List.mem_cons_of_mem _ hmem))

/-- However the operations of playbacks that share a store follow each other, the count of visits of
a path grows by one with every pass of a script that counts for it, as long as it keeps to 32 bits,
and by nothing else. The record of the session shows as many passes. -/
theorem visitCount_takeTurns {turns : List (Turn μ)} (hshares : session.SharesStore id)
    (hspares : ∀ turn ∈ turns, turn.setup.host.SparesVisits id) :
    let passed := session.passed turns
    let after := session.takeTurns turns
    (∀ path,
      let before := ((session.stage.stores.get id).visitCount path).toNat
      let passes := passed.countP (·.countsFor path)
      before + passes < UInt32.size →
        ((after.stage.stores.get id).visitCount path).toNat = before + passes) ∧
      after.stage.passes = session.stage.passes + passed.length := by
  intro passed after
  have hcounts : session.stage.Counts id passed after.stage := counts_takeTurns hshares hspares
  refine ⟨?_, hcounts.recorded⟩
  intro path before passes hsmall
  have hword : UInt32.size = 4294967296 := rfl
  rw [hcounts.visits path, UInt32.toNat_add, UInt32.toNat_ofNat']
  omega

/-- Two playbacks of an inn share a store. The first goes through the hall by a link and plays the
yard to its end. The second leaves the hall as well and then fails in the yard, which the store does
not count. -/
theorem visitCount_takeTurns_inn :
    let link : Link := ⟨⟨"[[#Yard]]", 2⟩, "#Yard", "Yard"⟩
    let speech : Speech := ⟨⟨"Hello.", 4⟩, "Hello."⟩
    let hall : Script := ⟨"Hall", "inn#Hall", [.link link], .ofList ["inn#Yard"]⟩
    let yard (lines : List Line) : Script := ⟨"Yard", "inn#Yard", lines, .empty⟩
    let inn (lines : List Line) : Collection := ⟨"inn", "inn", "", [hall, yard lines]⟩
    let id : StoreId := ⟨0⟩
    let player (lines : List Line) : Player :=
      ⟨⟨.start (inn lines) 0 (some id), .notStarted⟩, true⟩
    let setup : Setup Unit := ⟨.idle, none, true⟩
    let session : Session Unit :=
      ⟨.idle, none, [player [], player [.speech speech]], ⟨⟨(), .empty⟩, [], []⟩⟩
    let turns : List (Turn Unit) :=
      [⟨1, setup, .step⟩, ⟨0, setup, .advance 9⟩, ⟨1, setup, .step⟩, ⟨1, setup, .advance 9⟩]
    session.SharesStore id ∧ (∀ turn ∈ turns, turn.setup.host.SparesVisits id) ∧
      (((session.takeTurns turns).stage.stores.get id).visitCount "INN#hall").toNat = 2 ∧
      (((session.takeTurns turns).stage.stores.get id).visitCount "inn#Yard").toNat = 1 ∧
      (session.takeTurns turns).stage.passes = 3 := by
  intro link speech hall yard inn id player setup session turns
  have hshares : session.SharesStore id := by
    simp only [SharesStore, session, List.forall_mem_cons]
    exact ⟨rfl, rfl, fun _ hmem => absurd hmem List.not_mem_nil⟩
  have hspares : ∀ turn ∈ turns, turn.setup.host.SparesVisits id := by
    simp only [turns, List.forall_mem_cons]
    have hidle : setup.host.SparesVisits id := Host.sparesVisits_idle id
    exact ⟨hidle, hidle, hidle, hidle, fun _ hmem => absurd hmem List.not_mem_nil⟩
  have hpassed : session.passed turns = [hall, yard [], hall] := by
    decide +kernel
  have hhalls : [hall, yard [], hall].countP (·.countsFor "INN#hall") = 2 := by decide +kernel
  have hyards : [hall, yard [], hall].countP (·.countsFor "inn#Yard") = 1 := by decide +kernel
  obtain ⟨hvisits, hrecorded⟩ := visitCount_takeTurns hshares hspares
  rw [hpassed] at hvisits hrecorded
  have hhallVisits := hvisits "INN#hall"
  have hyardVisits := hvisits "inn#Yard"
  rw [hhalls] at hhallVisits
  rw [hyards] at hyardVisits
  exact ⟨hshares, hspares, hhallVisits (by decide), hyardVisits (by decide), hrecorded⟩

end Session

end Dialogue
