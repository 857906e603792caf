/-
# Operations that do not fit

A host may step a playback that waits, confirm a speech that was not said, or choose where no choice
is offered. Such an operation is misplaced. It leaves a notice or answers with an error, but it does
nothing to the playback: a run goes on as if it had not been carried out. So from any run some or
all of its misplaced operations can be left out, and neither the playback nor the stores nor the
calls to the host nor the answers to the other operations show it.
-/

import Dialogue.Proofs.Playback.Likeness

namespace Dialogue

variable {μ : Type}

/-- Two stages differ in their notices only. -/
structure Stage.SameButNotices (first second : Stage μ) : Prop where
  world : first.toWorld = second.toWorld
  calls : first.calls = second.calls

namespace Stage.SameButNotices

variable {first second third : Stage μ}

theorem refl (stage : Stage μ) : stage.SameButNotices stage :=
  ⟨rfl, rfl⟩

theorem symm (hsame : first.SameButNotices second) : second.SameButNotices first :=
  ⟨hsame.world.symm, hsame.calls.symm⟩

theorem trans (hearly : first.SameButNotices second) (hlate : second.SameButNotices third) :
    first.SameButNotices third :=
  ⟨hearly.world.trans hlate.world, hearly.calls.trans hlate.calls⟩

/-- A call is recorded, and its effect is the same from the same world. -/
theorem called (hsame : first.SameButNotices second) (callback : Callback)
    (effect : World μ → World μ) :
    (first.called callback (effect first.toWorld)).SameButNotices
      (second.called callback (effect second.toWorld)) :=
  ⟨congrArg effect hsame.world, congrArg (· ++ [callback]) hsame.calls⟩

theorem putStore (hsame : first.SameButNotices second) (id : StoreId) (store : Store) :
    (first.putStore id store).SameButNotices (second.putStore id store) :=
  ⟨congrArg (fun world : World μ => { world with stores := world.stores.put id store }) hsame.world,
    hsame.calls⟩

end Stage.SameButNotices

/-- No playback and no host can tell stages apart that differ in their notices only. -/
theorem Setup.likeness_sameButNotices (setup : Setup μ) :
    setup.Likeness setup Stage.SameButNotices where
  library := rfl
  stores hsame := congrArg World.stores hsame.world
  note hsame _ _ := ⟨hsame.world, hsame.calls⟩
  putStore hsame id store := hsame.putStore id store
  start hsame path state := hsame.called (.start path) (setup.host.start state)
  speech hsame cue speech := hsame.called (.speech cue speech) (setup.host.speech cue speech)
  quote hsame quote := hsame.called (.quote quote) (setup.host.quote quote)
  choices hsame links _ := hsame.called (.choices links) (setup.host.choices links)
  finish hsame := hsame.called .finish setup.host.finish
  tag hsame tag state :=
    ⟨congrArg (fun world => (setup.host.tag tag state world).1) hsame.world,
      hsame.called (.tag tag) fun world => (setup.host.tag tag state world).2⟩
  condition hsame call state :=
    ⟨congrArg (fun world => (setup.host.condition call state world).1) hsame.world,
      hsame.called (.condition call) fun world => (setup.host.condition call state world).2⟩

namespace Scene

variable {setup : Setup μ} {scene twin : Scene μ} {operation : Operation}

/-- Whether an operation does not fit what the playback waits for. A step fits while the playback
neither waits nor is over, a confirmation while a speech waits, and a choice while choices are
offered; the index of a choice has to be that of an offered one. -/
def Misplaced (scene : Scene μ) : Operation → Prop
  | .step | .advance _ => (∃ suspension, scene.pending? = some suspension) ∨ scene.isComplete = true
  | .resume => ∀ cue speech, scene.pending? ≠ some (.speech cue speech)
  | .select _ => ∀ links, scene.pending? ≠ some (.choices links)
  | .selectAt index => ∀ links, scene.pending? = some (.choices links) → links.length ≤ index
  | .finish => False

/-- What a misplaced operation answers: a step that the playback still waits or is over, and a
choice by an index that there is none. -/
def idleAnswer (scene : Scene μ) : Operation → Except Error Answer
  | .step | .advance (_ + 1) =>
    .ok (.progress (scene.pending?.elim .complete .suspended))
  | .advance 0 => .ok .unfinished
  | .selectAt index => .error (.arguments scene.state.location (.noChoice index))
  | .resume | .select _ | .finish => .ok .done

/-- A playback that waits or is over makes no step. -/
theorem step_of_idle
    (hidle : (∃ suspension, scene.pending? = some suspension) ∨ scene.isComplete = true) :
    scene.step setup = .ok (scene.pending?.elim .complete .suspended) scene := by
  rw [Playback.pending?, Playback.isComplete] at hidle
  rw [step, attempt, Playback.pending?]
  cases hstatus : scene.status with
  | complete => rfl
  | suspended suspension => rfl
  | notStarted | running =>
      rw [hstatus] at hidle
      obtain ⟨suspension, hwaits⟩ | hended := hidle
      · cases hwaits
      · cases hended

/-- A misplaced operation leaves a notice at most. -/
theorem perform_of_misplaced (setup : Setup μ) (hmisplaced : scene.Misplaced operation) :
    (scene.perform setup operation).result = scene.idleAnswer operation ∧
      (scene.perform setup operation).scene.Alike Stage.SameButNotices scene := by
  have hstill : scene.Alike Stage.SameButNotices scene := .on scene.toPlayback (.refl _)
  have hnoted (remark : Remark) : (scene.note remark).Alike Stage.SameButNotices scene :=
    .on scene.toPlayback ⟨rfl, rfl⟩
  cases operation with
  | step =>
      rw [perform, step_of_idle hmisplaced]
      exact ⟨rfl, hstill⟩
  | advance limit =>
      cases limit with
      | zero => exact ⟨rfl, hstill⟩
      | succ limit =>
          rw [perform, advance, step_of_idle hmisplaced, idleAnswer]
          cases scene.pending? <;> exact ⟨rfl, hstill⟩
  | resume =>
      rw [perform, resume]
      split
      · rename_i cue speech hwaits
        exact absurd (by rw [Playback.pending?, hwaits]) (hmisplaced cue speech)
      · exact ⟨rfl, hnoted _⟩
  | select link =>
      rw [perform, select]
      split
      · rename_i links hwaits
        exact absurd (by rw [Playback.pending?, hwaits]) (hmisplaced links)
      · exact ⟨rfl, hnoted _⟩
  | selectAt index =>
      have habsent : scene.offered? index = none := by
        rw [offered?]
        split
        · rename_i links hwaits
          exact List.getElem?_eq_none (hmisplaced links (by rw [Playback.pending?, hwaits]))
        · rfl
      rw [perform, selectAt, habsent]
      exact ⟨rfl, hstill⟩
  | finish => exact absurd hmisplaced not_false

theorem status_of_step_error {error : Error} (hfailed : (scene.step setup).result = .error error) :
    (scene.step setup).scene.status = .complete := by
  rw [step] at hfailed ⊢
  cases hattempted : scene.attempt setup with
  | ok progress after =>
      rw [hattempted] at hfailed
      cases hfailed
  | error cause after => rfl

/-- From some operations, some that are misplaced are left out. The others are listed with what they
answer among all the operations. -/
inductive LeavesOut (setup : Setup μ) :
    Scene μ → List Operation → List (Operation × Except Error Answer) → Prop where
  | none (scene : Scene μ) : LeavesOut setup scene [] []
  | keep {scene : Scene μ} {operation : Operation} {later : List Operation}
      {kept : List (Operation × Except Error Answer)}
      (honward : LeavesOut setup (scene.perform setup operation).scene later kept) :
      LeavesOut setup scene (operation :: later)
        ((operation, (scene.perform setup operation).result) :: kept)
  | drop {scene : Scene μ} {operation : Operation} {later : List Operation}
      {kept : List (Operation × Except Error Answer)} (hmisplaced : scene.Misplaced operation)
      (honward : LeavesOut setup (scene.perform setup operation).scene later kept) :
      LeavesOut setup scene (operation :: later) kept

/-- Some operations with their answers. -/
def transcript (setup : Setup μ) :
    List Operation → Scene μ → List (Operation × Except Error Answer)
  | [], _ => []
  | operation :: later, scene =>
    (operation, (scene.perform setup operation).result) ::
      transcript setup later (scene.perform setup operation).scene

variable {operations : List Operation} {kept : List (Operation × Except Error Answer)}

/-- A scene that differs in its notices only goes through the operations that are kept with the same
answers. -/
theorem LeavesOut.transcript_eq (hleavesOut : LeavesOut setup scene operations kept)
    (hscenes : scene.Alike Stage.SameButNotices twin) :
    twin.transcript setup (kept.map Prod.fst) = kept ∧
      (scene.performAll setup operations).Alike Stage.SameButNotices
        (twin.performAll setup (kept.map Prod.fst)) := by
  induction hleavesOut generalizing twin with
  | none scene => exact ⟨rfl, hscenes⟩
  | keep honward ih =>
      rename_i scene operation later kept
      have houtcomes := alike_perform setup.likeness_sameButNotices rfl operation hscenes
      obtain ⟨hanswers, hlast⟩ := ih houtcomes.scene
      refine ⟨?_, hlast⟩
      rw [List.map_cons, transcript, hanswers, houtcomes.result]
  | drop hmisplaced honward ih =>
      obtain ⟨hplayback, hstages⟩ := alike_iff.mp (perform_of_misplaced setup hmisplaced).2
      obtain ⟨hsame, halike⟩ := alike_iff.mp hscenes
      exact ih (alike_iff.mpr ⟨hplayback.trans hsame, hstages.trans halike⟩)

/-- A run goes on in the same way without some of its operations. -/
structure RunsWithout (setup : Setup μ) (scene : Scene μ) (operations : List Operation)
    (kept : List (Operation × Except Error Answer)) : Prop where
  /-- The operations that are kept answer what they answer among all. -/
  answers : scene.transcript setup (kept.map Prod.fst) = kept
  /-- The playback comes to the same. -/
  playback : (scene.performAll setup (kept.map Prod.fst)).toPlayback =
    (scene.performAll setup operations).toPlayback
  /-- So do the stores and the memory of the host. -/
  world : (scene.performAll setup (kept.map Prod.fst)).stage.toWorld =
    (scene.performAll setup operations).stage.toWorld
  /-- The host is called in the same way. -/
  calls : (scene.performAll setup (kept.map Prod.fst)).stage.calls =
    (scene.performAll setup operations).stage.calls
  /-- A misplaced operation answers that nothing happens, and even if that is an error, the playback
  is not ended by it as it is by a step that fails. -/
  idle : ∀ earlier operation later, operations = earlier ++ operation :: later →
    let before := scene.performAll setup earlier
    (before.Misplaced operation →
      (before.perform setup operation).result = before.idleAnswer operation ∧
        (before.perform setup operation).scene.toPlayback = before.toPlayback) ∧
      ∀ error, (before.step setup).result = .error error →
        (before.step setup).scene.isComplete = true

/-- Misplaced operations can be left out of any run, wherever it starts. -/
theorem runsWithout_of_leavesOut (setup : Setup μ) {scene : Scene μ} {operations : List Operation}
    {kept : List (Operation × Except Error Answer)}
    (hleavesOut : LeavesOut setup scene operations kept) :
    RunsWithout setup scene operations kept := by
  have hstill : scene.Alike Stage.SameButNotices scene := .on scene.toPlayback (.refl _)
  obtain ⟨hanswers, hscenes⟩ := hleavesOut.transcript_eq hstill
  obtain ⟨hplayback, hstages⟩ := alike_iff.mp hscenes
  refine ⟨hanswers, hplayback.symm, hstages.world.symm, hstages.calls.symm, ?_⟩
  intro earlier operation later _ before
  refine ⟨fun hmisplaced => ?_, fun error hfailed => ?_⟩
  · obtain ⟨hresult, hsame⟩ := perform_of_misplaced setup hmisplaced
    exact ⟨hresult, hsame.playback⟩
  · rw [Playback.isComplete, status_of_step_error hfailed]
    rfl

/-- A greeting, with two operations too many before the end and one after it. -/
theorem runsWithout_of_leavesOut_greeting :
    let cue : Cue := ⟨⟨"ANNA", 1⟩, "ANNA", none, []⟩
    let speech : Speech := ⟨⟨"Hello.", 2⟩, "Hello."⟩
    let collection : Collection :=
      ⟨"inn", "inn", "", [⟨"Hall", "inn#Hall", [.cue cue, .speech speech], .empty⟩]⟩
    let scene : Scene Unit :=
      Playback.opening ⟨.start collection 0 none, .notStarted⟩ ⟨(), .empty⟩
    let setup : Setup Unit := ⟨.idle, none, true⟩
    let operations := [.advance 9, .step, .selectAt 0, .resume, .step, .resume]
    let kept : List (Operation × Except Error Answer) :=
      [(.advance 9, .ok (.progress (.suspended (.speech cue speech)))), (.resume, .ok .done),
        (.step, .ok (.progress .complete))]
    LeavesOut setup scene operations kept ∧ RunsWithout setup scene operations kept := by
  intro cue speech collection scene setup operations kept
  have hleavesOut : LeavesOut setup scene operations kept := by
    refine .keep (.drop (.inl ⟨_, rfl⟩) (.drop nofun (.keep (.keep (.drop nofun (.none _))))))
  exact ⟨hleavesOut, runsWithout_of_leavesOut setup hleavesOut⟩

end Scene

end Dialogue
