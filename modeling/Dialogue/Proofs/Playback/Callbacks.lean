/-
# The order of calls to the host

Whatever operations are carried out on a playback, and however its host behaves, the calls that the
host receives keep to the order told by the phases. The status of a playback is the phase it is in,
except that a playback which has failed is complete without its end having been called.
-/

import Dialogue.Proofs.Playback.Frame
import Dialogue.Proofs.Playback.Phase
import Dialogue.Proofs.Playback.Run

namespace Dialogue

variable {μ : Type}

/-- The phase of a playback that has not failed. -/
def Status.phase : Status → Phase
  | notStarted => .silent
  | running => .playing
  | suspended (.speech _ _) => .speaking
  | suspended (.choices _) => .choosing
  | complete => .finished

/-- The status of a playback after a step with an answer. -/
def Progress.status : Progress → Status
  | moved => .running
  | suspended suspension => .suspended suspension
  | complete => .complete

theorem Progress.status_eq_complete_iff {progress : Progress} :
    progress.status = .complete ↔ progress = .complete := by
  cases progress with
  | complete => exact ⟨fun _ => rfl, fun _ => rfl⟩
  | moved | suspended _ => exact ⟨nofun, nofun⟩

theorem Status.phase_eq_finished_iff {status : Status} :
    status.phase = .finished ↔ status = .complete := by
  cases status with
  | suspended suspension => cases suspension <;> exact ⟨nofun, nofun⟩
  | notStarted | running => exact ⟨nofun, nofun⟩
  | complete => exact ⟨fun _ => rfl, fun _ => rfl⟩

/-- The calls made from one stage to another lead from a phase to a phase. -/
def Stage.Leads (before : Stage μ) (phase : Phase) (after : Stage μ) (last : Phase) : Prop :=
  ∃ calls, after.calls = before.calls ++ calls ∧ phase.after? (calls.map .call) = some last

namespace Stage

variable {before between after : Stage μ} {phase middle last : Phase}

theorem Leads.of_eq (hsame : after.calls = before.calls) : before.Leads phase after phase :=
  ⟨[], by rw [hsame, List.append_nil], rfl⟩

theorem Leads.trans (hearly : before.Leads phase between middle)
    (hlate : between.Leads middle after last) : before.Leads phase after last := by
  obtain ⟨first, hgrown, hleads⟩ := hearly
  obtain ⟨second, hgrownOn, hleadsOn⟩ := hlate
  refine ⟨first ++ second, by rw [hgrownOn, hgrown, List.append_assoc], ?_⟩
  rw [List.map_append, Phase.after?_append, hleads]
  exact hleadsOn

theorem leads_called {callback : Callback} (hnext : phase.next? (.call callback) = some last)
    (world : World μ) : before.Leads phase (before.called callback world) last := by
  refine ⟨[callback], rfl, ?_⟩
  rw [List.map_singleton, Phase.after?, hnext]
  rfl

/-- After calls that only pass, the playback goes on playing. -/
theorem Grows.leads (hgrows : before.Grows after) : before.Leads .playing after .playing := by
  obtain ⟨calls, hgrown, hpassing⟩ := hgrows
  refine ⟨calls, hgrown, ?_⟩
  clear hgrown
  induction calls with
  | nil => rfl
  | cons callback later ih =>
      have hnext : Phase.playing.next? (.call callback) = some .playing := by
        have hpasses := hpassing callback List.mem_cons_self
        cases callback <;> first | rfl | cases hpasses
      rw [List.map_cons, Phase.after?, hnext]
      exact ih fun call hmem => hpassing call (List.mem_cons_of_mem _ hmem)

end Stage

namespace Outcome

variable {α : Type}

/-- A phase is that of the playback after an outcome. A failure is not the end, and it leaves the
playback either complete or in the phase. -/
def Reaches (last : Phase) : Outcome μ α → Prop
  | ok _ after => last = after.status.phase
  | error _ after => last ≠ .finished ∧ (after.status = .complete ∨ last = after.status.phase)

/-- The calls made up to an outcome lead from a phase to that of the playback. -/
def Keeps (before : Stage μ) (phase : Phase) (outcome : Outcome μ α) : Prop :=
  ∃ last, before.Leads phase outcome.scene.stage last ∧ outcome.Reaches last

variable {before between : Stage μ} {phase middle : Phase} {outcome : Outcome μ α}

theorem Keeps.after (hearly : before.Leads phase between middle)
    (hlate : outcome.Keeps between middle) : outcome.Keeps before phase := by
  obtain ⟨last, hleads, hreaches⟩ := hlate
  exact ⟨last, hearly.trans hleads, hreaches⟩

theorem exists_of_map_eq_ok {β : Type} {f : α → β} {value : β} {after : Scene μ}
    (hmapped : outcome.map f = .ok value after) :
    ∃ inner, outcome = .ok inner after ∧ value = f inner := by
  cases outcome with
  | error error last => cases hmapped
  | ok inner last =>
      cases hmapped
      exact ⟨inner, rfl, rfl⟩

theorem reaches_map {β : Type} (f : α → β) {last : Phase} (hreaches : outcome.Reaches last) :
    (outcome.map f).Reaches last := by
  cases outcome <;> exact hreaches

end Outcome

namespace Scene

variable {setup : Setup μ} {scene : Scene μ}

theorem leads_conclude (scene : Scene μ) :
    scene.stage.Leads .playing (scene.conclude setup).stage .finished := by
  have hmarks : scene.stage.Leads .playing (scene.stage.markVisited scene.state) .playing :=
    .of_eq (Stage.calls_markVisited _ _)
  exact hmarks.trans (Stage.leads_called rfl _)

theorem keeps_exhaust (hrunning : scene.status = .running) :
    (scene.exhaust setup).Keeps scene.stage .playing := by
  rw [exhaust]
  split
  · exact ⟨.finished, leads_conclude scene, rfl⟩
  · split
    · rename_i link _ _
      have hspec := follow_spec setup link scene
      generalize scene.follow setup link = outcome at hspec ⊢
      obtain ⟨hcalls, hstatus⟩ := hspec
      rw [hrunning] at hstatus
      have hreaches : Phase.playing = outcome.scene.status.phase := by
        rw [hstatus]
        rfl
      cases outcome with
      | error error after => exact ⟨.playing, .of_eq hcalls, by decide, .inr hreaches⟩
      | ok value after => exact ⟨.playing, .of_eq hcalls, hreaches⟩
    · exact ⟨.choosing, Stage.leads_called rfl _, rfl⟩

theorem keeps_play (hrunning : scene.status = .running) :
    (scene.play setup).Keeps scene.stage .playing := by
  rw [play]
  split
  · exact ⟨.finished, leads_conclude scene, rfl⟩
  · split
    · exact keeps_exhaust hrunning
    · rename_i line _
      have hruns := runsTo_run setup line scene
      generalize scene.run setup line = outcome at hruns ⊢
      cases hruns with
      | failed hstays =>
          refine ⟨.playing, hstays.grows.leads, by decide, .inr ?_⟩
          rw [hstays.status, hrunning]
          rfl
      | moved hstays =>
          simp only [moveOn]
          split
          · exact ⟨.finished, hstays.grows.leads.trans (leads_conclude _), rfl⟩
          · rename_i after _
            have hstatus : after.status.phase = .playing := by
              rw [hstays.status, hrunning]
              rfl
            exact ⟨.playing, hstays.grows.leads, hstatus.symm⟩
      | speaks cue speech => exact ⟨.speaking, Stage.leads_called rfl _, rfl⟩

theorem keeps_attempt (setup : Setup μ) (scene : Scene μ) :
    (scene.attempt setup).Keeps scene.stage scene.status.phase := by
  rw [attempt]
  cases hstatus : scene.status with
  | complete =>
      refine ⟨.finished, .of_eq rfl, ?_⟩
      rw [Outcome.Reaches, hstatus]
      rfl
  | suspended suspension =>
      refine ⟨_, .of_eq rfl, ?_⟩
      rw [Outcome.Reaches, hstatus]
  | notStarted =>
      have hstarts : scene.stage.Leads .silent (scene.begin setup).stage .playing :=
        Stage.leads_called rfl _
      exact .after hstarts (keeps_play rfl)
  | running => exact keeps_play hstatus

theorem calls_noteFailure (error : Error) (scene : Scene μ) :
    (scene.noteFailure error).stage.calls = scene.stage.calls := by
  rw [noteFailure]
  split <;> rfl

/-- A step keeps to the phases. -/
theorem keeps_step (setup : Setup μ) (scene : Scene μ) :
    (scene.step setup).Keeps scene.stage scene.status.phase := by
  have hkeeps := scene.keeps_attempt setup
  rw [step]
  generalize scene.attempt setup = outcome at hkeeps ⊢
  cases outcome with
  | ok progress after => exact hkeeps
  | error error after =>
      obtain ⟨last, hleads, hunended, -⟩ := hkeeps
      exact ⟨last, hleads.trans (.of_eq (calls_noteFailure error after)), hunended, .inl rfl⟩

/-- The answer of a step tells the status of the playback. -/
def Tells : Outcome μ Progress → Prop
  | .ok progress after => after.status = progress.status
  | .error _ _ => True

theorem tells_exhaust (hrunning : scene.status = .running) : Tells (scene.exhaust setup) := by
  rw [exhaust]
  split
  · rfl
  · split
    · rename_i link _ _
      have hspec := (follow_spec setup link scene).2
      generalize scene.follow setup link = outcome at hspec ⊢
      cases outcome with
      | error error after => trivial
      | ok value after => exact hspec.trans hrunning
    · rfl

theorem tells_play (hrunning : scene.status = .running) : Tells (scene.play setup) := by
  rw [play]
  split
  · rfl
  · split
    · exact tells_exhaust hrunning
    · rename_i line _
      have hruns := runsTo_run setup line scene
      generalize scene.run setup line = outcome at hruns ⊢
      cases hruns with
      | failed hstays => trivial
      | moved hstays =>
          simp only [moveOn]
          split
          · rfl
          · exact hstays.status.trans hrunning
      | speaks cue speech => rfl

theorem tells_step (setup : Setup μ) (scene : Scene μ) : Tells (scene.step setup) := by
  have htells : Tells (scene.attempt setup) := by
    rw [attempt]
    split
    · assumption
    · assumption
    · exact tells_play rfl
    · exact tells_play ‹_›
  rw [step]
  generalize scene.attempt setup = outcome at htells ⊢
  cases outcome with
  | error error after => trivial
  | ok progress after => exact htells

theorem status_of_step {progress : Progress} {after : Scene μ}
    (hstepped : scene.step setup = .ok progress after) : after.status = progress.status := by
  have htells := tells_step setup scene
  rwa [hstepped] at htells

/-- Any number of steps keeps to the phases. -/
theorem keeps_advance (setup : Setup μ) (limit : Nat) (scene : Scene μ) :
    (scene.advance setup limit).Keeps scene.stage scene.status.phase := by
  induction limit generalizing scene with
  | zero => exact ⟨_, .of_eq rfl, rfl⟩
  | succ limit ih =>
      have hkeeps := scene.keeps_step setup
      rw [advance]
      generalize scene.step setup = outcome at hkeeps ⊢
      cases outcome with
      | error error after => exact hkeeps
      | ok progress after =>
          obtain ⟨last, hleads, hreaches⟩ := hkeeps
          rw [Outcome.Reaches] at hreaches
          subst hreaches
          cases progress with
          | moved => exact .after hleads (ih after)
          | suspended suspension => exact ⟨_, hleads, rfl⟩
          | complete => exact ⟨_, hleads, rfl⟩

end Scene

/-- The moment that an operation is by itself. A choice counts if the operation does not fail. -/
def Operation.mark (operation : Operation) (result : Except Error Answer) : List Moment :=
  match operation, result with
  | .resume, _ => [.resumed]
  | .select _, .ok _ | .selectAt _, .ok _ => [.chosen]
  | _, _ => []

theorem Operation.mark_cases (operation : Operation) (result : Except Error Answer) :
    operation.mark result = [] ∨ operation.mark result = [.resumed] ∨
      operation.mark result = [.chosen] := by
  cases operation <;> cases result <;> simp [mark]

namespace Scene

variable (setup : Setup μ)

/-- The calls that an operation makes. -/
def newCalls (operation : Operation) (scene : Scene μ) : List Callback :=
  (scene.perform setup operation).scene.stage.calls.drop scene.stage.calls.length

/-- The moments of an operation. -/
def moments (operation : Operation) (scene : Scene μ) : List Moment :=
  (scene.newCalls setup operation).map .call ++
    operation.mark (scene.perform setup operation).result

/-- The moments of a run. -/
def history : List Operation → Scene μ → List Moment
  | [], _ => []
  | operation :: later, scene =>
    scene.moments setup operation ++ history later (scene.perform setup operation).scene

variable {setup} {operation : Operation} {scene : Scene μ}

theorem newCalls_eq {calls : List Callback}
    (hgrown : (scene.perform setup operation).scene.stage.calls = scene.stage.calls ++ calls) :
    scene.newCalls setup operation = calls := by
  rw [newCalls, hgrown, List.drop_left]

/-- An operation that makes no call by itself, seen as a moment. -/
def Quiet (operation : Operation) (scene : Scene μ) (outcome : Outcome μ Answer) : Prop :=
  outcome.scene.stage.calls = scene.stage.calls ∧
    ∃ last, scene.status.phase.after? (operation.mark outcome.result) = some last ∧
      outcome.Reaches last

theorem quiet_resume (scene : Scene μ) : Quiet .resume scene (.ok .done scene.resume) := by
  rw [resume]
  split
  · rename_i hstatus
    refine ⟨rfl, .playing, ?_, rfl⟩
    rw [hstatus]
    rfl
  · rename_i hunsaid
    refine ⟨rfl, _, ?_, rfl⟩
    show scene.status.phase.after? [.resumed] = some scene.status.phase
    cases hstatus : scene.status with
    | suspended suspension =>
        cases suspension with
        | speech cue speech => exact absurd hstatus (hunsaid cue speech)
        | choices links => rfl
    | notStarted | running | complete => rfl

theorem quiet_select (setup : Setup μ) (link : Link) (scene : Scene μ) :
    Quiet (.select link) scene ((scene.select setup link).map fun _ => .done) := by
  rw [select]
  split
  · rename_i offered hstatus
    generalize hnoted : (if link ∈ offered then scene
      else scene.note (.notOffered link.target)) = between
    have hcalls : between.stage.calls = scene.stage.calls := by
      rw [← hnoted]
      split <;> rfl
    have hspec := follow_spec setup link between
    simp only []
    generalize between.follow setup link = outcome at hspec ⊢
    cases outcome with
    | error error after =>
        refine ⟨hspec.1.trans hcalls, .choosing, ?_, by decide, .inl rfl⟩
        rw [hstatus]
        rfl
    | ok value after =>
        refine ⟨hspec.1.trans hcalls, .playing, ?_, rfl⟩
        rw [hstatus]
        rfl
  · rename_i hunoffered
    refine ⟨rfl, _, ?_, rfl⟩
    show scene.status.phase.after? [.chosen] = some scene.status.phase
    cases hstatus : scene.status with
    | suspended suspension =>
        cases suspension with
        | speech cue speech => rfl
        | choices links => exact absurd hstatus (hunoffered links)
    | notStarted | running | complete => rfl

theorem quiet_selectAt (setup : Setup μ) (index : Nat) (hunfinished : scene.status ≠ .complete) :
    Quiet (.selectAt index) scene ((scene.selectAt setup index).map fun _ => .done) := by
  rw [selectAt]
  split
  · rename_i link _
    have hquiet := quiet_select setup link scene
    generalize scene.select setup link = outcome at hquiet ⊢
    cases outcome <;> exact hquiet
  · refine ⟨rfl, scene.status.phase, rfl, fun hended => ?_, .inr rfl⟩
    cases hstatus : scene.status with
    | suspended suspension =>
        rw [hstatus] at hended
        cases suspension <;> cases hended
    | notStarted | running =>
        rw [hstatus] at hended
        cases hended
    | complete => exact hunfinished hstatus

/-- An operation only adds calls, and its moments lead to the phase after it. -/
structure FollowsPhases (setup : Setup μ) (operation : Operation) (scene : Scene μ) : Prop where
  grown : (scene.perform setup operation).scene.stage.calls =
    scene.stage.calls ++ scene.newCalls setup operation
  leads : ∃ last, scene.status.phase.after? (scene.moments setup operation) = some last ∧
    (scene.perform setup operation).Reaches last

theorem Quiet.followsPhases (hquiet : Quiet operation scene (scene.perform setup operation)) :
    FollowsPhases setup operation scene := by
  have hgrown := hquiet.1.trans (List.append_nil _).symm
  constructor
  · rw [newCalls_eq hgrown]
    exact hgrown
  · rw [moments, newCalls_eq hgrown]
    exact hquiet.2

/-- An operation that is no moment by itself follows the phases if its calls keep to them. -/
theorem followsPhases_of_keeps {α : Type} {answer : α → Answer} {outcome : Outcome μ α}
    (hperforms : scene.perform setup operation = outcome.map answer)
    (hunmarked : operation.mark (outcome.map answer).result = [])
    (hkeeps : outcome.Keeps scene.stage scene.status.phase) :
    FollowsPhases setup operation scene := by
  obtain ⟨last, ⟨calls, hgrown, hleads⟩, hreaches⟩ := hkeeps
  rw [← Outcome.scene_map answer, ← hperforms] at hgrown
  constructor
  · rw [newCalls_eq hgrown]
    exact hgrown
  · rw [moments, newCalls_eq hgrown, hperforms, hunmarked, List.append_nil]
    exact ⟨last, hleads, Outcome.reaches_map answer hreaches⟩

/-- Until the playback is complete, every operation follows the phases. -/
theorem followsPhases_perform (setup : Setup μ) (operation : Operation)
    (hunfinished : scene.status ≠ .complete) : FollowsPhases setup operation scene := by
  cases operation with
  | step => exact followsPhases_of_keeps rfl rfl (scene.keeps_step setup)
  | advance limit => exact followsPhases_of_keeps rfl rfl (scene.keeps_advance setup limit)
  | resume => exact Quiet.followsPhases (quiet_resume scene)
  | select link => exact Quiet.followsPhases (quiet_select setup link scene)
  | selectAt index => exact Quiet.followsPhases (quiet_selectAt setup index hunfinished)
  | finish => exact Quiet.followsPhases ⟨rfl, _, rfl, rfl⟩

theorem step_of_complete (hended : scene.status = .complete) :
    scene.step setup = .ok .complete scene := by
  rw [step, attempt, hended]

/-- Once a playback is complete, operations call nobody and it stays complete. -/
theorem perform_of_complete (setup : Setup μ) (operation : Operation)
    (hended : scene.status = .complete) :
    (scene.perform setup operation).scene.stage.calls = scene.stage.calls ∧
      (scene.perform setup operation).scene.status = .complete := by
  cases operation with
  | step =>
      rw [perform, step_of_complete hended]
      exact ⟨rfl, hended⟩
  | advance limit =>
      rw [perform, Outcome.scene_map]
      cases limit with
      | zero => exact ⟨rfl, hended⟩
      | succ limit =>
          rw [advance, step_of_complete hended]
          exact ⟨rfl, hended⟩
  | resume =>
      rw [perform, resume, hended]
      exact ⟨rfl, hended⟩
  | select link =>
      rw [perform, Outcome.scene_map, select, hended]
      exact ⟨rfl, hended⟩
  | selectAt index =>
      rw [perform, Outcome.scene_map, selectAt, offered?, hended]
      exact ⟨rfl, hended⟩
  | finish => exact ⟨rfl, hended⟩

theorem newCalls_of_complete (operation : Operation) (hended : scene.status = .complete) :
    scene.newCalls setup operation = [] :=
  newCalls_eq ((perform_of_complete setup operation hended).1.trans (List.append_nil _).symm)

/-- An operation only adds calls. -/
theorem calls_perform (setup : Setup μ) (operation : Operation) (scene : Scene μ) :
    (scene.perform setup operation).scene.stage.calls =
      scene.stage.calls ++ scene.newCalls setup operation := by
  by_cases hended : scene.status = .complete
  · rw [newCalls_of_complete operation hended, List.append_nil]
    exact (perform_of_complete setup operation hended).1
  · exact (followsPhases_perform setup operation hended).grown

/-- The phase that a run has come to is that of the playback, unless the playback is complete. -/
def Tracks (phase : Phase) (scene : Scene μ) : Prop :=
  scene.status = .complete ∨ phase = scene.status.phase

theorem Tracks.perform {phase : Phase} (htracks : Tracks phase scene) (setup : Setup μ)
    (operation : Operation) :
    ∃ last, phase.after? (scene.moments setup operation) = some last ∧
      Tracks last (scene.perform setup operation).scene := by
  by_cases hended : scene.status = .complete
  · have hstays := (perform_of_complete setup operation hended).2
    rw [moments, newCalls_of_complete operation hended]
    rcases operation.mark_cases (scene.perform setup operation).result with hmark | hmark | hmark
    all_goals
      rw [hmark]
      cases phase <;> exact ⟨_, rfl, .inl hstays⟩
  · obtain ⟨last, hleads, hreaches⟩ := (followsPhases_perform setup operation hended).leads
    refine ⟨last, ?_, ?_⟩
    · rw [htracks.resolve_left hended]
      exact hleads
    · generalize scene.perform setup operation = outcome at hreaches ⊢
      cases outcome with
      | ok answer after => exact .inr hreaches
      | error error after => exact hreaches.2

/-- Along a run the phases follow the playback. -/
theorem Tracks.performAll {phase : Phase} (htracks : Tracks phase scene) (setup : Setup μ)
    (operations : List Operation) :
    ∃ last, phase.after? (scene.history setup operations) = some last ∧
      Tracks last (scene.performAll setup operations) := by
  induction operations generalizing phase scene with
  | nil => exact ⟨phase, rfl, htracks⟩
  | cons operation later ih =>
      obtain ⟨between, hfirst, htracks⟩ := htracks.perform setup operation
      obtain ⟨last, honward, htracks⟩ := ih htracks
      refine ⟨last, ?_, htracks⟩
      rw [history, Phase.after?_append, hfirst]
      exact honward

/-- The calls of a run are those of its moments. -/
theorem calls_performAll (setup : Setup μ) (operations : List Operation) (scene : Scene μ) :
    (scene.performAll setup operations).stage.calls =
      scene.stage.calls ++ (scene.history setup operations).filterMap Moment.call? := by
  have hunmarked (operation : Operation) (result : Except Error Answer) :
      (operation.mark result).filterMap Moment.call? = [] := by
    rcases operation.mark_cases result with hmark | hmark | hmark <;> rw [hmark] <;> rfl
  have hcalled (calls : List Callback) :
      (calls.map Moment.call).filterMap Moment.call? = calls := by
    rw [List.filterMap_map]
    exact List.filterMap_some
  induction operations generalizing scene with
  | nil => exact (List.append_nil _).symm
  | cons operation later ih =>
      rw [history, List.filterMap_append, moments, List.filterMap_append, hcalled, hunmarked,
        List.append_nil, ← List.append_assoc, ← calls_perform]
      exact ih _

/-- The end is called by the operation that completes the playback, unless that fails. -/
theorem finish_mem_moments_iff (setup : Setup μ) (operation : Operation) (scene : Scene μ) :
    .call .finish ∈ scene.moments setup operation ↔
      scene.status ≠ .complete ∧ (scene.perform setup operation).scene.status = .complete ∧
        ∃ answer, (scene.perform setup operation).result = .ok answer := by
  by_cases hended : scene.status = .complete
  · constructor
    · intro hmem
      rw [moments, newCalls_of_complete operation hended] at hmem
      rcases operation.mark_cases (scene.perform setup operation).result with hmark | hmark | hmark
      all_goals
        rw [hmark] at hmem
        exact absurd hmem (by decide)
    · intro hcompletes
      exact absurd hended hcompletes.1
  · obtain ⟨last, hleads, hreaches⟩ := (followsPhases_perform setup operation hended).leads
    have hunended : scene.status.phase ≠ .finished := by
      rwa [Ne, Status.phase_eq_finished_iff]
    rw [Phase.finish_mem_iff hleads]
    generalize scene.perform setup operation = outcome at hreaches ⊢
    cases outcome with
    | ok answer after =>
        rw [Outcome.Reaches] at hreaches
        rw [hreaches, Status.phase_eq_finished_iff]
        exact ⟨fun hends => ⟨hended, hends.2, answer, rfl⟩, fun hends => ⟨hunended, hends.2.1⟩⟩
    | error error after =>
        constructor
        · intro hends
          exact absurd hends.2 hreaches.1
        · rintro ⟨-, -, answer, hanswers⟩
          cases hanswers

theorem status_of_advance {limit : Nat} {progress : Progress} {after : Scene μ}
    (hadvanced : scene.advance setup limit = .ok (some progress) after) :
    after.status = progress.status := by
  induction limit generalizing scene with
  | zero => cases hadvanced
  | succ limit ih =>
      rw [advance] at hadvanced
      split at hadvanced
      · cases hadvanced
      · exact ih hadvanced
      · rename_i hstepped
        cases hadvanced
        exact status_of_step hstepped

/-- An advance that has taken all its steps has not come to the end of the playback. -/
theorem status_ne_complete_of_advance {limit : Nat} {after : Scene μ}
    (hadvanced : scene.advance setup limit = .ok none after) (hgoesOn : scene.status ≠ .complete) :
    after.status ≠ .complete := by
  induction limit generalizing scene with
  | zero =>
      cases hadvanced
      exact hgoesOn
  | succ limit ih =>
      rw [advance] at hadvanced
      split at hadvanced
      · cases hadvanced
      · rename_i hmoved
        refine ih hadvanced fun hended => ?_
        cases (status_of_step hmoved).symm.trans hended
      · cases hadvanced

theorem status_ne_complete_of_select {link : Link} {after : Scene μ}
    (hchosen : scene.select setup link = .ok () after) (hgoesOn : scene.status ≠ .complete) :
    after.status ≠ .complete := by
  rw [select] at hchosen
  split at hchosen
  · dsimp only at hchosen
    split at hchosen
    · cases hchosen
    · cases hchosen
      nofun
  · cases hchosen
    exact hgoesOn

/-- Of the answers of an operation that has not failed, one says that the playback is over. -/
theorem status_eq_complete_iff_of_perform {answer : Answer} {after : Scene μ}
    (hperformed : scene.perform setup operation = .ok answer after)
    (hgoesOn : scene.status ≠ .complete) :
    after.status = .complete ↔ answer = .progress .complete := by
  cases operation with
  | step =>
      obtain ⟨progress, hstepped, rfl⟩ := Outcome.exists_of_map_eq_ok hperformed
      rw [status_of_step hstepped, Progress.status_eq_complete_iff, Answer.progress.injEq]
  | advance limit =>
      obtain ⟨progress?, hadvanced, rfl⟩ := Outcome.exists_of_map_eq_ok hperformed
      cases progress? with
      | none => exact iff_of_false (status_ne_complete_of_advance hadvanced hgoesOn) nofun
      | some progress =>
          rw [status_of_advance hadvanced, Progress.status_eq_complete_iff, Answer.progress.injEq]
  | resume =>
      cases hperformed
      refine iff_of_false ?_ nofun
      rw [resume]
      split
      · nofun
      · exact hgoesOn
  | select link =>
      obtain ⟨_, hchosen, rfl⟩ := Outcome.exists_of_map_eq_ok hperformed
      exact iff_of_false (status_ne_complete_of_select hchosen hgoesOn) nofun
  | selectAt index =>
      obtain ⟨_, hchosen, rfl⟩ := Outcome.exists_of_map_eq_ok hperformed
      rw [selectAt] at hchosen
      split at hchosen
      · exact iff_of_false (status_ne_complete_of_select hchosen hgoesOn) nofun
      · cases hchosen
  | finish =>
      cases hperformed
      exact iff_of_false hgoesOn nofun

/-- The end is called by the operation that says that the playback is over, if it was not before. -/
theorem finish_mem_moments_iff_answer (setup : Setup μ) (operation : Operation) (scene : Scene μ) :
    .call .finish ∈ scene.moments setup operation ↔
      scene.status ≠ .complete ∧
        (scene.perform setup operation).result = .ok (.progress .complete) := by
  rw [finish_mem_moments_iff]
  refine and_congr_right fun hgoesOn => ?_
  cases hperformed : scene.perform setup operation with
  | ok answer after =>
      have htells := status_eq_complete_iff_of_perform hperformed hgoesOn
      constructor
      · rintro ⟨hended, -⟩
        exact congrArg Except.ok (htells.mp hended)
      · intro hsays
        exact ⟨htells.mpr (Except.ok.inj hsays), answer, rfl⟩
  | error error after =>
      constructor
      · rintro ⟨-, answer, hanswers⟩
        cases hanswers
      · intro hsays
        cases hsays

/-- A run calls its host in order. -/
structure RunsInOrder (setup : Setup μ) (opening : Scene μ) (operations : List Operation) :
    Prop where
  /-- The calls that the host receives are those of the moments. -/
  recorded : (opening.performAll setup operations).stage.calls =
    (opening.history setup operations).filterMap Moment.call?
  /-- The moments keep to the order. -/
  ordered : KeepsOrder (opening.history setup operations)
  /-- The end is called by an operation that completes the playback and does not fail, and by no
  other. -/
  ends : ∀ earlier operation later, operations = earlier ++ operation :: later →
    let before := opening.performAll setup earlier
    (.call .finish ∈ before.moments setup operation ↔
      before.status ≠ .complete ∧ (before.perform setup operation).scene.status = .complete ∧
        ∃ answer, (before.perform setup operation).result = .ok answer)
  /-- That operation answers that the playback is over. Once it is over, any step answers so, but
  without a call. -/
  answers : ∀ earlier operation later, operations = earlier ++ operation :: later →
    let before := opening.performAll setup earlier
    (.call .finish ∈ before.moments setup operation ↔
      before.status ≠ .complete ∧
        (before.perform setup operation).result = .ok (.progress .complete))

/-- Every run of a new playback calls its host in order, whatever the operations are and whatever
the host does. -/
theorem runsInOrder_of_start (setup : Setup μ) {collection : Collection} {name : Option String}
    {store : Option StoreId} {playback : Playback}
    (hstarted : Playback.start collection name store = .ok playback) (world : World μ)
    (operations : List Operation) :
    RunsInOrder setup (playback.opening world) operations := by
  have hsilent : Tracks .silent (playback.opening world) := by
    obtain ⟨index, rfl⟩ := Playback.eq_of_start hstarted
    exact .inr rfl
  obtain ⟨last, hleads, -⟩ := hsilent.performAll setup operations
  refine ⟨calls_performAll setup operations _, Phase.keepsOrder hleads, ?_, ?_⟩
  · intro earlier operation later _
    exact finish_mem_moments_iff setup operation _
  · intro earlier operation later _
    exact finish_mem_moments_iff_answer setup operation _

/-- A run with operations that do not fit what the playback waits for. -/
theorem runsInOrder_of_start_greeting :
    let lines : List Line :=
      [.cue ⟨⟨"ANNA", 1⟩, "ANNA", none, []⟩, .speech ⟨⟨"Hello.", 2⟩, "Hello."⟩]
    let collection : Collection := ⟨"inn", "inn", "", [⟨"Hall", "inn#Hall", lines, .empty⟩]⟩
    let playback : Playback := ⟨.start collection 0 none, .notStarted⟩
    let setup : Setup Unit := ⟨.idle, none, true⟩
    Playback.start collection none none = .ok playback ∧
      RunsInOrder setup (playback.opening ⟨(), .empty⟩)
        [.resume, .advance 3, .selectAt 0, .step, .resume, .advance 3, .step] := by
  intro lines collection playback setup
  have hstarted : Playback.start collection none none = .ok playback := rfl
  exact ⟨hstarted, runsInOrder_of_start setup hstarted _ _⟩

end Scene

end Dialogue
