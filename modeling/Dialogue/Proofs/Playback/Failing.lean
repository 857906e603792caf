/-
# Playbacks that have failed

An error ends the playback where it stands, so that all that follows from it is nothing. No later
operation calls the host or changes the playback or the stores, and the host is never told of an
end.
-/

import Dialogue.Proofs.Playback.Origin
import Dialogue.Proofs.Playback.Speaking

namespace Dialogue

variable {μ : Type}

/-- The host has not been told of an end. -/
theorem Stage.LeftTo.callsOnly {host : Host μ} {before after : Stage μ}
    (hleft : before.LeftTo host after) : CallsOnly (· ≠ .finish) before after := by
  induction hleft with
  | refl => exact .of_eq rfl
  | note _ _ _ ih => exact ih.trans (.of_eq rfl)
  | start _ _ ih => exact ih.trans (callsOnly_called nofun _)
  | tag _ _ _ ih => exact ih.trans (callsOnly_called nofun _)
  | condition _ _ _ ih => exact ih.trans (callsOnly_called nofun _)

namespace Scene

variable {setup : Setup μ} {host : Host μ} {scene before after : Scene μ} {error : Error}

/-- Nothing that is done to a playback that is over calls the host or changes the playback or the
stores. -/
theorem performAll_of_halted (setup : Setup μ) (operations : List Operation)
    (hhalted : scene.Halted) :
    (scene.performAll setup operations).Alike Stage.SameButNotices scene := by
  induction operations generalizing scene with
  | nil => exact .on scene.toPlayback (.refl _)
  | cons operation later ih =>
      have hstill : (scene.perform setup operation).scene.Alike Stage.SameButNotices scene := by
        by_cases hends : operation = .finish
        · subst hends
          have hsame : scene.finish = scene := by
            rw [finish, withState, ← hhalted.finished]
          rw [perform, hsame]
          exact .on scene.toPlayback (.refl _)
        · refine (perform_of_misplaced setup ?_).2
          have hcomplete : scene.isComplete = true := by
            rw [Playback.isComplete, hhalted.status]
            rfl
          have hwaits (suspension : Suspension) : scene.pending? ≠ some suspension := by
            intro hpending
            rw [Playback.pending?, hhalted.status] at hpending
            cases hpending
          cases operation with
          | step | advance _ => exact .inr hcomplete
          | resume => exact fun cue speech => hwaits _
          | select _ => exact fun links => hwaits _
          | selectAt _ => exact fun links hwaiting => absurd hwaiting (hwaits _)
          | finish => exact absurd rfl hends
      obtain ⟨hsame, hstages⟩ := alike_iff.mp hstill
      have honward : Halted (scene.perform setup operation).scene :=
        ⟨(congrArg Playback.status hsame).trans hhalted.status,
          (congrArg (fun playback => playback.state.finished) hsame).trans hhalted.finished⟩
      obtain ⟨hsameAgain, hstagesAgain⟩ := alike_iff.mp (ih honward)
      exact alike_iff.mpr ⟨hsameAgain.trans hsame, hstagesAgain.trans hstages⟩

/-- Until a playback is complete its end has not been called. -/
theorem finish_not_mem_calls_of_start {collection : Collection} {name : Option String}
    {store : Option StoreId} {playback : Playback}
    (hstarted : Playback.start collection name store = .ok playback) (world : World μ)
    {operations : List Operation}
    (hgoesOn : ((playback.opening world).performAll setup operations).status ≠ .complete) :
    .finish ∉ ((playback.opening world).performAll setup operations).stage.calls := by
  have hsilent : Tracks .silent (playback.opening world) := by
    obtain ⟨index, rfl⟩ := Playback.eq_of_start hstarted
    exact .inr rfl
  obtain ⟨last, hleads, htracks⟩ := hsilent.performAll setup operations
  have hunended : last ≠ .finished := by
    rw [htracks.resolve_left hgoesOn, Ne, Status.phase_eq_finished_iff]
    exact hgoesOn
  rw [calls_performAll]
  intro hcalled
  obtain ⟨moment, hmem, hcall⟩ := List.mem_filterMap.mp hcalled
  obtain rfl : moment = .call .finish := by
    cases moment <;> cases hcall
    rfl
  exact hunended ((Phase.finish_mem_iff hleads).mp hmem).2

/-- An error has ended a playback, and nothing else has happened to it. -/
structure FailsCleanly (setup : Setup μ) (before after : Scene μ) : Prop where
  /-- The playback stands where it stood, and the host alone may have changed the stores. -/
  keepsPlace : before.KeepsPlace setup.host after
  complete : after.isComplete = true
  /-- The host has never been told of an end. -/
  unended : .finish ∉ after.stage.calls
  /-- Whatever is done later, nobody is called and neither the playback nor the stores change. -/
  later : ∀ operations, (after.performAll setup operations).Alike Stage.SameButNotices after

theorem FailsCleanly.of_halted (hunended : .finish ∉ before.stage.calls)
    (hkeeps : before.KeepsPlace setup.host after) (hhalted : after.Halted) :
    FailsCleanly setup before after where
  keepsPlace := hkeeps
  complete := by
    rw [Playback.isComplete, hhalted.status]
    rfl
  unended := by
    obtain ⟨calls, hgrown, hothers⟩ := hkeeps.stage.callsOnly
    rw [hgrown, List.mem_append]
    rintro (hearlier | hnew)
    · exact hunended hearlier
    · exact hothers _ hnew rfl
  later operations := performAll_of_halted setup operations hhalted

/-- Whatever is done in a run, a step or a choice that fails ends the playback where it stands, with
the choices it had, and does nothing else. Of the steps of an advance it is the last one that fails.
A choice that fails does not even call the host. -/
theorem failsCleanly_of_start (setup : Setup μ) {collection : Collection} {name : Option String}
    {store : Option StoreId} {playback : Playback}
    (hstarted : Playback.start collection name store = .ok playback) (world : World μ)
    (operations : List Operation) :
    let scene := (playback.opening world).performAll setup operations
    (∀ error, (scene.step setup).result = .error error →
      FailsCleanly setup scene (scene.step setup).scene) ∧
    (∀ limit error, (scene.advance setup limit).result = .error error →
      ∃ count < limit,
        let last := scene.performAll setup (List.replicate count .step)
        last.step setup = .error error (scene.advance setup limit).scene ∧
          FailsCleanly setup last (scene.advance setup limit).scene) ∧
    ∀ link error, (scene.select setup link).result = .error error →
      FailsCleanly setup scene (scene.select setup link).scene ∧
        scene.stage.SameButNotices (scene.select setup link).scene.stage := by
  intro scene
  have hsteps (earlier : List Operation) {error : Error} {after : Scene μ}
      (hfailed : ((playback.opening world).performAll setup earlier).step setup =
        .error error after) :
      FailsCleanly setup ((playback.opening world).performAll setup earlier) after := by
    obtain ⟨-, hkeeps, hhalted⟩ := origin_of_step hfailed
    refine .of_halted (finish_not_mem_calls_of_start hstarted world ?_) hkeeps hhalted
    intro hended
    rw [step_of_complete hended] at hfailed
    cases hfailed
  refine ⟨fun error hfailed => ?_, fun limit error hfailed => ?_, fun link error hfailed => ?_⟩
  · exact hsteps operations (eq_error_of_result hfailed)
  · obtain ⟨count, hbound, hstepped⟩ := exists_step_of_advance (eq_error_of_result hfailed)
    refine ⟨count, hbound, hstepped, ?_⟩
    have hreached := performAll_append setup operations (List.replicate count .step)
      (playback.opening world)
    rw [← hreached] at hstepped ⊢
    exact hsteps _ hstepped
  · obtain ⟨-, -, hkeeps, hstill, hhalted⟩ := nowhere_of_select (eq_error_of_result hfailed)
    refine ⟨.of_halted (finish_not_mem_calls_of_start hstarted world ?_) hkeeps hhalted, hstill⟩
    intro hended
    have hanswers : (scene.select setup link).result = .ok () := by
      rw [select, hended]
      rfl
    rw [hanswers] at hfailed
    cases hfailed

/-- The hall of an inn has a link to a yard that is not there. -/
theorem failsCleanly_of_start_hall :
    let link : Link := ⟨⟨"[[#Yard]]", 2⟩, "#Yard", "Yard"⟩
    let hall : Script := ⟨"Hall", "inn#Hall", [.link link], .ofList ["inn#Yard"]⟩
    let attic : Script := ⟨"Attic", "inn#Attic", [], .empty⟩
    let inn : Collection := ⟨"inn", "inn", "", [hall, attic]⟩
    let setup : Setup Unit := ⟨.idle, none, true⟩
    let playback : Playback := ⟨.start inn 0 (some ⟨0⟩), .notStarted⟩
    let scene := (playback.opening ⟨(), .empty⟩).performAll setup [.step]
    Playback.start inn (some "Hall") (some ⟨0⟩) = .ok playback ∧
      (scene.step setup).result = .error (.missingScript "inn#Yard" (some ⟨"inn", "Hall", 2⟩)) ∧
      FailsCleanly setup scene (scene.step setup).scene := by
  intro link hall attic inn setup playback scene
  have hstarted : Playback.start inn (some "Hall") (some ⟨0⟩) = .ok playback :=
    Playback.start_of_scriptIndex? (by decide +kernel) _
  have hfailed : (scene.step setup).result =
      .error (.missingScript "inn#Yard" (some ⟨"inn", "Hall", 2⟩)) := by
    decide +kernel
  exact ⟨hstarted, hfailed, (failsCleanly_of_start setup hstarted ⟨(), .empty⟩ [.step]).1 _ hfailed⟩

end Scene

end Dialogue
