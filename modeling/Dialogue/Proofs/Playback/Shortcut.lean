/-
# Following a single choice without asking

A playback may be set up to follow a single choice by itself. It then does what it would do if the
choice were offered and chosen at once, except that the host is not asked: the same calls, stores,
jumps and errors, operation by operation. The one thing that a host could notice is the offer
itself. So the two go apart if the host takes the offer of a single choice as news, that is, if it
answers otherwise later or changes a store because of it; and only then.
-/

import Dialogue.Proofs.Playback.Course
import Dialogue.Proofs.Playback.Misplaced

namespace Dialogue

variable {μ : Type}

/-- A relation between worlds that a host keeps: in related worlds the stores are the same, and the
host answers alike and leaves related worlds. An offer of a single choice in the second world is no
news, for the worlds are still related after it. -/
structure Host.Overlooks (host : Host μ) (alike : World μ → World μ → Prop) : Prop where
  stores : ∀ {first second}, alike first second → first.stores = second.stores
  put : ∀ {first second}, alike first second → ∀ id store,
    alike { first with stores := first.stores.put id store }
      { second with stores := second.stores.put id store }
  start : ∀ {first second}, alike first second → ∀ state,
    alike (host.start state first) (host.start state second)
  speech : ∀ {first second}, alike first second → ∀ cue speech,
    alike (host.speech cue speech first) (host.speech cue speech second)
  quote : ∀ {first second}, alike first second → ∀ quote,
    alike (host.quote quote first) (host.quote quote second)
  choices : ∀ {first second}, alike first second → ∀ links, (∀ link, links ≠ [link]) →
    alike (host.choices links first) (host.choices links second)
  single : ∀ {first second}, alike first second → ∀ link,
    alike first (host.choices [link] second)
  finish : ∀ {first second}, alike first second → alike (host.finish first) (host.finish second)
  tag : ∀ {first second}, alike first second → ∀ tag state,
    (host.tag tag state first).1 = (host.tag tag state second).1 ∧
      alike (host.tag tag state first).2 (host.tag tag state second).2
  condition : ∀ {first second}, alike first second → ∀ call state,
    (host.condition call state first).1 = (host.condition call state second).1 ∧
      alike (host.condition call state first).2 (host.condition call state second).2

/-- A host that does nothing when a single choice is offered overlooks it. -/
theorem Host.overlooks_eq {host : Host μ}
    (hidle : ∀ link world, host.choices [link] world = world) :
    host.Overlooks Eq where
  stores hsame := congrArg World.stores hsame
  put hsame _ _ := by rw [hsame]
  start hsame _ := by rw [hsame]
  speech hsame _ _ := by rw [hsame]
  quote hsame _ := by rw [hsame]
  choices hsame _ _ := by rw [hsame]
  single hsame link := by rw [hsame, hidle]
  finish hsame := by rw [hsame]
  tag hsame _ _ := by rw [hsame]; exact ⟨rfl, rfl⟩
  condition hsame _ _ := by rw [hsame]; exact ⟨rfl, rfl⟩

/-- Whether a call offers a single choice. -/
def Callback.offersSingle : Callback → Bool
  | choices [_] => true
  | _ => false

/-- Whether a remark says that the playback has failed. -/
def Remark.isHalt : Remark → Bool
  | halted => true
  | _ => false

/-- The stages of two playbacks of which the second offers its single choices. No single choice is
offered on the first, and all other calls are the same. The notices are the same except for that of
a failure, which a choice does not leave. -/
structure Stage.KeepsPace (alike : World μ → World μ → Prop) (first second : Stage μ) : Prop where
  world : alike first.toWorld second.toWorld
  calls : first.calls = second.calls.filter (!·.offersSingle)
  notices : first.notices.filter (!·.remark.isHalt) = second.notices.filter (!·.remark.isHalt)

namespace Stage.KeepsPace

variable {alike : World μ → World μ → Prop} {first second : Stage μ}

theorem called (hpace : first.KeepsPace alike second) {callback : Callback} {world other : World μ}
    (hworlds : alike world other) (hseveral : callback.offersSingle = false) :
    (first.called callback world).KeepsPace alike (second.called callback other) where
  world := hworlds
  calls := by
    rw [Stage.called, Stage.called, List.filter_append, ← hpace.calls]
    simp [hseveral]
  notices := hpace.notices

theorem note (hpace : first.KeepsPace alike second) (location : Location) (remark : Remark) :
    (first.note location remark).KeepsPace alike (second.note location remark) where
  world := hpace.world
  calls := hpace.calls
  notices := by
    rw [Stage.note, Stage.note, List.filter_append, List.filter_append, hpace.notices]

/-- Only the second playback offers the choice. -/
theorem offered (hpace : first.KeepsPace alike second) (link : Link) {world : World μ}
    (hworlds : alike first.toWorld world) :
    first.KeepsPace alike (second.called (.choices [link]) world) where
  world := hworlds
  calls := by
    rw [Stage.called, List.filter_append, ← hpace.calls]
    exact (List.append_nil _).symm
  notices := hpace.notices

/-- Only the first playback leaves a notice of the failure. -/
theorem halted (hpace : first.KeepsPace alike second) (location : Location) :
    (first.note location .halted).KeepsPace alike second where
  world := hpace.world
  calls := hpace.calls
  notices := by
    rw [Stage.note, List.filter_append, ← hpace.notices]
    exact List.append_nil _

end Stage.KeepsPace

theorem Setup.likeness_keepsPace {host : Host μ} {alike : World μ → World μ → Prop}
    (hoverlooks : host.Overlooks alike) (library : Option Library) :
    (⟨host, library, true⟩ : Setup μ).Likeness ⟨host, library, false⟩
      (Stage.KeepsPace alike) where
  library := rfl
  stores hpace := hoverlooks.stores hpace.world
  note hpace := hpace.note
  putStore hpace id store := ⟨hoverlooks.put hpace.world id store, hpace.calls, hpace.notices⟩
  start hpace _ state := hpace.called (hoverlooks.start hpace.world state) rfl
  speech hpace cue speech := hpace.called (hoverlooks.speech hpace.world cue speech) rfl
  quote hpace quote := hpace.called (hoverlooks.quote hpace.world quote) rfl
  choices hpace links hseveral := by
    refine hpace.called (hoverlooks.choices hpace.world links (hseveral rfl)) ?_
    match links with
    | [] => rfl
    | [link] => exact absurd rfl (hseveral rfl link)
    | _ :: _ :: _ => rfl
  finish hpace := hpace.called (hoverlooks.finish hpace.world) rfl
  tag hpace tag state := (hoverlooks.tag hpace.world tag state).imp_right (hpace.called · rfl)
  condition hpace call state :=
    (hoverlooks.condition hpace.world call state).imp_right (hpace.called · rfl)

namespace Scene

section

variable (setup : Setup μ)

/-- A step, and if exactly one choice is offered after it, the choice of that. -/
def stepByHand (scene : Scene μ) : Outcome μ Progress :=
  match scene.step setup with
  | .error error after => .error error after
  | .ok progress after =>
    match after.pending? with
    | some (.choices [_]) => (after.selectAt setup 0).map fun _ => .moved
    | _ => .ok progress after

/-- Steps until the playback waits or is over, but not more often than a limit. If exactly one
choice is offered, it is chosen at once. -/
def advanceByHand (limit : Nat) (scene : Scene μ) : Outcome μ (Option Progress) :=
  match limit with
  | 0 => .ok none scene
  | limit + 1 =>
    match scene.stepByHand setup with
    | .error error after => .error error after
    | .ok .moved after => advanceByHand limit after
    | .ok progress after => .ok (some progress) after

/-- Carries out an operation. If exactly one choice is offered, it is chosen at once. -/
def performByHand (operation : Operation) (scene : Scene μ) : Outcome μ Answer :=
  match operation with
  | .step => (scene.stepByHand setup).map Answer.progress
  | .advance limit =>
    (scene.advanceByHand setup limit).map fun
      | some progress => .progress progress
      | none => .unfinished
  | operation => scene.perform setup operation

/-- The scene after some operations, with single choices chosen at once. -/
def performAllByHand (operations : List Operation) (scene : Scene μ) : Scene μ :=
  operations.foldl (fun scene operation => (scene.performByHand setup operation).scene) scene

end

variable {setup : Setup μ} {scene after : Scene μ} {link : Link}

/-- Whether the playback does not wait for a single choice to be made. -/
def IsUnasked (scene : Scene μ) : Prop :=
  ∀ link, scene.pending? ≠ some (.choices [link])

theorem isUnasked_of_status {status : Status} (hsame : scene.status = status)
    (hunasked : ∀ link, status ≠ .suspended (.choices [link])) : scene.IsUnasked := by
  intro link hwaits
  rw [Playback.pending?, hsame] at hwaits
  split at hwaits
  · rename_i suspension
    exact hunasked link (congrArg Status.suspended (Option.some.inj hwaits))
  · cases hwaits

theorem isUnasked_of_running (hrunning : scene.status = .running) : scene.IsUnasked :=
  isUnasked_of_status hrunning nofun

theorem isUnasked_of_complete (hcomplete : scene.status = .complete) : scene.IsUnasked :=
  isUnasked_of_status hcomplete nofun

theorem isUnasked_of_speech {cue : Cue} {speech : Speech}
    (hspeaks : scene.status = .suspended (.speech cue speech)) : scene.IsUnasked :=
  isUnasked_of_status hspeaks nofun

theorem stepByHand_of_isUnasked (hunasked : (scene.step setup).scene.IsUnasked) :
    scene.stepByHand setup = scene.step setup := by
  rw [stepByHand]
  cases hstepped : scene.step setup with
  | error error after => rfl
  | ok progress after =>
      rw [hstepped] at hunasked
      dsimp only
      split
      · rename_i link hwaits
        exact absurd hwaits (hunasked link)
      · rfl

theorem onlyChoice?_eq_some_iff {state : State} :
    state.onlyChoice? = some link ↔
      state.finished = false ∧ state.line? = none ∧ state.choices = [link] := by
  rw [State.onlyChoice?]
  constructor
  · intro honly
    split at honly
    · rename_i hunfinished hexhausted hsingle
      rw [← Option.some.inj honly]
      exact ⟨hunfinished, hexhausted, hsingle⟩
    · cases honly
  · rintro ⟨hunfinished, hexhausted, hsingle⟩
    rw [hunfinished, hexhausted, hsingle]

/-- Away from a single choice no single choice is offered. -/
theorem isUnasked_play (setup : Setup μ) (hrunning : scene.status = .running)
    (helsewhere : scene.state.onlyChoice? = none) : (scene.play setup).scene.IsUnasked := by
  rw [play]
  by_cases hfinished : scene.state.finished = true
  · rw [if_pos hfinished]
    exact isUnasked_of_complete rfl
  rw [if_neg hfinished]
  cases hhere : scene.state.line? with
  | none =>
      dsimp only
      by_cases hnone : scene.state.choices = []
      · rw [exhaust, hnone]
        exact isUnasked_of_complete rfl
      have hseveral (link : Link) : scene.state.choices ≠ [link] := by
        intro hsingle
        have honly := onlyChoice?_eq_some_iff.mpr ⟨Bool.eq_false_iff.mpr hfinished, hhere, hsingle⟩
        rw [helsewhere] at honly
        cases honly
      -- Several choices wait to be made, whether or not a single one would be followed.
      rw [exhaust_of_offered hnone fun _ => hseveral]
      refine isUnasked_of_status rfl fun link hsame => ?_
      exact hseveral link (Suspension.choices.inj (Status.suspended.inj hsame))
  | some line =>
      have hruns := runsTo_run setup line scene
      dsimp only
      generalize scene.run setup line = outcome at hruns ⊢
      cases hruns with
      | failed hstays => exact isUnasked_of_running (hstays.status.trans hrunning)
      | moved hstays =>
          simp only [moveOn]
          split
          · exact isUnasked_of_complete rfl
          · exact isUnasked_of_running (hstays.status.trans hrunning)
      | speaks cue speech => exact isUnasked_of_speech rfl

theorem isUnasked_step (hrunning : scene.status = .running)
    (helsewhere : scene.state.onlyChoice? = none) : (scene.step setup).scene.IsUnasked := by
  have hunasked := isUnasked_play setup hrunning helsewhere
  rw [step_of_running hrunning]
  cases hplayed : scene.play setup with
  | error error after => exact isUnasked_of_complete rfl
  | ok progress after =>
      rw [hplayed] at hunasked
      exact hunasked

/-- A single choice that is followed by itself. -/
theorem step_of_onlyChoice (hrunning : scene.status = .running)
    (honly : scene.state.onlyChoice? = some link) (hauto : setup.autoFollow = true) :
    scene.step setup =
      match scene.follow setup link with
      | .error error after => .error error (after.noteFailure error).halt
      | .ok () after => .ok .moved after := by
  obtain ⟨hunfinished, hexhausted, hsingle⟩ := onlyChoice?_eq_some_iff.mp honly
  rw [step_of_running hrunning, play, hunfinished, if_neg Bool.false_ne_true, hexhausted]
  dsimp only
  rw [exhaust_of_single hauto hsingle]
  cases scene.follow setup link with
  | error error after => rfl
  | ok value after => rfl

/-- What a link leads to does not depend on how far the playback has come. -/
theorem follow_withStatus (setup : Setup μ) (link : Link) (scene : Scene μ) (status : Status) :
    ({ scene with status } : Scene μ).follow setup link =
      match scene.follow setup link with
      | .error error after => .error error { after with status }
      | .ok () after => .ok () { after with status } := by
  have hnoted : ({ scene with status } : Scene μ).noteUnannounced link =
      { scene.noteUnannounced link with status } := by
    rw [noteUnannounced, noteUnannounced]
    dsimp only
    split <;> rfl
  cases hfound : scene.target setup link with
  | error error =>
      have hmissing : ({ scene with status } : Scene μ).target setup link = .error error := hfound
      rw [follow_of_error hfound, follow_of_error hmissing, hnoted]
  | ok place =>
      obtain ⟨collection, index⟩ := place
      have hleads : ({ scene with status } : Scene μ).target setup link = .ok (collection, index) :=
        hfound
      rw [follow_of_ok hfound, follow_of_ok hleads, hnoted]
      rfl

/-- A single choice that is offered and chosen at once. -/
theorem stepByHand_of_onlyChoice (hrunning : scene.status = .running)
    (honly : scene.state.onlyChoice? = some link) (hasks : setup.autoFollow = false) :
    scene.stepByHand setup =
      match Scene.follow setup link
        { scene with
          stage := scene.stage.called (.choices [link])
            (setup.host.choices [link] scene.stage.toWorld) } with
      | .error error after => .error error after.halt
      | .ok () after => .ok .moved { after with status := .running } := by
  obtain ⟨hunfinished, hexhausted, hsingle⟩ := onlyChoice?_eq_some_iff.mp honly
  have hoffers : scene.step setup = scene.offer setup := by
    rw [step_of_running hrunning, play, hunfinished, if_neg Bool.false_ne_true, hexhausted]
    dsimp only
    rw [exhaust_of_offered (by simp [hsingle]) (by simp [hasks])]
    rfl
  rw [stepByHand, hoffers, offer, hsingle, suspend]
  dsimp only [Playback.pending?]
  rw [selectAt, offered?]
  dsimp only [List.getElem?_cons_zero]
  rw [select]
  dsimp only
  rw [if_pos (List.mem_singleton_self link)]
  have hwaits := follow_withStatus setup link
    { scene with
      stage := scene.stage.called (.choices [link])
        (setup.host.choices [link] scene.stage.toWorld) } (.suspended (.choices [link]))
  dsimp only at hwaits
  rw [hwaits]
  cases Scene.follow setup link _ with
  | error error after => rfl
  | ok value after => rfl

/-- After a choice none waits, whether or not one did before. -/
theorem isUnasked_select (setup : Setup μ) (link : Link) (scene : Scene μ) :
    (scene.select setup link).scene.IsUnasked := by
  rw [select]
  split
  · dsimp only
    split
    · exact isUnasked_of_complete rfl
    · exact isUnasked_of_running rfl
  · rename_i helsewhere
    exact isUnasked_of_status rfl fun link hwaits => helsewhere [link] hwaits

theorem isUnasked_stepByHand (setup : Setup μ) (scene : Scene μ) :
    (scene.stepByHand setup).scene.IsUnasked := by
  rw [stepByHand]
  cases hstepped : scene.step setup with
  | error error after =>
      have hended : (scene.step setup).scene.status = .complete :=
        status_of_step_error (by rw [hstepped]; rfl)
      rw [hstepped] at hended
      exact isUnasked_of_complete hended
  | ok progress after =>
      dsimp only
      split
      · rename_i link hwaits
        have hfirst : after.offered? 0 = some link := by
          rw [Playback.pending?] at hwaits
          rw [offered?]
          split at hwaits
          · rename_i suspension hstatus
            rw [hstatus, Option.some.inj hwaits]
            rfl
          · cases hwaits
        rw [Outcome.scene_map, selectAt, hfirst]
        exact isUnasked_select setup link after
      · rename_i helsewhere
        exact fun link hwaits => helsewhere link hwaits

theorem isUnasked_advanceByHand (setup : Setup μ) (limit : Nat) (hunasked : scene.IsUnasked) :
    (scene.advanceByHand setup limit).scene.IsUnasked := by
  induction limit generalizing scene with
  | zero => exact hunasked
  | succ limit ih =>
      have honward := isUnasked_stepByHand setup scene
      rw [advanceByHand]
      cases hstepped : scene.stepByHand setup with
      | error error after =>
          rw [hstepped] at honward
          exact honward
      | ok progress after =>
          rw [hstepped] at honward
          cases progress with
          | moved => exact ih honward
          | suspended suspension => exact honward
          | complete => exact honward

theorem isUnasked_performByHand {setup : Setup μ} (operation : Operation)
    (hunasked : scene.IsUnasked) : (scene.performByHand setup operation).scene.IsUnasked := by
  cases operation with
  | step =>
      rw [performByHand, Outcome.scene_map]
      exact isUnasked_stepByHand setup scene
  | advance limit =>
      rw [performByHand, Outcome.scene_map]
      exact isUnasked_advanceByHand setup limit hunasked
  | resume =>
      show scene.resume.IsUnasked
      rw [resume]
      split
      · exact isUnasked_of_running rfl
      · exact hunasked
  | select link =>
      show ((scene.select setup link).map _).scene.IsUnasked
      rw [Outcome.scene_map]
      exact isUnasked_select setup link scene
  | selectAt index =>
      show ((scene.selectAt setup index).map _).scene.IsUnasked
      rw [Outcome.scene_map, selectAt]
      cases scene.offered? index with
      | some link => exact isUnasked_select setup link scene
      | none => exact hunasked
  | finish => exact hunasked

section

variable {host : Host μ} {alike : World μ → World μ → Prop} {shortcut longcut : Scene μ}

/-- The choice that the one playback makes in its step is made by hand after the step of the other.
A link that leads nowhere ends both. -/
theorem alike_stepByHand_of_onlyChoice (hoverlooks : host.Overlooks alike)
    (library : Option Library)
    (hscenes : shortcut.Alike (Stage.KeepsPace alike) longcut)
    (hrunning : longcut.status = .running)
    (honly : longcut.state.onlyChoice? = some link) :
    (shortcut.step ⟨host, library, true⟩).Alike (Stage.KeepsPace alike)
      (longcut.stepByHand ⟨host, library, false⟩) := by
  have hlikeness := Setup.likeness_keepsPace hoverlooks library
  cases hscenes with
  | @on playback first second hstages =>
      have hoffered : Scene.Alike (Stage.KeepsPace alike) ⟨playback, first⟩
          ⟨playback, second.called (.choices [link]) (host.choices [link] second.toWorld)⟩ :=
        .on playback (hstages.offered link (hoverlooks.single hstages.world link))
      have houtcomes := alike_follow hlikeness hoffered link
      have hstatus := (follow_spec ⟨host, library, false⟩ link
        ⟨playback, second.called (.choices [link]) (host.choices [link] second.toWorld)⟩).2
      have hruns : (⟨playback, first⟩ : Scene μ).status = .running := hrunning
      have hauto : (⟨host, library, true⟩ : Setup μ).autoFollow = true := rfl
      rw [step_of_onlyChoice hruns honly hauto, stepByHand_of_onlyChoice hrunning honly rfl]
      dsimp only
      generalize Scene.follow _ link ⟨playback, first⟩ = outcome,
        Scene.follow _ link ⟨playback, Stage.called _ _ _⟩ = answer at houtcomes hstatus ⊢
      cases houtcomes with
      | ok value hscenes =>
          refine .ok Progress.moved ?_
          rw [← hrunning, ← hstatus]
          exact hscenes
      | error error hscenes =>
          -- The failed step leaves a notice, while the failed choice only ends the playback.
          refine .error error (Alike.halt ?_)
          rw [noteFailure]
          split
          · cases hscenes with
            | on playback hstages => exact .on playback (hstages.halted _)
          · exact hscenes

theorem alike_stepByHand_of_running (hoverlooks : host.Overlooks alike) (library : Option Library)
    (hscenes : shortcut.Alike (Stage.KeepsPace alike) longcut)
    (hrunning : longcut.status = .running) :
    (shortcut.step ⟨host, library, true⟩).Alike (Stage.KeepsPace alike)
      (longcut.stepByHand ⟨host, library, false⟩) := by
  cases honly : longcut.state.onlyChoice? with
  | some link => exact alike_stepByHand_of_onlyChoice hoverlooks library hscenes hrunning honly
  | none =>
      rw [stepByHand_of_isUnasked (isUnasked_step hrunning honly)]
      exact alike_step (Setup.likeness_keepsPace hoverlooks library) hscenes (.inr honly)

/-- A step by itself comes to what a step by hand comes to. -/
theorem alike_stepByHand (hoverlooks : host.Overlooks alike) (library : Option Library)
    (hscenes : shortcut.Alike (Stage.KeepsPace alike) longcut) (hunasked : longcut.IsUnasked) :
    (shortcut.step ⟨host, library, true⟩).Alike (Stage.KeepsPace alike)
      (longcut.stepByHand ⟨host, library, false⟩) := by
  have hlikeness := Setup.likeness_keepsPace hoverlooks library
  have hidle
      (hstill : (∃ suspension, longcut.pending? = some suspension) ∨ longcut.isComplete = true) :
      (shortcut.step ⟨host, library, true⟩).Alike (Stage.KeepsPace alike)
        (longcut.stepByHand ⟨host, library, false⟩) := by
    have hsame := hscenes.playback
    rw [stepByHand_of_isUnasked (by rw [step_of_idle hstill]; exact hunasked), step_of_idle hstill,
      step_of_idle (by rw [hsame]; exact hstill), hsame]
    exact .ok _ hscenes
  cases hstatus : longcut.status with
  | running => exact alike_stepByHand_of_running hoverlooks library hscenes hstatus
  | notStarted =>
      have hsame : shortcut.status = longcut.status := congrArg Playback.status hscenes.playback
      have hbegun :=
        alike_stepByHand_of_running hoverlooks library (alike_begin hlikeness hscenes) rfl
      rw [step_of_notStarted (hsame.trans hstatus), stepByHand, step_of_notStarted hstatus]
      exact hbegun
  | complete => exact hidle (.inr (beq_iff_eq.mpr hstatus))
  | suspended suspension => exact hidle (.inl ⟨suspension, by rw [Playback.pending?, hstatus]⟩)

theorem alike_advanceByHand (hoverlooks : host.Overlooks alike) (library : Option Library)
    (limit : Nat) (hscenes : shortcut.Alike (Stage.KeepsPace alike) longcut)
    (hunasked : longcut.IsUnasked) :
    (shortcut.advance ⟨host, library, true⟩ limit).Alike (Stage.KeepsPace alike)
      (longcut.advanceByHand ⟨host, library, false⟩ limit) := by
  induction limit generalizing shortcut longcut with
  | zero => exact .ok none hscenes
  | succ limit ih =>
      have houtcomes := alike_stepByHand hoverlooks library hscenes hunasked
      have honward := isUnasked_stepByHand ⟨host, library, false⟩ longcut
      rw [advance, advanceByHand]
      generalize shortcut.step _ = outcome, longcut.stepByHand _ = answer at houtcomes honward ⊢
      cases houtcomes with
      | error error hscenes => exact .error error hscenes
      | ok progress hscenes =>
          cases progress with
          | moved => exact ih hscenes honward
          | suspended suspension => exact .ok _ hscenes
          | complete => exact .ok _ hscenes

/-- An operation comes to the same, whether or not a single choice is made by hand. -/
theorem alike_performByHand (hoverlooks : host.Overlooks alike) (library : Option Library)
    (operation : Operation) (hscenes : shortcut.Alike (Stage.KeepsPace alike) longcut)
    (hunasked : longcut.IsUnasked) :
    (shortcut.perform ⟨host, library, true⟩ operation).Alike (Stage.KeepsPace alike)
      (longcut.performByHand ⟨host, library, false⟩ operation) := by
  have hlikeness := Setup.likeness_keepsPace hoverlooks library
  cases operation with
  | step => exact (alike_stepByHand hoverlooks library hscenes hunasked).map _
  | advance limit => exact (alike_advanceByHand hoverlooks library limit hscenes hunasked).map _
  | resume => exact .ok _ (alike_resume hlikeness hscenes)
  | select link => exact (alike_select hlikeness hscenes link).map _
  | selectAt index => exact (alike_selectAt hlikeness hscenes index).map _
  | finish =>
      cases hscenes with
      | on playback hstages => exact .ok _ (.on _ hstages)

/-- Before every operation the two playbacks stand at the same place, and no single choice waits. -/
theorem alike_performAllByHand (hoverlooks : host.Overlooks alike) (library : Option Library)
    (operations : List Operation) (hscenes : shortcut.Alike (Stage.KeepsPace alike) longcut)
    (hunasked : longcut.IsUnasked) :
    (shortcut.performAll ⟨host, library, true⟩ operations).Alike (Stage.KeepsPace alike)
        (longcut.performAllByHand ⟨host, library, false⟩ operations) ∧
      (longcut.performAllByHand ⟨host, library, false⟩ operations).IsUnasked := by
  induction operations generalizing shortcut longcut with
  | nil => exact ⟨hscenes, hunasked⟩
  | cons operation later ih =>
      exact ih (alike_performByHand hoverlooks library operation hscenes hunasked).scene
        (isUnasked_performByHand operation hunasked)

end

/-- A playback that follows single choices by itself, and the same one that has them made by hand,
have come to the same and will answer the next operation alike. -/
structure KeepsPace (host : Host μ) (library : Option Library) (shortcut longcut : Scene μ) :
    Prop where
  /-- They stand at the same place of the same script, and both wait, both are over, or neither. -/
  playback : shortcut.toPlayback = longcut.toPlayback
  stores : shortcut.stage.stores = longcut.stage.stores
  /-- The same calls have been made to the host, but for the offers of single choices. -/
  calls : shortcut.stage.calls = longcut.stage.calls.filter (!·.offersSingle)
  /-- The next operation has the same result or fails with the same error. -/
  results : ∀ operation, (shortcut.perform ⟨host, library, true⟩ operation).result =
    (longcut.performByHand ⟨host, library, false⟩ operation).result

/-- To follow single choices by itself is only a shortcut, as long as the host overlooks the offers
that it spares. -/
theorem keepsPace_of_start {host : Host μ} {alike : World μ → World μ → Prop}
    (hoverlooks : host.Overlooks alike) (library : Option Library) {collection : Collection}
    {name : Option String} {store : Option StoreId} {playback : Playback}
    (hstarted : Playback.start collection name store = .ok playback) {world : World μ}
    (hsame : alike world world) (operations : List Operation) :
    ((playback.opening world).performAll ⟨host, library, true⟩ operations).KeepsPace host library
      ((playback.opening world).performAllByHand ⟨host, library, false⟩ operations) := by
  obtain ⟨index, rfl⟩ := Playback.eq_of_start hstarted
  have hopens : Scene.Alike (Stage.KeepsPace alike)
      (Playback.opening ⟨.start collection index store, .notStarted⟩ world)
      (Playback.opening ⟨.start collection index store, .notStarted⟩ world) :=
    .on _ ⟨hsame, rfl, rfl⟩
  obtain ⟨hscenes, hunasked⟩ := alike_performAllByHand hoverlooks library operations hopens
    (isUnasked_of_status rfl fun _ hsame => by cases hsame)
  obtain ⟨hplayback, hstages⟩ := alike_iff.mp hscenes
  exact ⟨hplayback, hoverlooks.stores hstages.world, hstages.calls, fun operation =>
    (alike_performByHand hoverlooks library operation hscenes hunasked).result⟩

/-- Quotes are counted by a host that shows nothing else, and a jump is made between two of them. -/
theorem keepsPace_of_start_counting :
    let host : Host Nat :=
      { start := fun _ world => world
        speech := fun _ _ world => world
        quote := fun _ world => { world with memory := world.memory + 1 }
        choices := fun _ world => world
        finish := fun world => world
        tag := fun _ _ world => (⟨.ok true, world.memory == 2, none⟩, world)
        condition := fun _ _ world => (none, world) }
    let link : Link := ⟨⟨"[[#Yard]]", 3⟩, "#Yard", "Yard"⟩
    let hall : Script :=
      ⟨"Hall", "inn.md#Hall", [.quote ⟨⟨"> Hello.", 2⟩, "Hello."⟩, .link link],
        .ofList ["inn.md#Yard"]⟩
    let yard : Script :=
      ⟨"Yard", "inn.md#Yard", [.quote ⟨⟨"> Bye.", 5⟩, "Bye."⟩, .tag ⟨⟨"#wave", 6⟩, "wave", ""⟩],
        .empty⟩
    let inn : Collection := ⟨"inn", "inn.md", "", [hall, yard]⟩
    let playback : Playback := ⟨.start inn 0 none, .notStarted⟩
    let scene := playback.opening ⟨0, .empty⟩
    Playback.start inn (some "Hall") none = .ok playback ∧ host.Overlooks Eq ∧
      (scene.performAll ⟨host, none, true⟩ [.advance 9]).KeepsPace host none
        (scene.performAllByHand ⟨host, none, false⟩ [.advance 9]) := by
  intro host link hall yard inn playback scene
  have hstarted : Playback.start inn (some "Hall") none = .ok playback :=
    Playback.start_of_scriptIndex? (by decide +kernel) none
  have hoverlooks : host.Overlooks Eq := Host.overlooks_eq fun _ _ => rfl
  exact ⟨hstarted, hoverlooks, keepsPace_of_start hoverlooks none hstarted rfl [.advance 9]⟩

end Scene

/-- A host that ends the playback at a tag if a choice has been offered to it before. -/
def Host.heedful : Host Bool :=
  { start := fun _ world => world
    speech := fun _ _ world => world
    quote := fun _ world => world
    choices := fun _ world => { world with memory := true }
    finish := fun world => world
    tag := fun _ _ world => (⟨.ok true, world.memory, none⟩, world)
    condition := fun _ _ world => (none, world) }

/-- For a host that heeds the offer of a single choice, the shortcut leads elsewhere. -/
theorem Scene.not_forall_keepsPace :
    ¬ ∀ (host : Host Bool) (library : Option Library) (collection : Collection)
      (name : Option String) (store : Option StoreId) (playback : Playback) (world : World Bool)
      (operations : List Operation), Playback.start collection name store = .ok playback →
      ((playback.opening world).performAll ⟨host, library, true⟩ operations).KeepsPace host library
        ((playback.opening world).performAllByHand ⟨host, library, false⟩ operations) := by
  intro hkeepsPace
  let link : Link := ⟨⟨"[[#B]]", 2⟩, "#B", "B"⟩
  let first : Script := ⟨"A", "x.md#A", [.link link], .ofList ["x.md#B"]⟩
  let second : Script :=
    ⟨"B", "x.md#B", [.tag ⟨⟨"#wave", 4⟩, "wave", ""⟩, .quote ⟨⟨"> Bye", 5⟩, "Bye"⟩], .empty⟩
  let collection : Collection :=
    ⟨"x", "x.md", "# A\n[[#B]]\n# B\n#wave\n> Bye", [first, second]⟩
  have hstarted :
      Playback.start collection (some "A") none = .ok ⟨.start collection 0 none, .notStarted⟩ :=
    Playback.start_of_scriptIndex? (by decide +kernel) none
  have hpaces := hkeepsPace .heedful none collection _ none _ ⟨false, .empty⟩ [.advance 9] hstarted
  exact absurd hpaces.calls (by decide +kernel)

end Dialogue
