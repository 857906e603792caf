/-
# Telling a playback to end

A playback that is told to end stays where it is. Whatever is done to it afterwards, it runs no
further line and enters no other script; it ends in order with its next step, and that is the one
visit that still counts. A host that tells so while it handles a tag ends the playback with the very
step that asked it.

There is one gap. A choice that was offered before can still be made, and its link is followed as if
nothing had been said. The playback then ends before the first line of the script that it has
entered, and that script counts as visited although nothing of it was played.
-/

import Dialogue.Proofs.Playback.Failing

namespace Dialogue

variable {μ : Type}

namespace Scene

/-- A playback that was told to end has kept its script, its speaker and its choices. Either nothing
has happened to the stage, or it is what the end in order makes of it: the running script has been
visited and the host has been told of the end, and of the start if there was none before. -/
structure EndsInPlace (setup : Setup μ) (told last : Scene μ) : Prop where
  state : ∃ cursor, last.state = { told.state with cursor := cursor }
  stage : told.stage.SameButNotices last.stage ∨
    last.status = .complete ∧
      ((told.opened setup).conclude setup).stage.SameButNotices last.stage

/-- A playback that was told to end while choices were offered has followed a link all the same. It
has left its script, which counts, and stands before the first line of another one. -/
structure EntersAnyway (setup : Setup μ) (told entered : Scene μ) : Prop where
  offered : ∃ links, told.pending? = some (.choices links)
  leads : ∃ link collection index, told.target setup link = .ok (collection, index) ∧
    entered.state = told.state.enter collection index
  status : entered.status = .running
  stage : (told.stage.markVisited told.state).SameButNotices entered.stage

/-- Nothing has happened to a playback, except that a speech may have been confirmed. -/
structure Idles (told scene : Scene μ) : Prop where
  state : scene.state = told.state
  stage : told.stage.SameButNotices scene.stage
  status : scene.status = told.status ∨
    scene.status = .running ∧ ∃ cue speech, told.status = .suspended (.speech cue speech)

/-- What one operation makes of a playback that was told to end. -/
inductive Dwindles (setup : Setup μ) (told : Scene μ) : Scene μ → Prop where
  | idles {scene : Scene μ} (hidles : told.Idles scene) : Dwindles setup told scene
  | ended {scene : Scene μ} (hhalted : scene.Halted) (hinPlace : told.EndsInPlace setup scene) :
      Dwindles setup told scene
  | entered {scene : Scene μ} (henters : told.EntersAnyway setup scene) : Dwindles setup told scene

variable {setup : Setup μ} {told scene between last : Scene μ} {link : Link}

theorem Idles.refl (scene : Scene μ) : scene.Idles scene :=
  ⟨rfl, .refl _, .inl rfl⟩

theorem Idles.note (hidles : told.Idles scene) (remark : Remark) :
    told.Idles (scene.note remark) :=
  ⟨hidles.state, ⟨hidles.stage.world, hidles.stage.calls⟩, hidles.status⟩

theorem Idles.endsInPlace (hidles : told.Idles scene) : told.EndsInPlace setup scene :=
  ⟨⟨told.state.cursor, hidles.state⟩, .inl hidles.stage⟩

theorem EndsInPlace.scriptIndex_eq (hinPlace : told.EndsInPlace setup scene) :
    scene.state.scriptIndex = told.state.scriptIndex := by
  obtain ⟨cursor, hstate⟩ := hinPlace.state
  rw [hstate]

/-- What is over stays as it is. -/
theorem EndsInPlace.performAll (hinPlace : told.EndsInPlace setup scene) (hhalted : scene.Halted)
    (operations : List Operation) :
    told.EndsInPlace setup (scene.performAll setup operations) := by
  obtain ⟨hsame, hstages⟩ := alike_iff.mp (performAll_of_halted setup operations hhalted)
  obtain ⟨cursor, hstate⟩ := hinPlace.state
  have hback := hstages.symm
  refine ⟨⟨cursor, (congrArg Playback.state hsame).trans hstate⟩, hinPlace.stage.imp ?_ ?_⟩
  · exact fun hstill => hstill.trans hback
  · rintro ⟨hcomplete, hended⟩
    exact ⟨(congrArg Playback.status hsame).trans hcomplete, hended.trans hback⟩

/-- A scene with the same state is alike up to its status. -/
theorem alike_withStatus (hsame : scene.state = told.state)
    (hstill : told.stage.SameButNotices scene.stage) :
    Scene.Alike Stage.SameButNotices { told with status := scene.status } scene := by
  rw [alike_iff, ← hsame]
  exact ⟨rfl, hstill⟩

/-- The next step ends a playback that was told to. -/
theorem step_of_finished (hready : scene.status = .notStarted ∨ scene.status = .running)
    (hfinished : scene.state.finished = true) :
    scene.step setup = .ok .complete ((scene.opened setup).conclude setup) := by
  have hends (scene : Scene μ) (hrunning : scene.status = .running)
      (hfinished : scene.state.finished = true) :
      scene.step setup = .ok .complete (scene.conclude setup) := by
    rw [step_of_running hrunning, play, if_pos hfinished]
  obtain hsilent | hrunning := hready
  · rw [step_of_notStarted hsilent, opened_of_notStarted hsilent]
    exact hends (scene.begin setup) rfl hfinished
  · rw [opened_of_running hrunning]
    exact hends scene hrunning hfinished

/-- A playback that has only idled comes to the end that it would have come to before. -/
theorem Idles.sameButNotices_conclude (hidles : told.Idles scene) :
    ((told.opened setup).conclude setup).stage.SameButNotices
      ((scene.opened setup).conclude setup).stage := by
  have hlikeness := setup.likeness_sameButNotices
  have hscenes := alike_withStatus hidles.state hidles.stage
  have hopens : Scene.Alike Stage.SameButNotices
      (opened setup { told with status := scene.status }) (scene.opened setup) := by
    rw [opened, opened]
    dsimp only
    split
    · exact alike_begin hlikeness hscenes
    · exact hscenes
  have hends := (alike_iff.mp (alike_conclude hlikeness hopens)).2
  obtain hsame | ⟨hrunning, cue, speech, hwaits⟩ := hidles.status
  · rw [hsame] at hends
    exact hends
  · have hbegun : told.status ≠ .notStarted := fun hsilent => by cases hwaits.symm.trans hsilent
    rw [hrunning, opened_of_running rfl] at hends
    rw [opened_of_begun hbegun]
    exact hends

theorem dwindles_step (hfinished : told.state.finished = true) (hidles : told.Idles scene) :
    told.Dwindles setup (scene.step setup).scene := by
  have hends (hready : scene.status = .notStarted ∨ scene.status = .running) :
      told.Dwindles setup (scene.step setup).scene := by
    have hstill : scene.state.finished = true := by
      rw [hidles.state, hfinished]
    have hsame : (scene.opened setup).state = told.state :=
      (state_opened setup scene).trans hidles.state
    rw [step_of_finished hready hstill]
    refine .ended ⟨rfl, rfl⟩ ⟨⟨told.state.cursor, ?_⟩, .inr ⟨rfl, ?_⟩⟩
    · show { (scene.opened setup).state with finished := true } = told.state
      rw [hsame, ← hfinished]
    · exact hidles.sameButNotices_conclude
  cases hstatus : scene.status with
  | notStarted => exact hends (.inl hstatus)
  | running => exact hends (.inr hstatus)
  | complete =>
      rw [step_of_complete hstatus]
      exact .idles hidles
  | suspended suspension =>
      have hwaits : scene.pending? = some suspension := by
        rw [Playback.pending?, hstatus]
      rw [step_of_idle (.inl ⟨suspension, hwaits⟩)]
      exact .idles hidles

theorem step_ne_moved_of_finished (hfinished : scene.state.finished = true) (after : Scene μ) :
    scene.step setup ≠ .ok .moved after := by
  intro hmoved
  cases hstatus : scene.status with
  | notStarted =>
      rw [step_of_finished (.inl hstatus) hfinished] at hmoved
      cases hmoved
  | running =>
      rw [step_of_finished (.inr hstatus) hfinished] at hmoved
      cases hmoved
  | complete | suspended _ =>
      rw [step, attempt, hstatus] at hmoved
      cases hmoved

theorem step_ne_moved_of_halted (hhalted : (scene.step setup).scene.Halted) (after : Scene μ) :
    scene.step setup ≠ .ok .moved after := by
  intro hmoved
  have hsteps := stepsTo_step setup scene
  have hcomplete := hhalted.status
  rw [hmoved] at hsteps hcomplete
  cases hsteps with
  | still hidle hquiet => exact hquiet rfl
  | ran hhere hgathers hfarther hstatus => cases hcomplete.symm.trans hstatus
  | jumped hexhausted hauto hsingle hleads henters hstatus => cases hcomplete.symm.trans hstatus

theorem dwindles_resume (hidles : told.Idles scene) : told.Dwindles setup scene.resume := by
  rw [resume]
  split
  · rename_i cue speech hwaits
    refine .idles ⟨hidles.state, hidles.stage, .inr ⟨rfl, cue, speech, ?_⟩⟩
    obtain hsame | ⟨hrunning, -⟩ := hidles.status
    · exact hsame.symm.trans hwaits
    · rw [hwaits] at hrunning
      cases hrunning
  · exact .idles (hidles.note _)

/-- A choice that still waits is made as if nothing had been said. -/
theorem dwindles_select (hfinished : told.state.finished = true) (link : Link)
    (hidles : told.Idles scene) : told.Dwindles setup (scene.select setup link).scene := by
  rw [select]
  split
  · rename_i offered hwaits
    have hasked : told.status = .suspended (.choices offered) := by
      obtain hsame | ⟨hrunning, -⟩ := hidles.status
      · exact hsame.symm.trans hwaits
      · rw [hwaits] at hrunning
        cases hrunning
    have hpending : told.pending? = some (.choices offered) := by
      rw [Playback.pending?, hasked]
    dsimp only
    generalize hnoted : (if link ∈ offered then scene
      else scene.note (.notOffered link.target)) = between
    have hkept : told.Idles between := by
      rw [← hnoted]
      split
      · exact hidles
      · exact hidles.note _
    have hstill := hkept.stage.trans (sameButNotices_noteUnannounced link between)
    have hsame : (between.noteUnannounced link).state = told.state := by
      rw [(noteUnannounced_spec link between).1]
      exact hkept.state
    cases hfound : between.target setup link with
    | error error =>
        rw [follow_of_error hfound]
        refine .ended (halted_halt _) ⟨⟨told.state.cursor, ?_⟩, .inl hstill⟩
        show { (between.noteUnannounced link).state with finished := true } = told.state
        rw [hsame, ← hfinished]
    | ok place =>
        obtain ⟨collection, index⟩ := place
        have hleads : told.target setup link = .ok (collection, index) := by
          rw [target, ← hkept.state]
          exact hfound
        rw [follow_of_ok hfound]
        refine .entered ⟨⟨offered, hpending⟩, ⟨link, collection, index, hleads, ?_⟩, rfl, ?_⟩
        · show State.enter (between.noteUnannounced link).state _ _ = _
          rw [hsame]
        · generalize between.noteUnannounced link = noticed at hstill hsame ⊢
          have hjumps : told.stage.SameButNotices
              (noticed.note (.jumping (between.state.resolve link.target))).stage :=
            hstill.trans ⟨rfl, rfl⟩
          have hmarks := Stage.alike_markVisited setup.likeness_sameButNotices hjumps told.state
          rw [← hsame] at hmarks ⊢
          exact hmarks
  · exact .idles (hidles.note _)

/-- Whatever is done to a playback that was told to end, it idles, ends in place or enters another
script. -/
theorem dwindles_perform (setup : Setup μ) (operation : Operation)
    (hfinished : told.state.finished = true) (hidles : told.Idles scene) :
    told.Dwindles setup (scene.perform setup operation).scene := by
  have hstill : scene.state.finished = true := by
    rw [hidles.state, hfinished]
  cases operation with
  | step =>
      rw [perform, Outcome.scene_map]
      exact dwindles_step hfinished hidles
  | advance limit =>
      rw [perform, Outcome.scene_map]
      cases limit with
      | zero => exact .idles hidles
      | succ limit =>
          rw [scene_advance_of_stops (step_ne_moved_of_finished hstill)]
          exact dwindles_step hfinished hidles
  | resume => exact dwindles_resume hidles
  | select link =>
      rw [perform, Outcome.scene_map]
      exact dwindles_select hfinished link hidles
  | selectAt index =>
      rw [perform, Outcome.scene_map, selectAt]
      split
      · exact dwindles_select hfinished _ hidles
      · exact .idles hidles
  | finish =>
      refine .idles ⟨?_, hidles.stage, hidles.status⟩
      show { scene.state with finished := true } = told.state
      rw [hidles.state, ← hfinished]

/-- In place a playback ends if no choices wait. -/
theorem endsInPlace_performAll (setup : Setup μ) (hfinished : told.state.finished = true)
    (hunasked : ∀ links, told.pending? ≠ some (.choices links)) (hidles : told.Idles scene)
    (operations : List Operation) :
    told.EndsInPlace setup (scene.performAll setup operations) := by
  induction operations generalizing scene with
  | nil => exact hidles.endsInPlace
  | cons operation later ih =>
      have hdwindles := dwindles_perform setup operation hfinished hidles
      rw [performAll, List.foldl_cons, ← performAll]
      generalize (scene.perform setup operation).scene = after at hdwindles ⊢
      cases hdwindles with
      | idles hidles => exact ih hidles
      | ended hhalted hinPlace => exact hinPlace.performAll hhalted later
      | entered henters =>
          obtain ⟨links, hwaits⟩ := henters.offered
          exact absurd hwaits (hunasked links)

/-- If choices wait, it may end where it has entered another script. -/
theorem endsInPlace_or_entersAnyway (setup : Setup μ) (hfinished : told.state.finished = true)
    (hidles : told.Idles scene) (operations : List Operation) :
    told.EndsInPlace setup (scene.performAll setup operations) ∨
      ∃ entered, told.EntersAnyway setup entered ∧
        entered.EndsInPlace setup (scene.performAll setup operations) := by
  induction operations generalizing scene with
  | nil => exact .inl hidles.endsInPlace
  | cons operation later ih =>
      have hdwindles := dwindles_perform setup operation hfinished hidles
      rw [performAll, List.foldl_cons, ← performAll]
      generalize (scene.perform setup operation).scene = after at hdwindles ⊢
      cases hdwindles with
      | idles hidles => exact ih hidles
      | ended hhalted hinPlace => exact .inl (hinPlace.performAll hhalted later)
      | entered henters =>
          refine .inr ⟨after, henters, ?_⟩
          obtain ⟨_, _, _, _, hstate⟩ := henters.leads
          have hstill : after.state.finished = true := by
            rw [hstate]
            exact hfinished
          refine endsInPlace_performAll setup hstill (fun links hwaits => ?_) (.refl after) later
          rw [Playback.pending?, henters.status] at hwaits
          cases hwaits

/-- The scene after the host has been asked about a tag. -/
def askTag (host : Host μ) (tag : Tag) (scene : Scene μ) : Scene μ :=
  let (reply, world) := host.tag tag scene.state scene.stage.toWorld
  { scene with
    state := { scene.state with
      finished := scene.state.finished || reply.finish
      store := reply.store.or scene.state.store }
    stage := scene.stage.called (.tag tag) world }

theorem runUnknown_eq (host : Host μ) (tag : Tag) (scene : Scene μ) :
    scene.runUnknown host tag =
      match (host.tag tag scene.state scene.stage.toWorld).1.outcome with
      | .error error => .error error (scene.askTag host tag)
      | .ok true => .ok () (scene.askTag host tag)
      | .ok false => .ok () ((scene.askTag host tag).note (.unhandledTag tag.name)) :=
  rfl

section

variable {index : Nat} {tag : Tag}

theorem endsInPlace_step_of_running (hrunning : scene.status = .running)
    (hnext : scene.next? = some (index, .tag tag)) (hunknown : Directive.ofName? tag.name = none)
    (hends : (setup.host.tag tag scene.state scene.stage.toWorld).1.finish = true) :
    (scene.askTag setup.host tag).EndsInPlace setup (scene.step setup).scene ∧
      (scene.step setup).scene.Halted := by
  have hfinished : (scene.askTag setup.host tag).state.finished = true := by
    show (scene.state.finished || _) = true
    rw [hends, Bool.or_true]
  have hopens : (scene.askTag setup.host tag).opened setup = scene.askTag setup.host tag :=
    opened_of_running hrunning
  rw [step_of_next? hrunning hnext, run, runTag, hunknown]
  dsimp only
  rw [runUnknown_eq]
  generalize scene.askTag setup.host tag = told at hfinished hopens ⊢
  generalize (setup.host.tag tag scene.state scene.stage.toWorld).1.outcome = outcome
  have hconcludes (after : Scene μ) (hsame : after.state = told.state)
      (hstill : told.stage.SameButNotices after.stage) :
      told.EndsInPlace setup (after.moveOn setup .moved).scene ∧
        (after.moveOn setup .moved).scene.Halted := by
    rw [moveOn_moved, hsame, hfinished, if_pos rfl]
    refine ⟨⟨⟨told.state.cursor + 1, ?_⟩, .inr ⟨rfl, ?_⟩⟩, rfl, rfl⟩
    · show { after.state with cursor := told.state.cursor + 1, finished := true } = _
      rw [hsame, ← hfinished]
    · rw [hopens]
      have hscenes := alike_withStatus hsame hstill
      exact (alike_iff.mp (alike_conclude setup.likeness_sameButNotices hscenes)).2
  cases outcome with
  | error error =>
      refine ⟨⟨⟨told.state.cursor, ?_⟩, .inl ?_⟩, halted_halt _⟩
      · show { (told.noteFailure error).state with finished := true } = told.state
        rw [state_noteFailure, ← hfinished]
      · show told.stage.SameButNotices (told.noteFailure error).stage
        rw [noteFailure]
        split <;> exact ⟨rfl, rfl⟩
  | ok handled =>
      cases handled with
      | true => exact hconcludes told rfl (.refl _)
      | false => exact hconcludes (told.note _) rfl ⟨rfl, rfl⟩

/-- A host that tells the playback to end while it handles a tag ends it with this step. -/
theorem endsInPlace_step (hnext : scene.next? = some (index, .tag tag))
    (hunknown : Directive.ofName? tag.name = none)
    (hends : (setup.host.tag tag scene.state
      (scene.opened setup).stage.toWorld).1.finish = true) :
    ((scene.opened setup).askTag setup.host tag).EndsInPlace setup (scene.step setup).scene ∧
      (scene.step setup).scene.Halted := by
  cases hstatus : scene.status with
  | running =>
      rw [opened_of_running hstatus] at hends ⊢
      exact endsInPlace_step_of_running hstatus hnext hunknown hends
  | notStarted =>
      rw [opened_of_notStarted hstatus] at hends ⊢
      rw [step_of_notStarted hstatus]
      exact endsInPlace_step_of_running rfl ((next?_begin hstatus).trans hnext) hunknown hends
  | suspended _ | complete =>
      rw [Playback.next?, hstatus] at hnext
      cases hnext

/-- Whether a playback waits or is over, so that it makes no step. -/
def Rests (scene : Scene μ) : Prop :=
  (∃ suspension, scene.pending? = some suspension) ∨ scene.isComplete = true

theorem next?_of_rests (hrests : scene.Rests) : scene.next? = none := by
  rw [Rests, Playback.pending?, Playback.isComplete] at hrests
  rw [Playback.next?]
  cases hstatus : scene.status with
  | suspended _ | complete => rfl
  | notStarted | running =>
      rw [hstatus] at hrests
      obtain ⟨suspension, hwaits⟩ | hended := hrests
      · cases hwaits
      · cases hended

theorem performAll_steps_of_rests (hrests : scene.Rests) (count : Nat) :
    scene.performAll setup (List.replicate count .step) = scene := by
  induction count with
  | zero => rfl
  | succ count ih =>
      have hstays : (scene.perform setup .step).scene = scene := by
        rw [perform, Outcome.scene_map, step_of_idle hrests]
        rfl
      rw [List.replicate_succ, performAll, List.foldl_cons, hstays]
      exact ih

theorem rests_of_step_of_running (hrunning : scene.status = .running)
    (hstops : ∀ after, scene.step setup ≠ .ok .moved after) :
    (scene.step setup).scene.Rests := by
  have hsteps := stepsTo_step setup scene
  cases hstepped : scene.step setup with
  | error error after => exact .inr (beq_iff_eq.mpr (origin_of_step hstepped).2.2.status)
  | ok progress after =>
      have hwaits {suspension : Suspension} (hstatus : after.status = .suspended suspension) :
          after.Rests :=
        .inl ⟨suspension, by rw [Playback.pending?, hstatus]⟩
      rw [hstepped] at hsteps
      cases hsteps with
      | still hidle hquiet => exact absurd hrunning hidle
      | ran _ _ _ _ | jumped _ _ _ _ _ _ => exact absurd hstepped (hstops after)
      | spoke hgathers hstatus => exact hwaits hstatus
      | offered hsame hstatus => exact hwaits hstatus
      | ended hgathers hstatus => exact .inr (beq_iff_eq.mpr hstatus)

/-- A step that does not go on leads to rest. -/
theorem rests_of_step (hstops : ∀ after, scene.step setup ≠ .ok .moved after) :
    (scene.step setup).scene.Rests := by
  cases hstatus : scene.status with
  | running => exact rests_of_step_of_running hstatus hstops
  | notStarted =>
      rw [step_of_notStarted hstatus] at hstops ⊢
      exact rests_of_step_of_running rfl hstops
  | suspended suspension =>
      have hrests : scene.Rests := .inl ⟨suspension, by rw [Playback.pending?, hstatus]⟩
      rw [step_of_idle hrests]
      exact hrests
  | complete =>
      rw [step_of_complete hstatus]
      exact .inr (beq_iff_eq.mpr hstatus)

/-- An advance reaches a line by single steps. -/
theorem advance_of_next? {entry : Nat × Line} {count : Nat}
    (hnext : (scene.performAll setup (List.replicate count .step)).next? = some entry)
    (more : Nat) :
    scene.advance setup (count + more) =
      (scene.performAll setup (List.replicate count .step)).advance setup more := by
  induction count generalizing scene with
  | zero => rw [Nat.zero_add]; rfl
  | succ count ih =>
      rw [List.replicate_succ, performAll, List.foldl_cons, ← performAll] at hnext ⊢
      by_cases hmoves : ∃ after, scene.step setup = .ok .moved after
      · obtain ⟨after, hmoved⟩ := hmoves
        have hreached : (scene.perform setup .step).scene = after := by
          rw [perform, Outcome.scene_map, hmoved]
          rfl
        rw [hreached] at hnext ⊢
        rw [Nat.succ_add, advance, hmoved]
        exact ih hnext
      · have hrests : (scene.step setup).scene.Rests :=
          rests_of_step fun after hmoved => hmoves ⟨after, hmoved⟩
        rw [← Outcome.scene_map Answer.progress] at hrests
        rw [perform, performAll_steps_of_rests hrests, next?_of_rests hrests] at hnext
        cases hnext

end

/-- A choice that waits can be made, whether or not the playback has been told to end. -/
theorem state_select {links : List Link} {collection : Collection} {index : Nat}
    (hwaits : scene.pending? = some (.choices links))
    (hleads : scene.target setup link = .ok (collection, index)) :
    (scene.select setup link).scene.state = scene.state.enter collection index := by
  have hstatus : scene.status = .suspended (.choices links) := by
    rw [Playback.pending?] at hwaits
    split at hwaits
    · rename_i hstatus
      rw [hstatus, Option.some.inj hwaits]
    · cases hwaits
  rw [select, hstatus]
  dsimp only
  generalize hnoted : (if link ∈ links then scene
    else scene.note (.notOffered link.target)) = between
  have hsame : between.state = scene.state := by
    rw [← hnoted]
    split <;> rfl
  have hfound : between.target setup link = .ok (collection, index) := by
    rw [target, hsame]
    exact hleads
  rw [follow_of_ok hfound]
  show State.enter (between.noteUnannounced link).state _ _ = _
  rw [(noteUnannounced_spec link between).1, hsame]

/-- Whenever a playback is told to end in a run, it ends in place, except if choices wait of which
one leads somewhere; then it may enter the script there first. A host that tells so while it handles
a tag ends the playback in place, be it asked by a step or in the course of an advance. -/
theorem endsInPlace_of_start (setup : Setup μ) {collection : Collection} {name : Option String}
    {store : Option StoreId} {playback : Playback}
    (hstarted : Playback.start collection name store = .ok playback) (world : World μ)
    (operations : List Operation) :
    let scene := (playback.opening world).performAll setup operations
    let told := scene.finish
    (∀ later, told.EndsInPlace setup (told.performAll setup later) ∨
      ∃ entered, told.EntersAnyway setup entered ∧
        entered.EndsInPlace setup (told.performAll setup later)) ∧
    ((∀ later, told.EndsInPlace setup (told.performAll setup later)) ↔
      ¬((∃ links, scene.pending? = some (.choices links)) ∧
        ∃ link place, scene.target setup link = .ok place)) ∧
    ∀ count index tag,
      let last := scene.performAll setup (List.replicate count .step)
      let asked := (last.opened setup).askTag setup.host tag
      last.next? = some (index, .tag tag) → Directive.ofName? tag.name = none →
        (setup.host.tag tag last.state (last.opened setup).stage.toWorld).1.finish = true →
          ∀ later,
            asked.EndsInPlace setup (last.performAll setup (.step :: later)) ∧
              ∀ limit > count,
                asked.EndsInPlace setup (scene.performAll setup (.advance limit :: later)) := by
  intro scene told
  have hends (later : List Operation) :
      told.EndsInPlace setup (told.performAll setup later) ∨
        ∃ entered, told.EntersAnyway setup entered ∧
          entered.EndsInPlace setup (told.performAll setup later) :=
    endsInPlace_or_entersAnyway setup rfl (.refl told) later
  refine ⟨hends, ⟨?_, ?_⟩, ?_⟩
  · rintro hinPlace ⟨⟨links, hwaits⟩, link, ⟨collection, index⟩, hleads⟩
    have hconsistent : scene.IsConsistent :=
      isConsistent_performAll setup operations (isConsistent_opening hstarted world)
    obtain ⟨cursor, hstate⟩ := (hinPlace [.select link]).state
    have hentered : (told.performAll setup [.select link]).state =
        told.state.enter collection index := by
      show (told.perform setup (.select link)).scene.state = _
      rw [perform, Outcome.scene_map]
      exact state_select hwaits hleads
    have hnone : scene.state.choices = [] :=
      (congrArg State.choices (hentered.symm.trans hstate)).symm
    cases hconsistent.awaits _ hwaits with
    | choices hsome hexhausted => exact hsome hnone
  · intro hnowhere later
    refine (hends later).resolve_right ?_
    rintro ⟨entered, henters, -⟩
    obtain ⟨link, collection, index, hleads, -⟩ := henters.leads
    exact hnowhere ⟨henters.offered, link, (collection, index), hleads⟩
  · intro count index tag last asked hnext hunknown hfinishes later
    obtain ⟨hinPlace, hhalted⟩ := endsInPlace_step hnext hunknown hfinishes
    have honward := hinPlace.performAll hhalted later
    constructor
    · show asked.EndsInPlace setup ((last.perform setup .step).scene.performAll setup later)
      rw [perform, Outcome.scene_map]
      exact honward
    · intro limit hmore
      obtain ⟨rest, rfl⟩ : ∃ rest, limit = count + (rest + 1) :=
        ⟨limit - count - 1, by omega⟩
      have hstops : (last.advance setup (rest + 1)).scene = (last.step setup).scene :=
        scene_advance_of_stops (step_ne_moved_of_halted hhalted) rest
      show asked.EndsInPlace setup
        ((scene.perform setup (.advance (count + (rest + 1)))).scene.performAll setup later)
      rw [perform, Outcome.scene_map, advance_of_next? hnext, hstops]
      exact honward

/-- The host of an inn ends the playback when somebody waves. What comes after the tag is not
played. -/
theorem endsInPlace_of_start_wave :
    let wave : Tag := ⟨⟨"#wave", 2⟩, "wave", ""⟩
    let quote : Quote := ⟨⟨"> Goodbye.", 3⟩, "Goodbye."⟩
    let inn : Collection :=
      ⟨"inn", "inn", "", [⟨"Hall", "inn#Hall", [.tag wave, .quote quote], .empty⟩]⟩
    let host : Host Unit :=
      { Host.idle with tag := fun _ _ world => ({ outcome := .ok true, finish := true }, world) }
    let setup : Setup Unit := ⟨host, none, true⟩
    let playback : Playback := ⟨.start inn 0 none, .notStarted⟩
    let scene := playback.opening ⟨(), .empty⟩
    let asked := (scene.opened setup).askTag host wave
    Playback.start inn none none = .ok playback ∧
      asked.stage.calls = [.start "inn#Hall", .tag wave] ∧
      (∀ later, scene.finish.EndsInPlace setup (scene.finish.performAll setup later)) ∧
      ∀ later, asked.EndsInPlace setup (scene.performAll setup (.advance 9 :: later)) := by
  intro wave quote inn host setup playback scene asked
  have hstarted : Playback.start inn none none = .ok playback := rfl
  obtain ⟨-, htold, hasks⟩ := endsInPlace_of_start setup hstarted ⟨(), .empty⟩ []
  have hwaits (links : List Link) : scene.pending? ≠ some (.choices links) := nofun
  refine ⟨hstarted, rfl, htold.mpr fun hoffered => ?_, fun later => ?_⟩
  · obtain ⟨⟨links, hpending⟩, -⟩ := hoffered
    exact hwaits links hpending
  · have hnext : scene.next? = some (0, .tag wave) := rfl
    exact (hasks 0 0 wave hnext (by decide +kernel) rfl later).2 9 (by omega)

/-- The hall of an inn offers two ways out. The playback is told to end while they wait, and yet the
yard is entered. -/
theorem not_forall_endsInPlace :
    ¬∀ (setup : Setup Unit) (collection : Collection) (name : Option String) (playback : Playback),
      Playback.start collection name none = .ok playback →
        ∀ operations later : List Operation,
          let told := ((playback.opening ⟨(), .empty⟩).performAll setup operations).finish
          told.EndsInPlace setup (told.performAll setup later) := by
  intro hends
  let yard : Link := ⟨⟨"[[#Yard]]", 2⟩, "#Yard", "Yard"⟩
  let cellar : Link := ⟨⟨"[[#Cellar]]", 3⟩, "#Cellar", "Cellar"⟩
  let inn : Collection :=
    ⟨"inn", "inn", "",
      [⟨"Hall", "inn#Hall", [.link yard, .link cellar], .ofList ["inn#Cellar", "inn#Yard"]⟩,
        ⟨"Yard", "inn#Yard", [.quote ⟨⟨"> Hens.", 5⟩, "Hens."⟩], .empty⟩,
        ⟨"Cellar", "inn#Cellar", [], .empty⟩]⟩
  let setup : Setup Unit := ⟨.idle, none, true⟩
  let playback : Playback := ⟨.start inn 0 none, .notStarted⟩
  let told := ((playback.opening ⟨(), .empty⟩).performAll setup [.advance 9]).finish
  have hstarted : Playback.start inn (some "Hall") none = .ok playback :=
    Playback.start_of_scriptIndex? (by decide +kernel) none
  have hinPlace : told.EndsInPlace setup (told.performAll setup [.selectAt 0]) :=
    hends setup inn _ playback hstarted [.advance 9] [.selectAt 0]
  have hentered : (told.performAll setup [.selectAt 0]).state.scriptIndex = 1 := by decide +kernel
  have hstayed : told.state.scriptIndex = 0 := by decide +kernel
  have hsame := hinPlace.scriptIndex_eq
  rw [hentered, hstayed] at hsame
  cases hsame

end Scene

end Dialogue
