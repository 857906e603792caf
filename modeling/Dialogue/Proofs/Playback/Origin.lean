/-
# Where errors come from

A step fails on the line that it runs or because a link leads nowhere; a choice fails in the second
way only, unless it is not among those that are offered. A line fails by itself, or it is a tag that
the host refuses. A link leads nowhere because no script is there, or because the library fails with
the file that it is asked for. So every error has one of five origins, each of which is told here
with the line, the tag or the link that it is about.

Until it fails the playback stands where it stood, with the choices it had, and the host alone may
have changed the stores when it was asked about a tag or a condition.
-/

import Dialogue.Proofs.Library.Folder
import Dialogue.Proofs.Playback.Driving
import Dialogue.Proofs.Playback.Misplaced
import Dialogue.Proofs.Playback.Pass

namespace Dialogue

variable {μ : Type}

/-- Between two stages, the memory and the stores have changed only by what the host has made of
them when it was told of the start and asked about tags and conditions. -/
inductive Stage.LeftTo (host : Host μ) (before : Stage μ) : Stage μ → Prop where
  | refl : LeftTo host before before
  | note {between : Stage μ} (hleft : LeftTo host before between) (location : Location)
      (remark : Remark) : LeftTo host before (between.note location remark)
  | start {between : Stage μ} (hleft : LeftTo host before between) (state : State) :
      LeftTo host before
        (between.called (.start state.script.path) (host.start state between.toWorld))
  | tag {between : Stage μ} (hleft : LeftTo host before between) (tag : Tag) (state : State) :
      LeftTo host before (between.called (.tag tag) (host.tag tag state between.toWorld).2)
  | condition {between : Stage μ} (hleft : LeftTo host before between) (call : Call)
      (state : State) :
      LeftTo host before
        (between.called (.condition call) (host.condition call state between.toWorld).2)

theorem Stage.LeftTo.trans {host : Host μ} {before between after : Stage μ}
    (hearly : before.LeftTo host between) (hlate : between.LeftTo host after) :
    before.LeftTo host after := by
  induction hlate with
  | refl => exact hearly
  | note _ location remark ih => exact ih.note location remark
  | start _ state ih => exact ih.start state
  | tag _ tag state ih => exact ih.tag tag state
  | condition _ call state ih => exact ih.condition call state

/-- Deciding a call leaves the stage to the host. -/
theorem Call.leftTo_decide (host : Host μ) (state : State) (call : Call) :
    Meets (Stage.LeftTo host) (Error.IsOfMethod state.location) (call.decide host state) where
  reaches {before _ _} hrun := by
    have hasked : before.LeftTo host
        (before.called (.condition call) (host.condition call state before.toWorld).2) :=
      Stage.LeftTo.refl.condition call state
    rw [Call.decide] at hrun
    split at hrun
    · split at hrun
      · cases hrun
      · cases hrun
        exact .refl
      · cases hrun
        exact Stage.LeftTo.refl.note _ _
    · split at hrun
      · rename_i hanswer
        rw [hanswer] at hasked
        cases hrun
        exact hasked
      · rename_i hanswer
        rw [hanswer] at hasked
        cases hrun
        exact hasked.note _ _
  fails hrun := by
    have hfailed := (Call.meets_decide host state call).fails hrun
    refine ⟨?_, hfailed.2⟩
    rw [Call.decide] at hrun
    split at hrun
    · split at hrun
      · cases hrun
        exact .refl
      · cases hrun
      · cases hrun
    · split at hrun <;> cases hrun

/-- Deciding a condition leaves the stage to the host. -/
theorem State.leftTo_decide (host : Host μ) (state : State) (text : String) :
    Meets (Stage.LeftTo host) (Error.IsOfCondition state.location text)
      (state.decide host text) := by
  rw [State.decide]
  split
  · rename_i error hunread
    refine ⟨fun hrun => ?_, fun hrun => ?_⟩
    · cases hrun
    · cases hrun
      exact ⟨.refl, .unreadable hunread⟩
  · rename_i condition _
    have hmeets := condition.meets_eval (fun _ => .refl) Stage.LeftTo.trans
      (Call.leftTo_decide host state)
    exact hmeets.weaken fun _ => .ofMethod

theorem Error.IsOfMethod.location?_eq {location : Location} {error : Error}
    (hfailed : error.IsOfMethod location) : error.location? = some location := by
  cases hfailed <;> rfl

theorem Error.IsOfCondition.location?_eq {location : Location} {text : String} {error : Error}
    (hfailed : error.IsOfCondition location text) : error.location? = some location := by
  cases hfailed with
  | ofMethod hfailed => exact hfailed.location?_eq
  | unreadable _ => rfl

/-- The errors of the library that a playback is set up with do not say where the playback stood. -/
def Setup.LibrarySaysNoPlace (setup : Setup μ) : Prop :=
  ∀ library, setup.library = some library → library.SaysNoPlace

/-- A line fails by itself at a place, and this is its error. -/
inductive Line.FailsWith (speaker : Option Cue) (location : Location) : Line → Error → Prop where
  /-- Nobody says the speech. -/
  | unspoken {speech : Speech} (hsilent : speaker = none) :
      FailsWith speaker location (.speech speech) (.noSpeaker location)
  /-- The condition of a tag cannot be decided. -/
  | undecided {tag : Tag} {error : Error} (htries : tag.hasCondition = true)
      (hfailed : error.IsOfCondition location tag.args) :
      FailsWith speaker location (.tag tag) error
  /-- There is no store to set a variable in. -/
  | unstored {tag : Tag} (hsets : Directive.ofName? tag.name = some .set) :
      FailsWith speaker location (.tag tag) (.noStore location)
  /-- An assignment has no name or no value. -/
  | unassigned {tag : Tag} (hsets : Directive.ofName? tag.name = some .set)
      (hunread : Scene.assignment? tag.args = none) :
      FailsWith speaker location (.tag tag) (.arguments location (.noNameAndValue tag.args))
  /-- A tag throws its arguments. -/
  | thrown {tag : Tag} (hthrows : Directive.ofName? tag.name = some .throw) :
      FailsWith speaker location (.tag tag) (.thrown location tag.args)

theorem Line.FailsWith.location?_eq {speaker : Option Cue} {location : Location} {line : Line}
    {error : Error} (hfails : line.FailsWith speaker location error) :
    error.location? = some location := by
  cases hfails with
  | undecided htries hfailed => exact hfailed.location?_eq
  | unspoken _ | unstored _ | unassigned _ _ | thrown _ => rfl

namespace Scene

/-- The playback stands where it stood and has the choices it had, and the stage has been left to
the host. -/
structure KeepsPlace (host : Host μ) (before after : Scene μ) : Prop where
  collection : after.state.collection = before.state.collection
  scriptIndex : after.state.scriptIndex = before.state.scriptIndex
  cursor : after.state.cursor = before.state.cursor
  choices : after.state.choices = before.state.choices
  stage : before.stage.LeftTo host after.stage

/-- The host refuses a tag that the playback does not know, and this is the error it gives. -/
def Refuses (setup : Setup μ) (scene : Scene μ) (tag : Tag) (error : Error) : Prop :=
  Directive.ofName? tag.name = none ∧
    (setup.host.tag tag scene.state scene.stage.toWorld).1.outcome = .error error

variable {setup : Setup μ} {host : Host μ} {scene before between after : Scene μ} {error : Error}
  {tag : Tag} {line : Line} {link : Link}

theorem KeepsPlace.of_stage {stage : Stage μ} (hleft : scene.stage.LeftTo host stage) :
    scene.KeepsPlace host { scene with stage := stage } :=
  ⟨rfl, rfl, rfl, rfl, hleft⟩

theorem KeepsPlace.refl (scene : Scene μ) : scene.KeepsPlace host scene :=
  ⟨rfl, rfl, rfl, rfl, .refl⟩

theorem KeepsPlace.trans (hearly : before.KeepsPlace host between)
    (hlate : between.KeepsPlace host after) : before.KeepsPlace host after where
  collection := hlate.collection.trans hearly.collection
  scriptIndex := hlate.scriptIndex.trans hearly.scriptIndex
  cursor := hlate.cursor.trans hearly.cursor
  choices := hlate.choices.trans hearly.choices
  stage := hearly.stage.trans hlate.stage

theorem fails_of_runCondition (htries : tag.hasCondition = true)
    (hfailed : scene.runCondition host tag = .error error after) :
    (Line.tag tag).FailsWith scene.state.speaker scene.state.location error ∧
      scene.KeepsPlace host after := by
  have hmeets := State.leftTo_decide host { scene.state with retrying := false } tag.args
  rw [runCondition] at hfailed
  split at hfailed
  · rename_i hundecided
    cases hfailed
    obtain ⟨hleft, hcondition⟩ := hmeets.fails hundecided
    exact ⟨.undecided htries hcondition, rfl, rfl, rfl, rfl, hleft⟩
  · cases hfailed
  · cases hfailed

theorem fails_of_runAssignment (hsets : Directive.ofName? tag.name = some .set)
    (hfailed : scene.runAssignment tag = .error error after) :
    (Line.tag tag).FailsWith scene.state.speaker scene.state.location error ∧ after = scene := by
  rw [runAssignment, State.storeId] at hfailed
  cases hstore : scene.state.store with
  | none =>
      rw [hstore] at hfailed
      cases hfailed
      exact ⟨.unstored hsets, rfl⟩
  | some id =>
      rw [hstore] at hfailed
      dsimp only at hfailed
      split at hfailed
      · rename_i hunread
        cases hfailed
        exact ⟨.unassigned hsets hunread, rfl⟩
      · cases hfailed

theorem refuses_of_runUnknown (hunknown : Directive.ofName? tag.name = none)
    (hfailed : scene.runUnknown setup.host tag = .error error after) :
    scene.Refuses setup tag error ∧ scene.KeepsPlace setup.host after := by
  simp only [runUnknown] at hfailed
  split at hfailed
  · rename_i hrefused
    cases hfailed
    exact ⟨⟨hunknown, hrefused⟩, rfl, rfl, rfl, rfl, Stage.LeftTo.refl.tag tag scene.state⟩
  · cases hfailed
  · cases hfailed

/-- A tag fails by itself or because the host refuses it, and before it has moved the playback. -/
theorem fails_of_runTag (hfailed : scene.runTag setup.host tag = .error error after) :
    ((Line.tag tag).FailsWith scene.state.speaker scene.state.location error ∨
        scene.Refuses setup tag error) ∧
      scene.KeepsPlace setup.host after := by
  rw [runTag] at hfailed
  cases hknown : Directive.ofName? tag.name with
  | none =>
      rw [hknown] at hfailed
      exact (refuses_of_runUnknown hknown hfailed).imp_left .inr
  | some directive =>
      rw [hknown] at hfailed
      cases directive with
      | ifHolds =>
          have htries := Tag.hasCondition_iff.mpr (.inl hknown)
          exact (fails_of_runCondition htries hfailed).imp_left .inl
      | elseIfHolds =>
          have htries := Tag.hasCondition_iff.mpr (.inr hknown)
          dsimp only at hfailed
          split at hfailed
          · exact (fails_of_runCondition htries hfailed).imp_left .inl
          · cases hfailed
      | set =>
          obtain ⟨hfails, rfl⟩ := fails_of_runAssignment hknown hfailed
          exact ⟨.inl hfails, .refl _⟩
      | throw =>
          cases hfailed
          exact ⟨.inl (.thrown hknown), .refl _⟩
      | otherwise | endIf | finish | debug | warn | error | todo => cases hfailed

theorem fails_of_run (hfailed : scene.run setup line = .error error after) :
    (line.FailsWith scene.state.speaker scene.state.location error ∨
        ∃ tag, line = .tag tag ∧ scene.Refuses setup tag error) ∧
      scene.KeepsPlace setup.host after := by
  cases line with
  | speech speech =>
      rw [run] at hfailed
      split at hfailed
      · rename_i hsilent
        cases hfailed
        exact ⟨.inl (.unspoken hsilent), .refl _⟩
      · cases hfailed
  | tag tag =>
      rw [run] at hfailed
      split at hfailed
      · rename_i hran
        cases hfailed
        exact (fails_of_runTag hran).imp_left (Or.imp_right fun hrefuses => ⟨tag, rfl, hrefuses⟩)
      · cases hfailed
  | cue _ | link _ | quote _ => cases hfailed

/-- The error for a link that leads to no script. -/
def missing (scene : Scene μ) (link : Link) : Error :=
  .missingScript (scene.state.resolve link.target)
    (some { scene.state.location with lineNo := link.lineNo })

/-- A link leads out of the collection that is played, and the library fails with an error when it
is asked for the file that the link leads to. It does not just miss it. -/
structure LeadsToFailing (setup : Setup μ) (scene : Scene μ) (link : Link) (error : Error) :
    Prop where
  outside : scene.state.collection.isAt
    (Path.splitName (scene.state.resolve link.target)).1 = false
  fails : ∃ library, setup.library = some library ∧
    library (Path.splitName (scene.state.resolve link.target)).1 = .error error
  found : ∀ path location, error ≠ .missingScript path location

theorem LeadsToFailing.location?_eq (hsilent : setup.LibrarySaysNoPlace)
    (hleads : scene.LeadsToFailing setup link error) : error.location? = none := by
  obtain ⟨library, hattached, hfailed⟩ := hleads.fails
  exact hsilent library hattached _ error hfailed

theorem missing_or_leadsToFailing (hnowhere : scene.target setup link = .error error) :
    error = scene.missing link ∨ scene.LeadsToFailing setup link error := by
  unfold target at hnowhere
  obtain hmissing | ⟨houtside, library, hattached, hfailed, hfound⟩ :=
    nowhere_of_destination hnowhere
  · exact .inl hmissing
  · exact .inr ⟨houtside, ⟨library, hattached, hfailed⟩, hfound⟩

theorem keepsPlace_noteUnannounced (host : Host μ) (link : Link) (scene : Scene μ) :
    scene.KeepsPlace host (scene.noteUnannounced link) := by
  rw [noteUnannounced]
  split
  · exact .refl _
  · exact .of_stage (Stage.LeftTo.refl.note _ _)

theorem nowhere_of_follow (hfailed : scene.follow setup link = .error error after) :
    scene.target setup link = .error error ∧ after = scene.noteUnannounced link := by
  cases htarget : scene.target setup link with
  | error cause =>
      rw [follow_of_error htarget] at hfailed
      cases hfailed
      exact ⟨rfl, rfl⟩
  | ok place =>
      obtain ⟨collection, index⟩ := place
      rw [follow_of_ok htarget] at hfailed
      cases hfailed

/-- At the end of a script only a link that is followed without asking can fail. -/
theorem nowhere_of_exhaust (hfailed : scene.exhaust setup = .error error after) :
    ∃ link, setup.autoFollow = true ∧ scene.state.choices = [link] ∧
      scene.target setup link = .error error ∧ after = scene.noteUnannounced link := by
  rw [exhaust] at hfailed
  split at hfailed
  · cases hfailed
  · split at hfailed
    · rename_i link hauto hsingle
      split at hfailed
      · rename_i hfollowed
        cases hfailed
        exact ⟨link, hauto, hsingle, nowhere_of_follow hfollowed⟩
      · cases hfailed
    · cases hfailed

/-- An operation follows a link: a step does so by itself if the script has no line left and the
link is its only choice, and a choice follows the link that is chosen. -/
inductive Follows (setup : Setup μ) (scene : Scene μ) (link : Link) : Operation → Prop where
  | step (hgoesOn : scene.status = .notStarted ∨ scene.status = .running)
      (hunfinished : scene.state.finished = false) (hexhausted : scene.state.line? = none)
      (hauto : setup.autoFollow = true) (hsingle : scene.state.choices = [link]) :
      Follows setup scene link .step
  | select {links : List Link} (hwaits : scene.pending? = some (.choices links)) :
      Follows setup scene link (.select link)
  | selectAt {index : Nat} (hoffered : scene.offered? index = some link) :
      Follows setup scene link (.selectAt index)

/-- The host refuses the tag that the next step runs, and this is the error it gives. -/
def RefusesNext (setup : Setup μ) (scene : Scene μ) (error : Error) : Prop :=
  ∃ index tag, scene.next? = some (index, .tag tag) ∧ (scene.opened setup).Refuses setup tag error

/-- What the error of an operation comes from. An advance is taken step by step. -/
inductive Origin (setup : Setup μ) (scene : Scene μ) (error : Error) : Operation → Prop where
  /-- The line that the step runs has failed by itself. -/
  | line {index : Nat} {line : Line} (hnext : scene.next? = some (index, line))
      (hfails : line.FailsWith scene.state.speaker scene.state.location error) :
      Origin setup scene error .step
  /-- The line that the step runs is a tag that the host has refused. -/
  | host (hrefuses : scene.RefusesNext setup error) : Origin setup scene error .step
  /-- The link that is followed leads to no script. -/
  | link {operation : Operation} {link : Link} (hfollows : scene.Follows setup link operation)
      (hmissing : error = scene.missing link) : Origin setup scene error operation
  /-- The link that is followed leads to a file that the library fails with. -/
  | library {operation : Operation} {link : Link} (hfollows : scene.Follows setup link operation)
      (hleads : scene.LeadsToFailing setup link error) : Origin setup scene error operation
  /-- No choice is offered at the index. -/
  | index {index : Nat} (hunoffered : scene.offered? index = none)
      (herror : error = .arguments scene.state.location (.noChoice index)) :
      Origin setup scene error (.selectAt index)

theorem Origin.of_target {operation : Operation} (hfollows : scene.Follows setup link operation)
    (hnowhere : scene.target setup link = .error error) : scene.Origin setup error operation :=
  (missing_or_leadsToFailing hnowhere).elim (.link hfollows) (.library hfollows)

theorem eq_error_of_result {α : Type} {outcome : Outcome μ α}
    (hfailed : outcome.result = .error error) : outcome = .error error outcome.scene := by
  cases outcome with
  | ok value after => cases hfailed
  | error cause after =>
      cases hfailed
      rfl

theorem eq_error_of_map {α β : Type} {outcome : Outcome μ α} {f : α → β}
    (hfailed : (outcome.map f).result = .error error) : outcome = .error error outcome.scene := by
  rw [Outcome.result_map] at hfailed
  cases hresult : outcome.result with
  | ok value =>
      rw [hresult] at hfailed
      cases hfailed
  | error cause =>
      rw [hresult] at hfailed
      cases hfailed
      exact eq_error_of_result hresult

/-- A step that runs a line fails with it, and one that runs none fails with the link that it
follows. -/
theorem origin_of_play (hrunning : scene.status = .running)
    (hfailed : scene.play setup = .error error after) :
    scene.Origin setup error .step ∧ scene.KeepsPlace setup.host after := by
  have hnext := next?_of_running hrunning
  rw [play] at hfailed
  split at hfailed
  · cases hfailed
  · rename_i hunfinished
    rw [if_neg hunfinished] at hnext
    split at hfailed
    · rename_i hexhausted
      obtain ⟨link, hauto, hsingle, hnowhere, rfl⟩ := nowhere_of_exhaust hfailed
      have hfollows : scene.Follows setup link .step :=
        .step (.inr hrunning) (Bool.eq_false_iff.mpr hunfinished) hexhausted hauto hsingle
      exact ⟨.of_target hfollows hnowhere, keepsPlace_noteUnannounced setup.host link scene⟩
    · rename_i line hhere
      rw [hhere] at hnext
      split at hfailed
      · rename_i hran
        cases hfailed
        obtain ⟨hfails | ⟨tag, rfl, hrefuses⟩, hkeeps⟩ := fails_of_run hran
        · exact ⟨.line hnext hfails, hkeeps⟩
        · have hopened : scene.opened setup = scene := opened_of_running hrunning
          rw [← hopened] at hrefuses
          exact ⟨.host ⟨_, tag, hnext, hrefuses⟩, hkeeps⟩
      · rename_i progress between _
        obtain ⟨last, later, hmoves⟩ := exists_moveOn_eq_ok setup progress between
        rw [hmoves] at hfailed
        cases hfailed

/-- A playback that has just started fails as it would have before. -/
theorem Origin.of_begin (hsilent : scene.status = .notStarted)
    (horigin : (scene.begin setup).Origin setup error .step) : scene.Origin setup error .step := by
  have hbegun : (scene.begin setup).next? = scene.next? := next?_begin hsilent
  cases horigin with
  | line hnext hfails => exact .line (hbegun.symm.trans hnext) hfails
  | host hrefuses =>
      obtain ⟨index, tag, hnext, hrefused⟩ := hrefuses
      refine .host ⟨index, tag, hbegun.symm.trans hnext, ?_⟩
      rw [opened_of_notStarted hsilent]
      rwa [opened_of_running rfl] at hrefused
  | link hfollows hmissing =>
      cases hfollows with
      | step _ hunfinished hexhausted hauto hsingle =>
          exact .link (.step (.inl hsilent) hunfinished hexhausted hauto hsingle) hmissing
  | library hfollows hleads =>
      cases hfollows with
      | step _ hunfinished hexhausted hauto hsingle =>
          exact .library (.step (.inl hsilent) hunfinished hexhausted hauto hsingle)
            ⟨hleads.outside, hleads.fails, hleads.found⟩

theorem keepsPlace_noteFailure (host : Host μ) (error : Error) (scene : Scene μ) :
    scene.KeepsPlace host (scene.noteFailure error).halt := by
  rw [noteFailure]
  split
  · exact ⟨rfl, rfl, rfl, rfl, Stage.LeftTo.refl.note _ _⟩
  · exact ⟨rfl, rfl, rfl, rfl, .refl⟩

/-- The playback is over. -/
structure Halted (scene : Scene μ) : Prop where
  status : scene.status = .complete
  finished : scene.state.finished = true

theorem halted_halt (scene : Scene μ) : scene.halt.Halted :=
  ⟨rfl, rfl⟩

theorem keepsPlace_begin (setup : Setup μ) (scene : Scene μ) :
    scene.KeepsPlace setup.host (scene.begin setup) :=
  ⟨rfl, rfl, rfl, rfl, Stage.LeftTo.refl.start scene.state⟩

/-- A step that fails stays in its place and ends the playback. -/
theorem origin_of_step (hfailed : scene.step setup = .error error after) :
    scene.Origin setup error .step ∧ scene.KeepsPlace setup.host after ∧ after.Halted := by
  rw [step, attempt] at hfailed
  split at hfailed
  · rename_i last hattempt
    cases hfailed
    have hnoted := keepsPlace_noteFailure setup.host error last
    split at hattempt
    · cases hattempt
    · cases hattempt
    · rename_i hsilent
      obtain ⟨horigin, hkeeps⟩ := origin_of_play rfl hattempt
      exact ⟨horigin.of_begin hsilent, ((keepsPlace_begin setup scene).trans hkeeps).trans hnoted,
        halted_halt _⟩
    · rename_i hrunning
      obtain ⟨horigin, hkeeps⟩ := origin_of_play hrunning hattempt
      exact ⟨horigin, hkeeps.trans hnoted, halted_halt _⟩
  · cases hfailed

theorem sameButNotices_noteUnannounced (link : Link) (scene : Scene μ) :
    scene.stage.SameButNotices (scene.noteUnannounced link).stage := by
  rw [noteUnannounced]
  split <;> exact ⟨rfl, rfl⟩

/-- A choice that fails calls nobody, stays in its place and ends the playback. -/
theorem nowhere_of_select (hfailed : scene.select setup link = .error error after) :
    (∃ links, scene.pending? = some (.choices links)) ∧ scene.target setup link = .error error ∧
      scene.KeepsPlace setup.host after ∧ scene.stage.SameButNotices after.stage ∧
      after.Halted := by
  rw [select] at hfailed
  split at hfailed
  · rename_i offered hwaits
    dsimp only at hfailed
    generalize hnoted : (if link ∈ offered then scene
      else scene.note (.notOffered link.target)) = between at hfailed
    obtain ⟨hsame, hkeeps, hstill⟩ : between.state = scene.state ∧
        scene.KeepsPlace setup.host between ∧ scene.stage.SameButNotices between.stage := by
      rw [← hnoted]
      split
      · exact ⟨rfl, .refl _, .refl _⟩
      · exact ⟨rfl, .of_stage (Stage.LeftTo.refl.note _ _), rfl, rfl⟩
    split at hfailed
    · rename_i hfollowed
      cases hfailed
      obtain ⟨hnowhere, rfl⟩ := nowhere_of_follow hfollowed
      have hstays := keepsPlace_noteUnannounced setup.host link between
      have hpending : scene.pending? = some (.choices offered) := by
        rw [Playback.pending?, hwaits]
      rw [target, hsame] at hnowhere
      exact ⟨⟨offered, hpending⟩, hnowhere, hkeeps.trans ⟨hstays.collection, hstays.scriptIndex,
        hstays.cursor, hstays.choices, hstays.stage⟩,
        hstill.trans (sameButNotices_noteUnannounced link between), halted_halt _⟩
    · cases hfailed
  · cases hfailed

theorem origin_of_select (hfailed : scene.select setup link = .error error after) :
    scene.Origin setup error (.select link) := by
  obtain ⟨⟨links, hwaits⟩, hnowhere, -⟩ := nowhere_of_select hfailed
  exact .of_target (.select hwaits) hnowhere

theorem origin_of_selectAt {index : Nat}
    (hfailed : scene.selectAt setup index = .error error after) :
    scene.Origin setup error (.selectAt index) := by
  rw [selectAt] at hfailed
  split at hfailed
  · rename_i link hoffered
    exact .of_target (.selectAt hoffered) (nowhere_of_select hfailed).2.1
  · rename_i hunoffered
    cases hfailed
    exact .index hunoffered rfl

/-- An advance fails with one of its steps. -/
theorem exists_step_of_advance {limit : Nat}
    (hfailed : scene.advance setup limit = .error error after) :
    ∃ count < limit,
      (scene.performAll setup (List.replicate count .step)).step setup = .error error after := by
  induction limit generalizing scene with
  | zero => cases hfailed
  | succ limit ih =>
      rw [advance] at hfailed
      split at hfailed
      · rename_i hstepped
        cases hfailed
        exact ⟨0, Nat.succ_pos limit, hstepped⟩
      · rename_i later hmoved
        obtain ⟨count, hbound, hstepped⟩ := ih hfailed
        refine ⟨count + 1, Nat.succ_lt_succ hbound, ?_⟩
        have hreached : (scene.perform setup .step).scene = later := by
          rw [perform, Outcome.scene_map, hmoved]
          rfl
        rw [List.replicate_succ, performAll, List.foldl_cons, hreached]
        exact hstepped
      · cases hfailed

end Scene

/-- The most steps that an operation takes. -/
def Operation.stepLimit : Operation → Nat
  | .advance limit => limit
  | .step | .resume | .select _ | .selectAt _ | .finish => 1

/-- What an operation does at a time: an advance takes steps. -/
def Operation.single : Operation → Operation
  | .advance _ => .step
  | operation => operation

namespace Scene

variable {setup : Setup μ} {scene : Scene μ} {error : Error} {operation : Operation}

/-- The error of an operation has an origin in the scene that the operation has come to when it
fails. Only an advance has taken steps before. -/
theorem origin_of_perform (hfailed : (scene.perform setup operation).result = .error error) :
    ∃ count < operation.stepLimit,
      let last := scene.performAll setup (List.replicate count .step)
      (last.perform setup operation.single).result = .error error ∧
        last.Origin setup error operation.single := by
  cases operation with
  | step => exact ⟨0, Nat.one_pos, hfailed, (origin_of_step (eq_error_of_map hfailed)).1⟩
  | advance limit =>
      obtain ⟨count, hbound, hstepped⟩ := exists_step_of_advance (eq_error_of_map hfailed)
      refine ⟨count, hbound, ?_, (origin_of_step hstepped).1⟩
      rw [Operation.single, perform, Outcome.result_map, hstepped]
      rfl
  | select link => exact ⟨0, Nat.one_pos, hfailed, origin_of_select (eq_error_of_map hfailed)⟩
  | selectAt index =>
      exact ⟨0, Nat.one_pos, hfailed, origin_of_selectAt (eq_error_of_map hfailed)⟩
  | resume | finish => cases hfailed

end Scene

end Dialogue
