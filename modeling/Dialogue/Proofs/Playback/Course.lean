/-
# The course of a playback

A playback takes the lines of a script from the top to the end. Running a line moves it on by at
least one line and adds to the choices only the link on that line; a tag may move it on farther, but
it adds no choice. What a step comes to is said here once, with all that later arguments need to
know of it: where the playback stands then, and which links it has gathered.

From this follows what holds whenever a choice is made in a run. What is offered are the choices
gathered so far, and these are links on lines of the running script.
-/

import Dialogue.Proofs.Playback.Frame
import Dialogue.Proofs.Playback.Run

namespace Dialogue

variable {μ : Type}

namespace State

/-- The state has kept its choices, and it has not gone back unless it was past the end of its
script. -/
structure Proceeds (before after : State) : Prop where
  choices : after.choices = before.choices
  cursor : min before.cursor before.script.lines.length ≤ after.cursor

variable {state after : State} {wanted : Tag → Bool} {tag : Tag}

theorem Proceeds.refl (state : State) : state.Proceeds state :=
  ⟨rfl, Nat.min_le_left _ _⟩

/-- A tag that is found by skipping stands on a later line. -/
theorem cursor_lt_of_skipTo (hfound : state.skipTo wanted = (some tag, after)) :
    state.cursor < after.cursor := by
  rw [skipTo] at hfound
  split at hfound
  · rw [← (Prod.mk.inj hfound).2]
    dsimp only
    omega
  · cases (Prod.mk.inj hfound).1

theorem proceeds_skipTo (state : State) (wanted : Tag → Bool) :
    state.Proceeds (state.skipTo wanted).2 := by
  rw [skipTo]
  split
  · refine ⟨rfl, ?_⟩
    dsimp only
    omega
  · exact ⟨rfl, Nat.min_le_right _ _⟩

end State

namespace Scene

variable {setup : Setup μ} {scene after : Scene μ} {host : Host μ}

theorem proceeds_skipBlock (scene : Scene μ) : scene.state.Proceeds scene.skipBlock.state := by
  have hskips := scene.state.proceeds_skipTo Tag.closesBlock
  rw [skipBlock]
  split
  · rename_i hfound
    rw [hfound] at hskips
    exact hskips
  · rename_i hfound
    rw [hfound] at hskips
    exact hskips

/-- A branch is skipped up to a later tag. If the playback is left before it, then that is not
farther back than where it was. -/
theorem proceeds_skipBranch (scene : Scene μ) (name : String) :
    scene.state.Proceeds (scene.skipBranch name).state := by
  have hskips := scene.state.proceeds_skipTo Tag.endsBranch
  rw [skipBranch]
  split
  · rename_i hfound
    have hfarther := State.cursor_lt_of_skipTo hfound
    rw [hfound] at hskips
    split
    · refine ⟨hskips.choices, ?_⟩
      show _ ≤ _ - 1
      omega
    · exact hskips
  · rename_i hfound
    rw [hfound] at hskips
    exact hskips

theorem proceeds_runCondition (host : Host μ) (tag : Tag) (scene : Scene μ) :
    scene.state.Proceeds (scene.runCondition host tag).scene.state := by
  rw [runCondition]
  split
  · exact ⟨rfl, Nat.min_le_left _ _⟩
  · exact ⟨rfl, Nat.min_le_left _ _⟩
  · rename_i stage _
    have hskips := proceeds_skipBranch
      { scene.withState { scene.state with retrying := false } with stage } tag.name
    exact ⟨hskips.choices, hskips.cursor⟩

theorem proceeds_runAssignment (tag : Tag) (scene : Scene μ) :
    scene.state.Proceeds (scene.runAssignment tag).scene.state := by
  rw [runAssignment]
  split
  · exact .refl _
  · split
    · exact .refl _
    · exact .refl _

theorem proceeds_runUnknown (host : Host μ) (tag : Tag) (scene : Scene μ) :
    scene.state.Proceeds (scene.runUnknown host tag).scene.state := by
  simp only [runUnknown]
  split <;> exact ⟨rfl, Nat.min_le_left _ _⟩

/-- Whatever a tag does, it keeps the choices and does not take the playback back. -/
theorem proceeds_runTag (host : Host μ) (tag : Tag) (scene : Scene μ) :
    scene.state.Proceeds (scene.runTag host tag).scene.state := by
  rw [runTag]
  cases Directive.ofName? tag.name with
  | none => exact proceeds_runUnknown host tag scene
  | some directive =>
      cases directive with
      | ifHolds => exact proceeds_runCondition host tag scene
      | elseIfHolds =>
          by_cases hretrying : scene.state.retrying = true
          · simp only [hretrying, if_true]
            exact proceeds_runCondition host tag scene
          · simp only [hretrying, Bool.false_eq_true, if_false]
            exact proceeds_skipBlock scene
      | otherwise => exact proceeds_skipBlock scene
      | set => exact proceeds_runAssignment tag scene
      | finish => exact ⟨rfl, Nat.min_le_left _ _⟩
      | endIf | throw | debug | warn | error | todo => exact .refl _

end Scene

namespace State

/-- The state is in the same script and may have gathered more of its links. -/
structure Gathers (before after : State) : Prop where
  collection : after.collection = before.collection
  scriptIndex : after.scriptIndex = before.scriptIndex
  choices : ∃ links, after.choices = before.choices ++ links ∧
    ∀ link ∈ links, .link link ∈ before.script.lines

variable {before after : State}

/-- A state of the same script with the same choices has gathered nothing. -/
theorem Gathers.of_eq (hcollection : after.collection = before.collection)
    (hscriptIndex : after.scriptIndex = before.scriptIndex)
    (hchoices : after.choices = before.choices) : before.Gathers after :=
  ⟨hcollection, hscriptIndex, [], by rw [hchoices, List.append_nil],
    fun _ hmem => absurd hmem List.not_mem_nil⟩

theorem Gathers.refl (state : State) : state.Gathers state :=
  .of_eq rfl rfl rfl

theorem Gathers.script (hgathers : before.Gathers after) : after.script = before.script := by
  rw [State.script, hgathers.collection, hgathers.scriptIndex]
  rfl

end State

namespace Scene

open State (Gathers)

variable {setup : Setup μ} {scene after : Scene μ} {line : Line}

/-- A line that has run has left its link with the choices, if it has one. The playback is still on
the line or on a later one. -/
theorem gathers_run (setup : Setup μ) (hhere : scene.state.line? = some line) :
    scene.state.Gathers (scene.run setup line).scene.state ∧
      ∀ after, scene.run setup line = .ok .moved after →
        scene.state.cursor ≤ after.state.cursor := by
  cases line with
  | cue cue =>
      refine ⟨.of_eq rfl rfl rfl, fun after hmoved => ?_⟩
      cases hmoved
      exact Nat.le_refl _
  | speech speech =>
      rw [run]
      split
      · exact ⟨.refl _, fun after hmoved => by cases hmoved⟩
      · exact ⟨.refl _, fun after hmoved => by cases hmoved⟩
  | link link =>
      refine ⟨⟨rfl, rfl, [link], rfl, fun other hmem => ?_⟩, fun after hmoved => ?_⟩
      · rw [List.mem_singleton.mp hmem]
        exact List.mem_of_getElem? hhere
      · cases hmoved
        exact Nat.le_refl _
  | quote quote =>
      refine ⟨.refl _, fun after hmoved => ?_⟩
      cases hmoved
      exact Nat.le_refl _
  | tag tag =>
      have hstays := staysIn_runTag setup.host tag scene
      have hproceeds := proceeds_runTag setup.host tag scene
      have hbound : scene.state.cursor < scene.state.script.lines.length :=
        (List.getElem?_eq_some_iff.mp hhere).1
      rw [run]
      split
      · rename_i hfailed
        rw [hfailed] at hstays hproceeds
        exact ⟨.of_eq hstays.collection hstays.scriptIndex hproceeds.choices,
          fun after hmoved => by cases hmoved⟩
      · rename_i hmoved
        rw [hmoved] at hstays hproceeds
        refine ⟨.of_eq hstays.collection hstays.scriptIndex hproceeds.choices,
          fun after hmoved => ?_⟩
        cases hmoved
        have hnotBack := hproceeds.cursor
        rw [Nat.min_eq_left (Nat.le_of_lt hbound)] at hnotBack
        exact hnotBack

/-- What a step of a playback may come to. -/
inductive StepsTo (setup : Setup μ) (scene : Scene μ) : Outcome μ Progress → Prop where
  /-- The playback waits or is over, and nothing has happened. -/
  | still {progress : Progress} (hidle : scene.status ≠ .running) (hquiet : progress ≠ .moved) :
      StepsTo setup scene (.ok progress scene)
  /-- A line has run. -/
  | ran {after : Scene μ} (hhere : scene.state.line? ≠ none)
      (hgathers : scene.state.Gathers after.state)
      (hfarther : scene.state.cursor < after.state.cursor) (hstatus : after.status = .running) :
      StepsTo setup scene (.ok .moved after)
  /-- A single choice has been followed at the end of the script. -/
  | jumped {after : Scene μ} {link : Link} {collection : Collection} {index : Nat}
      (hexhausted : scene.state.line? = none) (hauto : setup.autoFollow = true)
      (hsingle : scene.state.choices = [link])
      (hleads : scene.target setup link = .ok (collection, index))
      (henters : after.state = scene.state.enter collection index)
      (hstatus : after.status = .running) :
      StepsTo setup scene (.ok .moved after)
  /-- A speech has been said. -/
  | spoke {after : Scene μ} {cue : Cue} {speech : Speech}
      (hgathers : scene.state.Gathers after.state)
      (hstatus : after.status = .suspended (.speech cue speech)) :
      StepsTo setup scene (.ok (.suspended (.speech cue speech)) after)
  /-- The choices have been offered. -/
  | offered {after : Scene μ} (hsame : after.state = scene.state)
      (hstatus : after.status = .suspended (.choices scene.state.choices)) :
      StepsTo setup scene (.ok (.suspended (.choices scene.state.choices)) after)
  /-- The playback has ended. -/
  | ended {after : Scene μ} (hgathers : scene.state.Gathers after.state)
      (hstatus : after.status = .complete) :
      StepsTo setup scene (.ok .complete after)
  /-- The step has failed. -/
  | failed {error : Error} {after : Scene μ} (hgathers : scene.state.Gathers after.state)
      (hstatus : ∀ suspension, after.status ≠ .suspended suspension) :
      StepsTo setup scene (.error error after)

theorem stepsTo_exhaust (hexhausted : scene.state.line? = none)
    (hstatus : scene.status = .running) :
    scene.StepsTo setup (scene.exhaust setup) := by
  rw [exhaust]
  split
  · exact .ended (.of_eq rfl rfl rfl) rfl
  · split
    · rename_i link hauto hsingle
      have hnoted := (noteUnannounced_spec link scene).1
      cases hfound : scene.target setup link with
      | error error =>
          rw [follow_of_error hfound]
          refine .failed ?_ ?_
          · rw [hnoted]
            exact .refl _
          · rw [hnoted, hstatus]
            nofun
      | ok place =>
          obtain ⟨collection, index⟩ := place
          rw [follow_of_ok hfound]
          refine .jumped hexhausted hauto hsingle hfound ?_ ?_
          · show State.enter (scene.noteUnannounced link).state _ _ = _
            rw [hnoted]
          · show (scene.noteUnannounced link).status = _
            rw [hnoted, hstatus]
    · exact .offered rfl rfl

theorem stepsTo_play (hstatus : scene.status = .running) :
    scene.StepsTo setup (scene.play setup) := by
  rw [play]
  split
  · exact .ended (.of_eq rfl rfl rfl) rfl
  · split
    · rename_i hexhausted
      exact stepsTo_exhaust hexhausted hstatus
    · rename_i line hhere
      obtain ⟨hgathers, hnotBack⟩ := gathers_run setup hhere
      have hruns := runsTo_run setup line scene
      generalize scene.run setup line = outcome at hgathers hnotBack hruns ⊢
      cases hruns with
      | failed hstays => exact .failed hgathers (by rw [hstays.status, hstatus]; nofun)
      | moved hstays =>
          rename_i after
          have hmoves : scene.state.Gathers
              { after.state with cursor := after.state.cursor + 1 } :=
            ⟨hgathers.collection, hgathers.scriptIndex, hgathers.choices⟩
          simp only [moveOn]
          split
          · exact .ended ⟨hmoves.collection, hmoves.scriptIndex, hmoves.choices⟩ rfl
          · refine .ran (by rw [hhere]; nofun) hmoves ?_ (hstays.status.trans hstatus)
            exact Nat.lt_succ_of_le (hnotBack after rfl)
      | speaks cue speech =>
          simp only [moveOn]
          exact .spoke ⟨hgathers.collection, hgathers.scriptIndex, hgathers.choices⟩ rfl

theorem stepsTo_attempt (setup : Setup μ) (scene : Scene μ) :
    scene.StepsTo setup (scene.attempt setup) := by
  rw [attempt]
  cases hstatus : scene.status with
  | complete => exact .still (by rw [hstatus]; nofun) nofun
  | suspended suspension => exact .still (by rw [hstatus]; nofun) nofun
  | running => exact stepsTo_play hstatus
  | notStarted =>
      have hplays : (scene.begin setup).StepsTo setup ((scene.begin setup).play setup) :=
        stepsTo_play rfl
      dsimp only
      generalize (scene.begin setup).play setup = outcome at hplays ⊢
      cases hplays with
      | still hidle hquiet => exact absurd rfl hidle
      | ran hhere hgathers hfarther hstatus => exact .ran hhere hgathers hfarther hstatus
      | jumped hexhausted hauto hsingle hleads henters hstatus =>
          exact .jumped hexhausted hauto hsingle hleads henters hstatus
      | spoke hgathers hstatus => exact .spoke hgathers hstatus
      | offered hsame hstatus => exact .offered hsame hstatus
      | ended hgathers hstatus => exact .ended hgathers hstatus
      | failed hgathers hstatus => exact .failed hgathers hstatus

theorem state_noteFailure (error : Error) (scene : Scene μ) :
    (scene.noteFailure error).state = scene.state := by
  rw [noteFailure]
  split <;> rfl

/-- A step of a playback comes to one of these. -/
theorem stepsTo_step (setup : Setup μ) (scene : Scene μ) :
    scene.StepsTo setup (scene.step setup) := by
  have hattempts := stepsTo_attempt setup scene
  rw [step]
  generalize scene.attempt setup = outcome at hattempts ⊢
  cases hattempts with
  | failed hgathers hstatus =>
      rename_i error after
      refine .failed ?_ nofun
      rw [← state_noteFailure error after] at hgathers
      exact ⟨hgathers.collection, hgathers.scriptIndex, hgathers.choices⟩
  | still hidle hquiet => exact .still hidle hquiet
  | ran hhere hgathers hfarther hstatus => exact .ran hhere hgathers hfarther hstatus
  | jumped hexhausted hauto hsingle hleads henters hstatus =>
      exact .jumped hexhausted hauto hsingle hleads henters hstatus
  | spoke hgathers hstatus => exact .spoke hgathers hstatus
  | offered hsame hstatus => exact .offered hsame hstatus
  | ended hgathers hstatus => exact .ended hgathers hstatus

/-- A playback that runs steps by what it plays. -/
theorem step_of_running (hrunning : scene.status = .running) :
    scene.step setup =
      match scene.play setup with
      | .error error after => .error error (after.noteFailure error).halt
      | .ok progress after => .ok progress after := by
  cases hplayed : scene.play setup <;> rw [step, attempt, hrunning, hplayed]

/-- The first step is a step of the playback that has just started. -/
theorem step_of_notStarted (hsilent : scene.status = .notStarted) :
    scene.step setup = (scene.begin setup).step setup := by
  have hrunning : (scene.begin setup).status = .running := rfl
  cases hplayed : (scene.begin setup).play setup <;>
    rw [step, attempt, hsilent, step_of_running hrunning, hplayed]

end Scene

/-- All collections that the library returns have a property. -/
def Setup.ReturnsOnly (setup : Setup μ) (P : Collection → Prop) : Prop :=
  ∀ library, setup.library = some library →
    ∀ path collection, library path = .ok collection → P collection

namespace Scene

variable {setup : Setup μ} {scene after : Scene μ} {link : Link} {P : Collection → Prop}

/-- The choices of a playback are links on lines of its script, and if it waits for a choice, then
these are what it offers. The collection that it plays has a property. -/
structure Offers (P : Collection → Prop) (scene : Scene μ) : Prop where
  collection : P scene.state.collection
  choices : ∀ link ∈ scene.state.choices, .link link ∈ scene.state.script.lines
  offered : ∀ links, scene.status = .suspended (.choices links) → links = scene.state.choices

/-- More choices from the same script are still links on its lines. -/
theorem Offers.gathers (hoffers : scene.Offers P) (hgathers : scene.state.Gathers after.state)
    (hoffered : ∀ links, after.status = .suspended (.choices links) → links = after.state.choices) :
    after.Offers P where
  collection := by
    rw [hgathers.collection]
    exact hoffers.collection
  choices := by
    obtain ⟨links, hchoices, honLines⟩ := hgathers.choices
    rw [hchoices, hgathers.script]
    intro link hmem
    rcases List.mem_append.mp hmem with hearlier | hadded
    · exact hoffers.choices link hearlier
    · exact honLines link hadded
  offered := hoffered

/-- A playback that has just entered a script has no choices. -/
theorem offers_of_enter (hreturns : setup.ReturnsOnly P) (hheld : P scene.state.collection)
    {collection : Collection} {index : Nat}
    (hleads : scene.target setup link = .ok (collection, index))
    (henters : after.state = scene.state.enter collection index)
    (hstatus : after.status = .running) :
    after.Offers P := by
  have hserved : P collection := by
    obtain ⟨-, ⟨-, rfl⟩ | ⟨-, library, hattached, hreturned⟩⟩ := (target_eq_ok_iff rfl).mp hleads
    · exact hheld
    · exact hreturns library hattached _ _ hreturned
  constructor
  · rw [henters]
    exact hserved
  · rw [henters]
    exact fun _ hmem => absurd hmem List.not_mem_nil
  · rw [hstatus]
    nofun

/-- A step leaves links of the script as choices, and offers them. -/
theorem offers_step (hreturns : setup.ReturnsOnly P) (hoffers : scene.Offers P) :
    (scene.step setup).scene.Offers P := by
  have hsteps := stepsTo_step setup scene
  generalize scene.step setup = outcome at hsteps ⊢
  cases hsteps with
  | still hidle hquiet => exact hoffers
  | ran hhere hgathers hfarther hstatus =>
      refine hoffers.gathers hgathers fun links hwaits => ?_
      cases hstatus.symm.trans hwaits
  | jumped hexhausted hauto hsingle hleads henters hstatus =>
      exact offers_of_enter hreturns hoffers.collection hleads henters hstatus
  | spoke hgathers hstatus =>
      refine hoffers.gathers hgathers fun links hwaits => ?_
      cases hstatus.symm.trans hwaits
  | offered hsame hstatus =>
      rename_i after
      have hkept : scene.state.Gathers after.state := hsame ▸ .refl _
      refine hoffers.gathers hkept fun links hwaits => ?_
      cases hstatus.symm.trans hwaits
      exact (congrArg State.choices hsame).symm
  | ended hgathers hstatus =>
      refine hoffers.gathers hgathers fun links hwaits => ?_
      cases hstatus.symm.trans hwaits
  | failed hgathers hstatus =>
      exact hoffers.gathers hgathers fun links hwaits => absurd hwaits (hstatus _)

theorem offers_advance (hreturns : setup.ReturnsOnly P) (limit : Nat) (hoffers : scene.Offers P) :
    (scene.advance setup limit).scene.Offers P :=
  advance_keeps (offers_step hreturns) limit hoffers

theorem offers_select (hreturns : setup.ReturnsOnly P) (link : Link) (hoffers : scene.Offers P) :
    (scene.select setup link).scene.Offers P := by
  rw [select]
  split
  · rename_i offered _
    generalize hnoted : (if link ∈ offered then scene
      else scene.note (.notOffered link.target)) = between
    have hsame : between.state = scene.state := by
      rw [← hnoted]
      split <;> rfl
    have hannounced := congrArg Playback.state (noteUnannounced_spec link between).1
    dsimp only
    cases hfound : between.target setup link with
    | error error =>
        rw [follow_of_error hfound]
        have hkept : scene.state.Gathers (between.noteUnannounced link).state := by
          rw [hannounced, hsame]
          exact .refl _
        show (between.noteUnannounced link).halt.Offers P
        exact hoffers.gathers ⟨hkept.collection, hkept.scriptIndex, hkept.choices⟩ nofun
    | ok place =>
        obtain ⟨collection, index⟩ := place
        rw [follow_of_ok hfound]
        have hheld : P between.state.collection := hsame ▸ hoffers.collection
        refine offers_of_enter hreturns hheld hfound ?_ rfl
        show State.enter (between.noteUnannounced link).state _ _ = _
        rw [hannounced]
  · exact ⟨hoffers.collection, hoffers.choices, hoffers.offered⟩

theorem offers_perform (hreturns : setup.ReturnsOnly P) (operation : Operation)
    (hoffers : scene.Offers P) : (scene.perform setup operation).scene.Offers P := by
  cases operation with
  | step =>
      rw [perform, Outcome.scene_map]
      exact offers_step hreturns hoffers
  | advance limit =>
      rw [perform, Outcome.scene_map]
      exact offers_advance hreturns limit hoffers
  | resume =>
      rw [perform, resume]
      split
      · exact ⟨hoffers.collection, hoffers.choices, nofun⟩
      · exact ⟨hoffers.collection, hoffers.choices, hoffers.offered⟩
  | select link =>
      rw [perform, Outcome.scene_map]
      exact offers_select hreturns link hoffers
  | selectAt index =>
      rw [perform, Outcome.scene_map, selectAt]
      split
      · exact offers_select hreturns _ hoffers
      · exact hoffers
  | finish => exact ⟨hoffers.collection, hoffers.choices, hoffers.offered⟩

/-- Whatever is done in a run, the choices are links on lines of the running script, and these are
what is offered. -/
theorem offers_performAll (hreturns : setup.ReturnsOnly P) (operations : List Operation)
    (hoffers : scene.Offers P) : (scene.performAll setup operations).Offers P := by
  induction operations generalizing scene with
  | nil => exact hoffers
  | cons operation later ih => exact ih (offers_perform hreturns operation hoffers)

theorem offers_opening {collection : Collection} {name : Option String} {store : Option StoreId}
    {playback : Playback} (hstarted : Playback.start collection name store = .ok playback)
    (hheld : P collection) (world : World μ) : (playback.opening world).Offers P := by
  obtain ⟨index, rfl⟩ := Playback.eq_of_start hstarted
  exact ⟨hheld, fun _ hmem => absurd hmem List.not_mem_nil, nofun⟩

end Scene

end Dialogue
