/-
# Consistent playbacks

The cursor, the choices and the status of a playback, and its mark that a condition is still to be
tried, are changed one by one: by lines, by skipped branches, by jumps into other collections, and
where a playback fails or is told to end. They fit together all the same after every operation. The
running script is one of its collection, the cursor is not farther than one past its end, the mark
is only set before a tag that tries a condition, and what the playback waits for is what it has just
reached.

Nothing is asked of the collections for it. Blocks may be left open or be closed twice, a condition
may be broken, and a library may return a collection without scripts.
-/

import Dialogue.Proofs.Directive
import Dialogue.Proofs.Playback.Course
import Dialogue.Proofs.Playback.Run
import Dialogue.Proofs.Playback.Seeking

namespace Dialogue

variable {μ α : Type}

namespace State

/-- Whether the line at an index tries another condition of a block. -/
def RetriesAt (state : State) (index : Nat) : Prop :=
  ∃ tag, state.script.lines[index]? = some (.tag tag) ∧ tag.retriesBlock = true

/-- The state fits the script that it runs. -/
structure IsSound (state : State) : Prop where
  /-- The running script is one of its collection. -/
  script : state.collection.scripts[state.scriptIndex]? = some state.script
  /-- The cursor is at a line, at the end, or one past the end. -/
  cursor : state.cursor ≤ state.script.lines.length + 1
  /-- If a condition is to be tried, the line to run tries it. -/
  retries : state.retrying = true → state.RetriesAt state.cursor
  /-- From a tag that is reached by skipping, a line can be gone back. -/
  back : ∀ wanted tag after, state.skipTo wanted = (some tag, after) → 0 < after.cursor

/-- What has just been reached: a speech on the line before the cursor, said by the speaker, or the
end of a script with choices. -/
inductive Awaits (state : State) : Suspension → Prop where
  | speech {cue : Cue} {speech : Speech} {index : Nat} (hspeaker : state.speaker = some cue)
      (hcursor : state.cursor = index + 1)
      (hsaid : state.script.lines[index]? = some (.speech speech)) :
      Awaits state (.speech cue speech)
  | choices (hsome : state.choices ≠ []) (hexhausted : state.script.lines.length ≤ state.cursor) :
      Awaits state (.choices state.choices)

variable {state : State} {line : Line} {tag : Tag}

theorem IsSound.of (hscript : state.collection.scripts[state.scriptIndex]? = some state.script)
    (hcursor : state.cursor ≤ state.script.lines.length + 1)
    (hretries : state.retrying = true → state.RetriesAt state.cursor) : state.IsSound :=
  ⟨hscript, hcursor, hretries, fun _ _ _ hfound => Nat.zero_lt_of_lt (cursor_lt_of_skipTo hfound)⟩

theorem IsSound.of_quiet
    (hscript : state.collection.scripts[state.scriptIndex]? = some state.script)
    (hcursor : state.cursor ≤ state.script.lines.length + 1) (hquiet : state.retrying = false) :
    state.IsSound := by
  refine .of hscript hcursor fun hretrying => ?_
  rw [hquiet] at hretrying
  cases hretrying

/-- Before a line that does not try a condition, none is to be tried. -/
theorem IsSound.retrying_eq_false (hsound : state.IsSound) (hhere : state.line? = some line)
    (hother : ∀ tag, line = .tag tag → tag.retriesBlock = false) : state.retrying = false := by
  refine Bool.eq_false_iff.mpr fun hretrying => ?_
  obtain ⟨tag, hstands, hretries⟩ := hsound.retries hretrying
  have hsame : line = .tag tag := Option.some.inj (hhere.symm.trans hstands)
  rw [hother tag hsame] at hretries
  cases hretries

/-- The state before the first line of a script of a collection is sound. -/
theorem isSound_of_first {index : Nat} (hbound : index < state.collection.scripts.length)
    (hstands : state.scriptIndex = index) (hfirst : state.cursor = 0)
    (hfresh : state.retrying = false) : state.IsSound := by
  refine .of_quiet ?_ (hfirst ▸ Nat.zero_le _) hfresh
  rw [script, hstands, List.getElem?_eq_getElem hbound]
  simp [hbound]

theorem IsSound.withFinished (hsound : state.IsSound) (finished : Bool) :
    ({ state with finished } : State).IsSound :=
  .of hsound.script hsound.cursor hsound.retries

theorem Awaits.withFinished {suspension : Suspension} (hawaits : state.Awaits suspension)
    (finished : Bool) : ({ state with finished } : State).Awaits suspension := by
  cases hawaits with
  | speech hspeaker hcursor hsaid => exact .speech hspeaker hcursor hsaid
  | choices hsome hexhausted => exact .choices hsome hexhausted

/-- Skipping stops at a wanted tag, or at the end of the script. -/
theorem skipTo_cases (state : State) (wanted : Tag → Bool) :
    (∃ tag index, state.skipTo wanted = (some tag, { state with cursor := index }) ∧
        state.script.lines[index]? = some (.tag tag) ∧ wanted tag = true) ∨
      state.skipTo wanted = (none, { state with cursor := state.script.lines.length }) := by
  have hskips := skipsTo_skipTo state wanted
  generalize state.skipTo wanted = found at hskips ⊢
  cases hskips with
  | found hhit hfirst => exact .inl ⟨_, _, rfl, hhit.stands, hhit.hit⟩
  | missing hnowhere => exact .inr rfl

/-- A line has been run, and the cursor is left on the last line that was used up. -/
structure Lands (state : State) : Prop where
  script : state.collection.scripts[state.scriptIndex]? = some state.script
  inside : state.cursor ≤ state.script.lines.length
  retries : state.retrying = true → state.RetriesAt (state.cursor + 1)

theorem Lands.moveOn (hlands : state.Lands) :
    ({ state with cursor := state.cursor + 1 } : State).IsSound :=
  .of hlands.script (Nat.succ_le_succ hlands.inside) hlands.retries

theorem Lands.of_quiet (hscript : state.collection.scripts[state.scriptIndex]? = some state.script)
    (hinside : state.cursor ≤ state.script.lines.length) (hquiet : state.retrying = false) :
    state.Lands := by
  refine ⟨hscript, hinside, fun hretrying => ?_⟩
  rw [hquiet] at hretrying
  cases hretrying

/-- While no condition is to be tried, the cursor may be anywhere in the script. -/
theorem Lands.jump (hlands : state.Lands) (hquiet : state.retrying = false) {index : Nat}
    (hbound : index ≤ state.script.lines.length) :
    ({ state with cursor := index } : State).Lands :=
  .of_quiet hlands.script hbound hquiet

theorem IsSound.lands (hsound : state.IsSound) (hhere : state.line? = some line)
    (hother : ∀ tag, line = .tag tag → tag.retriesBlock = false) : state.Lands :=
  .of_quiet hsound.script (Nat.le_of_lt (List.getElem?_eq_some_iff.mp hhere).1)
    (hsound.retrying_eq_false hhere hother)

end State

/-- After success the state is about to move past the line that was run, and after a failure it is
sound as it is. -/
def Outcome.Settles : Outcome μ α → Prop
  | .ok _ after => after.state.Lands
  | .error _ after => after.state.IsSound

namespace Scene

variable {setup : Setup μ} {scene : Scene μ} {host : Host μ} {tag : Tag} {line : Line} {link : Link}

theorem lands_skipBlock (hlands : scene.state.Lands) (hquiet : scene.state.retrying = false) :
    scene.skipBlock.state.Lands := by
  rw [skipBlock]
  obtain ⟨tag, index, hfound, hstands, -⟩ | hfound := scene.state.skipTo_cases Tag.closesBlock
  · rw [hfound]
    exact hlands.jump hquiet (Nat.le_of_lt (List.getElem?_eq_some_iff.mp hstands).1)
  · rw [hfound]
    exact hlands.jump hquiet (Nat.le_refl _)

/-- A branch is skipped up to a tag that ends it. Only before a tag that tries another condition is
the mark set that it is to be tried. -/
theorem lands_skipBranch (hlands : scene.state.Lands) (hquiet : scene.state.retrying = false)
    (name : String) : (scene.skipBranch name).state.Lands := by
  rw [skipBranch]
  obtain ⟨tag, index, hfound, hstands, -⟩ | hfound := scene.state.skipTo_cases Tag.endsBranch
  · have hfarther : scene.state.cursor < index := State.cursor_lt_of_skipTo hfound
    have hbound := (List.getElem?_eq_some_iff.mp hstands).1
    rw [hfound]
    dsimp only
    split
    · rename_i hretries
      refine ⟨hlands.script, Nat.le_of_lt (Nat.lt_of_le_of_lt (Nat.sub_le _ _) hbound), fun _ => ?_⟩
      refine ⟨tag, ?_, hretries⟩
      show scene.state.script.lines[index - 1 + 1]? = _
      rw [Nat.sub_add_cancel (Nat.zero_lt_of_lt hfarther)]
      exact hstands
    · exact hlands.jump hquiet (Nat.le_of_lt hbound)
  · rw [hfound]
    exact hlands.jump hquiet (Nat.le_refl _)

theorem settles_runCondition (host : Host μ) (hsound : scene.state.IsSound)
    (hhere : scene.state.line? = some (.tag tag)) : (scene.runCondition host tag).Settles := by
  have hlands : ({ scene.state with retrying := false } : State).Lands :=
    .of_quiet hsound.script (Nat.le_of_lt (List.getElem?_eq_some_iff.mp hhere).1) rfl
  rw [runCondition]
  split
  · exact .of_quiet hsound.script hsound.cursor rfl
  · exact hlands
  · exact lands_skipBranch hlands rfl tag.name

theorem settles_runAssignment (hsound : scene.state.IsSound) (hlands : scene.state.Lands) :
    (scene.runAssignment tag).Settles := by
  rw [runAssignment]
  split
  · exact hsound
  · split
    · exact hsound
    · exact hlands

theorem settles_runUnknown (host : Host μ) (hsound : scene.state.IsSound)
    (hlands : scene.state.Lands) : (scene.runUnknown host tag).Settles := by
  simp only [runUnknown]
  split
  · exact .of hsound.script hsound.cursor hsound.retries
  · exact ⟨hlands.script, hlands.inside, hlands.retries⟩
  · exact ⟨hlands.script, hlands.inside, hlands.retries⟩

theorem settles_runTag (host : Host μ) (hsound : scene.state.IsSound)
    (hhere : scene.state.line? = some (.tag tag)) : (scene.runTag host tag).Settles := by
  -- The mark can only be set at a tag that tries a condition, and that tag takes it away.
  have hstill (hother : Directive.ofName? tag.name ≠ some .elseIfHolds) :
      scene.state.Lands ∧ scene.state.retrying = false := by
    have hnever (found : Tag) (hsame : Line.tag tag = .tag found) : found.retriesBlock = false := by
      cases hsame
      exact Bool.eq_false_iff.mpr fun hretries => hother (Tag.retriesBlock_iff.mp hretries)
    exact ⟨hsound.lands hhere hnever, hsound.retrying_eq_false hhere hnever⟩
  rw [runTag]
  cases hknown : Directive.ofName? tag.name with
  | none => exact settles_runUnknown host hsound (hstill (by simp [hknown])).1
  | some directive =>
      cases directive with
      | ifHolds => exact settles_runCondition host hsound hhere
      | elseIfHolds =>
          dsimp only
          split
          · exact settles_runCondition host hsound hhere
          · rename_i hquiet
            have hfresh := Bool.eq_false_iff.mpr hquiet
            refine lands_skipBlock ⟨hsound.script, ?_, fun hretrying => absurd hretrying hquiet⟩
              hfresh
            exact Nat.le_of_lt (List.getElem?_eq_some_iff.mp hhere).1
      | otherwise =>
          obtain ⟨hlands, hquiet⟩ := hstill (by simp [hknown])
          exact lands_skipBlock hlands hquiet
      | set => exact settles_runAssignment hsound (hstill (by simp [hknown])).1
      | throw => exact hsound
      | finish =>
          have hlands := (hstill (by simp [hknown])).1
          exact ⟨hlands.script, hlands.inside, hlands.retries⟩
      | endIf | debug | warn | error | todo => exact (hstill (by simp [hknown])).1

theorem settles_run (setup : Setup μ) (hsound : scene.state.IsSound)
    (hhere : scene.state.line? = some line) : (scene.run setup line).Settles := by
  cases line with
  | tag tag =>
      have hsettles := settles_runTag setup.host hsound hhere
      rw [run]
      split
      · rename_i hfailed
        rw [hfailed] at hsettles
        exact hsettles
      · rename_i hsucceeded
        rw [hsucceeded] at hsettles
        exact hsettles
  | speech speech =>
      have hlands := hsound.lands hhere (by simp)
      rw [run]
      split
      · exact hsound
      · exact hlands
  | cue _ | link _ | quote _ =>
      have hlands := hsound.lands hhere (by simp)
      exact ⟨hlands.script, hlands.inside, hlands.retries⟩

/-- Only a speech makes the playback wait, and it is said by the speaker. -/
theorem speech_of_run {suspension : Suspension} {after : Scene μ}
    (hwaits : scene.run setup line = .ok (.suspended suspension) after) :
    ∃ cue speech, line = .speech speech ∧ scene.state.speaker = some cue ∧
      suspension = .speech cue speech ∧ after.state = scene.state ∧
      after.status = .suspended (.speech cue speech) := by
  cases line with
  | speech speech =>
      rw [run] at hwaits
      split at hwaits
      · cases hwaits
      · rename_i cue hspoken
        cases hwaits
        exact ⟨cue, speech, rfl, hspoken, rfl, rfl, rfl⟩
  | tag tag =>
      rw [run] at hwaits
      split at hwaits
      · cases hwaits
      · cases hwaits
  | cue _ | link _ | quote _ => cases hwaits

end Scene

/-- The state and the status of a playback fit the script that it runs. -/
structure Playback.IsConsistent (playback : Playback) : Prop where
  sound : playback.state.IsSound
  /-- What the playback waits for has just been reached. -/
  awaits : ∀ suspension, playback.pending? = some suspension → playback.state.Awaits suspension
  /-- A playback that is over has been told to end. -/
  ended : playback.isComplete = true → playback.state.finished = true

namespace Scene

variable {setup : Setup μ} {scene : Scene μ} {link : Link}

theorem isConsistent_of_running (hsound : scene.state.IsSound)
    (hrunning : scene.status = .running) :
    scene.IsConsistent := by
  refine ⟨hsound, ?_, ?_⟩
  · simp [Playback.pending?, hrunning]
  · simp [Playback.isComplete, hrunning]

theorem isConsistent_of_complete (hsound : scene.state.IsSound)
    (hcomplete : scene.status = .complete)
    (hfinished : scene.state.finished = true) : scene.IsConsistent := by
  refine ⟨hsound, ?_, fun _ => hfinished⟩
  simp [Playback.pending?, hcomplete]

theorem isConsistent_of_suspended {suspension : Suspension} (hsound : scene.state.IsSound)
    (hsuspended : scene.status = .suspended suspension) (hawaits : scene.state.Awaits suspension) :
    scene.IsConsistent := by
  refine ⟨hsound, ?_, ?_⟩
  · rw [Playback.pending?, hsuspended]
    rintro _ ⟨⟩
    exact hawaits
  · simp [Playback.isComplete, hsuspended]

theorem isConsistent_halt (hsound : scene.state.IsSound) : scene.halt.IsConsistent :=
  isConsistent_of_complete (hsound.withFinished true) rfl rfl

theorem isConsistent_conclude (hsound : scene.state.IsSound) :
    (scene.conclude setup).IsConsistent :=
  isConsistent_of_complete (hsound.withFinished true) rfl rfl

/-- A jump leads to a script of the collection that it leads to. -/
theorem isSound_state_follow (setup : Setup μ) (link : Link) (hsound : scene.state.IsSound) :
    (scene.follow setup link).scene.state.IsSound := by
  have hnoted := (noteUnannounced_spec link scene).1
  cases hfound : scene.target setup link with
  | error error =>
      rw [follow_of_error hfound]
      show (scene.noteUnannounced link).state.IsSound
      rw [hnoted]
      exact hsound
  | ok place =>
      obtain ⟨collection, index⟩ := place
      rw [follow_of_ok hfound]
      have hnamed := ((target_eq_ok_iff rfl).mp hfound).1
      exact State.isSound_of_first (Collection.lt_length_of_scriptIndex? hnamed) rfl rfl rfl

theorem isConsistent_exhaust (hsound : scene.state.IsSound) (hrunning : scene.status = .running)
    (hexhausted : scene.state.line? = none) : (scene.exhaust setup).scene.IsConsistent := by
  rw [exhaust]
  split
  · exact isConsistent_conclude hsound
  · rename_i hsome
    split
    · rename_i link _ _
      have hfollows := isSound_state_follow setup link hsound
      have hstatus := (follow_spec setup link scene).2.trans hrunning
      generalize scene.follow setup link = outcome at hfollows hstatus ⊢
      cases outcome <;> exact isConsistent_of_running hfollows hstatus
    · refine isConsistent_of_suspended hsound rfl ?_
      exact .choices hsome (List.getElem?_eq_none_iff.mp hexhausted)

theorem isConsistent_play (hsound : scene.state.IsSound) (hrunning : scene.status = .running) :
    (scene.play setup).scene.IsConsistent := by
  rw [play]
  split
  · exact isConsistent_conclude hsound
  · split
    · rename_i hexhausted
      exact isConsistent_exhaust hsound hrunning hexhausted
    · rename_i line hhere
      have hsettles := settles_run setup hsound hhere
      have hruns := runsTo_run setup line scene
      have hspeaks := @speech_of_run _ setup scene line
      generalize scene.run setup line = outcome at hsettles hruns hspeaks ⊢
      cases hruns with
      | failed hstays => exact isConsistent_of_running hsettles (hstays.status.trans hrunning)
      | moved hstays =>
          have hsound := hsettles.moveOn
          simp only [moveOn]
          split
          · exact isConsistent_conclude hsound
          · exact isConsistent_of_running hsound (hstays.status.trans hrunning)
      | speaks cue speech =>
          obtain ⟨_, _, rfl, hspoken, hsame, -, -⟩ := hspeaks rfl
          cases hsame
          exact isConsistent_of_suspended hsettles.moveOn rfl (.speech hspoken rfl hhere)

theorem isConsistent_step (setup : Setup μ) (hconsistent : scene.IsConsistent) :
    (scene.step setup).scene.IsConsistent := by
  have hattempts : (scene.attempt setup).scene.IsConsistent := by
    rw [attempt]
    cases hstatus : scene.status with
    | complete => exact hconsistent
    | suspended suspension => exact hconsistent
    | running => exact isConsistent_play hconsistent.sound hstatus
    | notStarted => exact isConsistent_play hconsistent.sound rfl
  rw [step]
  cases hattempted : scene.attempt setup with
  | ok progress after =>
      rw [hattempted] at hattempts
      exact hattempts
  | error error after =>
      rw [hattempted] at hattempts
      refine isConsistent_halt ?_
      rw [state_noteFailure]
      exact hattempts.sound

theorem isConsistent_advance (setup : Setup μ) (limit : Nat) (hconsistent : scene.IsConsistent) :
    (scene.advance setup limit).scene.IsConsistent :=
  advance_keeps (P := (·.IsConsistent)) (isConsistent_step setup) limit hconsistent

theorem isConsistent_select (setup : Setup μ) (link : Link) (hconsistent : scene.IsConsistent) :
    (scene.select setup link).scene.IsConsistent := by
  rw [select]
  split
  · rename_i offered _
    have hsound : (if link ∈ offered then scene
        else scene.note (.notOffered link.target)).state.IsSound := by
      split <;> exact hconsistent.sound
    have hfollows := isSound_state_follow setup link hsound
    dsimp only
    generalize Scene.follow setup link _ = outcome at hfollows ⊢
    cases outcome with
    | ok value after => exact isConsistent_of_running hfollows rfl
    | error error after => exact isConsistent_halt hfollows
  · exact hconsistent

theorem isConsistent_perform (setup : Setup μ) (operation : Operation)
    (hconsistent : scene.IsConsistent) : (scene.perform setup operation).scene.IsConsistent := by
  cases operation with
  | step =>
      rw [perform, Outcome.scene_map]
      exact isConsistent_step setup hconsistent
  | advance limit =>
      rw [perform, Outcome.scene_map]
      exact isConsistent_advance setup limit hconsistent
  | resume =>
      rw [perform, resume]
      split
      · exact isConsistent_of_running hconsistent.sound rfl
      · exact hconsistent
  | select link =>
      rw [perform, Outcome.scene_map]
      exact isConsistent_select setup link hconsistent
  | selectAt index =>
      rw [perform, Outcome.scene_map, selectAt]
      split
      · exact isConsistent_select setup _ hconsistent
      · exact hconsistent
  | finish =>
      exact ⟨hconsistent.sound.withFinished true,
        fun suspension hwaits => (hconsistent.awaits suspension hwaits).withFinished true,
        fun _ => rfl⟩

theorem isConsistent_performAll (setup : Setup μ) (operations : List Operation)
    (hconsistent : scene.IsConsistent) : (scene.performAll setup operations).IsConsistent := by
  induction operations generalizing scene with
  | nil => exact hconsistent
  | cons operation later ih => exact ih (isConsistent_perform setup operation hconsistent)

theorem isConsistent_opening {collection : Collection} {name : Option String}
    {store : Option StoreId} {playback : Playback}
    (hstarted : Playback.start collection name store = .ok playback) (world : World μ) :
    (playback.opening world).IsConsistent := by
  obtain ⟨index, hbound, rfl⟩ := Playback.lt_length_of_start hstarted
  exact ⟨State.isSound_of_first hbound rfl rfl rfl, nofun, nofun⟩

/-- A playback is consistent after every run, whatever it plays and whoever shows it. -/
theorem isConsistent_of_start (setup : Setup μ) {collection : Collection} {name : Option String}
    {store : Option StoreId} {playback : Playback}
    (hstarted : Playback.start collection name store = .ok playback) (world : World μ)
    (operations : List Operation) :
    ((playback.opening world).performAll setup operations).IsConsistent :=
  isConsistent_performAll setup operations (isConsistent_opening hstarted world)

/-- The first condition of a block that is left open does not hold, and the next one is to be
tried. -/
theorem isConsistent_of_start_open :
    let lines : List Line :=
      [.tag ⟨⟨"#if rain()", 2⟩, "if", "rain()"⟩, .quote ⟨⟨"> It rains.", 3⟩, "It rains."⟩,
        .tag ⟨⟨"#elseif snow()", 4⟩, "elseif", "snow()"⟩]
    let collection : Collection := ⟨"inn", "inn.md", "", [⟨"Yard", "inn.md#Yard", lines, .empty⟩]⟩
    let setup : Setup Unit := ⟨.idle, some fun path => .ok ⟨path, path, "", []⟩, true⟩
    let playback : Playback := ⟨.start collection 0 none, .notStarted⟩
    let scene := (playback.opening ⟨(), .empty⟩).performAll setup [.step]
    Playback.start collection none none = .ok playback ∧ scene.state.retrying = true ∧
      scene.IsConsistent := by
  intro lines collection setup playback scene
  have hstarted : Playback.start collection none none = .ok playback := rfl
  exact ⟨hstarted, by decide +kernel, isConsistent_of_start setup hstarted ⟨(), .empty⟩ [.step]⟩

end Scene

end Dialogue
