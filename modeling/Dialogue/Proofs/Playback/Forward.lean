/-
# The way through a script

A playback that has entered a script only goes forward in it. Tags move the cursor in their own
ways: a condition that does not hold takes it to a later line of the block, and back by one if that
line tries another condition; a block that is never closed takes it to the end and past it. All the
same, every line that runs stands after the lines that have run since the script was entered.

So no line runs twice between two entries, whatever the lines are and whatever is done, and there
are at most as many lines to run as there are lines left. Where single choices are not followed
without asking, steps return after these lines and one more.
-/

import Dialogue.Proofs.Playback.Callbacks
import Dialogue.Proofs.Playback.Pass
import Dialogue.Proofs.Playback.Returning

namespace Dialogue

variable {μ : Type}

/-- What takes a playback on its way. -/
inductive Move where
  /-- The line at an index runs. -/
  | runs (index : Nat) (line : Line)
  /-- A script is entered. -/
  | enters (place : Place)
deriving DecidableEq

/-- The moves of a pass. -/
def Pass.moves (pass : Pass) : List Move :=
  pass.map fun entry => .runs entry.1 entry.2

namespace Move

/-- Moves go forward from the cursor in a script with a number of lines. The line that runs is at
the cursor or after it, and then only lines after that one run. A script that is entered runs from
its first line on. -/
def GoForward : Nat → Nat → List Move → Prop
  | _, _, [] => True
  | length, cursor, runs index _ :: later =>
    cursor ≤ index ∧ index < length ∧ GoForward length (index + 1) later
  | _, _, enters place :: later => GoForward place.script.lines.length 0 later

variable {length cursor : Nat} {earlier later : List Move}

/-- What goes forward from the cursor does so from any earlier line. -/
theorem GoForward.of_le {before : Nat} (hforward : GoForward length cursor later)
    (hle : before ≤ cursor) : GoForward length before later := by
  cases later with
  | nil => trivial
  | cons move rest =>
      cases move with
      | runs index line => exact ⟨Nat.le_trans hle hforward.1, hforward.2⟩
      | enters place => exact hforward

/-- Later moves go forward by themselves. -/
theorem GoForward.of_append (hforward : GoForward length cursor (earlier ++ later)) :
    ∃ length cursor, GoForward length cursor later := by
  induction earlier generalizing length cursor with
  | nil => exact ⟨length, cursor, hforward⟩
  | cons move rest ih =>
      cases move with
      | runs index line => exact ih hforward.2.2
      | enters place => exact ih hforward

/-- Until a script is entered, the lines that run come one after the other, none of them before the
cursor. So there are no more of them than lines from the cursor on. -/
theorem GoForward.pass_spec {pass : Pass}
    (hforward : GoForward length cursor (pass.moves ++ later)) :
    (pass.Pairwise fun first next => first.1 < next.1) ∧ (∀ entry ∈ pass, cursor ≤ entry.1) ∧
      pass.length ≤ length - cursor := by
  induction pass generalizing cursor with
  | nil => exact ⟨.nil, nofun, Nat.zero_le _⟩
  | cons entry rest ih =>
      obtain ⟨hnotBack, hinside, honward⟩ := hforward
      obtain ⟨hincreasing, hafter, hfew⟩ := ih honward
      refine ⟨List.pairwise_cons.mpr ⟨hafter, hincreasing⟩, ?_, ?_⟩
      · refine List.forall_mem_cons.mpr ⟨hnotBack, fun other hmem => ?_⟩
        exact Nat.le_of_lt (Nat.lt_of_le_of_lt hnotBack (hafter other hmem))
      · rw [List.length_cons]
        omega

end Move

namespace Scene

open Move (GoForward)

variable (setup : Setup μ)

/-- The move that a step makes: it runs a line, or it goes on without one and has entered a
script. -/
def move? (scene : Scene μ) : Option Move :=
  match scene.next?, scene.step setup with
  | some (index, line), _ => some (.runs index line)
  | none, .ok .moved after => some (.enters after.state.place)
  | none, _ => none

/-- The moves that a number of steps make. -/
def movesOfSteps : Nat → Scene μ → List Move
  | 0, _ => []
  | limit + 1, scene =>
    (scene.move? setup).toList ++
      match scene.step setup with
      | .ok .moved after => movesOfSteps limit after
      | _ => []

/-- The move that a choice makes, if one waits and its link leads somewhere. -/
def movesOfChoice (link : Link) (scene : Scene μ) : List Move :=
  match scene.status, scene.select setup link with
  | .suspended (.choices _), .ok () after => [.enters after.state.place]
  | _, _ => []

/-- The moves that an operation makes. -/
def moves (operation : Operation) (scene : Scene μ) : List Move :=
  match operation with
  | .step => (scene.move? setup).toList
  | .advance limit => scene.movesOfSteps setup limit
  | .select link => scene.movesOfChoice setup link
  | .selectAt index =>
    match scene.offered? index with
    | some link => scene.movesOfChoice setup link
    | none => []
  | .resume | .finish => []

/-- The moves that some operations make. -/
def movesOfAll : List Operation → Scene μ → List Move
  | [], _ => []
  | operation :: later, scene =>
    scene.moves setup operation ++ movesOfAll later (scene.perform setup operation).scene

variable {setup} {scene before after : Scene μ} {line : Line} {index limit : Nat} {link : Link}

/-- The step that runs a line takes it up and moves past it, also if it is the first one of the
playback. -/
theorem takesUp_step_of_next? (setup : Setup μ) (hnext : scene.next? = some (index, line)) :
    scene.state.TakesUp line (scene.step setup).scene.state ∧
      ((scene.step setup).scene.status ≠ .complete →
        scene.state.cursor < (scene.step setup).scene.state.cursor) := by
  cases hstatus : scene.status with
  | running => exact takesUp_step setup hstatus hnext
  | notStarted =>
      have hbegins : (scene.begin setup).next? = some (index, line) :=
        (next?_begin hstatus).trans hnext
      rw [step_of_notStarted hstatus]
      exact takesUp_step setup rfl hbegins
  | suspended _ | complete =>
      rw [Playback.next?, hstatus] at hnext
      cases hnext

/-- Moves lead from one scene to another: whatever goes forward from there goes forward with these
moves in front. After the end of a playback nothing can follow. -/
def LeadsOn (before : Scene μ) (moves : List Move) (after : Scene μ) : Prop :=
  ∀ later, (after.status = .complete → later = []) →
    GoForward after.state.script.lines.length after.state.cursor later →
      GoForward before.state.script.lines.length before.state.cursor (moves ++ later)

theorem LeadsOn.trans {between : Scene μ} {moves more : List Move}
    (hearly : LeadsOn before moves between) (hlate : LeadsOn between more after)
    (hhalts : between.status = .complete → more = [] ∧ after.status = .complete) :
    LeadsOn before (moves ++ more) after := by
  intro later hnone hforward
  rw [List.append_assoc]
  refine hearly _ (fun hended => ?_) (hlate later hnone hforward)
  obtain ⟨rfl, hstill⟩ := hhalts hended
  exact hnone hstill

theorem leadsOn_of_same (hscript : after.state.script = before.state.script)
    (hcursor : after.state.cursor = before.state.cursor) : LeadsOn before [] after := by
  intro later _ hforward
  rwa [hscript, hcursor] at hforward

theorem leadsOn_of_complete (hended : after.status = .complete) : LeadsOn before [] after := by
  intro later hnone _
  rw [hnone hended]
  trivial

/-- A script that has just been entered is before its first line. -/
theorem leadsOn_of_start (hatStart : after.state.cursor = 0) :
    LeadsOn before [.enters after.state.place] after := by
  intro later _ hforward
  rw [hatStart] at hforward
  exact hforward

theorem leadsOn_of_next? (setup : Setup μ) (hnext : scene.next? = some (index, line)) :
    LeadsOn scene (scene.move? setup).toList (scene.step setup).scene := by
  obtain ⟨htakesUp, hfarther⟩ := takesUp_step_of_next? setup hnext
  obtain ⟨-, -, hhere, rfl⟩ := line?_of_next? hnext
  have hinside : scene.state.cursor < scene.state.script.lines.length :=
    (List.getElem?_eq_some_iff.mp hhere).1
  rw [move?, hnext]
  intro later hnone hforward
  refine ⟨Nat.le_refl _, hinside, ?_⟩
  by_cases hended : (scene.step setup).scene.status = .complete
  · rw [hnone hended]
    trivial
  · -- wherever a tag has put the cursor, it is past the line that has run
    rw [htakesUp.script] at hforward
    exact hforward.of_le (hfarther hended)

/-- What a step comes to that runs no line: the playback is over, waits as it is, fails, or has
entered a script. -/
inductive PlaysNone (scene : Scene μ) : Outcome μ Progress → Prop where
  | ends {after : Scene μ} (hended : after.status = .complete) :
      PlaysNone scene (.ok .complete after)
  | waits {suspension : Suspension} {after : Scene μ} (hsame : after.state = scene.state) :
      PlaysNone scene (.ok (.suspended suspension) after)
  | fails (error : Error) (after : Scene μ) : PlaysNone scene (.error error after)
  | enters {after : Scene μ} (hatStart : after.state.cursor = 0) :
      PlaysNone scene (.ok .moved after)

theorem playsNone_exhaust (setup : Setup μ) (scene : Scene μ) :
    scene.PlaysNone (scene.exhaust setup) := by
  rw [exhaust]
  split
  · exact .ends rfl
  · split
    · rename_i link _ _
      cases hfound : scene.target setup link with
      | error error =>
          rw [follow_of_error hfound]
          exact .fails error _
      | ok place =>
          rw [follow_of_ok hfound]
          exact .enters rfl
    · exact .waits rfl

theorem playsNone_step_of_running (setup : Setup μ) (hrunning : scene.status = .running)
    (hnone : scene.next? = none) : scene.PlaysNone (scene.step setup) := by
  have hplays : scene.PlaysNone (scene.play setup) := by
    rw [next?_of_running hrunning] at hnone
    rw [play]
    split
    · exact .ends rfl
    · rename_i hunfinished
      rw [if_neg hunfinished, Option.map_eq_none_iff] at hnone
      rw [hnone]
      exact playsNone_exhaust setup scene
  rw [step_of_running hrunning]
  generalize scene.play setup = outcome at hplays ⊢
  cases hplays with
  | ends hended => exact .ends hended
  | waits hsame => exact .waits hsame
  | fails error after => exact .fails error _
  | enters hatStart => exact .enters hatStart

theorem playsNone_step (setup : Setup μ) (hnone : scene.next? = none) :
    scene.PlaysNone (scene.step setup) := by
  cases hstatus : scene.status with
  | running => exact playsNone_step_of_running setup hstatus hnone
  | notStarted =>
      have hbegins : (scene.begin setup).PlaysNone ((scene.begin setup).step setup) :=
        playsNone_step_of_running setup rfl ((next?_begin hstatus).trans hnone)
      rw [step_of_notStarted hstatus]
      generalize (scene.begin setup).step setup = outcome at hbegins ⊢
      cases hbegins with
      | ends hended => exact .ends hended
      | waits hsame => exact .waits hsame
      | fails error after => exact .fails error after
      | enters hatStart => exact .enters hatStart
  | complete =>
      rw [step_of_complete hstatus]
      exact .ends hstatus
  | suspended suspension =>
      rw [step, attempt, hstatus]
      exact .waits rfl

theorem leadsOn_step (setup : Setup μ) (scene : Scene μ) :
    LeadsOn scene (scene.move? setup).toList (scene.step setup).scene := by
  cases hnext : scene.next? with
  | some entry => exact leadsOn_of_next? setup hnext
  | none =>
      have hplays := playsNone_step setup hnext
      have hfailed {error : Error} {after : Scene μ}
          (hfails : scene.step setup = .error error after) : after.status = .complete := by
        rw [step] at hfails
        split at hfails <;> cases hfails
        rfl
      rw [move?, hnext]
      generalize scene.step setup = outcome at hplays hfailed ⊢
      cases hplays with
      | ends hended => exact leadsOn_of_complete hended
      | waits hsame =>
          exact leadsOn_of_same (congrArg State.script hsame) (congrArg State.cursor hsame)
      | fails error after => exact leadsOn_of_complete (hfailed rfl)
      | enters hatStart => exact leadsOn_of_start hatStart

theorem leadsOn_advance (setup : Setup μ) (limit : Nat) (scene : Scene μ) :
    LeadsOn scene (scene.movesOfSteps setup limit) (scene.advance setup limit).scene := by
  refine advance_relates (Q := fun limit scene after =>
      LeadsOn scene (scene.movesOfSteps setup limit) after)
    (fun _ => leadsOn_of_same rfl rfl) ?_ ?_ limit scene
  · intro limit scene between after hmoved hlater
    have hfirst := leadsOn_step setup scene
    rw [movesOfSteps, hmoved]
    rw [hmoved] at hfirst
    -- a playback that has moved is still running, so more moves may follow
    refine hfirst.trans hlater fun hended => ?_
    cases (status_of_step hmoved).symm.trans hended
  · intro limit scene hstops
    have hfirst := leadsOn_step setup scene
    rw [movesOfSteps]
    split
    · exact absurd ‹_› (hstops _)
    · rw [List.append_nil]
      exact hfirst

theorem leadsOn_select (setup : Setup μ) (link : Link) (scene : Scene μ) :
    LeadsOn scene (scene.movesOfChoice setup link) (scene.select setup link).scene := by
  rw [movesOfChoice, select]
  cases hstatus : scene.status with
  | suspended suspension =>
      cases suspension with
      | speech cue speech => exact leadsOn_of_same rfl rfl
      | choices offered =>
          dsimp only
          generalize (if link ∈ offered then scene
            else scene.note (.notOffered link.target)) = between
          cases hfound : between.target setup link with
          | error error =>
              rw [follow_of_error hfound]
              exact leadsOn_of_complete rfl
          | ok place =>
              rw [follow_of_ok hfound]
              exact leadsOn_of_start rfl
  | notStarted | running | complete => exact leadsOn_of_same rfl rfl

theorem leadsOn_perform (setup : Setup μ) (operation : Operation) (scene : Scene μ) :
    LeadsOn scene (scene.moves setup operation) (scene.perform setup operation).scene := by
  cases operation with
  | step =>
      rw [perform, Outcome.scene_map]
      exact leadsOn_step setup scene
  | advance limit =>
      rw [perform, Outcome.scene_map]
      exact leadsOn_advance setup limit scene
  | select link =>
      rw [perform, Outcome.scene_map]
      exact leadsOn_select setup link scene
  | selectAt index =>
      rw [perform, Outcome.scene_map, moves, selectAt]
      cases scene.offered? index with
      | some link => exact leadsOn_select setup link scene
      | none => exact leadsOn_of_same rfl rfl
  | resume =>
      rw [perform, resume]
      split <;> exact leadsOn_of_same rfl rfl
  | finish => exact leadsOn_of_same rfl rfl

theorem moves_of_complete (setup : Setup μ) (operation : Operation)
    (hended : scene.status = .complete) : scene.moves setup operation = [] := by
  have hquiet : scene.move? setup = none := by
    rw [move?, Playback.next?, hended, step_of_complete hended]
  cases operation with
  | step =>
      rw [moves, hquiet]
      rfl
  | advance limit =>
      cases limit with
      | zero => rfl
      | succ limit =>
          rw [moves, movesOfSteps, hquiet, step_of_complete hended]
          rfl
  | select link => rw [moves, movesOfChoice, hended]
  | selectAt index => rw [moves, offered?, hended]
  | resume | finish => rfl

theorem movesOfAll_of_complete (setup : Setup μ) (operations : List Operation)
    (hended : scene.status = .complete) : scene.movesOfAll setup operations = [] := by
  induction operations generalizing scene with
  | nil => rfl
  | cons operation later ih =>
      rw [movesOfAll, moves_of_complete setup operation hended,
        ih (perform_of_complete setup operation hended).2]
      rfl

/-- Whatever is done, the moves go forward from the line to run. -/
theorem goForward_movesOfAll (setup : Setup μ) (operations : List Operation) (scene : Scene μ) :
    GoForward scene.state.script.lines.length scene.state.cursor
      (scene.movesOfAll setup operations) := by
  induction operations generalizing scene with
  | nil => trivial
  | cons operation later ih =>
      exact leadsOn_perform setup operation scene _
        (fun hended => movesOfAll_of_complete setup later hended) (ih _)

/-- Where single choices are not followed without asking, steps enter no script. -/
theorem entered_eq_nil (hasks : setup.autoFollow = false) (limit : Nat) :
    scene.entered setup limit = [] := by
  induction limit generalizing scene with
  | zero => rfl
  | succ limit ih =>
      cases scene.goesOn setup with
      | returns hout hstays => exact hstays _
      | runs hmoved hhere hgathers hfarther =>
          rw [entered_succ hmoved, if_neg hhere]
          exact ih
      | jumps hmoved hexhausted hauto hchosen hleads hatStart =>
          exact absurd (hasks.symm.trans hauto) Bool.false_ne_true

/-- A playback goes forward in the script that it runs. -/
structure GoesForward (setup : Setup μ) (scene : Scene μ) : Prop where
  /-- A step that runs a line, and neither fails nor ends the playback, moves past this line, but
  not farther than one past the end of the script. -/
  farther : ∀ index line progress after, scene.next? = some (index, line) →
    scene.step setup = .ok progress after → progress ≠ .complete →
      after.state.script = scene.state.script ∧ scene.state.cursor < after.state.cursor ∧
        after.state.cursor ≤ scene.state.script.lines.length + 1
  /-- While no script is entered, every line that runs comes after the ones before it. -/
  once : ∀ operations earlier (pass : Pass) later,
    scene.movesOfAll setup operations = earlier ++ (pass.moves ++ later) →
      pass.Pairwise fun first next => first.1 < next.1
  /-- Before another script is entered, no more lines run than there are left. -/
  few : ∀ operations (pass : Pass) later,
    scene.movesOfAll setup operations = pass.moves ++ later →
      pass.length ≤ scene.state.script.lines.length - scene.state.cursor
  /-- Where single choices are not followed without asking, the steps for these lines and one more
  return. -/
  returns : setup.autoFollow = false →
    ∀ limit, scene.state.script.lines.length - scene.state.cursor < limit →
      (scene.advance setup limit).result ≠ .ok none

theorem farther_of_isConsistent {progress : Progress} (hconsistent : scene.IsConsistent)
    (hnext : scene.next? = some (index, line)) (hstepped : scene.step setup = .ok progress after)
    (hgoesOn : progress ≠ .complete) :
    after.state.script = scene.state.script ∧ scene.state.cursor < after.state.cursor ∧
      after.state.cursor ≤ scene.state.script.lines.length + 1 := by
  have hunended : after.status ≠ .complete := by
    have hsteps := stepsTo_step setup scene
    rw [hstepped] at hsteps
    cases hsteps with
    | still hidle hquiet => exact (line?_of_next? hnext).1
    | ran hhere hgathers hfarther hstatus => simp [hstatus]
    | jumped hexhausted hauto hsingle hleads henters hstatus => simp [hstatus]
    | spoke hgathers hstatus => simp [hstatus]
    | offered hsame hstatus => simp [hstatus]
    | ended hgathers hstatus => exact absurd rfl hgoesOn
  have htaken := takesUp_step_of_next? setup hnext
  have hsound := (isConsistent_step setup hconsistent).sound.cursor
  rw [hstepped] at htaken hsound
  obtain ⟨htakesUp, hfarther⟩ := htaken
  have hsame : after.state.script = scene.state.script := htakesUp.script
  exact ⟨hsame, hfarther hunended, hsame ▸ hsound⟩

/-- After every run, whatever its scripts look like, a playback goes forward in the script that it
runs. -/
theorem goesForward_of_start (setup : Setup μ) {collection : Collection} {name : Option String}
    {store : Option StoreId} {playback : Playback}
    (hstarted : Playback.start collection name store = .ok playback) (world : World μ)
    (operations : List Operation) :
    ((playback.opening world).performAll setup operations).GoesForward setup := by
  have hconsistent := isConsistent_of_start setup hstarted world operations
  generalize (playback.opening world).performAll setup operations = scene at hconsistent ⊢
  constructor
  · intro index line progress after hnext hstepped hgoesOn
    exact farther_of_isConsistent hconsistent hnext hstepped hgoesOn
  · intro later earlier pass rest hsame
    have hforward := goForward_movesOfAll setup later scene
    rw [hsame] at hforward
    obtain ⟨length, cursor, honward⟩ := hforward.of_append
    exact honward.pass_spec.1
  · intro later pass rest hsame
    have hforward := goForward_movesOfAll setup later scene
    rw [hsame] at hforward
    exact hforward.pass_spec.2.2
  · intro hasks limit henough hspent
    have hfew := le_of_advance hspent
    rw [entered_eq_nil hasks] at hfew
    exact absurd hfew (Nat.not_le_of_lt henough)

/-- A condition that is tried in a block without an end does not hold: the playback moves past the
end. -/
theorem goesForward_of_start_open :
    let lines : List Line :=
      [.tag ⟨⟨"#if rain()", 2⟩, "if", "rain()"⟩, .quote ⟨⟨"> It rains.", 3⟩, "It rains."⟩,
        .tag ⟨⟨"#elseif snow()", 4⟩, "elseif", "snow()"⟩]
    let collection : Collection := ⟨"inn", "inn.md", "", [⟨"Yard", "inn.md#Yard", lines, .empty⟩]⟩
    let setup : Setup Unit := ⟨.idle, none, false⟩
    let playback : Playback := ⟨.start collection 0 none, .notStarted⟩
    let scene := (playback.opening ⟨(), .empty⟩).performAll setup [.step]
    Playback.start collection none none = .ok playback ∧ scene.state.cursor = 2 ∧
      (scene.step setup).result = .ok .moved ∧ (scene.step setup).scene.state.cursor = 4 ∧
        scene.GoesForward setup := by
  intro lines collection setup playback scene
  have hstarted : Playback.start collection none none = .ok playback := rfl
  exact ⟨hstarted, by decide +kernel, by decide +kernel, by decide +kernel,
    goesForward_of_start setup hstarted ⟨(), .empty⟩ [.step]⟩

end Scene

end Dialogue
