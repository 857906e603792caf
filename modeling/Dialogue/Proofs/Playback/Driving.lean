/-
# Driving a playback through a block tree

The main statement is that driving a playback through the lines of a block tree does exactly what
enacting the tree does: the same calls to the host with the same states, the same stores, choices,
speaker and notices, and the same error or early end. Every host is covered, also one that looks at
the whole state of the playback.

The two are related round by round. The cursor of the playback stands at the line that is enacted
next. A branch that has been played is left by one round more, which skips the rest of its chain,
and a branch that is not played is left by the round that decides its condition; that round lands
on the next condition if there is one and otherwise passes the tag that ends the branch.
-/

import Dialogue.Playback.Session
import Dialogue.Proofs.Playback.Enactment
import Dialogue.Proofs.Playback.Run

namespace Dialogue

variable {μ : Type}

theorem drop_add_of_append {α : Type} {list first second : List α} {count : Nat}
    (hhere : list.drop count = first ++ second) : list.drop (count + first.length) = second := by
  rw [← List.drop_drop, hhere, List.drop_left]

theorem drop_succ_of_cons {α : Type} {list rest : List α} {first : α} {count : Nat}
    (hhere : list.drop count = first :: rest) : list.drop (count + 1) = rest := by
  rw [← List.drop_drop, hhere, List.drop_succ_cons, List.drop_zero]

namespace Passage

/-- What a playback is driven to after a passage. It goes on from where the lines end, is over
after the line that told it to end, or halts at the line that failed. -/
def drive (setup : Setup μ) (rounds : Nat) (picks : List Nat) : Passage μ → Outcome μ Ending
  | onward scene => scene.drive setup rounds picks
  | stopped scene => .ok .complete ((scene.standAt (scene.state.cursor + 1)).conclude setup)
  | failed error scene => .error error (scene.noteFailure error).halt

end Passage

/-- The scene with the playback landed on a tag with another condition. -/
def Scene.landOn (scene : Scene μ) (position : Nat) : Scene μ :=
  scene.withState { scene.state with cursor := position, retrying := true }

/-- The scene after the branch before has been skipped: on the tag with another condition, and
otherwise past the tag that ends the branch. -/
def Branches.arrive (position : Nat) (scene : Scene μ) : Branches → Scene μ
  | .elseIf _ _ _ _ => scene.landOn position
  | .endIf _ _ | .otherwise _ _ _ _ _ => scene.standAt (position + 1)

/-- Driving a playback comes, after some rounds, to what it comes to after a passage. -/
def Scene.LeadsTo (setup : Setup μ) (scene : Scene μ) (passage : Passage μ) : Prop :=
  ∃ rounds, ∀ more picks,
    scene.drive setup (rounds + more) picks = passage.drive setup more picks

namespace Scene

variable {setup : Setup μ} {scene after : Scene μ}

theorem leadsTo_onward : scene.LeadsTo setup (.onward scene) :=
  ⟨0, fun more _ => by rw [Nat.zero_add]; rfl⟩

theorem LeadsTo.trans {passage : Passage μ} (hfirst : scene.LeadsTo setup (.onward after))
    (hsecond : after.LeadsTo setup passage) : scene.LeadsTo setup passage := by
  obtain ⟨early, hfirst⟩ := hfirst
  obtain ⟨late, hsecond⟩ := hsecond
  refine ⟨early + late, ?_⟩
  intro more picks
  rw [Nat.add_assoc, hfirst, ← hsecond]
  rfl

/-- Passages are driven through one after the other. -/
theorem LeadsTo.andThen {passage : Passage μ} {position : Nat} {next : Scene μ → Passage μ}
    (hfirst : scene.LeadsTo setup (passage.endAt position))
    (hsecond : ∀ after, passage = .onward after →
      (after.standAt position).LeadsTo setup (next after)) :
    scene.LeadsTo setup (passage.andThen next) := by
  cases passage with
  | onward after => exact hfirst.trans (hsecond after rfl)
  | stopped after => exact hfirst
  | failed error after => exact hfirst

theorem moveOn_moved :
    scene.moveOn setup .moved =
      if scene.state.finished then
        .ok .complete ((scene.standAt (scene.state.cursor + 1)).conclude setup)
      else .ok .moved (scene.standAt (scene.state.cursor + 1)) :=
  rfl

/-- A step that runs a line. -/
theorem step_of_line {line : Line} (hrunning : scene.status = .running)
    (hunfinished : scene.state.finished = false) (hhere : scene.state.line? = some line) :
    scene.step setup =
      match scene.run setup line with
      | .error error scene => .error error (scene.noteFailure error).halt
      | .ok progress scene => scene.moveOn setup progress := by
  rw [step, attempt, hrunning]
  simp only [play, hunfinished, hhere, Bool.false_eq_true, if_false]
  cases scene.run setup line with
  | error error after => rfl
  | ok progress after =>
      cases progress with
      | moved =>
          simp only [moveOn_moved]
          cases after.state.finished <;> rfl
      | suspended suspension => rfl
      | complete => rfl

section Round

variable {line : Line} (hrunning : scene.status = .running)
  (hunfinished : scene.state.finished = false) (hhere : scene.state.line? = some line)

include hrunning hunfinished hhere

theorem leadsTo_of_run_error {error : Error} (hrun : scene.run setup line = .error error after) :
    scene.LeadsTo setup (.failed error after) := by
  refine ⟨1, ?_⟩
  intro more picks
  rw [Nat.add_comm, drive, step_of_line hrunning hunfinished hhere, hrun]
  rfl

theorem leadsTo_of_run_moved (hrun : scene.run setup line = .ok .moved after)
    (hgoesOn : after.state.finished = false) :
    scene.LeadsTo setup (.onward (after.standAt (after.state.cursor + 1))) := by
  refine ⟨1, ?_⟩
  intro more picks
  have hstep : scene.step setup = .ok .moved (after.standAt (after.state.cursor + 1)) := by
    rw [step_of_line hrunning hunfinished hhere, hrun]
    simp only [moveOn_moved, hgoesOn, Bool.false_eq_true, if_false]
  rw [Nat.add_comm, drive, hstep]
  rfl

theorem leadsTo_of_run_stopped (hrun : scene.run setup line = .ok .moved after)
    (hends : after.state.finished = true) : scene.LeadsTo setup (.stopped after) := by
  refine ⟨1, ?_⟩
  intro more picks
  have hstep : scene.step setup =
      .ok .complete ((after.standAt (after.state.cursor + 1)).conclude setup) := by
    rw [step_of_line hrunning hunfinished hhere, hrun]
    simp only [moveOn_moved, hends, if_true]
  rw [Nat.add_comm, drive, hstep]
  rfl

/-- A round that says a speech confirms it too. -/
theorem leadsTo_of_run_speech {cue : Cue} {speech : Speech} {state : State} {stage : Stage μ}
    (hrun : scene.run setup line =
      .ok (.suspended (.speech cue speech)) ⟨⟨state, .suspended (.speech cue speech)⟩, stage⟩) :
    scene.LeadsTo setup
      (.onward ((⟨⟨state, .running⟩, stage⟩ : Scene μ).standAt (state.cursor + 1))) := by
  refine ⟨1, ?_⟩
  intro more picks
  rw [Nat.add_comm, drive, step_of_line hrunning hunfinished hhere, hrun]
  rfl

end Round

variable {lines : List Line} {position : Nat} {host : Host μ} {tag : Tag}

/-- One round of a plain line does what enacting the line does. -/
theorem leadsTo_enactLine {line : Line} {rest : List Line} (hplays : scene.Plays lines)
    (hplain : line.isPlain = true) (hhere : lines.drop position = line :: rest) :
    (scene.standAt position).LeadsTo setup
      (((scene.standAt position).enactLine setup line).endAt (position + 1)) := by
  have hfound := hplays.line?_standAt hhere
  have hplays := hplays.standAt position
  have hrunning := hplays.running
  have hunfinished := hplays.unfinished
  have hstands : (scene.standAt position).state.cursor = position := rfl
  generalize scene.standAt position = scene at hfound hplays hrunning hunfinished hstands
  subst hstands
  cases line with
  | cue cue => exact leadsTo_of_run_moved hrunning hunfinished hfound rfl hunfinished
  | speech speech =>
      cases hspeaker : scene.state.speaker with
      | none =>
          have hrun : scene.run setup (.speech speech) =
              .error (.noSpeaker scene.state.location) scene := by
            rw [run, hspeaker]
          rw [enactLine, hspeaker]
          exact leadsTo_of_run_error hrunning hunfinished hfound hrun
      | some cue =>
          have hrun : scene.run setup (.speech speech) =
              .ok (.suspended (.speech cue speech)) ⟨⟨scene.state, .suspended (.speech cue speech)⟩,
                scene.stage.called (.speech cue speech)
                  (setup.host.speech cue speech scene.stage.toWorld)⟩ := by
            rw [run, hspeaker]
            rfl
          have hround := leadsTo_of_run_speech hrunning hunfinished hfound hrun
          rw [← hrunning] at hround
          rw [enactLine, hspeaker]
          exact hround
  | link link => exact leadsTo_of_run_moved hrunning hunfinished hfound rfl hunfinished
  | quote quote => exact leadsTo_of_run_moved hrunning hunfinished hfound rfl hunfinished
  | tag tag =>
      rw [enactLine]
      cases houtcome : scene.runTag setup.host tag with
      | error error after =>
          apply leadsTo_of_run_error hrunning hunfinished hfound
          rw [run, houtcome]
      | ok value after =>
          have hrun : scene.run setup (.tag tag) = .ok .moved after := by
            rw [run, houtcome]
          cases hends : after.state.finished with
          | true =>
              simp only [hends, if_true]
              exact leadsTo_of_run_stopped hrunning hunfinished hfound hrun hends
          | false =>
              simp only [hends, Bool.false_eq_true, if_false]
              have hspot := (sameSpot_runTag hplain houtcome).cursor
              rw [Passage.endAt, Passage.andThen, ← hspot]
              exact leadsTo_of_run_moved hrunning hunfinished hfound hrun hends

/-- Skipping a branch and moving on arrives at the branches after it. -/
theorem skipBranch_standAt {body : Block} {others : Branches} {rest : List Line} (name : String)
    (hplays : scene.Plays lines)
    (hhere : lines.drop (position + 1) = body.lines ++ (others.lines ++ rest)) :
    ∃ after, (scene.standAt position).skipBranch name = after ∧ after.state.finished = false ∧
      after.standAt (after.state.cursor + 1) = others.arrive (position + 1 + body.size) scene := by
  have hskipped : (scene.standAt position).state.skipTo Tag.endsBranch =
      (some others.first, { scene.state with cursor := position + 1 + body.size }) := by
    have hscript : (scene.standAt position).state.script.lines = lines := hplays.lines
    have hstands : (scene.standAt position).state.cursor = position := rfl
    rw [State.skipTo, hscript, hstands, hhere, Block.seekTag_endsBranch]
    rfl
  refine ⟨_, rfl, ?_⟩
  rw [skipBranch, hskipped]
  cases others with
  | endIf tag hcloses =>
      have hstays := Tag.retriesBlock_eq_false (Tag.closesBlock_iff.mp hcloses) (by decide)
      simp only [Branches.first, hstays, Bool.false_eq_true, if_false]
      exact ⟨hplays.unfinished, rfl⟩
  | otherwise tag hreverses body' closing hcloses =>
      have hstays := Tag.retriesBlock_eq_false (Tag.reversesBlock_iff.mp hreverses) (by decide)
      simp only [Branches.first, hstays, Bool.false_eq_true, if_false]
      exact ⟨hplays.unfinished, rfl⟩
  | elseIf tag hretries body' others =>
      simp only [Branches.first, hretries, if_true]
      refine ⟨hplays.unfinished, ?_⟩
      have hback : position + 1 + body.size - 1 + 1 = position + 1 + body.size := by omega
      simp only [standAt, withState, hback]
      rfl

/-- The rounds from a condition on. The playback stands at a tag that runs its condition; then it
goes on in the branch of that tag or arrives at the branches after it. -/
theorem leadsTo_choose {start : Scene μ} {body : Block} {others : Branches} {rest : List Line}
    {holds fails : Scene μ → Passage μ} (hplays : scene.Plays lines)
    (hrunning : start.status = .running) (hunfinished : start.state.finished = false)
    (hfound : start.state.line? = some (.tag tag))
    (hruns : start.runTag setup.host tag = (scene.standAt position).runCondition setup.host tag)
    (hhere : lines.drop (position + 1) = body.lines ++ (others.lines ++ rest))
    (honHolds : ∀ after : Scene μ, after.Plays lines →
      (after.standAt (position + 1)).LeadsTo setup (holds after))
    (honFails : ∀ after : Scene μ, after.Plays lines →
      (others.arrive (position + 1 + body.size) after).LeadsTo setup (fails after)) :
    start.LeadsTo setup ((scene.standAt position).choose setup tag.args holds fails) := by
  have hsettle : (scene.standAt position).withState
      { (scene.standAt position).state with retrying := false } = scene.standAt position := by
    have hsettled : (scene.standAt position).state.retrying = false := hplays.settled
    rw [← hsettled]
    rfl
  rw [choose]
  rw [runCondition, hsettle] at hruns
  cases hdecided : (scene.standAt position).state.decide setup.host tag.args
      (scene.standAt position).stage with
  | error error stage =>
      apply leadsTo_of_run_error hrunning hunfinished hfound
      rw [run, hruns]
      simp only [hdecided]
  | ok verdict stage =>
      have hplays : ({ scene with stage := stage } : Scene μ).Plays lines :=
        ⟨hplays.lines, hplays.running, hplays.unfinished, hplays.settled⟩
      cases verdict with
      | true =>
          refine LeadsTo.trans ?_ (honHolds _ (hplays.standAt position))
          refine leadsTo_of_run_moved hrunning hunfinished hfound ?_ hplays.unfinished
          rw [run, hruns]
          simp only [hdecided]
      | false =>
          obtain ⟨after, hskipped, hgoesOn, harrives⟩ := skipBranch_standAt tag.name hplays hhere
          refine LeadsTo.trans ?_ (honFails _ (hplays.standAt position))
          have hround : start.LeadsTo setup (.onward (after.standAt (after.state.cursor + 1))) := by
            refine leadsTo_of_run_moved hrunning hunfinished hfound ?_ hgoesOn
            rw [run, hruns]
            simp only [hdecided]
            rw [← hskipped]
            rfl
          rw [harrives] at hround
          cases others <;> exact hround

/-- Skipping the rest of a chain from the tag that ends a played branch stops at its last line. -/
theorem skipBlock_standAt {branches : Branches} {rest : List Line} (hplays : scene.Plays lines)
    (hhere : lines.drop position = branches.lines ++ rest)
    (hunclosed : branches.first.closesBlock = false) (hlevel : branches.first.nesting = 0) :
    ∃ last, (scene.standAt position).skipBlock = scene.standAt last ∧
      last + 1 = position + branches.size := by
  obtain ⟨before, hseeks, hlength⟩ := branches.seekTag_laterLines rest hunclosed hlevel
  rw [branches.lines_eq_cons, List.cons_append] at hhere
  have hscript : (scene.standAt position).state.script.lines = lines := hplays.lines
  have hstands : (scene.standAt position).state.cursor = position := rfl
  refine ⟨position + 1 + before, ?_, ?_⟩
  · rw [skipBlock, State.skipTo, hscript, hstands, drop_succ_of_cons hhere, hseeks]
    rfl
  · rw [branches.size_eq_succ, ← hlength]
    omega

/-- The round that runs the tag after a branch that has been played ends the chain. -/
theorem leadsTo_endOfChain {branches : Branches} {rest : List Line} (hplays : scene.Plays lines)
    (hhere : lines.drop position = branches.lines ++ rest) :
    (scene.standAt position).LeadsTo setup
      (.onward (scene.standAt (position + branches.size))) := by
  have hfirst := hhere
  rw [branches.lines_eq_cons, List.cons_append] at hfirst
  have hfound := hplays.line?_standAt hfirst
  have hatTag := hplays.standAt position
  have hskips (hunclosed : branches.first.closesBlock = false)
      (hlevel : branches.first.nesting = 0)
      (hruns : (scene.standAt position).runTag setup.host branches.first =
        .ok () (scene.standAt position).skipBlock) :
      (scene.standAt position).LeadsTo setup
        (.onward (scene.standAt (position + branches.size))) := by
    obtain ⟨last, hskipped, hends⟩ := skipBlock_standAt hplays hhere hunclosed hlevel
    have hrun : (scene.standAt position).run setup (.tag branches.first) =
        .ok .moved (scene.standAt last) := by
      rw [run, hruns, hskipped]
    rw [← hends]
    exact leadsTo_of_run_moved hatTag.running hatTag.unfinished hfound hrun hplays.unfinished
  cases branches with
  | endIf tag hcloses =>
      refine leadsTo_of_run_moved hatTag.running hatTag.unfinished hfound ?_ hatTag.unfinished
      rw [run, Branches.first, runTag, Tag.closesBlock_iff.mp hcloses]
  | otherwise tag hreverses body closing hcloses =>
      have hknown := Tag.reversesBlock_iff.mp hreverses
      apply hskips (Tag.closesBlock_eq_false hknown (by decide))
        (Tag.nesting_of_reversesBlock hreverses)
      rw [Branches.first, runTag, hknown]
  | elseIf tag hretries body others =>
      have hknown := Tag.retriesBlock_iff.mp hretries
      have hsettled : (scene.standAt position).state.retrying = false := hplays.settled
      apply hskips (Tag.closesBlock_eq_false hknown (by decide))
        (Tag.nesting_of_retriesBlock hretries)
      rw [Branches.first, runTag, hknown]
      simp only [hsettled, Bool.false_eq_true, if_false]

end Scene

mutual

/-- Driving a playback through the lines of a block does what enacting the block does. The induction
is on the tree; a branch that has been enacted is left by one more round, which skips the rest of
its chain. -/
theorem Block.leadsTo_enact {setup : Setup μ} {lines : List Line} :
    (block : Block) → ∀ {position : Nat} {scene : Scene μ} {rest : List Line},
      scene.Plays lines → lines.drop position = block.lines ++ rest →
      (scene.standAt position).LeadsTo setup
        ((block.enact setup position scene).endAt (position + block.size))
  | .done, position, scene, _, _, _ => by
      rw [Block.enact, Block.size, Block.lines, List.length_nil, Nat.add_zero]
      exact Scene.leadsTo_onward
  | .line first hplain others, position, scene, rest, hplays, hhere => by
      rw [Block.lines, List.cons_append] at hhere
      have hsize : position + (Block.line first hplain others).size =
          position + 1 + others.size := by
        rw [Block.size, Block.lines, List.length_cons, ← Block.size]
        omega
      rw [Block.enact, Passage.endAt_andThen, hsize]
      apply (Scene.leadsTo_enactLine hplays hplain hhere).andThen
      intro after hplayed
      have hplays := (hplays.standAt position).of_enactLine hplain hplayed
      exact others.leadsTo_enact hplays (drop_succ_of_cons hhere)
  | .chain tag hopens body others after, position, scene, rest, hplays, hhere => by
      rw [Block.lines, List.cons_append, List.append_assoc, List.append_assoc] at hhere
      have hinBody := drop_succ_of_cons hhere
      have hatOthers := drop_add_of_append hinBody
      have hbehind := drop_add_of_append hatOthers
      have hsize : position + (Block.chain tag hopens body others after).size =
          position + 1 + body.size + others.size + after.size := by
        rw [Block.size, Block.lines, List.length_cons, List.length_append, List.length_append,
          ← Block.size, ← Block.size, ← Branches.size]
        omega
      have hatTag := hplays.standAt position
      have hknown := Tag.opensBlock_iff.mp hopens
      rw [Block.enact, Passage.endAt_andThen, hsize]
      have hchosen : (scene.standAt position).LeadsTo setup
          (((scene.standAt position).choose setup tag.args
              (fun scene => body.enact setup (position + 1) scene)
              (fun scene => others.enact setup (position + 1 + body.size) scene)).endAt
            (position + 1 + body.size + others.size)) := by
        rw [Scene.endAt_choose]
        refine Scene.leadsTo_choose hplays hatTag.running hatTag.unfinished
          (hplays.line?_standAt hhere) ?_ hinBody (fun between hplays => ?_)
          fun between hplays => ?_
        · rw [Scene.runTag, hknown]
        · apply (body.leadsTo_enact hplays hinBody).andThen
          intro final hplayed
          exact Scene.leadsTo_endOfChain (body.plays_enact hplays hplayed) hatOthers
        · exact others.leadsTo_enact hplays hatOthers
      apply hchosen.andThen
      intro between hplayed
      have hplays := hatTag.of_choose (fun _ hplays hplayed => body.plays_enact hplays hplayed)
        (fun _ hplays hplayed => others.plays_enact hplays hplayed) hplayed
      exact after.leadsTo_enact hplays hbehind

/-- From where a skipped branch leads to, driving does what enacting the other branches does. -/
theorem Branches.leadsTo_enact {setup : Setup μ} {lines : List Line} :
    (branches : Branches) → ∀ {position : Nat} {scene : Scene μ} {rest : List Line},
      scene.Plays lines → lines.drop position = branches.lines ++ rest →
      (branches.arrive position scene).LeadsTo setup
        ((branches.enact setup position scene).endAt (position + branches.size))
  | .endIf tag hcloses, position, scene, rest, hplays, hhere => by
      rw [Branches.enact]
      exact Scene.leadsTo_onward
  | .otherwise tag hreverses body closing hcloses, position, scene, rest, hplays, hhere => by
      rw [Branches.lines, List.cons_append, List.append_assoc] at hhere
      have hinBody := drop_succ_of_cons hhere
      have hatClosing := drop_add_of_append hinBody
      have hsize : position + (Branches.otherwise tag hreverses body closing hcloses).size =
          position + 1 + body.size + (Branches.endIf closing hcloses).size := by
        simp only [Branches.size, Branches.lines, Block.size, List.length_cons,
          List.length_append, List.length_nil]
        omega
      rw [Branches.enact, hsize]
      apply (body.leadsTo_enact hplays hinBody).andThen
      intro final hplayed
      have hclosed : lines.drop (position + 1 + body.size) =
          (Branches.endIf closing hcloses).lines ++ rest := by
        rw [Branches.lines]
        exact hatClosing
      exact Scene.leadsTo_endOfChain (body.plays_enact hplays hplayed) hclosed
  | .elseIf tag hretries body others, position, scene, rest, hplays, hhere => by
      rw [Branches.lines, List.cons_append, List.append_assoc] at hhere
      have hinBody := drop_succ_of_cons hhere
      have hatOthers := drop_add_of_append hinBody
      have hsize : position + (Branches.elseIf tag hretries body others).size =
          position + 1 + body.size + others.size := by
        simp only [Branches.size, Branches.lines, Block.size, List.length_cons,
          List.length_append]
        omega
      rw [Branches.enact, hsize, Scene.endAt_choose]
      refine Scene.leadsTo_choose hplays hplays.running hplays.unfinished
        (hplays.line?_standAt hhere) ?_ hinBody (fun between hplays => ?_) fun between hplays => ?_
      · rw [Scene.runTag, Tag.retriesBlock_iff.mp hretries]
        rfl
      · apply (body.leadsTo_enact hplays hinBody).andThen
        intro final hplayed
        exact Scene.leadsTo_endOfChain (body.plays_enact hplays hplayed) hatOthers
      · exact others.leadsTo_enact hplays hatOthers

end

/-- The playback stands before the first line of a script whose lines are those of a block. It is
about to start, or it has just entered the script. -/
structure Scene.AtOpening (scene : Scene μ) (block : Block) : Prop where
  lines : scene.state.script.lines = block.lines
  cursor : scene.state.cursor = 0
  unfinished : scene.state.finished = false
  settled : scene.state.retrying = false
  ready : scene.status = .notStarted ∨ scene.status = .running

namespace Scene

variable {setup : Setup μ} {scene : Scene μ} {block : Block}

/-- A new playback is at the opening of the script it starts with. -/
theorem atOpening_of_start {collection : Collection} {name : Option String}
    {store : Option StoreId} {playback : Playback} (stage : Stage μ)
    (hstarted : Playback.start collection name store = .ok playback)
    (hlines : playback.state.script.lines = block.lines) :
    (⟨playback, stage⟩ : Scene μ).AtOpening block := by
  obtain ⟨index, rfl⟩ := Playback.eq_of_start hstarted
  exact ⟨hlines, rfl, rfl, rfl, .inl rfl⟩

/-- The scene once the playback has started. -/
def opened (setup : Setup μ) (scene : Scene μ) : Scene μ :=
  if scene.status = .notStarted then scene.begin setup else scene

theorem opened_of_notStarted (hsilent : scene.status = .notStarted) :
    scene.opened setup = scene.begin setup :=
  if_pos hsilent

theorem opened_of_begun (hbegun : scene.status ≠ .notStarted) : scene.opened setup = scene :=
  if_neg hbegun

theorem opened_of_running (hrunning : scene.status = .running) : scene.opened setup = scene :=
  opened_of_begun fun hsilent => by cases hrunning.symm.trans hsilent

theorem state_opened (setup : Setup μ) (scene : Scene μ) :
    (scene.opened setup).state = scene.state := by
  rw [opened]
  split <;> rfl

/-- The first step starts the playback, whatever comes of it. -/
theorem step_opened (setup : Setup μ) (scene : Scene μ) :
    (scene.opened setup).step setup = scene.step setup := by
  rw [opened]
  split
  · rename_i hfresh
    rw [Scene.step, Scene.step, attempt, attempt, hfresh]
    rfl
  · rfl

theorem drive_opened (rounds : Nat) (picks : List Nat) :
    scene.drive setup (rounds + 1) picks =
      (scene.opened setup).drive setup (rounds + 1) picks := by
  rw [drive, drive, step_opened]

theorem AtOpening.plays_opened (hopening : scene.AtOpening block) (setup : Setup μ) :
    (scene.opened setup).Plays block.lines := by
  rw [opened]
  split
  · exact ⟨hopening.lines, rfl, hopening.unfinished, hopening.settled⟩
  · rename_i hbegun
    exact ⟨hopening.lines, hopening.ready.resolve_left hbegun, hopening.unfinished,
      hopening.settled⟩

theorem AtOpening.standAt_opened (hopening : scene.AtOpening block) :
    (scene.opened setup).standAt 0 = scene.opened setup := by
  have hcursor : (scene.opened setup).state.cursor = 0 := by
    rw [state_opened, hopening.cursor]
  rw [standAt, ← hcursor]
  rfl

/-- Driving a playback through a script does what enacting its block tree does. All rounds up to the
end of the script are the passage through the tree; what is left of the rounds is driven from
there. -/
theorem drive_eq_drive_enact (setup : Setup μ) (scene : Scene μ) (block : Block)
    (hopening : scene.AtOpening block) :
    ∃ rounds, ∀ more picks,
      scene.drive setup (rounds + more + 1) picks =
        ((block.enact setup 0 (scene.opened setup)).endAt block.size).drive setup
          (more + 1) picks := by
  have hstart : block.lines.drop 0 = block.lines ++ [] := by
    rw [List.drop_zero, List.append_nil]
  have hleads : ((scene.opened setup).standAt 0).LeadsTo setup
      ((block.enact setup 0 (scene.opened setup)).endAt (0 + block.size)) :=
    block.leadsTo_enact (hopening.plays_opened setup) hstart
  rw [hopening.standAt_opened, Nat.zero_add] at hleads
  obtain ⟨rounds, hleads⟩ := hleads
  refine ⟨rounds, ?_⟩
  intro more picks
  rw [drive_opened, Nat.add_assoc, hleads]

/-- A chain with two branches is the whole script of a new playback. -/
theorem drive_eq_drive_enact_fork :
    let block : Block :=
      .chain ⟨⟨"#if visited(Fork)", 1⟩, "if", "visited(Fork)"⟩ (by decide)
        (.line (.quote ⟨⟨"> Here again.", 2⟩, "Here again."⟩) rfl .done)
        (.otherwise ⟨⟨"#else", 3⟩, "else", ""⟩ (by decide)
          (.line (.quote ⟨⟨"> The road forks.", 4⟩, "The road forks."⟩) rfl .done)
          ⟨⟨"#endif", 5⟩, "endif", ""⟩ (by decide))
        .done
    let collection : Collection :=
      ⟨"road", "road", "", [⟨"Fork", "road#Fork", block.lines, .empty⟩]⟩
    let setup : Setup Unit := ⟨.idle, none, true⟩
    let scene := (⟨.start collection 0 (some ⟨0⟩), .notStarted⟩ : Playback).opening ⟨(), .empty⟩
    scene.AtOpening block ∧
      ∃ rounds, ∀ more picks,
        scene.drive setup (rounds + more + 1) picks =
          ((block.enact setup 0 (scene.opened setup)).endAt block.size).drive setup
            (more + 1) picks := by
  intro block collection setup scene
  have hstarted : Playback.start collection none (some ⟨0⟩) = .ok scene.toPlayback := rfl
  have hopening : scene.AtOpening block := atOpening_of_start _ hstarted rfl
  exact ⟨hopening, drive_eq_drive_enact setup scene block hopening⟩

end Scene

end Dialogue
