/-
# What running a line leaves as it was

A tag may move the playback, set a variable, ask the host or fail. Whatever it does, the playback
stays in its script and neither waits nor starts nor ends by it, and the host is called only for
tags and conditions. The same is said here of each part of running a tag, so that nothing else has
to look into them.
-/

import Dialogue.Playback.Step
import Dialogue.Proofs.Condition.Evaluation

namespace Dialogue

variable {μ : Type}

/-- Whether the playback goes on after a call to the host. -/
def Callback.isPassing : Callback → Bool
  | quote _ | tag _ | condition _ => true
  | start _ | speech _ _ | choices _ | finish => false

namespace Stage

/-- The record of calls has grown by calls after which the playback goes on. -/
def Grows (before after : Stage μ) : Prop :=
  ∃ calls, after.calls = before.calls ++ calls ∧ ∀ call ∈ calls, call.isPassing = true

variable {before between after : Stage μ}

theorem Grows.of_eq (hsame : after.calls = before.calls) : before.Grows after :=
  ⟨[], by rw [hsame, List.append_nil], fun _ hmem => absurd hmem List.not_mem_nil⟩

theorem Grows.refl (stage : Stage μ) : stage.Grows stage :=
  Grows.of_eq rfl

theorem Grows.trans (hearly : before.Grows between) (hlate : between.Grows after) :
    before.Grows after := by
  obtain ⟨first, hgrown, hpassing⟩ := hearly
  obtain ⟨second, hgrownOn, hpassingOn⟩ := hlate
  refine ⟨first ++ second, by rw [hgrownOn, hgrown, List.append_assoc], ?_⟩
  intro call hmem
  rcases List.mem_append.mp hmem with hinFirst | hinSecond
  · exact hpassing call hinFirst
  · exact hpassingOn call hinSecond

theorem grows_called {callback : Callback} (hpassing : callback.isPassing = true)
    (world : World μ) :
    before.Grows (before.called callback world) := by
  refine ⟨[callback], rfl, ?_⟩
  intro call hmem
  rw [List.mem_singleton.mp hmem]
  exact hpassing

theorem calls_markVisited (stage : Stage μ) (state : State) :
    (stage.markVisited state).calls = stage.calls := by
  rw [markVisited]
  split <;> rfl

end Stage

/-- An error that a method may fail with: wrong arguments or no store. -/
inductive Error.IsOfMethod (location : Location) : Error → Prop where
  | noStore : IsOfMethod location (.noStore location)
  | arguments (fault : ArgumentFault) : IsOfMethod location (.arguments location fault)

/-- An error that a condition may fail with: one of its methods' or that it cannot be read. -/
inductive Error.IsOfCondition (location : Location) (text : String) : Error → Prop where
  | ofMethod {error : Error} (hfailed : error.IsOfMethod location) :
      IsOfCondition location text error
  | unreadable {error : SyntaxError} (hunread : Condition.parse text = .error error) :
      IsOfCondition location text (.condition location error)

namespace Method

variable {state : State} {stores : Shelf} {call : Call} {error : Error}

theorem isOfMethod_storeId (hfailed : state.storeId = .error error) :
    error.IsOfMethod state.location := by
  rw [State.storeId] at hfailed
  split at hfailed
  · cases hfailed
  · cases hfailed
    exact .noStore

theorem isOfMethod_visitCount (hfailed : visitCount state stores call = .error error) :
    error.IsOfMethod state.location := by
  rw [visitCount] at hfailed
  split at hfailed
  · cases hfailed
    exact .arguments _
  · split at hfailed
    · cases hfailed
      rename_i hunstored
      exact isOfMethod_storeId hunstored
    · cases hfailed

theorem isOfMethod_wantedCount (hfailed : wantedCount state call = .error error) :
    error.IsOfMethod state.location := by
  rw [wantedCount] at hfailed
  split at hfailed
  · cases hfailed
  · split at hfailed
    · cases hfailed
      exact .arguments _
    · split at hfailed
      · cases hfailed
        exact .arguments _
      · cases hfailed

theorem isOfMethod_operands (hfailed : operands state stores call = .error error) :
    error.IsOfMethod state.location := by
  rw [operands] at hfailed
  split at hfailed
  · split at hfailed
    · cases hfailed
      rename_i hunstored
      exact isOfMethod_storeId hunstored
    · cases hfailed
  · cases hfailed
    exact .arguments _

theorem isOfMethod_of_map {α β : Type} {result : Except Error α} {f : α → β} {location : Location}
    (hofMethod : ∀ error, result = .error error → error.IsOfMethod location)
    (hfailed : result.map f = .error error) : error.IsOfMethod location := by
  cases result with
  | error cause =>
      cases hfailed
      exact hofMethod error rfl
  | ok value => cases hfailed

/-- A method fails only for wrong arguments or for want of a store. -/
theorem isOfMethod_verdict {method : Method}
    (hfailed : method.verdict state stores call = .error error) :
    error.IsOfMethod state.location := by
  cases method with
  | visited =>
      refine isOfMethod_of_map (fun error hfailed => ?_) hfailed
      rw [hasVisited] at hfailed
      split at hfailed
      · cases hfailed
        rename_i hunwanted
        exact isOfMethod_wantedCount hunwanted
      · exact isOfMethod_of_map (fun _ => isOfMethod_visitCount) hfailed
  | notVisited => exact isOfMethod_of_map (fun _ => isOfMethod_visitCount) hfailed
  | equal | notEqual =>
      refine isOfMethod_of_map (fun error hfailed => ?_) hfailed
      exact isOfMethod_of_map (fun _ => isOfMethod_operands) hfailed
  | greaterThan | greaterOrEqual | lessThan | lessOrEqual =>
      exact isOfMethod_of_map (fun _ => isOfMethod_operands) hfailed

end Method

theorem Call.meets_decide (host : Host μ) (state : State) (call : Call) :
    Meets Stage.Grows (Error.IsOfMethod state.location) (call.decide host state) where
  reaches hrun := by
    rw [Call.decide] at hrun
    split at hrun
    · split at hrun
      · cases hrun
      · cases hrun
        exact .refl _
      · cases hrun
        exact .of_eq rfl
    · split at hrun
      · cases hrun
        exact Stage.grows_called rfl _
      · rename_i world _
        cases hrun
        exact (Stage.grows_called rfl world).trans (.of_eq rfl)
  fails hrun := by
    rw [Call.decide] at hrun
    split at hrun
    · split at hrun
      · rename_i hfailed
        cases hrun
        exact ⟨.refl _, Method.isOfMethod_verdict hfailed⟩
      · cases hrun
      · cases hrun
    · split at hrun
      · cases hrun
      · cases hrun

/-- Deciding a condition calls the host for conditions only, and fails only for a method of it or
because the condition cannot be read. -/
theorem State.meets_decide (host : Host μ) (state : State) (text : String) :
    Meets Stage.Grows (Error.IsOfCondition state.location text) (state.decide host text) := by
  rw [State.decide]
  split
  · rename_i error hunread
    refine ⟨fun hrun => ?_, fun hrun => ?_⟩
    · cases hrun
    · cases hrun
      exact ⟨.refl _, .unreadable hunread⟩
  · rename_i condition _
    have hmeets := condition.meets_eval Stage.Grows.refl Stage.Grows.trans
      (Call.meets_decide host state)
    exact hmeets.weaken fun _ => .ofMethod

namespace State

/-- Skipping stays in the script. -/
theorem collection_skipTo (state : State) (wanted : Tag → Bool) :
    (state.skipTo wanted).2.collection = state.collection := by
  rw [skipTo]
  split <;> rfl

theorem scriptIndex_skipTo (state : State) (wanted : Tag → Bool) :
    (state.skipTo wanted).2.scriptIndex = state.scriptIndex := by
  rw [skipTo]
  split <;> rfl

end State

namespace Scene

/-- The playback has stayed in its script, neither waits nor starts nor ends, and has called the
host only to go on. -/
structure StaysIn (before after : Scene μ) : Prop where
  collection : after.state.collection = before.state.collection
  scriptIndex : after.state.scriptIndex = before.state.scriptIndex
  status : after.status = before.status
  grows : before.stage.Grows after.stage

variable {scene before between after : Scene μ} {host : Host μ} {tag : Tag}

theorem StaysIn.refl (scene : Scene μ) : scene.StaysIn scene :=
  ⟨rfl, rfl, rfl, .refl _⟩

theorem StaysIn.trans (hearly : before.StaysIn between) (hlate : between.StaysIn after) :
    before.StaysIn after where
  collection := hlate.collection.trans hearly.collection
  scriptIndex := hlate.scriptIndex.trans hearly.scriptIndex
  status := hlate.status.trans hearly.status
  grows := hearly.grows.trans hlate.grows

theorem staysIn_note (scene : Scene μ) (remark : Remark) : scene.StaysIn (scene.note remark) :=
  ⟨rfl, rfl, rfl, .of_eq rfl⟩

theorem staysIn_withStage {stage : Stage μ} (hgrows : scene.stage.Grows stage) :
    scene.StaysIn { scene with stage := stage } :=
  ⟨rfl, rfl, rfl, hgrows⟩

theorem staysIn_skipTo (scene : Scene μ) (wanted : Tag → Bool) :
    scene.StaysIn (scene.withState (scene.state.skipTo wanted).2) :=
  ⟨State.collection_skipTo _ _, State.scriptIndex_skipTo _ _, rfl, .refl _⟩

theorem staysIn_skipBlock (scene : Scene μ) : scene.StaysIn scene.skipBlock := by
  have hskips := scene.staysIn_skipTo Tag.closesBlock
  rw [skipBlock]
  split
  · rename_i hfound
    rw [hfound] at hskips
    exact hskips
  · rename_i hfound
    rw [hfound] at hskips
    exact hskips.trans (staysIn_note _ _)

theorem staysIn_skipBranch (scene : Scene μ) (name : String) :
    scene.StaysIn (scene.skipBranch name) := by
  have hskips := scene.staysIn_skipTo Tag.endsBranch
  rw [skipBranch]
  split
  · rename_i hfound
    rw [hfound] at hskips
    split
    · exact ⟨hskips.collection, hskips.scriptIndex, rfl, .refl _⟩
    · exact hskips
  · rename_i hfound
    rw [hfound] at hskips
    exact hskips.trans (staysIn_note _ _)

theorem staysIn_runCondition (host : Host μ) (tag : Tag) (scene : Scene μ) :
    scene.StaysIn (scene.runCondition host tag).scene := by
  have hsettles : scene.StaysIn (scene.withState { scene.state with retrying := false }) :=
    ⟨rfl, rfl, rfl, .refl _⟩
  have hmeets := State.meets_decide host { scene.state with retrying := false } tag.args
  apply hsettles.trans
  rw [runCondition]
  split
  · rename_i hfailed
    exact staysIn_withStage (hmeets.fails hfailed).1
  · rename_i hdecided
    exact staysIn_withStage (hmeets.reaches hdecided)
  · rename_i hdecided
    exact (staysIn_withStage (hmeets.reaches hdecided)).trans (staysIn_skipBranch _ _)

theorem staysIn_runAssignment (tag : Tag) (scene : Scene μ) :
    scene.StaysIn (scene.runAssignment tag).scene := by
  rw [runAssignment]
  split
  · exact .refl scene
  · split
    · exact .refl scene
    · exact ⟨rfl, rfl, rfl, .of_eq rfl⟩

theorem staysIn_runUnknown (host : Host μ) (tag : Tag) (scene : Scene μ) :
    scene.StaysIn (scene.runUnknown host tag).scene := by
  have hgrows : scene.stage.Grows (scene.stage.called (.tag tag)
      (host.tag tag scene.state scene.stage.toWorld).2) := Stage.grows_called rfl _
  simp only [runUnknown]
  split
  · exact ⟨rfl, rfl, rfl, hgrows⟩
  · exact ⟨rfl, rfl, rfl, hgrows⟩
  · exact ⟨rfl, rfl, rfl, hgrows.trans (.of_eq rfl)⟩

/-- Whatever a tag does, the playback stays in its script. -/
theorem staysIn_runTag (host : Host μ) (tag : Tag) (scene : Scene μ) :
    scene.StaysIn (scene.runTag host tag).scene := by
  rw [runTag]
  cases Directive.ofName? tag.name with
  | none => exact staysIn_runUnknown host tag scene
  | some directive =>
      cases directive with
      | ifHolds => exact staysIn_runCondition host tag scene
      | elseIfHolds =>
          by_cases hretrying : scene.state.retrying = true
          · simp only [hretrying, if_true]
            exact staysIn_runCondition host tag scene
          · simp only [hretrying, Bool.false_eq_true, if_false]
            exact staysIn_skipBlock scene
      | otherwise => exact staysIn_skipBlock scene
      | endIf | throw => exact .refl scene
      | finish => exact ⟨rfl, rfl, rfl, .refl _⟩
      | set => exact staysIn_runAssignment tag scene
      | debug | warn | error | todo => exact staysIn_note scene _

/-- What running a line may come to: the playback has stayed in its script, or it has said a speech
and waits. -/
inductive RunsTo (setup : Setup μ) (scene : Scene μ) : Outcome μ Progress → Prop where
  | failed {error : Error} {after : Scene μ} (hstays : scene.StaysIn after) :
      RunsTo setup scene (.error error after)
  | moved {after : Scene μ} (hstays : scene.StaysIn after) : RunsTo setup scene (.ok .moved after)
  | speaks (cue : Cue) (speech : Speech) :
      RunsTo setup scene (.ok (.suspended (.speech cue speech))
        ⟨⟨scene.state, .suspended (.speech cue speech)⟩,
          scene.stage.called (.speech cue speech)
            (setup.host.speech cue speech scene.stage.toWorld)⟩)

theorem runsTo_run (setup : Setup μ) (line : Line) (scene : Scene μ) :
    scene.RunsTo setup (scene.run setup line) := by
  cases line with
  | cue cue => exact .moved ⟨rfl, rfl, rfl, .refl _⟩
  | speech speech =>
      rw [run]
      split
      · exact .failed (.refl scene)
      · exact .speaks _ speech
  | link link => exact .moved ⟨rfl, rfl, rfl, .refl _⟩
  | quote quote => exact .moved ⟨rfl, rfl, rfl, Stage.grows_called rfl _⟩
  | tag tag =>
      have hstays := staysIn_runTag setup.host tag scene
      rw [run]
      split
      · rename_i hfailed
        rw [hfailed] at hstays
        exact .failed hstays
      · rename_i hmoved
        rw [hmoved] at hstays
        exact .moved hstays

variable {setup : Setup μ} {link : Link}

/-- A destination is a script that its collection finds by the name. The collection is the own one
if that is at the path, or else the one that the library returns. -/
theorem spec_of_destination {library : Option Library} {state : State} {file name : String}
    {missing : Error} {collection : Collection} {index : Nat}
    (hfound : destination library state file name missing = .ok (collection, index)) :
    collection.scriptIndex? (some name) = some index ∧
      (state.collection.isAt file = true ∧ collection = state.collection ∨
        state.collection.isAt file = false ∧
          ∃ attached, library = some attached ∧ attached file = .ok collection) := by
  unfold destination at hfound
  split at hfound
  · rename_i hown
    split at hfound
    · rename_i hnamed
      cases hfound
      exact ⟨hnamed, .inl ⟨hown, rfl⟩⟩
    · cases hfound
  · rename_i hforeign
    split at hfound
    · cases hfound
    · split at hfound
      · cases hfound
      · cases hfound
      · rename_i hreturned
        split at hfound
        · rename_i hnamed
          cases hfound
          exact ⟨hnamed, .inr ⟨Bool.eq_false_iff.mpr hforeign, _, rfl, hreturned⟩⟩
        · cases hfound

/-- A script that is found so is the destination, whatever error stands for a missing one. -/
theorem destination_eq_ok_iff {library : Option Library} {state : State} {file name : String}
    {missing : Error} {collection : Collection} {index : Nat} :
    destination library state file name missing = .ok (collection, index) ↔
      collection.scriptIndex? (some name) = some index ∧
        (state.collection.isAt file = true ∧ collection = state.collection ∨
          state.collection.isAt file = false ∧
            ∃ attached, library = some attached ∧ attached file = .ok collection) := by
  refine ⟨spec_of_destination, ?_⟩
  rintro ⟨hnamed, ⟨hown, rfl⟩ | ⟨hforeign, attached, rfl, hreturned⟩⟩
  · unfold destination
    rw [if_pos hown, hnamed]
  · unfold destination
    rw [hforeign, if_neg Bool.false_ne_true]
    simp only [hreturned, hnamed]

/-- There is no destination because a script is missing, or because the library fails for another
reason. It is asked only for a collection that is not the own one. -/
theorem nowhere_of_destination {library : Option Library} {state : State} {file name : String}
    {missing error : Error}
    (hnowhere : destination library state file name missing = .error error) :
    error = missing ∨
      state.collection.isAt file = false ∧
        ∃ attached, library = some attached ∧ attached file = .error error ∧
          ∀ path location, error ≠ .missingScript path location := by
  unfold destination at hnowhere
  split at hnowhere
  · split at hnowhere
    · cases hnowhere
    · cases hnowhere
      exact .inl rfl
  · rename_i hforeign
    split at hnowhere
    · cases hnowhere
      exact .inl rfl
    · split at hnowhere
      · cases hnowhere
        exact .inl rfl
      · rename_i cause hother hrefused
        cases hnowhere
        exact .inr ⟨Bool.eq_false_iff.mpr hforeign, _, rfl, hrefused, hother⟩
      · split at hnowhere
        · cases hnowhere
        · cases hnowhere
          exact .inl rfl

/-- What a link leads to, or why it leads nowhere. -/
def target (setup : Setup μ) (link : Link) (scene : Scene μ) : Except Error (Collection × Nat) :=
  let state := scene.state
  let path := state.resolve link.target
  let location := { state.location with lineNo := link.lineNo }
  let (file, name) := Path.splitName path
  destination setup.library state file name (.missingScript path (some location))

/-- A link leads to a script that its collection finds by the name in the path. -/
theorem target_eq_ok_iff {file name : String}
    (hcut : Path.splitName (scene.state.resolve link.target) = (file, name))
    {collection : Collection} {index : Nat} :
    scene.target setup link = .ok (collection, index) ↔
      collection.scriptIndex? (some name) = some index ∧
        (scene.state.collection.isAt file = true ∧ collection = scene.state.collection ∨
          scene.state.collection.isAt file = false ∧
            ∃ library, setup.library = some library ∧ library file = .ok collection) := by
  unfold target
  dsimp only
  rw [hcut]
  exact destination_eq_ok_iff

/-- The scene with a notice if the script did not announce the link. -/
def noteUnannounced (link : Link) (scene : Scene μ) : Scene μ :=
  let state := scene.state
  let path := state.resolve link.target
  let location := { state.location with lineNo := link.lineNo }
  if state.script.linksTo path then scene
  else { scene with stage := scene.stage.note location (.notAnnounced path state.script.name) }

theorem follow_of_error {error : Error} (hnowhere : scene.target setup link = .error error) :
    scene.follow setup link = .error error (scene.noteUnannounced link) := by
  unfold target at hnowhere
  unfold follow
  generalize Path.splitName (scene.state.resolve link.target) = parts at hnowhere ⊢
  obtain ⟨file, name⟩ := parts
  dsimp only at hnowhere ⊢
  rw [hnowhere]
  rfl

theorem follow_of_ok {collection : Collection} {index : Nat}
    (hfound : scene.target setup link = .ok (collection, index)) :
    scene.follow setup link =
      .ok () (((scene.noteUnannounced link).note
        (.jumping (scene.state.resolve link.target))).enter collection index) := by
  unfold target at hfound
  unfold follow
  generalize Path.splitName (scene.state.resolve link.target) = parts at hfound ⊢
  obtain ⟨file, name⟩ := parts
  dsimp only at hfound ⊢
  rw [hfound]
  rfl

theorem noteUnannounced_spec (link : Link) (scene : Scene μ) :
    (scene.noteUnannounced link).toPlayback = scene.toPlayback ∧
      (scene.noteUnannounced link).stage.calls = scene.stage.calls := by
  rw [noteUnannounced]
  split
  · exact ⟨rfl, rfl⟩
  · exact ⟨rfl, rfl⟩

/-- Following a link calls nobody, and by itself it neither starts nor ends the playback. -/
theorem follow_spec (setup : Setup μ) (link : Link) (scene : Scene μ) :
    (scene.follow setup link).scene.stage.calls = scene.stage.calls ∧
      (scene.follow setup link).scene.status = scene.status := by
  obtain ⟨hsame, hcalls⟩ := noteUnannounced_spec link scene
  have hstatus : (scene.noteUnannounced link).status = scene.status := by rw [hsame]
  cases hfound : scene.target setup link with
  | error error =>
      rw [follow_of_error hfound]
      exact ⟨hcalls, hstatus⟩
  | ok place =>
      obtain ⟨collection, index⟩ := place
      rw [follow_of_ok hfound]
      exact ⟨(Stage.calls_markVisited _ _).trans hcalls, hstatus⟩

end Scene

end Dialogue
