/-
# Links that a script announces

A script lists the paths that its links lead to, and a link is resolved once more when it is
followed. Both ways agree on every target but one. While a playback runs, the word `this` names the
running script, but to the list it is a file like any other. So a script announces each link on its
lines, except one to `this` for which no link on its lines leads to its own path.
-/

import Dialogue.Proofs.Playback.Course
import Dialogue.Proofs.Playback.Landing

namespace Dialogue

open Text (sameName trim)

variable {μ : Type}

/-- Whether the target of a link is the word that names the running script. -/
def Link.namesThis (link : Link) : Bool :=
  Text.sameWord (String.ofList (trim link.target.toList)) "this"

/-- Whether a remark tells that a script has not announced a link. -/
def Remark.isUnannounced : Remark → Bool
  | notAnnounced _ _ => true
  | _ => false

/-- How many links have been followed that their script has not announced. -/
def Stage.unannounced (stage : Stage μ) : Nat :=
  stage.notices.countP fun notice => notice.remark.isUnannounced

/-- A path resolves as it does without the white space around it. -/
theorem Path.resolve_trim (base target : String) :
    Path.resolve base (String.ofList (trim target.toList)) = Path.resolve base target := by
  rw [Path.resolve, Path.resolve, String.toList_ofList, Path.resolveChars, Path.resolveChars,
    Text.trim_trim]

namespace State

variable {state : State} {link : Link}

/-- The running script announces a link: it is not a link to `this`, or a link of the script leads
to the path of the script. -/
def Announces (state : State) (link : Link) : Prop :=
  link.namesThis = false ∨
    ∃ other, .link other ∈ state.script.lines ∧
      sameName (state.collection.resolve other.target) state.script.path = true

/-- The list of a script that has been read holds what its links resolve to. -/
theorem linksTo_iff (hparsed : state.collection.IsParsed) (path : String) :
    state.script.linksTo path = true ↔
      ∃ link, .link link ∈ state.script.lines ∧
        sameName (state.collection.resolve link.target) path = true := by
  obtain ⟨part, hwhole⟩ := hparsed.exists_section state.scriptIndex
  have hhere : state.script = part.script state.collection.path := hwhole
  rw [Script.linksTo, List.any_eq_true, hhere]
  constructor
  · rintro ⟨listed, hmem, hsame⟩
    obtain ⟨link, honLine, rfl⟩ := Collection.mem_links_script.mp (PathSet.mem_def.mpr hmem)
    exact ⟨link, honLine, hsame⟩
  · rintro ⟨link, honLine, hsame⟩
    exact ⟨_, PathSet.mem_def.mp (Collection.mem_links_script.mpr ⟨link, honLine, rfl⟩), hsame⟩

/-- Only the word for the running script resolves otherwise than in the collection. -/
theorem resolve_target (state : State) (link : Link) :
    state.resolve link.target =
      if link.namesThis then state.script.path else state.collection.resolve link.target := by
  rw [resolve, Collection.resolve, Path.resolve_trim]
  rfl

/-- A link on a line of the running script leads to a path in the list of the script exactly if the
script announces it. -/
theorem linksTo_resolve_iff (hparsed : state.collection.IsParsed)
    (honLine : .link link ∈ state.script.lines) :
    state.script.linksTo (state.resolve link.target) = true ↔ state.Announces link := by
  rw [linksTo_iff hparsed, Announces, resolve_target]
  by_cases this : link.namesThis = true
  · -- The list is asked for the path of the script itself. A link may have put it there.
    rw [if_pos this, this]
    simp only [Bool.true_eq_false, false_or]
  · rw [if_neg this]
    exact iff_of_true ⟨link, honLine, Text.sameName_self _⟩ (.inl (Bool.eq_false_iff.mpr this))

end State

namespace Stage

variable {stage : Stage μ}

theorem unannounced_note (stage : Stage μ) (location : Location) (remark : Remark) :
    (stage.note location remark).unannounced =
      stage.unannounced + if remark.isUnannounced then 1 else 0 := by
  rw [note, unannounced, List.countP_append, List.countP_singleton]
  rfl

theorem unannounced_markVisited (stage : Stage μ) (state : State) :
    (stage.markVisited state).unannounced = stage.unannounced := by
  rw [markVisited]
  split <;> rfl

end Stage

namespace Scene

variable {setup : Setup μ} {scene : Scene μ} {link : Link}

/-- Following a link leaves one notice that it is unannounced, or none if its path is listed. -/
theorem unannounced_follow (setup : Setup μ) (scene : Scene μ) (link : Link) :
    (scene.follow setup link).scene.stage.unannounced =
      scene.stage.unannounced +
        if scene.state.script.linksTo (scene.state.resolve link.target) then 0 else 1 := by
  have hnoted : (scene.noteUnannounced link).stage.unannounced =
      scene.stage.unannounced +
        if scene.state.script.linksTo (scene.state.resolve link.target) then 0 else 1 := by
    rw [noteUnannounced]
    split
    · rfl
    · exact Stage.unannounced_note _ _ _
  rw [← hnoted]
  cases hfound : scene.target setup link with
  | error error =>
      rw [follow_of_error hfound]
      rfl
  | ok place =>
      obtain ⟨collection, index⟩ := place
      rw [follow_of_ok hfound]
      exact (Stage.unannounced_markVisited _ _).trans (Stage.unannounced_note _ _ _)

/-- The list of a script has the path of a link on its lines exactly if the script announces the
link. In a run, what is offered or followed without asking are choices of the playback, and to
follow one of them leaves a notice exactly if the running script does not announce it. -/
theorem linksTo_iff_announces_of_parsed (setup : Setup μ) :
    (∀ state : State, state.collection.IsParsed → ∀ link, .link link ∈ state.script.lines →
      (state.script.linksTo (state.resolve link.target) = true ↔ state.Announces link)) ∧
    ∀ (collection : Collection) (name : Option String) (store : Option StoreId)
      (playback : Playback) (world : World μ) (operations : List Operation),
      setup.ReturnsOnly Collection.IsParsed → collection.IsParsed →
      Playback.start collection name store = .ok playback →
      let scene := (playback.opening world).performAll setup operations
      (∀ links, scene.status = .suspended (.choices links) → links = scene.state.choices) ∧
        ∀ link ∈ scene.state.choices,
          let after := (scene.follow setup link).scene
          (scene.state.Announces link → after.stage.unannounced = scene.stage.unannounced) ∧
            (¬ scene.state.Announces link →
              after.stage.unannounced = scene.stage.unannounced + 1) := by
  refine ⟨fun state hparsed link honLine => State.linksTo_resolve_iff hparsed honLine, ?_⟩
  intro collection name store playback world operations hreturns hmain hstarted scene
  have hoffers : scene.Offers Collection.IsParsed :=
    offers_performAll hreturns operations (offers_opening hstarted hmain world)
  refine ⟨hoffers.offered, fun link hchosen => ?_⟩
  have hlisted := State.linksTo_resolve_iff hoffers.collection (hoffers.choices link hchosen)
  dsimp only
  rw [unannounced_follow]
  constructor
  · intro hannounced
    rw [if_pos (hlisted.mpr hannounced), Nat.add_zero]
  · intro hunknown
    rw [if_neg (mt hlisted.mp hunknown)]

/-- A hall offers a yard and itself. Only the yard is announced. -/
theorem linksTo_iff_announces_of_parsed_hall :
    let there : Link := ⟨⟨"[[#Yard]]", 2⟩, "#Yard", "Yard"⟩
    let here : Link := ⟨⟨"[[ This ]]", 3⟩, "This", "This"⟩
    let hall : Script := ⟨"Hall", "inn.md#Hall", [.link there, .link here],
      .ofList ["inn.md#Yard", "This.md"]⟩
    let yard : Script := ⟨"Yard", "inn.md#Yard", [], .empty⟩
    let inn : Collection := ⟨"inn", "inn.md", "# Hall\n[[#Yard]]\n[[ This ]]\n# Yard", [hall, yard]⟩
    let setup : Setup Unit := ⟨.idle, none, true⟩
    let playback : Playback := ⟨.start inn 0 none, .notStarted⟩
    let scene := (playback.opening ⟨(), .empty⟩).performAll setup [.advance 9]
    inn.IsParsed ∧ setup.ReturnsOnly Collection.IsParsed ∧
      Playback.start inn (some "Hall") none = .ok playback ∧
      scene.state.choices = [there, here] ∧
      scene.state.Announces there ∧ ¬ scene.state.Announces here ∧
      (scene.follow setup there).scene.stage.unannounced = 0 ∧
      (scene.follow setup here).scene.stage.unannounced = 1 := by
  intro there here hall yard inn setup playback scene
  have hparsed : inn.IsParsed := by
    have hlines : Item.sourceLines inn.raw.toList =
        ["# Hall".toList, "[[#Yard]]".toList, "[[ This ]]".toList, "# Yard".toList] := by cbv
    let sections : List Section :=
      [⟨some ⟨"Hall", 1⟩, [.link there, .link here]⟩, ⟨some ⟨"Yard", 4⟩, []⟩]
    have hitems : Item.ofText inn.raw = .ok (sections.flatMap Section.items) := by
      rw [Item.ofText, hlines]
      rfl
    have hscripts : sections.map (Section.script "inn.md") = [hall, yard] := by decide +kernel
    have hdistinct : [hall, yard].Pairwise Collection.NamesDiffer := by decide +kernel
    exact ⟨false, _, _, Collection.parse_of_sections hitems (by decide) (by decide) rfl hscripts
      hdistinct (absurd · Bool.false_ne_true)⟩
  have halone : setup.ReturnsOnly Collection.IsParsed := by simp [Setup.ReturnsOnly, setup]
  have hstarted : Playback.start inn (some "Hall") none = .ok playback :=
    (Collection.start_eq_ok_iff (by decide) _ _).mpr (by decide +kernel)
  have hchoices : scene.state.choices = [there, here] := by decide +kernel
  have hquiet : scene.stage.unannounced = 0 := by decide +kernel
  obtain ⟨hlisted, hruns⟩ := linksTo_iff_announces_of_parsed setup
  obtain ⟨-, hchosen⟩ := hruns inn _ _ playback ⟨(), .empty⟩ [.advance 9] halone hparsed hstarted
  have hannounced : scene.state.Announces there := .inl (by decide +kernel)
  have hunknown : ¬ scene.state.Announces here := by
    rw [← hlisted scene.state hparsed here (by decide +kernel)]
    decide +kernel
  have hknown := (hchosen there (hchoices ▸ .head _)).1 hannounced
  have hnoticed := (hchosen here (hchoices ▸ .tail _ (.head _))).2 hunknown
  rw [hquiet] at hknown hnoticed
  exact ⟨hparsed, halone, hstarted, hchoices, hannounced, hunknown, hknown, hnoticed⟩

/-- A script with a link to `this` does not list what the link leads to. -/
theorem not_forall_linksTo_resolve :
    ¬ ∀ (text path : String) (collection : Collection) (state : State) (link : Link),
      Collection.parse true text path = .ok collection → state.collection = collection →
      .link link ∈ state.script.lines →
      state.script.linksTo (state.resolve link.target) = true := by
  intro hlists
  let link : Link := ⟨⟨"[[this]]", 2⟩, "this", "this"⟩
  let sole : Script := ⟨"A", "x.md#A", [.link link], .ofList ["this.md"]⟩
  let collection : Collection := ⟨"x", "x.md", "# A\n[[this]]", [sole]⟩
  have hlines : Item.sourceLines "# A\n[[this]]".toList = ["# A".toList, "[[this]]".toList] := by
    cbv
  let sections : List Section := [⟨some ⟨"A", 1⟩, [.link link]⟩]
  have hitems : Item.ofText "# A\n[[this]]" = .ok (sections.flatMap Section.items) := by
    rw [Item.ofText, hlines]
    rfl
  have hscripts : sections.map (Section.script "x.md") = [sole] := by decide +kernel
  have hvalid : ∀ script ∈ [sole], script.invalidCondition? = none := by decide
  have hread : Collection.parse true "# A\n[[this]]" "x.md" = .ok collection :=
    Collection.parse_of_sections hitems (by decide) (by decide) (by decide +kernel) hscripts
      (List.pairwise_singleton _ _) fun _ => hvalid
  have hlisted := hlists _ _ collection (.start collection 0 none) link hread rfl (.head _)
  exact absurd hlisted (by decide +kernel)

end Scene

end Dialogue
