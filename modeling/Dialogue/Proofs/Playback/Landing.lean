/-
# Where links land

A condition names a script as a link does, and asks for the visits of the path that the target
names. A link does more with the target: it looks for a script by the name, and there a single
script has every name, a blank name is that of the script without a heading, and white space around
a name does not count. So a link may land on a script whose visits are counted under another path.
The two agree if the target spells the script as the path of the script does.

A collection keeps the path that it was registered under, while a target that leads out of its
collection names a path in normal form. A target that stays inside names the path as it is.
-/

import Dialogue.Proofs.Collection.Lookup
import Dialogue.Proofs.Library.Folder
import Dialogue.Proofs.Path
import Dialogue.Proofs.Playback.Frame
import Dialogue.Proofs.Playback.Visits

namespace Dialogue

open Text (sameName trim)

variable {μ : Type}

/-- A collection that comes from a source. -/
def Collection.IsParsed (collection : Collection) : Prop :=
  ∃ validate text path, parse validate text path = .ok collection

/-- A library that returns a collection only if it comes from a source and is at the path that was
asked for. -/
def Library.IsFaithful (library : Library) : Prop :=
  ∀ path collection, library path = .ok collection →
    collection.IsParsed ∧ collection.isAt path = true

/-- The library that a playback is set up with is faithful. -/
def Setup.IsFaithful (setup : Setup μ) : Prop :=
  ∀ library, setup.library = some library → library.IsFaithful

theorem Catalogue.isFaithful_empty : Catalogue.empty.library.IsFaithful := by
  intro path collection hreturned
  have hmissing : Catalogue.empty.library path = .error (.missingScript path none) := rfl
  rw [hmissing] at hreturned
  cases hreturned

/-- A catalogue stays faithful when a collection from a source is put in, whatever its path. -/
theorem Catalogue.isFaithful_insert {catalogue : Catalogue} {collection : Collection}
    (hfaithful : catalogue.library.IsFaithful) (hparsed : collection.IsParsed) :
    (catalogue.insert collection).library.IsFaithful := by
  intro path found hreturned
  rw [library_insert] at hreturned
  split at hreturned
  · rename_i hhere
    rw [← Except.ok.inj hreturned]
    exact ⟨hparsed, hhere⟩
  · exact hfaithful path found hreturned

/-- A folder library reads the file at the normal form of a path, and the collection is there. -/
theorem FolderLibrary.isFaithful (folder : FolderLibrary) : folder.library.IsFaithful := by
  intro path collection hreturned
  obtain ⟨text, -, hread⟩ := library_eq_ok_iff.mp hreturned
  obtain ⟨-, -, hplace, -⟩ := Collection.scripts_of_parse hread
  refine ⟨⟨_, _, _, hread⟩, ?_⟩
  rw [Collection.isAt, Path.same, hplace, Path.normalize_normalize]
  exact Text.sameName_self _

namespace Collection

variable {collection : Collection} {script : Script} {path : String}

/-- A path spells a script of a collection: it has the name of the script up to case after its first
hash, or no hash for the script without a heading. -/
def Spells (collection : Collection) (path : String) (script : Script) : Prop :=
  if script.path = collection.path then '#' ∉ path.toList
  else '#' ∈ path.toList ∧ sameName script.name (Path.splitName path).2 = true

/-- A script is at the path of its collection, with its name after a hash or without. -/
def Places (collection : Collection) (script : Script) : Prop :=
  script.path = collection.path ∨ script.path = collection.path ++ "#" ++ script.name

/-- A playback of a collection that has been read plays a section. Where there is no script, that
is an empty one. -/
theorem IsParsed.exists_section (hparsed : collection.IsParsed) (index : Nat) :
    ∃ part : Section,
      collection.scripts.getD index (.empty collection.path) = part.script collection.path := by
  obtain ⟨_, _, path, hread⟩ := hparsed
  obtain ⟨items, -, rfl, hall, -⟩ := scripts_of_parse hread
  rw [List.getD_eq_getElem?_getD, hall, List.getElem?_map]
  cases (Section.ofSource items)[index]? with
  | none => exact ⟨⟨none, []⟩, rfl⟩
  | some part => exact ⟨part, rfl⟩

theorem IsParsed.places_getD (hparsed : collection.IsParsed) (index : Nat) :
    collection.Places (collection.scripts.getD index (.empty collection.path)) := by
  obtain ⟨⟨heading, lines⟩, hwhole⟩ := hparsed.exists_section index
  rw [hwhole]
  cases heading with
  | none => exact .inl rfl
  | some heading => exact .inr rfl

/-- A path whose file is that of the collection counts the visits of a script if it spells it. -/
theorem countsFor_iff_spells (hplaces : collection.Places script)
    (hunhashed : '#' ∉ collection.path.toList)
    (hfile : sameName collection.path (Path.splitName path).1 = true) :
    script.countsFor path = true ↔ collection.Spells path script := by
  obtain ⟨hplain, ⟨hhashed, hcut⟩ | ⟨hbare, hwhole⟩⟩ := Path.splitName_cases path
  · rw [Spells, Script.countsFor]
    split
    · rename_i hheadless
      rw [hheadless]
      refine iff_of_false (fun hsame => ?_) (not_not_intro hhashed)
      exact hunhashed ((Path.hash_mem_iff_of_sameName hsame).mpr hhashed)
    · rename_i hheaded
      rw [hplaces.resolve_left hheaded]
      generalize Path.splitName path = parts at hplain hcut hfile ⊢
      rw [hcut] at hhashed ⊢
      rw [Path.sameName_hash_iff hunhashed hplain]
      exact and_congr_left' (iff_of_true hfile hhashed)
  · rw [hwhole] at hfile
    rw [Spells, Script.countsFor]
    split
    · rename_i hheadless
      rw [hheadless]
      exact iff_of_true hfile hbare
    · rename_i hheaded
      rw [hplaces.resolve_left hheaded]
      refine iff_of_false (fun hsame => ?_) (fun hnamed => hbare hnamed.1)
      refine hbare ((Path.hash_mem_iff_of_sameName hsame).mp ?_)
      rw [Path.toList_hash]
      exact List.mem_append_right _ List.mem_cons_self

/-- Among several scripts, one with a heading is found by a path that spells it, if the name in the
path is not blank and has no white space around it. -/
theorem spells_of_scriptIndex? {index : Nat}
    (hfound : collection.scriptIndex? (some (Path.splitName path).2) = some index)
    (his : script = collection.scripts.getD index (.empty collection.path))
    (hheaded : script.path ≠ collection.path) (hseveral : collection.scripts.length ≠ 1)
    (hnamed : (Path.splitName path).2 ≠ "")
    (htrimmed : trim (Path.splitName path).2.toList = (Path.splitName path).2.toList) :
    collection.Spells path script := by
  have hsame := sameName_of_scriptIndex? hseveral hfound (.empty collection.path)
  rw [← his, wantedName_of_trim_eq htrimmed, if_neg hnamed] at hsame
  rw [Spells, if_neg hheaded]
  refine ⟨?_, hsame⟩
  obtain ⟨-, ⟨hhashed, -⟩ | ⟨-, hwhole⟩⟩ := Path.splitName_cases path
  · exact hhashed
  · rw [hwhole] at hnamed
    exact absurd rfl hnamed

end Collection

/-- Whether a link stays in the collection that it is written in: its target is the word that names
the running script, or it starts with a hash. -/
def Link.staysInside (link : Link) : Bool :=
  Text.sameWord (String.ofList (trim link.target.toList)) "this" ||
    (trim link.target.toList).head? == some '#'

namespace State

variable {state : State} {link : Link}

theorem resolve_of_other
    (hother : Text.sameWord (String.ofList (trim link.target.toList)) "this" ≠ true) :
    (state.resolve link.target).toList =
      Path.resolveChars state.collection.path.toList (trim link.target.toList) := by
  rw [resolve, if_neg hother, Collection.resolve, Path.toList_resolve, String.toList_ofList]

/-- A target that stays inside names the path of the collection as it is. -/
theorem file_resolve_of_staysInside (hparsed : state.collection.IsParsed)
    (hunhashed : '#' ∉ state.collection.path.toList) (hinside : link.staysInside = true) :
    (Path.splitName (state.resolve link.target)).1 = state.collection.path := by
  by_cases this : Text.sameWord (String.ofList (trim link.target.toList)) "this" = true
  · rw [resolve, if_pos this, ← String.toList_inj, Path.splitName, String.toList_ofList]
    rcases hparsed.places_getD state.scriptIndex with hheadless | hheaded
    · rw [script, hheadless, Path.splitNameChars_of_not_mem hunhashed]
    · rw [script, hheaded, Path.toList_hash, Path.splitNameChars_append hunhashed]
  · have hhash : (trim (trim link.target.toList)).head? = some '#' := by
      rw [Link.staysInside, Bool.eq_false_iff.mpr this, Bool.false_or, beq_iff_eq] at hinside
      rw [Text.trim_trim, hinside]
    rw [Path.splitName, resolve_of_other this,
      Path.splitNameChars_resolveChars_of_head? hunhashed hhash]
    exact String.ofList_toList

/-- Any other target names a path in normal form. -/
theorem normalize_file_resolve (hunhashed : '#' ∉ state.collection.path.toList)
    (houtside : link.staysInside ≠ true) :
    Path.normalize (Path.splitName (state.resolve link.target)).1 =
      (Path.splitName (state.resolve link.target)).1 := by
  obtain ⟨hother, hhashless⟩ := Bool.or_eq_false_iff.mp (Bool.eq_false_iff.mpr houtside)
  have hsolid : (trim (trim link.target.toList)).head? ≠ some '#' := by
    rw [Text.trim_trim]
    exact beq_eq_false_iff_ne.mp hhashless
  have hnormal := Path.normalizeChars_file_resolveChars hunhashed hsolid
  rw [← resolve_of_other (Bool.eq_false_iff.mp hother)] at hnormal
  rw [Path.splitName, Path.normalize, String.toList_ofList, hnormal]

end State

namespace Scene

variable {setup : Setup μ} {scene after : Scene μ} {link : Link}

/-- A link that has been followed has led to a script that its collection finds by the name in the
path. The collection is at the path. -/
theorem landing_of_follow (hmain : scene.state.collection.IsParsed) (hfaithful : setup.IsFaithful)
    (hfollowed : scene.follow setup link = .ok () after) :
    let path := scene.state.resolve link.target
    after.state.collection.IsParsed ∧
      after.state.collection.isAt (Path.splitName path).1 = true ∧
      (scene.state.collection.isAt (Path.splitName path).1 = true →
        after.state.collection = scene.state.collection) ∧
      after.state.collection.scriptIndex? (some (Path.splitName path).2) =
        some after.state.scriptIndex := by
  intro path
  cases htarget : scene.target setup link with
  | error error =>
      rw [follow_of_error htarget] at hfollowed
      cases hfollowed
  | ok place =>
      obtain ⟨collection, index⟩ := place
      rw [follow_of_ok htarget] at hfollowed
      cases hfollowed
      obtain ⟨hnamed, ⟨hhere, rfl⟩ | ⟨hforeign, library, hattached, hreturned⟩⟩ :=
        spec_of_destination htarget
      · exact ⟨hmain, hhere, fun _ => rfl, hnamed⟩
      · obtain ⟨hparsed, hhere⟩ := hfaithful library hattached _ _ hreturned
        exact ⟨hparsed, hhere, fun hown => absurd hown (Bool.eq_false_iff.mp hforeign), hnamed⟩

/-- The path that the target names has the file of the collection that the link has led to. -/
theorem sameName_file_of_follow
    (hmain : scene.state.collection.IsParsed) (hfaithful : setup.IsFaithful)
    (hunhashed : '#' ∉ scene.state.collection.path.toList)
    (hfollowed : scene.follow setup link = .ok () after)
    (hplain : link.staysInside = true ∨
      Path.normalize after.state.collection.path = after.state.collection.path) :
    sameName after.state.collection.path
        (Path.splitName (scene.state.resolve link.target)).1 = true ∧
      '#' ∉ after.state.collection.path.toList := by
  obtain ⟨-, hhere, hown, -⟩ := landing_of_follow hmain hfaithful hfollowed
  by_cases hinside : link.staysInside = true
  · have hfile := State.file_resolve_of_staysInside hmain hunhashed hinside
    rw [hfile] at hown ⊢
    rw [hown (Text.sameName_self _)]
    exact ⟨Text.sameName_self _, hunhashed⟩
  · have hnormal := State.normalize_file_resolve hunhashed hinside
    rw [Collection.isAt, Path.same, hnormal, hplain.resolve_left hinside, Text.sameName_comm]
      at hhere
    obtain ⟨hclean, -⟩ := Path.splitName_cases (scene.state.resolve link.target)
    exact ⟨hhere, fun hhashed => hclean ((Path.hash_mem_iff_of_sameName hhere).mp hhashed)⟩

end Scene

theorem Store.visitCount_of_sameName (store : Store) {path other : String}
    (hsame : sameName path other = true) : store.visitCount path = store.visitCount other := by
  rw [visitCount, visitCount, Text.sameName_iff.mp hsame]

/-- A call asks for visits of the path that a target names, one or more. -/
structure Call.AsksFor (call : Call) (target : String) : Prop where
  method : Method.ofName? call.method = some .visited
  sole : call.arguments.map Argument.text = [target]

namespace Scene

variable {setup : Setup μ} {scene after : Scene μ} {link : Link}

/-- The answer depends on the count of visits only. -/
theorem decide_of_asksFor {call : Call} {target : String} {state : State} {id : StoreId}
    (hasks : call.AsksFor target) (hheld : state.store = some id) (host : Host μ)
    (stage : Stage μ) :
    let visits := ((stage.stores.get id).visitCount (state.resolve target)).toNat
    call.decide host state stage = .ok (decide (1 ≤ visits)) stage := by
  intro visits
  have hargument (index : Nat) : call.argument? index = [target][index]? := by
    rw [Call.argument?, ← List.getElem?_map, hasks.sole]
  have hwanted : Method.wantedCount state call = .ok 1 := by
    rw [Method.wantedCount, hargument]
    rfl
  have hcount : Method.visitCount state stage.stores call =
      .ok ((stage.stores.get id).visitCount (state.resolve target)) := by
    rw [Method.visitCount, hargument, List.getElem?_cons_zero, State.storeId, hheld]
  have honce : Method.hasVisited state stage.stores call = .ok (decide (1 ≤ visits)) := by
    rw [Method.hasVisited, hwanted, hcount]
    exact congrArg Except.ok (decide_eq_decide.mpr (Int.ofNat_le (m := 1)))
  have hverdict : Method.visited.verdict state stage.stores call =
      .ok (some (decide (1 ≤ visits))) := by
    unfold Method.verdict
    rw [honce]
    rfl
  rw [Call.decide, hasks.method]
  dsimp only
  rw [hverdict]

/-- A link that has been followed has landed on a script. The path that the target names in the
scene before counts the visits of that script if and only if it spells the script, and it does so if
the script has been found by its name. Then a condition on the target asks for the visits of the
script, and holds once the script has been passed. -/
theorem countsFor_iff_spells_of_follow
    (hmain : scene.state.collection.IsParsed) (hfaithful : setup.IsFaithful)
    (hunhashed : '#' ∉ scene.state.collection.path.toList)
    (hfollowed : scene.follow setup link = .ok () after)
    (hplain : link.staysInside = true ∨
      Path.normalize after.state.collection.path = after.state.collection.path) :
    let path := scene.state.resolve link.target
    let name := (Path.splitName path).2
    let collection := after.state.collection
    let landed := after.state.script
    (landed.countsFor path = true ↔ collection.Spells path landed) ∧
      (landed.path ≠ collection.path → collection.scripts.length ≠ 1 → name ≠ "" →
        trim name.toList = name.toList → collection.Spells path landed) ∧
      (collection.Spells path landed →
        ∀ id, scene.state.store = some id → ∀ call : Call, call.AsksFor link.target →
          ∀ (host : Host μ) (stage : Stage μ),
            let visits := ((stage.stores.get id).visitCount landed.path).toNat
            call.decide host scene.state stage = .ok (decide (1 ≤ visits)) stage ∧
              ∀ passing : State, passing.script = landed → passing.store = some id →
                visits + 1 < UInt32.size →
                  let left := stage.markVisited passing
                  call.decide host scene.state left = .ok true left) := by
  intro path name collection landed
  obtain ⟨hparsed, -, -, hfound⟩ := landing_of_follow hmain hfaithful hfollowed
  obtain ⟨hfile, hclean⟩ := sameName_file_of_follow hmain hfaithful hunhashed hfollowed hplain
  have hspells : landed.countsFor path = true ↔ collection.Spells path landed :=
    Collection.countsFor_iff_spells (hparsed.places_getD _) hclean hfile
  refine ⟨hspells, ?_, ?_⟩
  · intro hheaded hseveral hnamed htrimmed
    exact Collection.spells_of_scriptIndex? hfound rfl hheaded hseveral hnamed htrimmed
  · intro hspelled id hheld call hasks host stage visits
    have hcounted := hspells.mpr hspelled
    have hasked (stage : Stage μ) : call.decide host scene.state stage =
        .ok (decide (1 ≤ ((stage.stores.get id).visitCount landed.path).toNat)) stage := by
      rw [decide_of_asksFor hasks hheld host stage, Store.visitCount_of_sameName _ hcounted]
    refine ⟨hasked stage, ?_⟩
    intro passing hsame hstored hsmall left
    have honce : [passing.script].countP (·.countsFor landed.path) = 1 := by
      rw [hsame, List.countP_singleton, Script.countsFor, Text.sameName_self, if_pos rfl]
    have hpassed : ((left.stores.get id).visitCount landed.path).toNat = visits + 1 := by
      rw [Stage.visitCount_markVisited_of_held hstored, honce, UInt32.toNat_add]
      exact Nat.mod_eq_of_lt hsmall
    rw [hasked left, hpassed, decide_eq_true (Nat.le_add_left 1 visits)]

/-- A link from an inn to one of two scripts in a yard. The inn asks for it in small letters. -/
theorem countsFor_iff_spells_of_follow_yard :
    let link : Link := ⟨⟨"[[yard#well]]", 1⟩, "yard#well", "yard#well"⟩
    let hall : Script :=
      ⟨Script.defaultName, "inn.md", [.link link], .ofList ["yard.md#well"]⟩
    let inn : Collection := ⟨"inn", "inn.md", "[[yard#well]]", [hall]⟩
    let gate : Script := ⟨"Gate", "yard.md#Gate", [], .empty⟩
    let well : Script := ⟨"Well", "yard.md#Well", [], .empty⟩
    let yard : Collection := ⟨"yard", "yard.md", "# Gate\n# Well", [gate, well]⟩
    let id : StoreId := ⟨0⟩
    let setup : Setup Unit := ⟨.idle, some (Catalogue.empty.insert yard).library, true⟩
    let scene : Scene Unit := ⟨⟨.start inn 0 (some id), .running⟩, ⟨⟨(), .empty⟩, [], []⟩⟩
    let call : Call := ⟨"visited", [⟨"yard#well", false⟩]⟩
    inn.IsParsed ∧ setup.IsFaithful ∧ '#' ∉ inn.path.toList ∧ call.AsksFor link.target ∧
      ∃ after, scene.follow setup link = .ok () after ∧ after.state.script = well ∧
        Path.normalize after.state.collection.path = after.state.collection.path ∧
        well.countsFor (scene.state.resolve link.target) = true ∧
        call.decide setup.host scene.state after.stage = .ok false after.stage ∧
        let left := after.stage.markVisited after.state
        call.decide setup.host scene.state left = .ok true left := by
  intro link hall inn gate well yard id setup scene call
  have hmain : inn.IsParsed := by
    have hlines : Item.sourceLines inn.raw.toList = ["[[yard#well]]".toList] := by cbv
    let sections : List Section := [⟨none, [.link link]⟩]
    have hitems : Item.ofText inn.raw = .ok (sections.flatMap Section.items) := by
      rw [Item.ofText, hlines]
      rfl
    have hscripts : sections.map (Section.script "inn.md") = [hall] := by decide +kernel
    exact ⟨false, _, _, Collection.parse_of_sections hitems (by decide) (by decide) rfl hscripts
      (List.pairwise_singleton _ _) (absurd · Bool.false_ne_true)⟩
  have hserved : yard.IsParsed := by
    have hlines : Item.sourceLines yard.raw.toList = ["# Gate".toList, "# Well".toList] := by cbv
    let sections : List Section := [⟨some ⟨"Gate", 1⟩, []⟩, ⟨some ⟨"Well", 2⟩, []⟩]
    have hitems : Item.ofText yard.raw = .ok (sections.flatMap Section.items) := by
      rw [Item.ofText, hlines]
      rfl
    have hscripts : sections.map (Section.script "yard.md") = [gate, well] := by decide +kernel
    have hdistinct : [gate, well].Pairwise Collection.NamesDiffer := by decide +kernel
    exact ⟨false, _, _, Collection.parse_of_sections hitems (by decide) (by decide) rfl hscripts
      hdistinct (absurd · Bool.false_ne_true)⟩
  have hfaithful : setup.IsFaithful := by
    intro library hattached
    rw [← Option.some.inj hattached]
    exact Catalogue.isFaithful_insert Catalogue.isFaithful_empty hserved
  have hunhashed : '#' ∉ inn.path.toList := by decide
  have hasks : call.AsksFor link.target := ⟨by decide +kernel, rfl⟩
  have htarget : scene.target setup link = .ok (yard, 1) := by
    have hpath : scene.state.resolve link.target = "yard.md#well" := by decide +kernel
    have hcut : Path.splitName "yard.md#well" = ("yard.md", "well") := by decide +kernel
    have hforeign : scene.state.collection.isAt "yard.md" = false := by decide +kernel
    have hreturned : (Catalogue.empty.insert yard).library "yard.md" = .ok yard := by
      rw [Catalogue.library_insert, if_pos (by decide +kernel)]
    have hnamed : yard.scriptIndex? (some "well") = some 1 := by decide +kernel
    rw [Scene.target, hpath, hcut]
    dsimp only
    rw [destination, hforeign]
    simp only [hreturned, hnamed]
    rfl
  let after := ((scene.noteUnannounced link).note
    (.jumping (scene.state.resolve link.target))).enter yard 1
  have hfollowed : scene.follow setup link = .ok () after := follow_of_ok htarget
  have hnormal : Path.normalize after.state.collection.path = after.state.collection.path := by
    decide +kernel
  obtain ⟨hcounted, hbyName, hasked⟩ :=
    countsFor_iff_spells_of_follow hmain hfaithful hunhashed hfollowed (.inr hnormal)
  have hspelled := hbyName (by decide +kernel) (by decide) (by decide +kernel) (by decide +kernel)
  obtain ⟨hearly, hlater⟩ := hasked hspelled id rfl call hasks setup.host after.stage
  have hvisits : ((after.stage.stores.get id).visitCount after.state.script.path).toNat = 0 := by
    decide +kernel
  have hheld : after.state.store = some id := by decide +kernel
  rw [hvisits] at hearly hlater
  exact ⟨hmain, hfaithful, hunhashed, hasks, after, hfollowed, rfl, hnormal, hcounted.mpr hspelled,
    hearly, hlater after.state rfl hheld (by decide)⟩

/-- A single script has every name, so a link that misspells it lands on it all the same. But the
condition counts the visits of the path that the target names. -/
theorem not_forall_countsFor_of_follow :
    ¬ ∀ (setup : Setup Unit) (scene after : Scene Unit) (link : Link),
      scene.state.collection.IsParsed → setup.IsFaithful →
      scene.follow setup link = .ok () after →
      after.state.script.countsFor (scene.state.resolve link.target) = true := by
  intro hagrees
  let link : Link := ⟨⟨"[[#b]]", 2⟩, "#b", "b"⟩
  let sole : Script := ⟨"A", "x.md#A", [.link link], .ofList ["x.md#b"]⟩
  let collection : Collection := ⟨"x", "x.md", "# A\n[[#b]]", [sole]⟩
  let setup : Setup Unit := ⟨.idle, none, true⟩
  let scene : Scene Unit := ⟨⟨.start collection 0 none, .running⟩, ⟨⟨(), .empty⟩, [], []⟩⟩
  have hparsed : collection.IsParsed := by
    have hlines : Item.sourceLines collection.raw.toList = ["# A".toList, "[[#b]]".toList] := by cbv
    let sections : List Section := [⟨some ⟨"A", 1⟩, [.link link]⟩]
    have hitems : Item.ofText collection.raw = .ok (sections.flatMap Section.items) := by
      rw [Item.ofText, hlines]
      rfl
    have hscripts : sections.map (Section.script "x.md") = [sole] := by decide +kernel
    exact ⟨false, _, _, Collection.parse_of_sections hitems (by decide) (by decide) rfl hscripts
      (List.pairwise_singleton _ _) (absurd · Bool.false_ne_true)⟩
  have hpath : scene.state.resolve link.target = "x.md#b" := by decide +kernel
  have htarget : scene.target setup link = .ok (collection, 0) := by
    have hcut : Path.splitName "x.md#b" = ("x.md", "b") := by decide +kernel
    have hown : scene.state.collection.isAt "x.md" = true := by decide +kernel
    rw [Scene.target, hpath, hcut]
    dsimp only
    rw [destination, hown]
    rfl
  let after := ((scene.noteUnannounced link).note
    (.jumping (scene.state.resolve link.target))).enter collection 0
  have hfollowed : scene.follow setup link = .ok () after := follow_of_ok htarget
  have hlanded : after.state.script = sole := rfl
  have halone : setup.IsFaithful := by simp [Setup.IsFaithful, setup]
  have hcounts := hagrees setup scene after link hparsed halone hfollowed
  have hdiffers : sole.countsFor "x.md#b" = false := by decide +kernel
  rw [hlanded, hpath, hdiffers] at hcounts
  cases hcounts

end Scene

end Dialogue
