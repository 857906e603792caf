/-
# Links inside a collection

A link whose target is a hash and a name stays in its collection, and it lands on the script of the
name. The target is put after the path of the collection and cut off again at the first hash. So
this holds exactly for the collections whose own path has no hash: with one, the cut is made too
early, the name gets a part of the path in front of it, and the link leads anywhere but to the
script.
-/

import Dialogue.Proofs.Playback.Landing
import Dialogue.Proofs.Text.Edges

namespace Dialogue

open Text (isBlank lowercaseAfter sameName trim trimLeft trimRight)

variable {μ : Type}

namespace Text

theorem isBlank_hash : isBlank '#' = false := by
  decide +kernel

theorem trim_hash_cons {name : List Char} (htrimmed : trim name = name) :
    trim ('#' :: name) = '#' :: name := by
  rw [trim, trimLeft_cons_of_not_isBlank name isBlank_hash,
    trimRight_cons_of_not_isBlank name isBlank_hash, trimRight_eq_of_trim_eq htrimmed]

/-- Trimming takes nothing from a trimmed name that stands after a hash. -/
theorem trim_append_hash {name : List Char} (htrimmed : trim name = name) (hsolid : name ≠ [])
    (text : List Char) : ∃ before, trim (text ++ '#' :: name) = before ++ '#' :: name := by
  have hstart : ∃ before, trimLeft (text ++ '#' :: name) = before ++ '#' :: name := by
    induction text with
    | nil => exact ⟨[], trimLeft_cons_of_not_isBlank name isBlank_hash⟩
    | cons c rest ih =>
        by_cases hblank : isBlank c = true
        · rw [List.cons_append, trimLeft_cons_of_isBlank _ hblank]
          exact ih
        · exact ⟨c :: rest, trimLeft_cons_of_not_isBlank _ (Bool.eq_false_iff.mpr hblank)⟩
  obtain ⟨before, hstart⟩ := hstart
  refine ⟨before, ?_⟩
  obtain ⟨c, rest, rfl⟩ := List.exists_cons_of_ne_nil hsolid
  have hlast : (before ++ '#' :: c :: rest).getLast? = (c :: rest).getLast? := by
    rw [List.getLast?_append, List.getLast?_cons_cons,
      Option.or_of_isSome (List.getLast?_isSome.mpr hsolid)]
  rw [trim, hstart, trimRight_eq_self_iff, hlast]
  exact (trim_eq_self_iff.mp htrimmed).2

end Text

namespace State

variable {state : State} {name : String}

/-- A hash and a name are put after the path of the collection. -/
theorem resolve_hash (state : State) (htrimmed : trim name.toList = name.toList) :
    state.resolve ("#" ++ name) = state.collection.path ++ "#" ++ name := by
  have htarget : ("#" ++ name).toList = '#' :: name.toList := by
    rw [String.toList_append]
    rfl
  have hkept : trim ("#" ++ name).toList = '#' :: name.toList := by
    rw [htarget, Text.trim_hash_cons htrimmed]
  have hother : ¬ Text.sameWord (String.ofList (trim ("#" ++ name).toList)) "this" = true := by
    rw [Text.sameWord_iff, hkept, String.toList_ofList]
    intro hsame
    have hfirst : some '#'.toLower = some 't' := congrArg List.head? hsame
    cases hfirst
  have hhash : (trim ('#' :: name.toList)).head? = some '#' := by
    rw [Text.trim_hash_cons htrimmed]
    rfl
  rw [resolve, if_neg hother, ← String.toList_inj, Collection.resolve, Path.toList_resolve,
    String.toList_ofList, hkept, Path.resolveChars_of_head? _ hhash, Text.trim_hash_cons htrimmed,
    Path.toList_hash]

end State

namespace Path

/-- A path without a hash is cut off a name that is put after it. -/
theorem splitName_hash {file : String} (hunhashed : '#' ∉ file.toList) (name : String) :
    splitName (file ++ "#" ++ name) = (file, name) := by
  rw [splitName, toList_hash, splitNameChars_append hunhashed]
  simp

/-- A path with a hash is cut at this hash, and the name keeps the rest of the path. -/
theorem splitName_hash_of_mem {path : String} (hhashed : '#' ∈ path.toList) (name : String) :
    ∃ file rest, splitName (path ++ "#" ++ name) = (file, rest ++ "#" ++ name) := by
  obtain ⟨file, rest, hwhole, hunhashed⟩ := List.eq_append_cons_of_mem hhashed
  refine ⟨String.ofList file, String.ofList rest, ?_⟩
  rw [splitName, toList_hash, hwhole, List.append_assoc, List.cons_append,
    splitNameChars_append hunhashed,
    ← String.ofList_toList (s := String.ofList rest ++ "#" ++ name), toList_hash,
    String.toList_ofList]

end Path

namespace Scene

variable {setup : Setup μ} {scene : Scene μ} {link : Link} {script : Script} {index : Nat}
  {name : String}

/-- In a collection of several scripts, a hash and the name of a script lead to this script if there
is no hash in the path of the collection, and else to anything but the script. -/
theorem target_hash_iff (hparsed : scene.state.collection.IsParsed)
    (hseveral : scene.state.collection.scripts.length ≠ 1)
    (hlisted : scene.state.collection.scripts[index]? = some script) (hsolid : script.name ≠ "")
    (hspelled : sameName script.name name = true) (htarget : link.target = "#" ++ name) :
    scene.target setup link = .ok (scene.state.collection, index) ↔
      '#' ∉ scene.state.collection.path.toList := by
  obtain ⟨_, _, _, hread⟩ := hparsed
  have htrimmed := Text.trim_eq_of_sameName hspelled
    (Collection.trim_name_of_parse hread script (List.mem_of_getElem? hlisted))
  have hnamed : name ≠ "" := mt (Text.eq_empty_iff_of_sameName hspelled).mpr hsolid
  have hpath : scene.state.resolve link.target = scene.state.collection.path ++ "#" ++ name := by
    rw [htarget, scene.state.resolve_hash htrimmed]
  constructor
  · intro hfound hhashed
    obtain ⟨file, rest, hcut⟩ := Path.splitName_hash_of_mem hhashed name
    rw [← hpath] at hcut
    obtain ⟨hbyName, -⟩ := (target_eq_ok_iff hcut).mp hfound
    have hsame := Collection.sameName_of_scriptIndex? hseveral hbyName script
    -- The name that is looked up keeps a part of the path in front of it, so it is longer than the
    -- name of the script that has been found.
    obtain ⟨before, hkept⟩ := Text.trim_append_hash htrimmed
      (mt String.toList_eq_nil_iff.mp hnamed) rest.toList
    have hwanted : Collection.wantedName (some (rest ++ "#" ++ name)) =
        String.ofList before ++ "#" ++ name := by
      rw [Collection.wantedName, Option.getD_some, Path.toList_hash, hkept]
      split
      · rename_i hblank
        exact absurd hblank (by simp)
      · rw [← String.toList_inj, Path.toList_hash, String.toList_ofList, String.toList_ofList]
    rw [List.getD_eq_getElem?_getD, hlisted, Option.getD_some, hwanted] at hsame
    rw [Text.sameName_comm] at hspelled
    have hmatched := Text.sameName_trans hspelled hsame
    rw [Path.sameName_hash_eq_false (.inr rfl)] at hmatched
    cases hmatched
  · intro hunhashed
    obtain ⟨-, -, -, -, hdistinct⟩ := Collection.scripts_of_parse hread
    have hwanted : Collection.wantedName (some name) = name := by
      rw [Collection.wantedName_of_trim_eq htrimmed, if_neg hnamed]
    have hfound : scene.state.collection.scriptIndex? (some name) = some index :=
      Collection.scriptIndex?_eq_some hdistinct hlisted (hwanted.symm ▸ hspelled)
    have hown : scene.state.collection.isAt scene.state.collection.path = true :=
      Text.sameName_self _
    have hcut := Path.splitName_hash hunhashed name
    rw [← hpath] at hcut
    exact (target_eq_ok_iff hcut).mpr ⟨hfound, .inl ⟨hown, rfl⟩⟩

/-- A link whose target is a hash and the name of one of several scripts, in any spelling that
matches, lands on the script whatever library there is, exactly if the path of the collection has no
hash. -/
theorem follow_hash_iff (hparsed : scene.state.collection.IsParsed)
    (hseveral : 2 ≤ scene.state.collection.scripts.length)
    (hlisted : scene.state.collection.scripts[index]? = some script) (hsolid : script.name ≠ "")
    (hspelled : sameName script.name name = true) (htarget : link.target = "#" ++ name) :
    ((∃ after, scene.follow setup link = .ok () after ∧
          after.state.collection = scene.state.collection ∧ after.state.scriptIndex = index) ↔
        '#' ∉ scene.state.collection.path.toList) ∧
      ('#' ∉ scene.state.collection.path.toList → ∀ library,
        scene.follow { setup with library } link = scene.follow setup link) := by
  have hleads (setup : Setup μ) : scene.target setup link = .ok (scene.state.collection, index) ↔
      '#' ∉ scene.state.collection.path.toList :=
    target_hash_iff hparsed (by omega) hlisted hsolid hspelled htarget
  constructor
  · rw [← hleads setup]
    constructor
    · rintro ⟨after, hfollowed, hsame, hhere⟩
      cases hfound : scene.target setup link with
      | error error =>
          rw [follow_of_error hfound] at hfollowed
          cases hfollowed
      | ok place =>
          obtain ⟨collection, other⟩ := place
          rw [follow_of_ok hfound] at hfollowed
          cases hfollowed
          rw [← hsame, ← hhere]
          rfl
    · intro hfound
      exact ⟨_, follow_of_ok hfound, rfl, rfl⟩
  · intro hunhashed library
    rw [follow_of_ok ((hleads setup).mpr hunhashed), follow_of_ok ((hleads _).mpr hunhashed)]

/-- A link in other letters, from a hall to a door that has a hash in its name. -/
theorem follow_hash_iff_door :
    let link : Link := ⟨⟨"[[#DOOR #2]]", 2⟩, "#DOOR #2", "DOOR #2"⟩
    let hall : Script := ⟨"Hall", "inn.md#Hall", [.link link], .ofList ["inn.md#DOOR #2"]⟩
    let door : Script := ⟨"Door #2", "inn.md#Door #2", [], .empty⟩
    let inn : Collection := ⟨"inn", "inn.md", "# Hall\n[[#DOOR #2]]\n# Door #2", [hall, door]⟩
    let setup : Setup Unit := ⟨.idle, none, true⟩
    let scene : Scene Unit := ⟨⟨.start inn 0 none, .running⟩, ⟨⟨(), .empty⟩, [], []⟩⟩
    inn.IsParsed ∧ 2 ≤ inn.scripts.length ∧ inn.scripts[1]? = some door ∧ door.name ≠ "" ∧
      sameName door.name "DOOR #2" = true ∧ link.target = "#" ++ "DOOR #2" ∧
      '#' ∉ inn.path.toList ∧
      ∃ after, scene.follow setup link = .ok () after ∧ after.state.script = door ∧
        ∀ library, scene.follow { setup with library } link = .ok () after := by
  intro link hall door inn setup scene
  have hparsed : inn.IsParsed := by
    have hlines : Item.sourceLines inn.raw.toList =
        ["# Hall".toList, "[[#DOOR #2]]".toList, "# Door #2".toList] := by cbv
    let sections : List Section := [⟨some ⟨"Hall", 1⟩, [.link link]⟩, ⟨some ⟨"Door #2", 3⟩, []⟩]
    have hitems : Item.ofText inn.raw = .ok (sections.flatMap Section.items) := by
      rw [Item.ofText, hlines]
      rfl
    have hscripts : sections.map (Section.script "inn.md") = [hall, door] := by decide +kernel
    have hdistinct : [hall, door].Pairwise Collection.NamesDiffer := by decide +kernel
    exact ⟨false, _, _, Collection.parse_of_sections hitems (by decide) (by decide) rfl hscripts
      hdistinct (absurd · Bool.false_ne_true)⟩
  have hseveral : 2 ≤ inn.scripts.length := by decide
  have hlisted : inn.scripts[1]? = some door := rfl
  have hnamed : door.name ≠ "" := by decide
  have hspelled : sameName door.name "DOOR #2" = true := by decide +kernel
  have htarget : link.target = "#" ++ "DOOR #2" := by decide
  have hunhashed : '#' ∉ inn.path.toList := by decide
  obtain ⟨hlands, halike⟩ :=
    @follow_hash_iff Unit setup scene link door 1 "DOOR #2" hparsed hseveral hlisted hnamed hspelled
      htarget
  obtain ⟨after, hfollowed, hown, hindex⟩ := hlands.mpr hunhashed
  have hlanded : after.state.script = door := by
    rw [State.script, hown, hindex]
    rfl
  exact ⟨hparsed, hseveral, hlisted, hnamed, hspelled, htarget, hunhashed, after, hfollowed,
    hlanded, fun library => (halike hunhashed library).trans hfollowed⟩

/-- In a collection that is read from a path with a hash, a link does not reach the script it
names. -/
theorem not_forall_follow_hash :
    ¬ ∀ (setup : Setup Unit) (scene : Scene Unit) (link : Link) (index : Nat) (script : Script),
      scene.state.collection.IsParsed → 2 ≤ scene.state.collection.scripts.length →
      scene.state.collection.scripts[index]? = some script → script.name ≠ "" →
      link.target = "#" ++ script.name →
      ∃ after, scene.follow setup link = .ok () after ∧ after.state.script = script := by
  intro hreaches
  let link : Link := ⟨⟨"[[#B]]", 2⟩, "#B", "B"⟩
  let first : Script := ⟨"A", "a#b.md#A", [.link link], .ofList ["a#b.md#B"]⟩
  let second : Script := ⟨"B", "a#b.md#B", [], .empty⟩
  let collection : Collection := ⟨"a#b", "a#b.md", "# A\n[[#B]]\n# B", [first, second]⟩
  let setup : Setup Unit := ⟨.idle, none, true⟩
  let scene : Scene Unit := ⟨⟨.start collection 0 none, .running⟩, ⟨⟨(), .empty⟩, [], []⟩⟩
  have hparsed : collection.IsParsed := by
    have hlines : Item.sourceLines collection.raw.toList =
        ["# A".toList, "[[#B]]".toList, "# B".toList] := by cbv
    let sections : List Section := [⟨some ⟨"A", 1⟩, [.link link]⟩, ⟨some ⟨"B", 3⟩, []⟩]
    have hitems : Item.ofText collection.raw = .ok (sections.flatMap Section.items) := by
      rw [Item.ofText, hlines]
      rfl
    have hscripts : sections.map (Section.script "a#b.md") = [first, second] := by decide +kernel
    have hdistinct : [first, second].Pairwise Collection.NamesDiffer := by decide +kernel
    exact ⟨false, _, _, Collection.parse_of_sections hitems (by decide) (by decide) rfl hscripts
      hdistinct (absurd · Bool.false_ne_true)⟩
  have hnowhere : scene.target setup link =
      .error (.missingScript "a#b.md#B" (some ⟨"a#b", "A", 2⟩)) := by
    have hpath : scene.state.resolve link.target = "a#b.md#B" := by decide +kernel
    have hcut : Path.splitName "a#b.md#B" = ("a", "b.md#B") := by decide +kernel
    have hforeign : scene.state.collection.isAt "a" = false := by decide +kernel
    rw [Scene.target, hpath, hcut]
    dsimp only
    rw [destination, hforeign]
    rfl
  obtain ⟨after, hfollowed, -⟩ := hreaches setup scene link 1 second hparsed (by decide) rfl
    (by decide) (by decide)
  rw [follow_of_error hnowhere] at hfollowed
  cases hfollowed

end Scene

end Dialogue
