/-
# Finding scripts by their names

The scripts of a collection that has been read have names without white space around them, and no
two of these names match. So a request for the name of a script finds this script and no other, and
a playback can start with it. A blank name asks for the script without a heading, though. A heading
with nothing but an open comment gives its script a blank name, and this script is found by it only
if the collection has no other.
-/

import Dialogue.Playback.State
import Dialogue.Proofs.Collection.Sections
import Dialogue.Proofs.Text.Trim

namespace Dialogue

open Text (sameName trim trim_trim)

theorem Grammar.trim_of_heading? {text name : List Char}
    (hread : Grammar.heading? text = some name) : trim name = name := by
  simp only [Grammar.heading?] at hread
  split at hread
  · split at hread
    · split at hread <;> cases hread <;> exact trim_trim _
    · cases hread
  · cases hread

namespace Item

/-- A heading has no white space around its name. -/
def IsTrimmed : Item → Prop
  | heading title => trim title.name.toList = title.name.toList
  | line _ => True

theorem isTrimmed_of_ofLine? {text : List Char} {lineNo : Nat} {item : Item}
    (hread : ofLine? text lineNo = .ok (some item)) : item.IsTrimmed := by
  rw [ofLine?] at hread
  split at hread
  · cases hread
  · split at hread
    · rename_i name hform
      cases hread
      rw [IsTrimmed, String.toList_ofList]
      exact Grammar.trim_of_heading? hform
    · cases hclassified : Line.classifyChars (trim text) lineNo with
      | error error =>
          rw [hclassified] at hread
          cases hread
      | ok line =>
          rw [hclassified] at hread
          cases hread
          exact trivial

theorem isTrimmed_of_ofLines {lineNo : Nat} {lines : List (List Char)} {items : List Item}
    (hread : ofLines lineNo lines = .ok items) : ∀ item ∈ items, item.IsTrimmed := by
  induction lines generalizing lineNo items with
  | nil =>
      cases hread
      exact fun _ hmem => absurd hmem List.not_mem_nil
  | cons text rest ih =>
      rw [ofLines] at hread
      split at hread
      · cases hread
      · rename_i item hfirst
        split at hread
        · cases hread
        · rename_i later hremaining
          cases hread
          intro other hmem
          rcases List.mem_append.mp hmem with hown | hafter
          · rw [Option.mem_toList] at hown
            rw [hown] at hfirst
            exact isTrimmed_of_ofLine? hfirst
          · exact ih hremaining other hafter

end Item

theorem Section.trim_name_script {part : Section} (htrimmed : ∀ item ∈ part.items, item.IsTrimmed)
    (path : String) : trim (part.script path).name.toList = (part.script path).name.toList := by
  obtain ⟨heading, lines⟩ := part
  cases heading with
  | none =>
      show trim Script.defaultName.toList = Script.defaultName.toList
      decide
  | some heading => exact htrimmed (.heading heading) List.mem_cons_self

namespace Collection

variable {validate : Bool} {text path : String} {collection : Collection} {script : Script}
  {index : Nat}

/-- The scripts of a collection that has been read have trimmed names. -/
theorem trim_name_of_parse (hread : parse validate text path = .ok collection) :
    ∀ script ∈ collection.scripts, trim script.name.toList = script.name.toList := by
  obtain ⟨items, hclassified, -, hall, -⟩ := scripts_of_parse hread
  intro script hmem
  rw [hall] at hmem
  obtain ⟨part, hlisted, rfl⟩ := List.mem_map.mp hmem
  apply Section.trim_name_script
  intro item hown
  apply Item.isTrimmed_of_ofLines hclassified
  rw [← Section.flatMap_items_ofSource items]
  exact List.mem_flatMap.mpr ⟨part, hlisted, hown⟩

/-- A trimmed name asks for itself, unless it is blank. -/
theorem wantedName_of_trim_eq {name : String} (htrimmed : trim name.toList = name.toList) :
    wantedName (some name) = if name = "" then Script.defaultName else name := by
  rw [wantedName, Option.getD_some, htrimmed]
  split
  · rename_i hblank
    rw [if_pos (String.toList_eq_nil_iff.mp hblank)]
  · rename_i hsolid
    rw [if_neg (mt String.toList_eq_nil_iff.mpr hsolid), String.ofList_toList]

/-- Among scripts with different names, a request finds the one whose name it matches. -/
theorem scriptIndex?_eq_some {name : Option String}
    (hdistinct : collection.scripts.Pairwise NamesDiffer)
    (hlisted : collection.scripts[index]? = some script)
    (hsame : sameName script.name (wantedName name) = true) :
    collection.scriptIndex? name = some index := by
  obtain ⟨hbound, rfl⟩ := List.getElem?_eq_some_iff.mp hlisted
  rw [scriptIndex?]
  split
  · rename_i hsingle
    have hsole := congrArg List.length hsingle
    rw [List.length_singleton] at hsole
    exact congrArg some (by omega)
  · rw [List.findIdx?_eq_some_iff_getElem]
    refine ⟨hbound, hsame, fun earlier hbefore hmatched => ?_⟩
    have hdiffer := List.pairwise_iff_getElem.mp hdistinct earlier index (by omega) hbound hbefore
    rw [Text.sameName_comm] at hsame
    rw [NamesDiffer, Text.sameName_trans hmatched hsame] at hdiffer
    cases hdiffer

/-- Among several scripts one is found by its name only. -/
theorem sameName_of_scriptIndex? {name : Option String}
    (hseveral : collection.scripts.length ≠ 1) (hfound : collection.scriptIndex? name = some index)
    (otherwise : Script) :
    sameName (collection.scripts.getD index otherwise).name (wantedName name) = true := by
  rw [scriptIndex?] at hfound
  split at hfound
  · rename_i hsingle
    rw [hsingle] at hseveral
    exact absurd rfl hseveral
  · obtain ⟨hbound, hsame, -⟩ := List.findIdx?_eq_some_iff_getElem.mp hfound
    rw [List.getD_eq_getElem?_getD, List.getElem?_eq_getElem hbound]
    exact hsame

/-- A playback starts with a script if the collection finds the script by the name. -/
theorem start_eq_ok_iff (hnonempty : collection.scripts ≠ []) (name : String)
    (store : Option StoreId) :
    Playback.start collection (some name) store =
        .ok ⟨.start collection index store, .notStarted⟩ ↔
      collection.scriptIndex? (some name) = some index := by
  unfold Playback.start
  rw [if_neg hnonempty]
  cases hfound : collection.scriptIndex? (some name) with
  | none => simp
  | some other =>
      dsimp only
      constructor
      · intro hstarted
        have hsame := congrArg (fun playback => playback.state.scriptIndex) (Except.ok.inj hstarted)
        exact congrArg some hsame
      · intro hsame
        rw [Option.some.inj hsame]

/-- A collection that has been read finds a script by its own name, and a playback starts with the
script by this name, exactly if the name is not blank or there is no other script. -/
theorem scriptIndex?_name_iff_of_parse (hread : parse validate text path = .ok collection)
    (hlisted : collection.scripts[index]? = some script) :
    (collection.scriptIndex? (some script.name) = some index ↔
        script.name ≠ "" ∨ collection.scripts.length = 1) ∧
      ∀ store, Playback.start collection (some script.name) store =
          .ok ⟨.start collection index store, .notStarted⟩ ↔
        script.name ≠ "" ∨ collection.scripts.length = 1 := by
  have hmem := List.mem_of_getElem? hlisted
  obtain ⟨-, -, -, -, hdistinct⟩ := scripts_of_parse hread
  have hwanted := wantedName_of_trim_eq (trim_name_of_parse hread script hmem)
  have hfound : collection.scriptIndex? (some script.name) = some index ↔
      script.name ≠ "" ∨ collection.scripts.length = 1 := by
    by_cases hblank : script.name = ""
    · rw [if_pos hblank] at hwanted
      constructor
      · -- The script that a blank name asks for has another name.
        intro hfound
        refine .inr (Decidable.byContradiction fun hseveral => ?_)
        have hsame := sameName_of_scriptIndex? hseveral hfound script
        rw [List.getD_eq_getElem?_getD, hlisted, Option.getD_some, hwanted, hblank] at hsame
        exact absurd hsame (by decide +kernel)
      · intro halone
        obtain ⟨sole, hsingle⟩ := List.length_eq_one_iff.mp (halone.resolve_left (absurd hblank))
        rw [hsingle] at hlisted
        have hbound := (List.getElem?_eq_some_iff.mp hlisted).1
        rw [scriptIndex?, hsingle]
        exact congrArg some (Nat.lt_one_iff.mp hbound).symm
    · rw [if_neg hblank] at hwanted
      refine iff_of_true (scriptIndex?_eq_some hdistinct hlisted ?_) (.inl hblank)
      rw [hwanted, Text.sameName_self]
  exact ⟨hfound, fun store => (start_eq_ok_iff (List.ne_nil_of_mem hmem) _ store).trans hfound⟩

/-- A heading with white space around its name and an open comment after it. -/
theorem scriptIndex?_name_iff_of_parse_door :
    let text := "# Hall\n#  Door  %% left open"
    let hall : Script := ⟨"Hall", "inn.md#Hall", [], .empty⟩
    let door : Script := ⟨"Door", "inn.md#Door", [], .empty⟩
    let collection : Collection := ⟨"inn", "inn.md", text, [hall, door]⟩
    parse true text "inn.md" = .ok collection ∧ collection.scripts[1]? = some door ∧
      collection.scriptIndex? (some door.name) = some 1 ∧
      Playback.start collection (some door.name) none =
        .ok ⟨.start collection 1 none, .notStarted⟩ := by
  intro text hall door collection
  have hlines : Item.sourceLines "# Hall\n#  Door  %% left open".toList =
      ["# Hall".toList, "#  Door  %% left open".toList] := by cbv
  let sections : List Section := [⟨some ⟨"Hall", 1⟩, []⟩, ⟨some ⟨"Door", 2⟩, []⟩]
  have hclassified : Item.ofText text = .ok (sections.flatMap Section.items) := by
    rw [Item.ofText, hlines]
    rfl
  have hscripts : sections.map (Section.script "inn.md") = [hall, door] := by decide +kernel
  have hdistinct : [hall, door].Pairwise NamesDiffer := by decide +kernel
  have hvalid : ∀ script ∈ [hall, door], script.invalidCondition? = none := by decide
  have hread : parse true text "inn.md" = .ok collection :=
    parse_of_sections hclassified (by decide) (by decide) (by decide +kernel) hscripts hdistinct
      fun _ => hvalid
  have hlisted : collection.scripts[1]? = some door := rfl
  obtain ⟨hfound, hstarts⟩ := scriptIndex?_name_iff_of_parse hread hlisted
  have hnamed : door.name ≠ "" ∨ collection.scripts.length = 1 := .inl (by decide)
  exact ⟨hread, hlisted, hfound.mpr hnamed, (hstarts none).mpr hnamed⟩

/-- A heading with nothing but an open comment opens a script that its name does not find: a blank
name asks for a script without a heading, and there is none. -/
theorem not_forall_scriptIndex?_name :
    ¬ ∀ (text path : String) (collection : Collection) (index : Nat) (script : Script),
      parse true text path = .ok collection → collection.scripts[index]? = some script →
        collection.scriptIndex? (some script.name) = some index := by
  intro hfinds
  let hall : Script := ⟨"Hall", "inn.md#Hall", [], .empty⟩
  let blank : Script := ⟨"", "inn.md#", [], .empty⟩
  have hlines : Item.sourceLines "# Hall\n# %%".toList = ["# Hall".toList, "# %%".toList] := by cbv
  let sections : List Section := [⟨some ⟨"Hall", 1⟩, []⟩, ⟨some ⟨"", 2⟩, []⟩]
  have hclassified : Item.ofText "# Hall\n# %%" = .ok (sections.flatMap Section.items) := by
    rw [Item.ofText, hlines]
    rfl
  have hscripts : sections.map (Section.script "inn.md") = [hall, blank] := by decide +kernel
  have hdistinct : [hall, blank].Pairwise NamesDiffer := by decide +kernel
  have hvalid : ∀ script ∈ [hall, blank], script.invalidCondition? = none := by decide
  have hread : parse true "# Hall\n# %%" "inn.md" = .ok ⟨"inn", "inn.md", _, [hall, blank]⟩ :=
    parse_of_sections hclassified (by decide) (by decide) (by decide +kernel) hscripts hdistinct
      fun _ => hvalid
  have hfound := hfinds _ _ _ 1 blank hread rfl
  exact absurd hfound (by decide +kernel)

end Collection

end Dialogue
