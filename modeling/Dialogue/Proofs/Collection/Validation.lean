/-
# Checked collections

A source may be read with a check of its conditions. Here it is shown what the check is good for: in
a collection that has passed it, the arguments of every tag with a condition can be read as one.
-/

import Dialogue.Collection.OfText

namespace Dialogue

/-- The condition of a tag can be read, if the tag has one. -/
def Tag.IsReadable (tag : Tag) : Prop :=
  tag.hasCondition = true → ∃ condition, Condition.parse tag.args = .ok condition

/-- Every condition in a script can be read. -/
def Script.IsReadable (script : Script) : Prop :=
  ∀ tag, .tag tag ∈ script.lines → tag.IsReadable

/-- Every condition in a collection can be read. -/
def Collection.IsReadable (collection : Collection) : Prop :=
  ∀ script ∈ collection.scripts, script.IsReadable

/-- A collection that comes from a source whose conditions have been checked. -/
def Collection.IsChecked (collection : Collection) : Prop :=
  ∃ text path, parse true text path = .ok collection

theorem Tag.isReadable_iff {tag : Tag} : tag.IsReadable ↔ tag.invalidCondition? = none := by
  rw [IsReadable, invalidCondition?]
  by_cases hconditional : tag.hasCondition = true
  · rw [if_pos hconditional]
    cases hread : Condition.parse tag.args with
    | error cause =>
        constructor
        · intro hreadable
          obtain ⟨_, himpossible⟩ := hreadable hconditional
          cases himpossible
        · intro himpossible
          cases himpossible
    | ok condition => exact ⟨fun _ => rfl, fun _ _ => ⟨condition, rfl⟩⟩
  · rw [if_neg hconditional]
    exact ⟨fun _ => rfl, fun _ hholds => absurd hholds hconditional⟩

/-- The check of a script finds nothing exactly when every condition in it can be read. -/
theorem Script.isReadable_iff {script : Script} :
    script.IsReadable ↔ script.invalidCondition? = none := by
  rw [IsReadable, invalidCondition?, List.findSome?_eq_none_iff]
  constructor
  · intro hreadable tag hmem
    obtain ⟨line, hfound, hisTag⟩ := List.mem_filterMap.mp hmem
    cases line with
    | tag line =>
        cases hisTag
        rw [Tag.isReadable_iff.mp (hreadable tag hfound), Option.map_none]
    | cue | speech | link | quote => cases hisTag
  · intro hpasses tag hmem
    have hvalid := hpasses tag (List.mem_filterMap.mpr ⟨.tag tag, hmem, rfl⟩)
    rw [Option.map_eq_none_iff] at hvalid
    exact Tag.isReadable_iff.mpr hvalid

theorem Script.isReadable_empty (path : String) : (Script.empty path).IsReadable :=
  fun _ hmem => absurd hmem List.not_mem_nil

namespace Collection

/-- Scripts are added one by one, each after it has been checked. -/
theorem isReadable_of_addScripts {name : String} {earlier added scripts : List Script}
    (hreadable : ∀ script ∈ earlier, script.IsReadable)
    (hdone : addScripts true name earlier added = .ok scripts) :
    ∀ script ∈ scripts, script.IsReadable := by
  induction added generalizing earlier with
  | nil =>
      cases hdone
      exact hreadable
  | cons script later ih =>
      rw [addScripts] at hdone
      split at hdone
      · cases hdone
      · split at hdone
        · cases hdone
        · rename_i hpasses
          rw [if_pos rfl] at hpasses
          refine ih ?_ hdone
          intro other hmem
          rcases List.mem_append.mp hmem with hbefore | hlast
          · exact hreadable other hbefore
          · rw [List.mem_singleton.mp hlast]
            exact Script.isReadable_iff.mpr hpasses

/-- In a collection that has passed the check, every condition can be read. -/
theorem IsChecked.isReadable {collection : Collection} (hchecked : collection.IsChecked) :
    collection.IsReadable := by
  obtain ⟨text, path, hread⟩ := hchecked
  simp only [parse] at hread
  split at hread
  · cases hread
  · split at hread
    · cases hread
    · cases hread
      intro script hmem
      rw [List.mem_singleton.mp hmem]
      exact Script.isReadable_empty path
    · rename_i hdone
      cases hread
      exact isReadable_of_addScripts (fun _ hmem => absurd hmem List.not_mem_nil) hdone

end Collection

end Dialogue
