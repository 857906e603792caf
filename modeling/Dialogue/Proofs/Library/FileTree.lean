/-
# Walks in a file tree

A path is walked component by component. A walk can be cut in two, and what it comes to depends only
on where there are folders and files, not on what is in the files. Without two dots a walk stays
below the place where it starts: the names that lead there lead on to where it ends.
-/

import Dialogue.Library.FileTree

namespace Dialogue.FileTree

variable {tree other : FileTree} {place next base : List String} {component path : String}
  {rest second : List String}

/-- A walk goes component by component. -/
theorem walk_cons (tree : FileTree) (place : List String) (component : String)
    (rest : List String) :
    tree.walk place (component :: rest) =
      (tree.walk place [component]).bind fun next => tree.walk next rest := by
  rw [walk.eq_def, walk.eq_def tree _ [component]]
  dsimp only
  split
  · split
    · rfl
    · split <;> rfl
  · rfl
  · rfl

theorem walk_append (tree : FileTree) (place first second : List String) :
    tree.walk place (first ++ second) =
      (tree.walk place first).bind fun next => tree.walk next second := by
  induction first generalizing place with
  | nil => rfl
  | cons component rest ih =>
      rw [List.cons_append, walk_cons, walk_cons tree place component rest]
      cases tree.walk place [component] with
      | error fault => rfl
      | ok next => exact ih next

/-- A walk that has succeeded can be cut in two. -/
theorem exists_walk_of_append (first : List String)
    (hwalk : tree.walk place (first ++ second) = .ok next) :
    ∃ between, tree.walk place first = .ok between ∧ tree.walk between second = .ok next := by
  rw [walk_append] at hwalk
  cases hfirst : tree.walk place first with
  | error fault =>
      rw [hfirst] at hwalk
      cases hwalk
  | ok between =>
      rw [hfirst] at hwalk
      exact ⟨between, rfl, hwalk⟩

/-- One component leads from a folder to something that exists. -/
theorem walk_singleton_eq_ok (hwalk : tree.walk place [component] = .ok next) :
    tree.node? place = some .folder ∧ next = enter place component := by
  rw [walk.eq_def] at hwalk
  dsimp only at hwalk
  split at hwalk
  · rename_i hfolder
    split at hwalk
    · cases hwalk
    · split at hwalk
      · cases hwalk
        exact ⟨hfolder, rfl⟩
      · cases hwalk
  · cases hwalk
  · cases hwalk

/-- A component other than two dots leads to a place below or stays. -/
theorem suffix_enter (hsteady : component ≠ "..") : place <:+ enter place component := by
  rw [enter.eq_def, if_neg hsteady]
  split
  · exact List.suffix_rfl
  · exact List.suffix_cons component place

/-- A walk without two dots leads to a place below its start. -/
theorem suffix_of_walk {components : List String} (hsteady : ".." ∉ components)
    (hwalk : tree.walk place components = .ok next) : place <:+ next := by
  induction components generalizing place with
  | nil =>
      cases hwalk
      exact List.suffix_rfl
  | cons component rest ih =>
      obtain ⟨hother, hothers⟩ := List.ne_and_not_mem_of_not_mem_cons hsteady
      obtain ⟨between, hstep, honward⟩ := exists_walk_of_append [component] hwalk
      obtain ⟨-, rfl⟩ := walk_singleton_eq_ok hstep
      exact (suffix_enter (Ne.symm hother)).trans (ih hothers honward)

theorem find_eq_ok_iff :
    tree.find path = .ok place ↔
      '\x00' ∉ path.toList ∧ path.utf8ByteSize < pathLimit ∧ path ≠ "" ∧
        tree.walk (tree.origin path) (components path) = .ok place := by
  rw [find]
  split
  · rename_i hnull
    simp_all
  · split
    · rename_i hlong
      simp [Nat.not_lt.mpr hlong]
    · split
      · rename_i hempty
        simp [hempty]
      · simp_all

theorem isFile_of_readText {text : String} (hread : tree.readText path = .ok text) :
    tree.isFile path = true := by
  rw [readText] at hread
  split at hread
  · cases hread
  · rename_i place hfound
    split at hread
    · rename_i content hfile
      simp only [isFile, hfound, hfile]
    · cases hread
    · cases hread

/-- Two trees have the same working folder, and folders and files at the same places, whatever is in
the files. -/
structure SameShape (tree other : FileTree) : Prop where
  working : other.working = tree.working
  known : ∀ place, (other.node? place).isSome = (tree.node? place).isSome
  folders : ∀ place, other.node? place = some .folder ↔ tree.node? place = some .folder

theorem SameShape.walk_singleton_eq (hsame : SameShape tree other) (place : List String)
    (component : String) : other.walk place [component] = tree.walk place [component] := by
  have hknown := hsame.known place
  have hfolders := hsame.folders place
  have hnext := hsame.known (enter place component)
  rw [walk.eq_def, walk.eq_def tree]
  dsimp only
  -- the next place is only asked for whether it is known,
  -- the place itself for whether it is a folder
  generalize other.node? (enter place component) = otherNext,
    tree.node? (enter place component) = treeNext at hnext ⊢
  cases hown : tree.node? place with
  | none =>
      rw [hown, Option.isSome_none, Option.isSome_eq_false_iff,
        Option.isNone_iff_eq_none] at hknown
      rw [hknown]
  | some node =>
      rw [hown] at hknown hfolders
      obtain ⟨otherNode, hfound⟩ := Option.isSome_iff_exists.mp hknown
      rw [hfound] at hfolders ⊢
      cases node with
      | file content =>
          cases otherNode with
          | file => rfl
          | folder => cases hfolders.mp rfl
      | folder =>
          cases hfolders.mpr rfl
          cases otherNext <;> cases treeNext <;> first | rfl | cases hnext

theorem SameShape.walk_eq (hsame : SameShape tree other) (place components : List String) :
    other.walk place components = tree.walk place components := by
  induction components generalizing place with
  | nil => rfl
  | cons component rest ih =>
      rw [walk_cons, walk_cons tree, hsame.walk_singleton_eq]
      exact congrArg _ (funext ih)

theorem SameShape.find_eq (hsame : SameShape tree other) (path : String) :
    other.find path = tree.find path := by
  simp only [find, origin, hsame.working, hsame.walk_eq]

/-- A walk that goes on from a place goes on from a folder. -/
theorem folder_of_walk_components (hwalk : tree.walk place (components path) = .ok next) :
    tree.node? place = some .folder := by
  cases hparts : components path with
  | nil => exact absurd (List.map_eq_nil_iff.mp hparts) (List.splitOn_ne_nil _ _)
  | cons component rest =>
      rw [hparts] at hwalk
      obtain ⟨between, hstep, -⟩ := exists_walk_of_append [component] hwalk
      exact (walk_singleton_eq_ok hstep).1

theorem walk_empty (hfolder : tree.node? place = some .folder) :
    tree.walk place [""] = .ok place := by
  have hstays : enter place "" = place := by simp [enter.eq_def]
  rw [walk.eq_def, hfolder]
  simp [hstays, hfolder, walk, componentLimit]

theorem components_append_slash (first second : String) :
    components (first ++ "/" ++ second) = components first ++ components second := by
  rw [components, components, components, ← List.map_append, ← List.splitOn_append_cons_self]
  simp

end Dialogue.FileTree
