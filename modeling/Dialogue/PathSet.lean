/-
# Sets of paths

A script remembers the paths of the links it offers, each one once and in the order of their
characters. A set of paths is the strictly increasing list of its members, so two sets with the
same members are equal.
-/

namespace Dialogue

/-- A finite set of paths. -/
structure PathSet where
  /-- The members in increasing order. -/
  toList : List String
  /-- Every member is less than the members after it. -/
  increasing : toList.Pairwise (· < ·)
deriving DecidableEq

namespace PathSet

/-- A list with a path put in its place; nothing changes if it is there already. -/
def insertInto (path : String) : List String → List String
  | [] => [path]
  | first :: rest =>
    if path < first then path :: first :: rest
    else if path = first then first :: rest
    else first :: insertInto path rest

theorem mem_insertInto {path other : String} {paths : List String} :
    other ∈ insertInto path paths ↔ other = path ∨ other ∈ paths := by
  induction paths with
  | nil => simp [insertInto]
  | cons first rest ih =>
    simp only [insertInto]
    split
    · simp
    · split
      · simp_all
      · simp only [List.mem_cons, ih]
        exact or_left_comm

theorem increasing_insertInto {path : String} {paths : List String}
    (hincreasing : paths.Pairwise (· < ·)) : (insertInto path paths).Pairwise (· < ·) := by
  induction paths with
  | nil => simp [insertInto]
  | cons first rest ih =>
    obtain ⟨hleast, htail⟩ := List.pairwise_cons.mp hincreasing
    simp only [insertInto]
    split
    · rename_i hless
      refine List.pairwise_cons.mpr ⟨fun other hmem => ?_, hincreasing⟩
      rcases List.mem_cons.mp hmem with rfl | hmem
      · exact hless
      · exact String.lt_trans hless (hleast other hmem)
    · split
      · exact hincreasing
      · rename_i hnotLess hne
        refine List.pairwise_cons.mpr ⟨fun other hmem => ?_, ih htail⟩
        rcases mem_insertInto.mp hmem with rfl | hmem
        · refine Decidable.byContradiction fun hnotGreater => hne ?_
          exact String.le_antisymm (String.not_lt.mp hnotGreater) (String.not_lt.mp hnotLess)
        · exact hleast other hmem

/-- The set without members. -/
def empty : PathSet := ⟨[], .nil⟩

/-- The set with one more member. -/
def insert (set : PathSet) (path : String) : PathSet :=
  ⟨insertInto path set.toList, increasing_insertInto set.increasing⟩

/-- The set of the members of a list. -/
def ofList (paths : List String) : PathSet :=
  paths.foldl insert empty

instance : Membership String PathSet where
  mem set path := path ∈ set.toList

theorem mem_def {path : String} {set : PathSet} : path ∈ set ↔ path ∈ set.toList := Iff.rfl

@[simp]
theorem not_mem_empty (path : String) : path ∉ empty := by
  simp [mem_def, empty]

@[simp]
theorem mem_insert {path other : String} {set : PathSet} :
    other ∈ set.insert path ↔ other = path ∨ other ∈ set := by
  simp [mem_def, insert, mem_insertInto]

@[simp]
theorem mem_ofList {path : String} {paths : List String} : path ∈ ofList paths ↔ path ∈ paths := by
  suffices ∀ set : PathSet, path ∈ paths.foldl insert set ↔ path ∈ paths ∨ path ∈ set by
    simpa [ofList] using this empty
  induction paths with
  | nil => simp
  | cons first rest ih =>
    intro set
    simp only [List.foldl_cons, ih, mem_insert, List.mem_cons]
    grind

end PathSet

end Dialogue
