/-
# Scripts and collections

A collection is what one source holds: scripts, each with a name and a path. A script is found by
its name up to case. The script before the first heading has a name of its own, which a blank name
stands for, and a collection with a single script answers to every name.
-/

import Dialogue.Line.Basic
import Dialogue.Path
import Dialogue.PathSet

namespace Dialogue

/-- A script: a name, a path and the lines to play. -/
structure Script where
  /-- The name by which links find the script. -/
  name : String
  /-- The path of the collection, with the name after a hash if the script has a heading. -/
  path : String
  /-- The lines in the order of the source. -/
  lines : List Line
  /-- The paths that the links of the script lead to. -/
  links : PathSet
deriving DecidableEq

/-- The scripts of one source. -/
structure Collection where
  /-- The name of the collection, taken from its path. -/
  name : String
  /-- The path of the collection. -/
  path : String
  /-- The source. -/
  raw : String
  /-- The scripts in the order of the source. -/
  scripts : List Script
deriving DecidableEq

/-- The name of a script without a heading. -/
def Script.defaultName : String := "Default Script"

/-- The script without a heading and without lines. -/
def Script.empty (path : String) : Script :=
  ⟨Script.defaultName, path, [], .empty⟩

/-- Whether the links of a script lead to a path, up to case. -/
def Script.linksTo (script : Script) (path : String) : Bool :=
  script.links.toList.any fun link => Text.sameName link path

namespace Collection

/-- The name that a request for a script means: a missing or blank one means the script without a
heading. -/
def wantedName (name : Option String) : String :=
  match Text.trim (name.getD "").toList with
  | [] => Script.defaultName
  | name => String.ofList name

/-- The index of the script with a name. A single script has every name. -/
def scriptIndex? (collection : Collection) (name : Option String) : Option Nat :=
  match collection.scripts with
  | [_] => some 0
  | scripts => scripts.findIdx? fun script => Text.sameName script.name (wantedName name)

/-- Whether a path, without the name of a script, leads to a collection. -/
def isAt (collection : Collection) (path : String) : Bool :=
  Path.same path collection.path

/-- The path that a target names when it is written in a collection. -/
def resolve (collection : Collection) (target : String) : String :=
  Path.resolve collection.path target

theorem lt_length_of_scriptIndex? {collection : Collection} {name : Option String} {index : Nat}
    (h : collection.scriptIndex? name = some index) : index < collection.scripts.length := by
  simp only [scriptIndex?] at h
  split at h
  · simp_all
  · rename_i scripts _
    obtain ⟨hbound, -⟩ := List.findIdx?_eq_some_iff_findIdx_eq.mp h
    exact hbound

end Collection

end Dialogue
