/-
# Libraries of files

A folder library reads a collection from its file every time it is asked for. Paths of collections
stay relative to the root of the library, so links resolve as they do in a catalogue. The root is a
path itself, relative to the working folder or not. The files are those of one moment: what a
library returns in the course of a run does not change.
-/

import Dialogue.Library.Basic
import Dialogue.Library.FileTree

namespace Dialogue

/-- Reads the collection in the file at a path. In the path of the collection backslashes become
slashes. -/
def Collection.parseFile (tree : FileTree) (path : String) : Except Error Collection :=
  match tree.readText path with
  | .error fault => .error (.unreadable path fault)
  | .ok text =>
    match Collection.parse true text (String.ofList (path.toList.map Path.slash)) with
    | .error error => .error (.source error)
    | .ok collection => .ok collection

/-- A library of the files below a root. -/
structure FolderLibrary where
  /-- The files. -/
  tree : FileTree
  /-- The path of the root. -/
  root : String
  /-- Whether conditions are checked when a file is read. -/
  validate : Bool

namespace FolderLibrary

/-- The path of a file below a root. A path that starts with a slash is kept as it is. -/
def join (root path : String) : String :=
  if path.toList.head? = some '/' ∨ root = "" then path
  else if root.toList.getLast? = some '/' then root ++ path
  else root ++ "/" ++ path

/-- The collection in the file at a path. -/
def library (folder : FolderLibrary) : Library := fun path =>
  let place := Path.normalize path
  let file := join folder.root place
  if folder.tree.isFile file then
    match folder.tree.readText file with
    | .error fault => .error (.unreadable file fault)
    | .ok text =>
      match Collection.parse folder.validate text place with
      | .error error => .error (.source error)
      | .ok collection => .ok collection
  else .error (.missingScript place none)

end FolderLibrary

end Dialogue
