/-
# File trees

Collections are also read from files. A file tree is what stands below the root of a file system:
files with their bytes and folders. A path is walked component by component, from the root if it
starts with a slash and from the working folder otherwise. Every component before the last must name
a folder, also one that two dots leave again. Two dots at the root stay there.

Links between files and rights to read them are not modelled: every file can be opened, by the names
that lead to it and by no others.
-/

import Dialogue.Error
import Dialogue.Table

namespace Dialogue

/-- What stands at a place in a file tree. -/
inductive FileNode where
  | folder
  | file (content : ByteArray)

/-- Files and folders by the names that lead to them from the root, the last name first. -/
structure FileTree where
  /-- The names that lead to the working folder. -/
  working : List String
  /-- What stands at each place other than the working folder and those around it. -/
  nodes : Table (List String) FileNode

namespace FileTree

/-- The tree that has nothing but the working folder and what is around it. -/
def empty (working : List String) : FileTree := ⟨working, .empty⟩

/-- What stands at a place, which is given by the names that lead to it, the last one first. -/
def node? (tree : FileTree) (place : List String) : Option FileNode :=
  if place <:+ tree.working then some .folder else tree.nodes.find? place

/-- The longest component that a path may have, in bytes. -/
def componentLimit : Nat := 255

/-- The first length of a path that is too long, in bytes. -/
def pathLimit : Nat := 4096

/-- The place that one component leads to. Two dots lead to the folder around a place. -/
def enter (place : List String) (component : String) : List String :=
  if component = "" ∨ component = "." then place
  else if component = ".." then place.tail
  else component :: place

/-- Walks components from a place that exists. -/
def walk (tree : FileTree) (place : List String) :
    List String → Except FileFault (List String)
  | [] => .ok place
  | component :: rest =>
    match tree.node? place with
    | some .folder =>
      if componentLimit < component.utf8ByteSize then .error .nameTooLong
      else
        match tree.node? (enter place component) with
        | some _ => walk tree (enter place component) rest
        | none => .error .notFound
    | some (.file _) => .error .notFolder
    | none => .error .notFound

/-- The components of a path. -/
def components (path : String) : List String :=
  (path.toList.splitOn '/').map String.ofList

/-- Where the walk along a path starts. -/
def origin (tree : FileTree) (path : String) : List String :=
  if path.toList.head? = some '/' then [] else tree.working

/-- The place that a path leads to. -/
def find (tree : FileTree) (path : String) : Except FileFault (List String) :=
  if path.toList.contains '\x00' then .error .nullInName
  else if pathLimit ≤ path.utf8ByteSize then .error .nameTooLong
  else if path = "" then .error .notFound
  else tree.walk (tree.origin path) (components path)

/-- The text of the file at a path. -/
def readText (tree : FileTree) (path : String) : Except FileFault String :=
  match tree.find path with
  | .error fault => .error fault
  | .ok place =>
    match tree.node? place with
    | some (.file content) =>
      match String.fromUTF8? content with
      | some text => .ok text
      | none => .error .notText
    | some .folder => .error .isFolder
    | none => .error .notFound

/-- Whether a path leads to a file. -/
def isFile (tree : FileTree) (path : String) : Bool :=
  match tree.find path with
  | .error _ => false
  | .ok place =>
    match tree.node? place with
    | some (.file _) => true
    | _ => false

/-- The tree with something else at a place. -/
def put (tree : FileTree) (place : List String) (node : FileNode) : FileTree :=
  { tree with nodes := tree.nodes.insert place node }

/-- The tree with a folder at each place that components lead to, and the place they end at. -/
def makeFolders (tree : FileTree) (place : List String) : List String → FileTree × List String
  | [] => (tree, place)
  | component :: rest =>
    let next := enter place component
    match tree.node? next with
    | some _ => makeFolders tree next rest
    | none => makeFolders (tree.put next .folder) next rest

/-- The tree with a file written at a path, together with the folders that lead to it. -/
def write (tree : FileTree) (path : String) (content : ByteArray) : FileTree :=
  let names := components path
  let (tree, folder) := makeFolders tree (tree.origin path) names.dropLast
  tree.put (enter folder (names.getLastD "")) (.file content)

/-- The tree without the file at a path. A folder stays where it is. -/
def remove (tree : FileTree) (path : String) : FileTree :=
  match tree.find path with
  | .error _ => tree
  | .ok place =>
    match tree.node? place with
    | some (.file _) => { tree with nodes := tree.nodes.erase place }
    | _ => tree

end FileTree

end Dialogue
