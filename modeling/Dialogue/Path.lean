/-
# Paths

A collection of scripts has a path, and a link names another collection by a path relative to its
own. This module brings paths into a normal form, resolves links, and splits the name of a script
off the path of its collection.

A path in normal form has single slashes between its components, no component that is a dot, and a
pair of dots only in front, where a relative path leaves its start. Backslashes count as slashes.
-/

import Dialogue.Text.Blank
import Dialogue.Text.Match

namespace Dialogue.Path

/-- Reads a backslash as a slash. -/
def slash (c : Char) : Char :=
  if c = '\\' then '/' else c

/-- Whether a path starts at the root. -/
def isAbsolute (path : List Char) : Bool :=
  path.head? == some '/'

/-- The components passed so far, the last one first, after one more component. A dot stays where
it is. Two dots take the last component back; where there is none to take back they stay at the
root of an absolute path, and lead further up from the start of a relative one. -/
def walk (absolute : Bool) (passed : List (List Char)) (component : List Char) :
    List (List Char) :=
  if component = [] ∨ component = ['.'] then passed
  else if component = ['.', '.'] then
    match passed with
    | last :: earlier =>
      if last ≠ ['.', '.'] then earlier else if absolute then passed else component :: passed
    | [] => if absolute then [] else [component]
  else component :: passed

/-- The components of a path in normal form. -/
def components (absolute : Bool) (path : List Char) : List (List Char) :=
  ((path.splitOn '/').foldl (walk absolute) []).reverse

/-- The normal form of a path. -/
def normalizeChars (path : List Char) : List Char :=
  let path := path.map slash
  let joined := ['/'].intercalate (components (isAbsolute path) path)
  if isAbsolute path then '/' :: joined else joined

/-- The normal form of a path. -/
def normalize (path : String) : String :=
  String.ofList (normalizeChars path.toList)

/-- Whether two paths lead to the same place up to case. -/
def same (a b : String) : Bool :=
  Text.sameName (normalize a) (normalize b)

/-- A text cut in two at its first hash. Without a hash the second part is empty. -/
def splitNameChars (path : List Char) : List Char × List Char :=
  (path.takeWhile (· ≠ '#'), (path.dropWhile (· ≠ '#')).drop 1)

/-- The path of a collection and the name of a script, taken apart at the first hash. -/
def splitName (path : String) : String × String :=
  let (file, name) := splitNameChars path.toList
  (String.ofList file, String.ofList name)

/-- The text before the last slash; nothing if there is no slash. -/
def directory (path : List Char) : List Char :=
  ((path.reverse.dropWhile (· ≠ '/')).drop 1).reverse

/-- Whether a path ends in `.md` in any case. -/
def hasExtension (path : List Char) : Bool :=
  ['.', 'm', 'd'].isSuffixOf (Text.lowercaseAfter false path)

/-- The path that a target names when it is written in the collection at `base`. A target that
starts with a hash names a script of that collection. Any other names a file by its path from the
directory of `base`; it has the extension `.md` unless it is written out, and may name a script of
that file after a hash. -/
def resolveChars (base target : List Char) : List Char :=
  let target := Text.trim target
  if target.head? = some '#' then base ++ target
  else
    let (file, name) := splitNameChars target
    let folder := directory (base.map slash)
    let place := normalizeChars (if folder = [] then file else folder ++ '/' :: file)
    let place := if hasExtension place then place else place ++ ['.', 'm', 'd']
    if name = [] then place else place ++ '#' :: name

/-- The path that a target names when it is written in the collection at `base`. -/
def resolve (base target : String) : String :=
  String.ofList (resolveChars base.toList target.toList)

/-- The part of a file name before its last dot. A name whose only dot comes first is kept. -/
def stemChars (name : List Char) : List Char :=
  match (name.reverse.dropWhile (· ≠ '.')).drop 1 with
  | [] => name
  | stem => stem.reverse

/-- The name of the collection at a path: its file name without the extension. A path without a
file name is kept whole. -/
def stem (path : String) : String :=
  match ((path.toList.splitOn '/').filter fun part => part ≠ [] ∧ part ≠ ['.']).getLast? with
  | none => path
  | some ['.', '.'] => path
  | some name => String.ofList (stemChars name)

@[simp]
theorem toList_normalize (path : String) :
    (normalize path).toList = normalizeChars path.toList := by
  simp [normalize]

@[simp]
theorem toList_resolve (base target : String) :
    (resolve base target).toList = resolveChars base.toList target.toList := by
  simp [resolve]

/-- A target that starts with a hash is added to the path of the collection. -/
theorem resolveChars_of_head? {target : List Char} (base : List Char)
    (h : (Text.trim target).head? = some '#') :
    resolveChars base target = base ++ Text.trim target := by
  simp [resolveChars, h]

end Dialogue.Path
