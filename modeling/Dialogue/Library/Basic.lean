/-
# Libraries

A link may lead out of the collection it is written in. A library finds the collection at a path.
A catalogue is a library of collections that were put in before: the spelling of a path does not
matter, and a collection takes the place of an earlier one at the same path.
-/

import Dialogue.Collection.OfText
import Dialogue.Error
import Dialogue.Table

namespace Dialogue

/-- A library finds the collection at a path, which does not name a script, or says why there is
none. It is one function for a whole run: asked twice for a path it answers the same, and asking it
changes nothing else. -/
abbrev Library : Type := String → Except Error Collection

/-- Collections by their paths. -/
structure Catalogue where
  /-- The collections by the normal forms of their paths in lowercase. -/
  collections : Table String Collection

namespace Catalogue

/-- The catalogue without collections. -/
def empty : Catalogue := ⟨.empty⟩

/-- The key of a path: its normal form in lowercase. -/
def key (path : String) : String :=
  Text.lowercase (Path.normalize path)

/-- Puts a collection in. -/
def insert (catalogue : Catalogue) (collection : Collection) : Catalogue :=
  ⟨catalogue.collections.insert (key collection.path) collection⟩

/-- Reads a source and puts its collection in. -/
def parse (catalogue : Catalogue) (text path : String) :
    Except SourceError (Collection × Catalogue) :=
  (Collection.parse true text path).map fun collection =>
    (collection, catalogue.insert collection)

/-- The number of collections. -/
def size (catalogue : Catalogue) : Nat :=
  catalogue.collections.size

/-- The collection at a path. -/
def library (catalogue : Catalogue) : Library := fun path =>
  match catalogue.collections.find? (key path) with
  | some collection => .ok collection
  | none => .error (.missingScript path none)

theorem key_eq_key_iff {a b : String} : key a = key b ↔ Path.same a b = true := by
  simp [key, Path.same, Text.sameName]

theorem library_insert (catalogue : Catalogue) (collection : Collection) (path : String) :
    (catalogue.insert collection).library path =
      if collection.isAt path then .ok collection else catalogue.library path := by
  simp only [library, insert, Table.find?_insert, key_eq_key_iff, Collection.isAt]
  split <;> rename_i h <;> split at h <;> simp_all

/-- A catalogue fails in no other way than that it does not have a collection. -/
theorem eq_missingScript_of_library {catalogue : Catalogue} {path : String} {error : Error}
    (hfailed : catalogue.library path = .error error) : error = .missingScript path none := by
  rw [library] at hfailed
  split at hfailed
  · cases hfailed
  · cases hfailed
    rfl

end Catalogue

end Dialogue
