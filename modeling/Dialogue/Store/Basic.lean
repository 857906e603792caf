/-
# Stores

A store holds what a playback remembers beyond the running script: the values of variables and how
often each script has been played. Names of variables and paths of scripts are read without regard
to case. The stores here are tables in memory; what is said about every store is said about these.
-/

import Dialogue.Table
import Dialogue.Text.Match

namespace Dialogue

open Text (lowercase)

/-- Variables and counts of visits, held in memory. A value that is set is the one that is read, and
a count wraps at the size of its type. -/
structure Store where
  /-- The values of variables by their names in lowercase. -/
  values : Table String String
  /-- The counts of visits by the paths of scripts in lowercase. -/
  visits : Table String UInt32

namespace Store

/-- The store that holds nothing. -/
def empty : Store := ⟨.empty, .empty⟩

/-- The value of a variable. -/
def get? (store : Store) (name : String) : Option String :=
  store.values.find? (lowercase name)

/-- Sets a variable; without a value the variable is deleted. -/
def set (store : Store) (name : String) (value : Option String) : Store :=
  { store with
    values := match value with
      | some value => store.values.insert (lowercase name) value
      | none => store.values.erase (lowercase name) }

/-- How often a script has been visited. -/
def visitCount (store : Store) (path : String) : UInt32 :=
  (store.visits.find? (lowercase path)).getD 0

/-- Counts one more visit of a script. -/
def markVisited (store : Store) (path : String) : Store :=
  { store with visits := store.visits.insert (lowercase path) (store.visitCount path + 1) }

@[simp]
theorem get?_empty (name : String) : empty.get? name = none := rfl

@[simp]
theorem visitCount_empty (path : String) : empty.visitCount path = 0 := rfl

theorem get?_set (store : Store) (name other : String) (value : Option String) :
    (store.set name value).get? other =
      if lowercase other = lowercase name then value else store.get? other := by
  cases value <;> simp [set, get?]

@[simp]
theorem visitCount_set (store : Store) (name path : String) (value : Option String) :
    (store.set name value).visitCount path = store.visitCount path := rfl

@[simp]
theorem get?_markVisited (store : Store) (path name : String) :
    (store.markVisited path).get? name = store.get? name := rfl

theorem visitCount_markVisited (store : Store) (path other : String) :
    (store.markVisited path).visitCount other =
      if lowercase other = lowercase path then store.visitCount other + 1
      else store.visitCount other := by
  by_cases hsame : lowercase other = lowercase path <;> simp [visitCount, markVisited, hsame]

end Store

end Dialogue
