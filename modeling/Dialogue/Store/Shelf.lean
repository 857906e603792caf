/-
# Shelves of stores

Several playbacks may share a store, and a playback may be given another one while it runs. So
stores stand on a shelf, and a playback holds the mark of its store. Under a mark that was never
used stands an empty store.
-/

import Dialogue.Store.Basic

namespace Dialogue

/-- The mark of a store on a shelf. -/
structure StoreId where
  /-- The number on the mark. -/
  number : Nat
deriving DecidableEq

/-- Stores by their marks. -/
structure Shelf where
  /-- The stores that stand under a mark. -/
  stores : Table StoreId Store

namespace Shelf

/-- The shelf without stores. -/
def empty : Shelf := ⟨.empty⟩

/-- The store under a mark. -/
def get (shelf : Shelf) (id : StoreId) : Store :=
  (shelf.stores.find? id).getD Store.empty

/-- The shelf with another store under a mark. -/
def put (shelf : Shelf) (id : StoreId) (store : Store) : Shelf :=
  ⟨shelf.stores.insert id store⟩

/-- A mark greater than those that are used. -/
def fresh (shelf : Shelf) : StoreId :=
  ⟨shelf.stores.entries.foldl (fun bound entry => max bound (entry.1.number + 1)) 0⟩

@[simp]
theorem get_empty (id : StoreId) : empty.get id = Store.empty := rfl

@[simp]
theorem get_put (shelf : Shelf) (id other : StoreId) (store : Store) :
    (shelf.put id store).get other = if other = id then store else shelf.get other := by
  by_cases hsame : other = id <;> simp [get, put, hsame]

end Shelf

end Dialogue
