/-
# Tables

A table holds at most one value under a key. Putting a value under a key takes the place of the
value that was there.
-/

namespace Dialogue

/-- A finite table of values by keys. -/
structure Table (κ α : Type) where
  /-- The keys and their values, the one put in last first. -/
  entries : List (κ × α)
  /-- No key is listed twice. -/
  distinct : (entries.map Prod.fst).Nodup

namespace Table

variable {κ α : Type} [DecidableEq κ]

/-- The table without entries. -/
def empty : Table κ α := ⟨[], .nil⟩

/-- The value under a key. -/
def find? (table : Table κ α) (key : κ) : Option α :=
  table.entries.lookup key

/-- The entries under other keys. -/
def others (entries : List (κ × α)) (key : κ) : List (κ × α) :=
  entries.filter fun entry => entry.1 ≠ key

theorem distinct_others {entries : List (κ × α)} (key : κ)
    (hdistinct : (entries.map Prod.fst).Nodup) : ((others entries key).map Prod.fst).Nodup :=
  hdistinct.sublist (List.filter_sublist.map Prod.fst)

theorem not_mem_others (entries : List (κ × α)) (key : κ) :
    key ∉ (others entries key).map Prod.fst := by
  simp [others]

/-- The table without the entry under a key. -/
def erase (table : Table κ α) (key : κ) : Table κ α :=
  ⟨others table.entries key, distinct_others key table.distinct⟩

/-- The table with a value put under a key. -/
def insert (table : Table κ α) (key : κ) (value : α) : Table κ α where
  entries := (key, value) :: others table.entries key
  distinct := List.nodup_cons.mpr
    ⟨not_mem_others table.entries key, distinct_others key table.distinct⟩

/-- The number of entries. -/
def size (table : Table κ α) : Nat :=
  table.entries.length

@[simp]
theorem find?_empty (key : κ) : (empty : Table κ α).find? key = none := rfl

theorem lookup_others (entries : List (κ × α)) (key other : κ) :
    (others entries key).lookup other = if other = key then none else entries.lookup other := by
  induction entries with
  | nil => simp [others]
  | cons entry rest ih =>
    obtain ⟨k, v⟩ := entry
    simp only [others] at ih
    grind [others]

@[simp]
theorem find?_erase (table : Table κ α) (key other : κ) :
    (table.erase key).find? other = if other = key then none else table.find? other :=
  lookup_others table.entries key other

@[simp]
theorem find?_insert (table : Table κ α) (key other : κ) (value : α) :
    (table.insert key value).find? other =
      if other = key then some value else table.find? other := by
  simp only [find?, insert, List.lookup_cons, lookup_others]
  by_cases hsame : other = key
  · simp [hsame]
  · simp [hsame, beq_eq_false_iff_ne.mpr hsame]

end Table

end Dialogue
