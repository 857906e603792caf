/-
# What a catalogue holds

Collections are put into a catalogue one after another, as they are or by reading their sources. The
spelling of a path does not matter: paths that lead to the same place up to case are alike, and this
is an equivalence. At a path the collection is found that was put in last there, and a catalogue
holds one collection for each place at which one was put in. A source that cannot be read leaves no
trace.
-/

import Dialogue.Library.Basic
import Mathlib.Data.Set.Card

namespace Dialogue

/-- To lead to the same place up to case is an equivalence of paths. -/
theorem Path.equivalence_same :
    Equivalence fun first second : String => same first second = true where
  refl path := Text.sameName_self (normalize path)
  symm {first second} hheld := (Text.sameName_comm (normalize second) (normalize first)).trans hheld
  trans := Text.sameName_trans

/-- Collections stand at one place if one of them is at the path of the other. -/
def Collection.atOnePlace : Setoid Collection where
  r first second := first.isAt second.path = true
  iseqv :=
    { refl := fun collection => Path.equivalence_same.refl collection.path
      symm := Path.equivalence_same.symm
      trans := fun hearly hlate => Path.equivalence_same.trans hlate hearly }

/-- The places of some collections. -/
def Collection.places (collections : List Collection) : Set (Quotient atOnePlace) :=
  Quotient.mk atOnePlace '' {collection | collection ∈ collections}

namespace Catalogue

/-- Something that is done to fill a catalogue. -/
inductive Deposit where
  /-- Puts a collection in. -/
  | insert (collection : Collection)
  /-- Reads a source and puts its collection in. -/
  | parse (text path : String)

/-- The collection that is put in, if there is one. -/
def Deposit.collection? : Deposit → Option Collection
  | insert collection => some collection
  | parse text path => (Collection.parse true text path).toOption

/-- The catalogue after a deposit. A source that cannot be read leaves it as it is. -/
def receive (catalogue : Catalogue) : Deposit → Catalogue
  | .insert collection => catalogue.insert collection
  | .parse text path =>
    match catalogue.parse text path with
    | .ok (_, after) => after
    | .error _ => catalogue

/-- The catalogue that deposits make of the empty one. -/
def filled (deposits : List Deposit) : Catalogue :=
  deposits.foldl receive empty

/-- The collections that deposits put in, in their order. -/
def received (deposits : List Deposit) : List Collection :=
  deposits.filterMap Deposit.collection?

variable {catalogue : Catalogue} {collections : List Collection}

/-- A deposit puts its collection in or does nothing. -/
theorem receive_eq (catalogue : Catalogue) (deposit : Deposit) :
    catalogue.receive deposit = deposit.collection?.elim catalogue catalogue.insert := by
  cases deposit with
  | insert collection => rfl
  | parse text path =>
      rw [receive, parse, Deposit.collection?]
      cases Collection.parse true text path <;> rfl

theorem filled_eq (deposits : List Deposit) :
    filled deposits = (received deposits).foldl insert empty := by
  rw [filled, received, List.foldl_filterMap]
  congr 1
  funext catalogue deposit
  rw [receive_eq]
  cases deposit.collection? <;> rfl

/-- What is found at a path is the last of the collections there. The induction is on the
collections from the last one on, which takes the place of any earlier one at its path. -/
theorem library_foldl_insert (collections : List Collection) (path : String) :
    (collections.foldl insert empty).library path =
      (collections.filter (·.isAt path)).getLast?.elim (.error (.missingScript path none))
        .ok := by
  induction collections using List.reverseRecOn with
  | nil => rfl
  | append_singleton earlier last ih =>
      rw [List.foldl_concat, library_insert, ih, List.filter_append, List.filter_singleton]
      cases last.isAt path with
      | true => rw [if_pos rfl, cond_true, List.getLast?_concat, Option.elim_some]
      | false => rw [if_neg Bool.false_ne_true, cond_false, List.append_nil]

theorem library_eq_ok_iff {path : String} {collection : Collection} :
    (collections.foldl insert empty).library path = .ok collection ↔
      (collections.filter (·.isAt path)).getLast? = some collection := by
  rw [library_foldl_insert]
  cases (collections.filter (·.isAt path)).getLast? <;> simp

theorem library_eq_error_iff {path : String} {error : Error} :
    (collections.foldl insert empty).library path = .error error ↔
      error = .missingScript path none ∧
        ∀ collection ∈ collections, collection.isAt path = false := by
  have none_iff : (collections.filter (·.isAt path)).getLast? = none ↔
      ∀ collection ∈ collections, collection.isAt path = false := by
    rw [List.getLast?_eq_none_iff, List.filter_eq_nil_iff]
    simp
  rw [library_foldl_insert, ← none_iff]
  cases (collections.filter (·.isAt path)).getLast? <;> simp [eq_comm]

theorem mem_keys_insert (catalogue : Catalogue) (collection : Collection) (place : String) :
    place ∈ (catalogue.insert collection).collections.entries.map Prod.fst ↔
      place ∈ catalogue.collections.entries.map Prod.fst ∨ key collection.path = place := by
  simp only [insert, Table.insert, Table.others, List.map_cons, List.mem_cons, List.mem_map,
    List.mem_filter]
  grind

/-- The keys in use are those of the collections that were put in. -/
theorem mem_keys_foldl_insert (collections : List Collection) (place : String) :
    place ∈ (collections.foldl insert empty).collections.entries.map Prod.fst ↔
      ∃ collection ∈ collections, key collection.path = place := by
  induction collections using List.reverseRecOn with
  | nil => simp [empty, Table.empty]
  | append_singleton earlier last ih =>
      rw [List.foldl_concat, mem_keys_insert, ih]
      simp [or_and_right, exists_or]

/-- Collections at one place have one key. -/
def placeKey : Quotient Collection.atOnePlace → String :=
  Quotient.lift (fun collection => key collection.path) fun _ _ htogether =>
    (key_eq_key_iff.mpr htogether).symm

theorem placeKey_injective : Function.Injective placeKey := by
  intro first second
  refine Quotient.inductionOn₂ first second fun one other hsame => ?_
  exact Quotient.sound (key_eq_key_iff.mp hsame.symm)

theorem size_foldl_insert (collections : List Collection) :
    (collections.foldl insert empty).size = (Collection.places collections).ncard := by
  let keys := (collections.foldl insert empty).collections.entries.map Prod.fst
  have hdistinct : keys.Nodup := (collections.foldl insert empty).collections.distinct
  have himage : (keys.toFinset : Set String) = placeKey '' Collection.places collections := by
    ext place
    rw [List.coe_toFinset, Collection.places, Set.image_image]
    exact mem_keys_foldl_insert collections place
  calc (collections.foldl insert empty).size
      = keys.length := (List.length_map _).symm
    _ = keys.toFinset.card := (List.toFinset_card_of_nodup hdistinct).symm
    _ = (keys.toFinset : Set String).ncard := (Set.ncard_coe_finset _).symm
    _ = (placeKey '' Collection.places collections).ncard := by rw [himage]
    _ = (Collection.places collections).ncard := Set.ncard_image_of_injective _ placeKey_injective

/-- A catalogue that deposits have filled finds at each path the collection that was put in last
there, misses a path exactly if no collection was put in there, and counts the places of the
collections. Reading a source that cannot be read changes nothing, whatever comes later. -/
theorem library_filled (deposits : List Deposit) :
    (∀ path collection, (filled deposits).library path = .ok collection ↔
      ((received deposits).filter (·.isAt path)).getLast? = some collection) ∧
    (∀ path error, (filled deposits).library path = .error error ↔
      error = .missingScript path none ∧
        ∀ collection ∈ received deposits, collection.isAt path = false) ∧
    (filled deposits).size = (Collection.places (received deposits)).ncard ∧
    (Equivalence fun first second : String => Path.same first second = true) ∧
    ∀ text path error later, (filled deposits).parse text path = .error error →
      filled (deposits ++ .parse text path :: later) = filled (deposits ++ later) := by
  rw [filled_eq]
  refine ⟨fun _ _ => library_eq_ok_iff, fun _ _ => library_eq_error_iff,
    size_foldl_insert _, Path.equivalence_same, ?_⟩
  intro text path error later hunread
  rw [← filled_eq] at hunread
  have hstill : (filled deposits).receive (.parse text path) = filled deposits := by
    rw [receive, hunread]
  rw [filled, List.foldl_append, List.foldl_cons, ← filled, hstill, filled, ← List.foldl_append,
    ← filled]

/-- Two spellings of one path, a third one to look it up by, and a source that cannot be read. -/
theorem library_filled_hall :
    let old : Collection := ⟨"hall", "inn\\.\\hall.md", "", []⟩
    let new : Collection := ⟨"hall", "Inn/yard/../HALL.md", "", [.empty "hall"]⟩
    let earlier : List Deposit := [.insert old, .insert ⟨"yard", "yard.md", "", []⟩]
    (filled earlier).parse "[[ ]]" "hall.md" = .error (.blankTarget "[[ ]]" 1) ∧
      filled (earlier ++ .parse "[[ ]]" "hall.md" :: [.insert new]) =
        filled (earlier ++ [.insert new]) ∧
      (filled (earlier ++ [.insert new])).library "inn//hall.md" = .ok new ∧
      (filled (earlier ++ [.insert new])).library "hall.md" =
        .error (.missingScript "hall.md" none) := by
  intro old new earlier
  have hunread : (filled earlier).parse "[[ ]]" "hall.md" = .error (.blankTarget "[[ ]]" 1) := by
    have hblank : Collection.parse true "[[ ]]" "hall.md" = .error (.blankTarget "[[ ]]" 1) := by
      cbv
    rw [parse, hblank]
    rfl
  have hfound := (library_filled (earlier ++ [.insert new])).1 "inn//hall.md" new
  have hmissed := (library_filled (earlier ++ [.insert new])).2.1 "hall.md"
    (.missingScript "hall.md" none)
  exact ⟨hunread, (library_filled earlier).2.2.2.2 _ _ _ _ hunread,
    hfound.mpr (by decide +kernel), hmissed.mpr (by decide +kernel)⟩

end Catalogue

end Dialogue
