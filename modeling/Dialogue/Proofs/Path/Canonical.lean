/-
# Canonical paths

A path leads somewhere from every directory: it is followed component by component, an absolute one
from the root. The normal form of a path leads to the same places as the path, and it is the only
path in normal form that does so. Directories near the root have to be left out, because all steps
up from the root end there: from the root, two dots lead to the same place as no path at all.

Seen from a directory, a relative path goes up some steps and then down by names. The steps can be
read off a directory whose own names are not among these, so two relative paths that lead to the
same place from there have the same steps and the same names.
-/

import Dialogue.Proofs.Path.Following

namespace Dialogue.Path

attribute [ext] Spot

namespace Spot

/-- The spot that a path names by itself, from the root or from the start of relative paths. -/
def ofPath (path : String) : Spot :=
  (start (isRooted path)).followAll (parts path.toList)

/-- The spot that a path leads to from a directory. An absolute path is followed from the root. -/
def lead (directory : Spot) (path : String) : Spot :=
  (if isRooted path then start true else directory).followAll (parts path.toList)

/-- A directory that is so many names below the root, or more. -/
structure IsDeep (depth : Nat) (directory : Spot) : Prop where
  rooted : directory.rooted = true
  deep : depth ≤ directory.names.length

variable {spot other directory : Spot} {path : String} {depth : Nat} {component : List Char}
  {components : List (List Char)}

theorem count_dots_passed (spot : Spot) : spot.passed.count ['.', '.'] = spot.ups := by
  have hunnamed : ['.', '.'] ∉ spot.names := fun hmem => absurd (spot.down _ hmem) (by decide)
  rw [passed, List.count_append, List.count_eq_zero.mpr hunnamed, List.count_replicate_self,
    Nat.zero_add]

/-- A spot is known by its path. -/
theorem path_injective (hsame : spot.path = other.path) : spot = other := by
  have hrooted : spot.rooted = other.rooted := by
    rw [← isAbsolute_path, hsame, isAbsolute_path]
  have hpassed : spot.passed = other.passed := by
    rw [path_eq_render, path_eq_render, ← hrooted] at hsame
    have hlisted := congrArg (Path.components spot.rooted) hsame
    rw [components_render spot.passed_spec, components_render (hrooted ▸ other.passed_spec)]
      at hlisted
    exact List.reverse_injective hlisted
  have hups : spot.ups = other.ups := by
    rw [← count_dots_passed, hpassed, count_dots_passed]
  rw [Spot.passed, Spot.passed, hups] at hpassed
  exact Spot.ext hrooted hups (List.append_cancel_right hpassed)

/-- Below the root a spot is known by its names. -/
theorem eq_of_names (hrooted : spot.rooted = true) (hotherRooted : other.rooted = true)
    (hnames : spot.names = other.names) : spot = other :=
  Spot.ext (hrooted.trans hotherRooted.symm)
    ((spot.top hrooted).trans (other.top hotherRooted).symm)
    hnames

theorem names_up (spot : Spot) : spot.up.names = spot.names.tail := by
  rw [up.eq_def]
  split <;> rfl

/-- The spot of a relative path, seen from a directory. The steps up lead up from there. -/
def below (directory spot : Spot) : Spot where
  rooted := true
  ups := 0
  names := spot.names ++ directory.names.drop spot.ups
  top _ := rfl
  down _ hmem := (List.mem_append.mp hmem).elim (spot.down _) fun habove =>
    directory.down _ (List.mem_of_mem_drop habove)

theorem names_below (directory spot : Spot) :
    (directory.below spot).names = spot.names ++ directory.names.drop spot.ups := rfl

/-- The steps up that have no name to take back are taken in the directory. -/
theorem up_below (hrelative : spot.rooted = false) :
    (directory.below spot).up = directory.below spot.up := by
  refine eq_of_names (rooted_up _) rfl ?_
  rw [names_up]
  obtain ⟨rooted, ups, names, htop, hdown⟩ := spot
  cases hrelative
  cases names with
  | cons last earlier => rfl
  | nil => exact List.tail_drop

/-- A component leads to the same place from a directory as it does by itself. -/
theorem follow_below (hrelative : spot.rooted = false) :
    (directory.below spot).follow component = directory.below (spot.follow component) := by
  rw [follow, follow]
  split
  · exact eq_of_names rfl rfl rfl
  · split
    · exact up_below hrelative
    · rfl

theorem followAll_below (hrelative : spot.rooted = false) :
    (directory.below spot).followAll components = directory.below (spot.followAll components) := by
  induction components generalizing spot with
  | nil => rfl
  | cons component rest ih =>
      have hstill : (spot.follow component).rooted = false := by rw [rooted_follow, hrelative]
      show ((directory.below spot).follow component).followAll rest = _
      rw [follow_below hrelative, ih hstill]
      rfl

theorem lead_of_isRooted (hrooted : isRooted path = true) : directory.lead path = ofPath path := by
  rw [lead, ofPath, hrooted, if_pos rfl]

/-- A relative path leads to where its own spot is seen from the directory. -/
theorem lead_of_relative (hrooted : directory.rooted = true) (hrelative : isRooted path = false) :
    directory.lead path = directory.below (ofPath path) := by
  have hown : directory = directory.below (start false) := eq_of_names hrooted rfl rfl
  rw [lead, ofPath, hrelative, if_neg Bool.false_ne_true, ← followAll_below rfl, ← hown]

/-- There is always one more name: a longer one. -/
theorem exists_fresh (names : List (List Char)) : ∃ name, IsName name ∧ name ∉ names := by
  refine ⟨'a' :: List.replicate names.flatten.length 'a', ⟨?_, ?_⟩, fun hmem => ?_⟩
  · simp [leadsDown]
  · simp [IsComponent]
  · have hshort := (List.sublist_flatten_of_mem hmem).length_le
    rw [List.length_cons, List.length_replicate] at hshort
    exact Nat.not_succ_le_self _ hshort

/-- A directory with one name over and over. -/
def repeated (name : List Char) (hnamed : IsName name) (depth : Nat) : Spot where
  rooted := true
  ups := 0
  names := List.replicate depth name
  top _ := rfl
  down _ hmem := List.eq_of_mem_replicate hmem ▸ hnamed

theorem isDeep_repeated {name : List Char} (hnamed : IsName name) {deep : Nat}
    (henough : depth ≤ deep) : (repeated name hnamed deep).IsDeep depth :=
  ⟨rfl, by rwa [repeated, List.length_replicate]⟩

section Count

variable {name : List Char} (hnamed : IsName name)

theorem count_lead_of_isRooted (hfresh : name ∉ (ofPath path).names)
    (hrooted : isRooted path = true) :
    ((repeated name hnamed depth).lead path).names.count name = 0 := by
  rw [lead_of_isRooted hrooted]
  exact List.count_eq_zero.mpr hfresh

/-- Of such a directory a relative path leaves so many names as it does not take steps up. -/
theorem count_lead_of_relative (hfresh : name ∉ (ofPath path).names)
    (hrelative : isRooted path = false) :
    ((repeated name hnamed depth).lead path).names.count name = depth - (ofPath path).ups := by
  rw [lead_of_relative rfl hrelative, names_below, List.count_append, List.count_eq_zero.mpr hfresh,
    repeated, List.drop_replicate, List.count_replicate_self, Nat.zero_add]

end Count

theorem rooted_ofPath (path : String) : (ofPath path).rooted = isRooted path :=
  rooted_followAll _ _

end Spot

open Spot (ofPath)

/-- Two paths lead to the same place from every directory that is deep enough. -/
def LeadAlike (path other : String) : Prop :=
  ∃ depth, ∀ directory : Spot, directory.IsDeep depth → directory.lead path = directory.lead other

theorem LeadAlike.ofPath_eq {path other : String} (halike : LeadAlike path other) :
    ofPath path = ofPath other := by
  obtain ⟨depth, halike⟩ := halike
  obtain ⟨name, hnamed, hfresh⟩ := Spot.exists_fresh ((ofPath path).names ++ (ofPath other).names)
  obtain ⟨hfresh, hotherFresh⟩ := not_or.mp (mt List.mem_append.mpr hfresh)
  let deep := depth + (ofPath path).ups + (ofPath other).ups + 1
  have hsame := halike (.repeated name hnamed deep) (Spot.isDeep_repeated hnamed (by omega))
  -- the directory is deeper than both paths lead up, so a relative path leaves some of its names
  have hcounts := congrArg (fun spot => spot.names.count name) hsame
  cases hrooted : isRooted path with
  | true =>
      rw [Spot.count_lead_of_isRooted hnamed hfresh hrooted] at hcounts
      cases hotherRooted : isRooted other with
      | true => rwa [Spot.lead_of_isRooted hrooted, Spot.lead_of_isRooted hotherRooted] at hsame
      | false =>
          rw [Spot.count_lead_of_relative hnamed hotherFresh hotherRooted] at hcounts
          omega
  | false =>
      rw [Spot.count_lead_of_relative hnamed hfresh hrooted] at hcounts
      cases hotherRooted : isRooted other with
      | true =>
          rw [Spot.count_lead_of_isRooted hnamed hotherFresh hotherRooted] at hcounts
          omega
      | false =>
          rw [Spot.count_lead_of_relative hnamed hotherFresh hotherRooted] at hcounts
          have hups : (ofPath path).ups = (ofPath other).ups := by omega
          rw [Spot.lead_of_relative rfl hrooted, Spot.lead_of_relative rfl hotherRooted] at hsame
          have hnames := congrArg Spot.names hsame
          rw [Spot.names_below, Spot.names_below, hups] at hnames
          refine Spot.ext ?_ hups (List.append_cancel_right hnames)
          rw [Spot.rooted_ofPath, Spot.rooted_ofPath, hrooted, hotherRooted]

theorem leadAlike_of_ofPath_eq {path other : String} (hsame : ofPath path = ofPath other) :
    LeadAlike path other := by
  have hrooted : isRooted path = isRooted other := by
    rw [← Spot.rooted_ofPath, hsame, Spot.rooted_ofPath]
  refine ⟨0, fun directory hdeep => ?_⟩
  cases hown : isRooted path with
  | true => rw [Spot.lead_of_isRooted hown, Spot.lead_of_isRooted (hrooted ▸ hown), hsame]
  | false =>
      rw [Spot.lead_of_relative hdeep.rooted hown,
        Spot.lead_of_relative hdeep.rooted (hrooted ▸ hown), hsame]

theorem toList_normalize_eq_path (path : String) :
    (normalize path).toList = (ofPath path).path := by
  rw [toList_normalize, normalizeChars_eq_path]
  rfl

/-- Two paths have the same normal form exactly if they name the same spot. -/
theorem normalize_eq_normalize_iff {path other : String} :
    normalize path = normalize other ↔ ofPath path = ofPath other := by
  rw [← String.toList_inj, toList_normalize_eq_path, toList_normalize_eq_path]
  exact ⟨Spot.path_injective, congrArg Spot.path⟩

theorem isRooted_iff {path : String} :
    isRooted path = true ↔ path.toList.head? = some '/' ∨ path.toList.head? = some '\\' := by
  rw [isRooted, isAbsolute, List.head?_map, beq_iff_eq]
  cases path.toList.head? with
  | none => simp
  | some first =>
      rw [Option.map_some, Option.some_inj, Option.some_inj, Option.some_inj, slash]
      split <;> simp [*]

/-- What the normal form of a path is to be. -/
structure IsNormalForm (path normal : String) : Prop where
  /-- It is the path to a spot: a slash or none, pairs of dots only after none, and then names, with
  single slashes between them. -/
  shape : ∃ spot : Spot, normal.toList = spot.path
  /-- It starts with a slash exactly if the path starts with a slash of either kind. -/
  rooted : normal.toList.head? = some '/' ↔
    path.toList.head? = some '/' ∨ path.toList.head? = some '\\'
  /-- It is its own normal form. -/
  fixed : normalize normal = normal
  /-- It is also the normal form of the paths that lead to the same places, and of no others. -/
  shared : ∀ other, normal = normalize other ↔ LeadAlike path other

/-- The normal form of a path is canonical, and two paths have the same one exactly if they lead to
the same place from every directory that is deep enough. -/
theorem isNormalForm_normalize (path : String) : IsNormalForm path (normalize path) where
  shape := ⟨ofPath path, toList_normalize_eq_path path⟩
  rooted := by
    rw [← isRooted_iff, ← isAbsolute_normalize, isAbsolute, beq_iff_eq]
  fixed := normalize_normalize path
  shared other := by
    rw [normalize_eq_normalize_iff]
    exact ⟨leadAlike_of_ofPath_eq, LeadAlike.ofPath_eq⟩

/-- From the root, paths that have different normal forms may lead to the same place. -/
example : normalize ".." ≠ normalize "../.." ∧
    (Spot.start true).lead ".." = (Spot.start true).lead "../.." := by
  exact ⟨by decide +kernel, rfl⟩

end Dialogue.Path
