/-
# Paths that stay below their start

A path stays below its start if it is relative and no component of it is a pair of dots. The
normal form of a relative path does so exactly if the path never climbs: up to no component it leads
up more often than down.
-/

import Dialogue.Proofs.Path
import Mathlib.Data.List.Infix

namespace Dialogue.Path

/-- Whether a component leads to what has that name. -/
def leadsDown (component : List Char) : Bool :=
  component ≠ [] ∧ component ≠ ['.'] ∧ component ≠ ['.', '.']

/-- Components that lead up at no point more often than down, if they start at a given depth. -/
def StaysBelow (depth : Nat) (components : List (List Char)) : Prop :=
  ∀ before ∈ components.inits, before.count ['.', '.'] ≤ depth + before.countP leadsDown

/-- Whether a path starts with a slash of either kind. -/
def isRooted (path : String) : Bool :=
  isAbsolute (path.toList.map slash)

/-- A path climbs at no point above its start. Backslashes count as slashes. -/
def NeverClimbs (path : String) : Prop :=
  StaysBelow 0 ((path.toList.map slash).splitOn '/')

instance (depth : Nat) (components : List (List Char)) :
    Decidable (StaysBelow depth components) :=
  inferInstanceAs (Decidable (∀ before ∈ components.inits, _))

instance (path : String) : Decidable (NeverClimbs path) :=
  inferInstanceAs (Decidable (StaysBelow 0 _))

/-- A relative path without a pair of dots among its components. -/
structure IsBelow (path : String) : Prop where
  relative : isAbsolute path.toList = false
  steady : ['.', '.'] ∉ path.toList.splitOn '/'

variable {path : String} {depth : Nat} {component : List Char} {passed rest : List (List Char)}

theorem staysBelow_nil : StaysBelow depth [] := by
  simp [StaysBelow]

theorem staysBelow_cons_iff :
    StaysBelow depth (component :: rest) ↔
      ∀ before ∈ rest.inits,
        (component :: before).count ['.', '.'] ≤
          depth + (component :: before).countP leadsDown := by
  simp [StaysBelow]

theorem staysBelow_cons_of_empty (hempty : component = [] ∨ component = ['.']) :
    StaysBelow depth (component :: rest) ↔ StaysBelow depth rest := by
  rw [staysBelow_cons_iff, StaysBelow]
  rcases hempty with rfl | rfl <;> simp [leadsDown]

theorem staysBelow_cons_of_leadsDown (hdown : leadsDown component = true) :
    StaysBelow depth (component :: rest) ↔ StaysBelow (depth + 1) rest := by
  have hother : component ≠ ['.', '.'] := (of_decide_eq_true hdown).2.2
  rw [staysBelow_cons_iff, StaysBelow]
  refine forall₂_congr fun before hmem => ?_
  rw [List.count_cons_of_ne hother, List.countP_cons_of_pos hdown, Nat.add_right_comm,
    Nat.add_assoc]

theorem staysBelow_dots_succ_iff :
    StaysBelow (depth + 1) (['.', '.'] :: rest) ↔ StaysBelow depth rest := by
  rw [staysBelow_cons_iff, StaysBelow]
  refine forall₂_congr fun before hmem => ?_
  rw [List.count_cons_self, List.countP_cons_of_neg (by decide), Nat.add_right_comm]
  exact Nat.add_le_add_iff_right

theorem not_staysBelow_dots : ¬StaysBelow 0 (['.', '.'] :: rest) := by
  intro hbelow
  have hfirst := staysBelow_cons_iff.mp hbelow [] (by simp)
  exact absurd hfirst (by decide)

/-- A relative walk that has left its start upwards does not come back. -/
theorem dots_mem_walk (habove : ['.', '.'] ∈ passed) (component : List Char) :
    ['.', '.'] ∈ walk false passed component := by
  unfold walk
  split
  · exact habove
  · split
    · cases passed with
      | nil => cases habove
      | cons last earlier =>
          dsimp only
          split
          · rename_i hother
            exact List.mem_of_ne_of_mem (Ne.symm hother) habove
          · exact List.mem_cons_of_mem _ habove
    · exact List.mem_cons_of_mem _ habove

theorem dots_mem_foldl_walk (habove : ['.', '.'] ∈ passed) (components : List (List Char)) :
    ['.', '.'] ∈ components.foldl (walk false) passed := by
  induction components generalizing passed with
  | nil => exact habove
  | cons component rest ih => exact ih (dots_mem_walk habove component)

/-- A relative walk leaves its start upwards exactly if its components climb. -/
theorem dots_not_mem_foldl_walk_iff {components : List (List Char)}
    (hnames : ['.', '.'] ∉ passed) :
    ['.', '.'] ∉ components.foldl (walk false) passed ↔ StaysBelow passed.length components := by
  -- what has been passed are names only, so their number is how far two dots may still lead up
  induction components generalizing passed with
  | nil => exact iff_of_true hnames staysBelow_nil
  | cons component rest ih =>
      rw [List.foldl_cons]
      by_cases hempty : component = [] ∨ component = ['.']
      · rw [staysBelow_cons_of_empty hempty, walk.eq_def, if_pos hempty]
        exact ih hnames
      · by_cases hdots : component = ['.', '.']
        · subst hdots
          cases passed with
          | nil =>
              exact iff_of_false (not_not_intro (dots_mem_foldl_walk (by decide) rest))
                not_staysBelow_dots
          | cons last earlier =>
              obtain ⟨hother, hothers⟩ := List.ne_and_not_mem_of_not_mem_cons hnames
              rw [walk, if_neg hempty, if_pos rfl, if_pos (Ne.symm hother), List.length_cons,
                staysBelow_dots_succ_iff]
              exact ih hothers
        · have hdown : leadsDown component = true := by
            obtain ⟨hnonempty, hdot⟩ := not_or.mp hempty
            exact decide_eq_true ⟨hnonempty, hdot, hdots⟩
          rw [staysBelow_cons_of_leadsDown hdown, walk.eq_def, if_neg hempty, if_neg hdots]
          exact ih (List.not_mem_cons_of_ne_of_not_mem (Ne.symm hdots) hnames)

theorem head?_ne_of_isAbsolute {path : List Char} (hrelative : isAbsolute path = false) :
    path.head? ≠ some '/' :=
  beq_eq_false_iff_ne.mp hrelative

theorem dots_mem_splitOn_render_iff (hheld : Passed false passed) :
    ['.', '.'] ∈ (render false passed.reverse).splitOn '/' ↔ ['.', '.'] ∈ passed := by
  rw [render, if_neg Bool.false_ne_true]
  by_cases hnone : passed.reverse = []
  · rw [hnone, List.reverse_eq_nil_iff.mp hnone]
    decide
  · rw [List.splitOn_intercalate '/' ?_ hnone, List.mem_reverse]
    intro part hmem hslash
    exact ((hheld.isComponent part (List.mem_reverse.mp hmem)).2 '/' hslash).1 rfl

theorem toList_normalize_eq_render (path : String) :
    (normalize path).toList =
      render (isRooted path) (components (isRooted path) (path.toList.map slash)) := by
  rw [toList_normalize]
  rfl

/-- A normal form starts with a slash if the path starts with one of either kind. -/
theorem isAbsolute_normalize (path : String) :
    isAbsolute (normalize path).toList = isRooted path := by
  have hheld := passed_components (isRooted path) path.toList
  have hstart := isAbsolute_render hheld
  rw [List.reverse_reverse] at hstart
  rw [toList_normalize_eq_render, hstart]

/-- The normal form of a relative path stays below the start exactly if the path never climbs. -/
theorem isBelow_normalize_iff (hrelative : isRooted path = false) :
    IsBelow (normalize path) ↔ NeverClimbs path := by
  have hheld := passed_components false path.toList
  have hnormal := toList_normalize_eq_render path
  rw [hrelative, ← List.reverse_reverse (components _ _)] at hnormal
  have hclimbs : ['.', '.'] ∉ ((path.toList.map slash).splitOn '/').foldl (walk false) [] ↔
      NeverClimbs path := dots_not_mem_foldl_walk_iff List.not_mem_nil
  rw [← hclimbs]
  constructor
  · rintro ⟨-, hsteady⟩
    rw [hnormal, dots_mem_splitOn_render_iff hheld, components, List.reverse_reverse] at hsteady
    exact hsteady
  · intro hsteady
    refine ⟨?_, ?_⟩
    · rw [isAbsolute_normalize, hrelative]
    · rw [hnormal, dots_mem_splitOn_render_iff hheld, components, List.reverse_reverse]
      exact hsteady

end Dialogue.Path
