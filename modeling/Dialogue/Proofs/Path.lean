/-
# Resolved paths

A path in normal form is its own normal form, also when an extension is put after it. So a target
that names a file resolves to a path in normal form, and any other to the path of its collection
itself, in each case with the name of a script after a hash or without one. A hash in a path cuts it
for good: two paths match when their files and their names match.
-/

import Dialogue.Path
import Dialogue.Proofs.Text.Hash

namespace Dialogue.Path

open Text (lowercase lowercaseAfter sameName trim)

variable {file name path : List Char}

theorem splitNameChars_append (hunhashed : '#' ∉ file) (name : List Char) :
    splitNameChars (file ++ '#' :: name) = (file, name) := by
  have hplain : ∀ c ∈ file, decide (c ≠ '#') = true := fun c hmem =>
    decide_eq_true fun hhash => hunhashed (hhash ▸ hmem)
  rw [splitNameChars, List.takeWhile_append_of_pos hplain, List.dropWhile_append_of_pos hplain]
  simp

theorem splitNameChars_of_not_mem (hunhashed : '#' ∉ path) : splitNameChars path = (path, []) := by
  have hplain : ∀ c ∈ path, decide (c ≠ '#') = true := fun c hmem =>
    decide_eq_true fun hhash => hunhashed (hhash ▸ hmem)
  have htaken := @List.takeWhile_append_of_pos _ (fun c => decide (c ≠ '#')) _ [] hplain
  have hdropped := @List.dropWhile_append_of_pos _ (fun c => decide (c ≠ '#')) _ [] hplain
  rw [List.append_nil] at htaken hdropped
  rw [splitNameChars, htaken, hdropped]
  simp

/-- A path is a file without a hash, or such a file with a hash and a name after it. -/
theorem splitNameChars_cases (path : List Char) :
    (∃ file name, '#' ∉ file ∧ path = file ++ '#' :: name ∧ splitNameChars path = (file, name)) ∨
      '#' ∉ path ∧ splitNameChars path = (path, []) := by
  by_cases hhashed : '#' ∈ path
  · obtain ⟨file, name, rfl, hunhashed⟩ := List.eq_append_cons_of_mem hhashed
    exact .inl ⟨file, name, hunhashed, rfl, splitNameChars_append hunhashed name⟩
  · exact .inr ⟨hhashed, splitNameChars_of_not_mem hhashed⟩

/-- The path of a collection with the name of a script after it. -/
theorem toList_hash (file name : String) :
    (file ++ "#" ++ name).toList = file.toList ++ '#' :: name.toList := by
  rw [String.toList_append, String.toList_append, List.append_assoc]
  rfl

/-- A path is its file and its name with a hash between them, or else a file alone. -/
theorem splitName_cases (path : String) :
    '#' ∉ (splitName path).1.toList ∧
      ('#' ∈ path.toList ∧ path = (splitName path).1 ++ "#" ++ (splitName path).2 ∨
        '#' ∉ path.toList ∧ splitName path = (path, "")) := by
  rcases splitNameChars_cases path.toList with ⟨file, name, hplain, hwhole, hcut⟩ | ⟨hplain, hcut⟩
  · rw [splitName, hcut]
    dsimp only
    rw [String.toList_ofList]
    refine ⟨hplain, .inl ⟨?_, ?_⟩⟩
    · simp [hwhole]
    · rw [← String.toList_inj, toList_hash, hwhole, String.toList_ofList, String.toList_ofList]
  · rw [splitName, hcut]
    dsimp only
    rw [String.ofList_toList]
    exact ⟨hplain, .inr ⟨hplain, rfl⟩⟩

/-- A component has no slash of either kind in it. -/
def IsComponent (component : List Char) : Prop :=
  ∀ c ∈ component, c ≠ '/' ∧ c ≠ '\\'

/-- The components that a walk can have passed, the last one first: names, and before them the pairs
of dots that lead up from the start of a relative path. -/
inductive Passed (absolute : Bool) : List (List Char) → Prop where
  | start : Passed absolute []
  | up {passed : List (List Char)} (hrelative : absolute = false)
      (hdots : ∀ component ∈ passed, component = ['.', '.']) (hearlier : Passed absolute passed) :
      Passed absolute (['.', '.'] :: passed)
  | name {component : List Char} {passed : List (List Char)} (hnonempty : component ≠ [])
      (hdot : component ≠ ['.']) (hdots : component ≠ ['.', '.']) (hclean : IsComponent component)
      (hearlier : Passed absolute passed) : Passed absolute (component :: passed)

variable {absolute : Bool} {passed : List (List Char)} {component : List Char}

/-- One more component of a path keeps to the components that a walk can have passed. -/
theorem Passed.walk (hheld : Passed absolute passed) (hclean : IsComponent component) :
    Passed absolute (walk absolute passed component) := by
  unfold Path.walk
  split
  · exact hheld
  · rename_i hsolid
    obtain ⟨hnonempty, hdot⟩ := not_or.mp hsolid
    split
    · rename_i hdots
      subst hdots
      cases hheld with
      | start =>
          cases absolute with
          | true => exact .start
          | false => exact .up rfl (fun _ hmem => absurd hmem List.not_mem_nil) .start
      | up hrelative habove hearlier =>
          subst hrelative
          exact .up rfl (List.forall_mem_cons.mpr ⟨rfl, habove⟩) (.up rfl habove hearlier)
      | name _ _ hdiffers _ hearlier =>
          dsimp only
          rw [if_pos hdiffers]
          exact hearlier
    · rename_i hdots
      exact .name hnonempty hdot hdots hclean hheld

/-- The components that a walk has passed lead to the same place when they are walked again. -/
theorem Passed.walk_eq_cons (hheld : Passed absolute (component :: passed)) :
    Path.walk absolute passed component = component :: passed := by
  cases hheld with
  | up hrelative hdots hearlier =>
      subst hrelative
      cases passed with
      | nil => rfl
      | cons last earlier =>
          rw [hdots last List.mem_cons_self]
          rfl
  | name hnonempty hdot hdots hclean hearlier =>
      unfold Path.walk
      rw [if_neg (not_or.mpr ⟨hnonempty, hdot⟩), if_neg hdots]

theorem Passed.foldl_walk (hheld : Passed absolute passed) :
    passed.reverse.foldl (Path.walk absolute) [] = passed := by
  induction hheld with
  | start => rfl
  | up hrelative hdots hearlier ih =>
      rw [List.reverse_cons, List.foldl_append, ih]
      exact (Passed.up hrelative hdots hearlier).walk_eq_cons
  | name hnonempty hdot hdots hclean hearlier ih =>
      rw [List.reverse_cons, List.foldl_append, ih]
      exact (Passed.name hnonempty hdot hdots hclean hearlier).walk_eq_cons

theorem Passed.isComponent (hheld : Passed absolute passed) :
    ∀ component ∈ passed, component ≠ [] ∧ IsComponent component := by
  induction hheld with
  | start => exact fun _ hmem => absurd hmem List.not_mem_nil
  | up hrelative hdots hearlier ih =>
      exact List.forall_mem_cons.mpr ⟨⟨by decide, by simp [IsComponent]⟩, ih⟩
  | name hnonempty hdot hdots hclean hearlier ih =>
      exact List.forall_mem_cons.mpr ⟨⟨hnonempty, hclean⟩, ih⟩

/-- The path with given components. -/
def render (absolute : Bool) (components : List (List Char)) : List Char :=
  let joined := ['/'].intercalate components
  if absolute then '/' :: joined else joined

theorem mem_of_mem_splitOn {text part : List Char} (hmem : part ∈ text.splitOn '/') :
    ∀ c ∈ part, c ∈ text ∧ c ≠ '/' := by
  induction text generalizing part with
  | nil =>
      rw [List.splitOn_nil, List.mem_singleton] at hmem
      subst hmem
      exact fun _ hmem => absurd hmem List.not_mem_nil
  | cons first rest ih =>
      rw [List.splitOn_cons_eq_if_modifyHead] at hmem
      split at hmem
      · rcases List.mem_cons.mp hmem with rfl | hmem
        · exact fun _ hmem => absurd hmem List.not_mem_nil
        · exact fun c hheld => ⟨List.mem_cons_of_mem _ (ih hmem c hheld).1, (ih hmem c hheld).2⟩
      · rename_i hsolid
        cases hparts : rest.splitOn '/' with
        | nil => exact absurd hparts (List.splitOn_ne_nil _ _)
        | cons head tail =>
            rw [hparts] at hmem ih
            rcases List.mem_cons.mp hmem with rfl | hmem
            · refine List.forall_mem_cons.mpr ⟨⟨List.mem_cons_self, ?_⟩, fun c hheld => ?_⟩
              · exact fun hslash => hsolid (beq_iff_eq.mpr hslash)
              · have hown := ih List.mem_cons_self c hheld
                exact ⟨List.mem_cons_of_mem _ hown.1, hown.2⟩
            · intro c hheld
              have hown := ih (List.mem_cons_of_mem _ hmem) c hheld
              exact ⟨List.mem_cons_of_mem _ hown.1, hown.2⟩

theorem slash_ne (c : Char) : slash c ≠ '\\' := by
  rw [slash]
  split
  · decide
  · assumption

/-- The components of a path. Backslashes count as slashes. -/
def parts (path : List Char) : List (List Char) :=
  (path.map slash).splitOn '/'

theorem isComponent_of_mem_parts {path : List Char} :
    ∀ component ∈ parts path, IsComponent component := by
  intro component hmem c hheld
  obtain ⟨hown, hsolid⟩ := mem_of_mem_splitOn hmem c hheld
  obtain ⟨d, -, rfl⟩ := List.mem_map.mp hown
  exact ⟨hsolid, slash_ne d⟩

/-- The components of a path are passed one by one. -/
theorem passed_components (absolute : Bool) (path : List Char) :
    Passed absolute (components absolute (path.map slash)).reverse := by
  have hwalked : ∀ (parts passed : List (List Char)), Passed absolute passed →
      (∀ part ∈ parts, IsComponent part) →
        Passed absolute (parts.foldl (walk absolute) passed) := by
    intro parts
    induction parts with
    | nil => exact fun _ hheld _ => hheld
    | cons part rest ih =>
        intro passed hheld hclean
        obtain ⟨hown, hlater⟩ := List.forall_mem_cons.mp hclean
        exact ih _ (hheld.walk hown) hlater
  rw [components, List.reverse_reverse]
  exact hwalked _ _ .start isComponent_of_mem_parts

theorem mem_intercalate {parts : List (List Char)} {c : Char}
    (hmem : c ∈ ['/'].intercalate parts) : c = '/' ∨ ∃ part ∈ parts, c ∈ part := by
  induction parts with
  | nil => cases hmem
  | cons part rest ih =>
      cases rest with
      | nil =>
          rw [List.intercalate_singleton] at hmem
          exact .inr ⟨part, List.mem_cons_self, hmem⟩
      | cons next later =>
          rw [List.intercalate_cons_cons, List.append_assoc, List.mem_append] at hmem
          rcases hmem with hown | hmem
          · exact .inr ⟨part, List.mem_cons_self, hown⟩
          · rcases List.mem_cons.mp hmem with rfl | hmem
            · exact .inl rfl
            · rcases ih hmem with hslash | ⟨part, hlisted, hown⟩
              · exact .inl hslash
              · exact .inr ⟨part, List.mem_cons_of_mem _ hlisted, hown⟩

theorem mem_render {parts : List (List Char)} {c : Char} (hmem : c ∈ render absolute parts) :
    c = '/' ∨ ∃ part ∈ parts, c ∈ part := by
  unfold render at hmem
  split at hmem
  · rcases List.mem_cons.mp hmem with rfl | hmem
    · exact .inl rfl
    · exact mem_intercalate hmem
  · exact mem_intercalate hmem

theorem map_slash_render (hheld : Passed absolute passed) :
    (render absolute passed.reverse).map slash = render absolute passed.reverse := by
  have hstays : ∀ c ∈ render absolute passed.reverse, slash c = c := by
    intro c hmem
    refine if_neg ?_
    rcases mem_render hmem with rfl | ⟨part, hlisted, hown⟩
    · decide
    · exact ((hheld.isComponent part (List.mem_reverse.mp hlisted)).2 c hown).2
  calc (render absolute passed.reverse).map slash
      = (render absolute passed.reverse).map id := List.map_congr_left hstays
    _ = render absolute passed.reverse := List.map_id _

/-- Only a path that is meant to starts at the root: the first component does not start with a
slash. -/
theorem isAbsolute_render (hheld : Passed absolute passed) :
    isAbsolute (render absolute passed.reverse) = absolute := by
  cases absolute with
  | true => rfl
  | false =>
      have hclean := hheld.isComponent
      cases hparts : passed.reverse with
      | nil => rfl
      | cons part rest =>
          have hmem : part ∈ passed := by
            rw [← List.mem_reverse, hparts]
            exact List.mem_cons_self
          obtain ⟨hnonempty, hown⟩ := hclean part hmem
          cases part with
          | nil => contradiction
          | cons c later =>
              have hsolid : (c == '/') = false := beq_false_of_ne (hown c List.mem_cons_self).1
              have hfirst : (['/'].intercalate ((c :: later) :: rest)).head? = some c := by
                cases rest with
                | nil => rw [List.intercalate_singleton, List.head?_cons]
                | cons next others => rw [List.intercalate_cons_cons]; rfl
              rw [isAbsolute, render, if_neg (by decide), hfirst]
              exact hsolid

theorem components_render (hheld : Passed absolute passed) :
    components absolute (render absolute passed.reverse) = passed.reverse := by
  have hjoined : ((['/'].intercalate passed.reverse).splitOn '/').foldl (walk absolute) [] =
      passed := by
    by_cases hnone : passed.reverse = []
    · rw [hnone, List.reverse_eq_nil_iff.mp hnone]
      rfl
    · rw [List.splitOn_intercalate '/' ?_ hnone, hheld.foldl_walk]
      intro part hmem hslash
      exact ((hheld.isComponent part (List.mem_reverse.mp hmem)).2 '/' hslash).1 rfl
  cases absolute with
  | true =>
      rw [components, render, if_pos rfl, List.splitOn_cons_eq_if_modifyHead,
        if_pos (beq_self_eq_true '/'), List.foldl_cons]
      exact congrArg List.reverse hjoined
  | false =>
      rw [components, render, if_neg (by decide)]
      exact congrArg List.reverse hjoined

/-- The path with passed components is in normal form. -/
theorem normalizeChars_render (hheld : Passed absolute passed) :
    normalizeChars (render absolute passed.reverse) = render absolute passed.reverse := by
  rw [normalizeChars, map_slash_render hheld, isAbsolute_render hheld, components_render hheld]
  rfl

/-- A normal form is its own normal form. -/
theorem normalizeChars_normalizeChars (path : List Char) :
    normalizeChars (normalizeChars path) = normalizeChars path := by
  have hheld := passed_components (isAbsolute (path.map slash)) path
  have hnormal := normalizeChars_render hheld
  rwa [List.reverse_reverse] at hnormal

theorem normalize_normalize (path : String) : normalize (normalize path) = normalize path := by
  rw [normalize, toList_normalize, normalizeChars_normalizeChars]
  rfl

theorem intercalate_append (parts : List (List Char)) (last text : List Char) :
    ['/'].intercalate (parts ++ [last]) ++ text = ['/'].intercalate (parts ++ [last ++ text]) := by
  induction parts with
  | nil => rw [List.nil_append, List.nil_append, List.intercalate_singleton,
      List.intercalate_singleton]
  | cons part rest ih =>
      have hjoined (other : List Char) : ['/'].intercalate (part :: rest ++ [other]) =
          part ++ ['/'] ++ ['/'].intercalate (rest ++ [other]) := by
        rw [List.cons_append, List.intercalate_cons_of_ne_nil (by simp)]
      rw [hjoined, hjoined, List.append_assoc, ih]

/-- The components of a path with an extension put after it. -/
def withExtension : List (List Char) → List (List Char)
  | [] => [['.', 'm', 'd']]
  | last :: earlier => (last ++ ['.', 'm', 'd']) :: earlier

theorem render_withExtension (absolute : Bool) (passed : List (List Char)) :
    render absolute (withExtension passed).reverse =
      render absolute passed.reverse ++ ['.', 'm', 'd'] := by
  have hjoined : ['/'].intercalate (withExtension passed).reverse =
      ['/'].intercalate passed.reverse ++ ['.', 'm', 'd'] := by
    cases passed with
    | nil => rfl
    | cons last earlier =>
        rw [withExtension, List.reverse_cons, List.reverse_cons, intercalate_append]
  unfold render
  split
  · exact congrArg ('/' :: ·) hjoined
  · exact hjoined

theorem isComponent_extension : IsComponent ['.', 'm', 'd'] := by
  simp [IsComponent]

/-- With an extension after it the last component is a name. -/
theorem Passed.withExtension (hheld : Passed absolute passed) :
    Passed absolute (withExtension passed) := by
  have hlonger {last earlier : _} (hnonempty : last ≠ []) (hclean : IsComponent last)
      (hheld : Passed absolute earlier) :
      Passed absolute ((last ++ ['.', 'm', 'd']) :: earlier) := by
    have hlength := List.length_pos_iff.mpr hnonempty
    refine .name ?_ ?_ ?_ ?_ hheld
    · simp
    · intro hsame
      have := congrArg List.length hsame
      simp at this
    · intro hsame
      have := congrArg List.length hsame
      simp at this
    · intro c hmem
      rcases List.mem_append.mp hmem with hown | hadded
      · exact hclean c hown
      · exact isComponent_extension c hadded
  cases hheld with
  | start => exact .name (by decide) (by decide) (by decide) isComponent_extension .start
  | up hrelative hdots hearlier => exact hlonger (by decide) (by simp [IsComponent]) hearlier
  | name hnonempty hdot hdots hclean hearlier => exact hlonger hnonempty hclean hearlier

/-- A path in normal form stays so with an extension after it. -/
theorem normalizeChars_extension (path : List Char) :
    normalizeChars (normalizeChars path ++ ['.', 'm', 'd']) =
      normalizeChars path ++ ['.', 'm', 'd'] := by
  have hheld := passed_components (isAbsolute (path.map slash)) path
  have hnormal := normalizeChars_render hheld.withExtension
  rwa [render_withExtension, List.reverse_reverse] at hnormal

theorem mem_of_mem_walk {part : List Char} (hmem : part ∈ walk absolute passed component) :
    part ∈ passed ∨ part = component := by
  unfold walk at hmem
  split at hmem
  · exact .inl hmem
  · split at hmem
    · cases passed with
      | nil =>
          dsimp only at hmem
          split at hmem
          · cases hmem
          · exact .inr (List.mem_singleton.mp hmem)
      | cons last earlier =>
          dsimp only at hmem
          split at hmem
          · exact .inl (List.mem_cons_of_mem _ hmem)
          · split at hmem
            · exact .inl hmem
            · exact (List.mem_cons.mp hmem).symm
    · exact (List.mem_cons.mp hmem).symm

theorem mem_of_mem_foldl_walk {parts : List (List Char)} {part : List Char}
    (hmem : part ∈ parts.foldl (walk absolute) passed) : part ∈ passed ∨ part ∈ parts := by
  induction parts generalizing passed with
  | nil => exact .inl hmem
  | cons first rest ih =>
      rcases ih hmem with hwalked | hlater
      · rcases mem_of_mem_walk hwalked with hold | rfl
        · exact .inl hold
        · exact .inr List.mem_cons_self
      · exact .inr (List.mem_cons_of_mem _ hlater)

/-- Nothing but slashes is new in a normal form. -/
theorem mem_of_mem_normalizeChars {path : List Char} {c : Char} (hmem : c ∈ normalizeChars path) :
    c = '/' ∨ c ∈ path := by
  rcases mem_render hmem with hslashed | ⟨part, hlisted, hown⟩
  · exact .inl hslashed
  · rcases mem_of_mem_foldl_walk (List.mem_reverse.mp hlisted) with hnone | hsplit
    · cases hnone
    · obtain ⟨d, hheld, rfl⟩ := List.mem_map.mp (mem_of_mem_splitOn hsplit c hown).1
      rw [slash]
      split
      · exact .inl rfl
      · exact .inr hheld

theorem hash_not_mem_directory {base : List Char} (hunhashed : '#' ∉ base) :
    '#' ∉ directory (base.map slash) := by
  intro hmem
  rw [directory, List.mem_reverse] at hmem
  have hwithin := (List.dropWhile_suffix _).subset (List.mem_of_mem_drop hmem)
  obtain ⟨c, hheld, hsame⟩ := List.mem_map.mp (List.mem_reverse.mp hwithin)
  rw [slash] at hsame
  split at hsame
  · cases hsame
  · exact hunhashed (hsame ▸ hheld)

/-- The file that a target names has a path in normal form and without a hash. -/
theorem isNormal_place {folder file : List Char} (hfolderPlain : '#' ∉ folder)
    (hfilePlain : '#' ∉ file) {place : List Char}
    (hresolved : place = normalizeChars (if folder = [] then file else folder ++ '/' :: file)) :
    let full := if hasExtension place then place else place ++ ['.', 'm', 'd']
    '#' ∉ full ∧ normalizeChars full = full := by
  have hjoined : '#' ∉ if folder = [] then file else folder ++ '/' :: file := by
    split
    · exact hfilePlain
    · simp [hfolderPlain, hfilePlain]
  have hunhashed : '#' ∉ place := by
    rw [hresolved]
    intro hmem
    rcases mem_of_mem_normalizeChars hmem with hslash | hmem
    · cases hslash
    · exact hjoined hmem
  intro full
  by_cases hextended : hasExtension place = true
  · rw [show full = place from if_pos hextended]
    exact ⟨hunhashed, by rw [hresolved, normalizeChars_normalizeChars]⟩
  · rw [show full = place ++ ['.', 'm', 'd'] from if_neg hextended]
    refine ⟨by simp [hunhashed], ?_⟩
    rw [hresolved, normalizeChars_extension]

/-- A target that starts with a hash names a script of the collection that it is written in. -/
theorem splitNameChars_resolveChars_of_head? {base target : List Char} (hunhashed : '#' ∉ base)
    (hinside : (trim target).head? = some '#') :
    splitNameChars (resolveChars base target) = (base, (trim target).tail) := by
  obtain ⟨name, hstart⟩ := List.head?_eq_some_iff.mp hinside
  rw [resolveChars_of_head? base hinside, hstart]
  exact splitNameChars_append hunhashed name

/-- Any other target names a file by a path in normal form. -/
theorem normalizeChars_file_resolveChars {base target : List Char} (hunhashed : '#' ∉ base)
    (houtside : (trim target).head? ≠ some '#') :
    normalizeChars (splitNameChars (resolveChars base target)).1 =
      (splitNameChars (resolveChars base target)).1 := by
  obtain ⟨file, name, hcut, hfilePlain⟩ : ∃ file name, splitNameChars (trim target) = (file, name) ∧
      '#' ∉ file := by
    rcases splitNameChars_cases (trim target) with ⟨file, name, hplain, -, hcut⟩ | ⟨hplain, hcut⟩
    · exact ⟨file, name, hcut, hplain⟩
    · exact ⟨trim target, [], hcut, hplain⟩
  obtain ⟨hplain, hnormal⟩ := isNormal_place (hash_not_mem_directory hunhashed) hfilePlain rfl
  unfold resolveChars
  rw [if_neg houtside, hcut]
  dsimp only
  split
  · rw [splitNameChars_of_not_mem hplain]
    exact hnormal
  · rw [splitNameChars_append hplain]
    exact hnormal

/-- Paths with names match when their files and their names do. -/
theorem sameName_hash_iff {file other : String} (hplain : '#' ∉ file.toList)
    (hotherPlain : '#' ∉ other.toList) (name otherName : String) :
    sameName (file ++ "#" ++ name) (other ++ "#" ++ otherName) = true ↔
      sameName file other = true ∧ sameName name otherName = true := by
  simp only [Text.sameName_iff, lowercase, String.ofList_inj, toList_hash,
    Text.lowercaseAfter_append_hash]
  constructor
  · intro hsame
    have hsplit := congrArg splitNameChars hsame
    rw [splitNameChars_append (mt Text.hash_mem_lowercaseAfter_iff.mp hplain),
      splitNameChars_append (mt Text.hash_mem_lowercaseAfter_iff.mp hotherPlain)] at hsplit
    exact Prod.mk.inj hsplit
  · rintro ⟨hfiles, hnames⟩
    rw [hfiles, hnames]

/-- A path with a hash matches neither what stands before the hash nor what stands after it. -/
theorem sameName_hash_eq_false {file name part : String} (hown : part = file ∨ part = name) :
    sameName part (file ++ "#" ++ name) = false := by
  rw [Bool.eq_false_iff, Ne, Text.sameName_iff, lowercase, lowercase, String.ofList_inj,
    toList_hash, Text.lowercaseAfter_append_hash]
  intro hsame
  have hlengths := congrArg List.length hsame
  rw [List.length_append, List.length_cons] at hlengths
  rcases hown with rfl | rfl <;> omega

/-- Matching paths have a hash both or neither. -/
theorem hash_mem_iff_of_sameName {path other : String} (hsame : sameName path other = true) :
    '#' ∈ path.toList ↔ '#' ∈ other.toList := by
  rw [Text.sameName_iff, lowercase, lowercase, String.ofList_inj] at hsame
  rw [← Text.hash_mem_lowercaseAfter_iff, hsame, Text.hash_mem_lowercaseAfter_iff]

end Dialogue.Path
