/-
# Files that links name

A link names a file by a path that is followed from a directory, component by component. A name
leads down, two dots lead up, and anything else stays. At the root two dots stay as well, and from
the start of a relative path they lead further and further up.

The path is meant to be followed from the directory of the collection that the link is written in.
So it is if there is text before the last slash of the path of the collection. But a collection
directly below the root has no such text, and neither has one without any slash. There the path of
the link is followed from its own start, and it is absolute if it starts with a slash itself.
-/

import Dialogue.Proofs.Path.Climbing
import Mathlib.Data.List.TakeWhile

namespace Dialogue.Path

open Text (lowercaseAfter)

/-- Whether a component is a name: it leads down and has no slash in it. -/
def IsName (component : List Char) : Prop :=
  leadsDown component = true ∧ IsComponent component

instance : DecidablePred IsComponent := fun component =>
  inferInstanceAs (Decidable (∀ c ∈ component, c ≠ '/' ∧ c ≠ '\\'))

instance : DecidablePred IsName := fun component =>
  inferInstanceAs (Decidable (leadsDown component = true ∧ IsComponent component))

/-- A place among files: so many steps up from the root or from the start of a relative path, and
from there down by names, the last one first. No step leads up from the root. -/
structure Spot where
  rooted : Bool
  ups : Nat
  names : List (List Char)
  top : rooted = true → ups = 0
  down : ∀ name ∈ names, IsName name

namespace Spot

/-- The root, or the start of a relative path. -/
def start (rooted : Bool) : Spot :=
  ⟨rooted, 0, [], fun _ => rfl, nofun⟩

/-- The spot one step up. At the root this is the root. -/
def up : Spot → Spot
  | ⟨rooted, ups, _ :: earlier, htop, hdown⟩ =>
    ⟨rooted, ups, earlier, htop, fun name hmem => hdown name (List.mem_cons_of_mem _ hmem)⟩
  | ⟨true, ups, [], htop, hdown⟩ => ⟨true, ups, [], htop, hdown⟩
  | ⟨false, ups, [], _, hdown⟩ => ⟨false, ups + 1, [], nofun, hdown⟩

/-- The spot that a component leads to. -/
def follow (spot : Spot) (component : List Char) : Spot :=
  if hname : IsName component then
    { spot with
      names := component :: spot.names
      down := List.forall_mem_cons.mpr ⟨hname, spot.down⟩ }
  else if component = ['.', '.'] then spot.up
  else spot

/-- The spot that some components lead to, one after the other. -/
def followAll (spot : Spot) (components : List (List Char)) : Spot :=
  components.foldl follow spot

theorem followAll_append (spot : Spot) (first second : List (List Char)) :
    (spot.followAll first).followAll second = spot.followAll (first ++ second) :=
  List.foldl_append.symm

/-- The path to a spot. -/
def path (spot : Spot) : List Char :=
  render spot.rooted (List.replicate spot.ups ['.', '.'] ++ spot.names.reverse)

/-- The components on the way to a spot, the last one first. -/
def passed (spot : Spot) : List (List Char) :=
  spot.names ++ List.replicate spot.ups ['.', '.']

variable {component : List Char} {components : List (List Char)}

theorem path_eq_render (spot : Spot) : spot.path = render spot.rooted spot.passed.reverse := by
  rw [path, passed, List.reverse_append, List.reverse_replicate]

theorem passed_replicate (ups : Nat) : Passed false (List.replicate ups ['.', '.']) := by
  induction ups with
  | zero => exact .start
  | succ ups ih => exact .up rfl (fun _ hmem => List.eq_of_mem_replicate hmem) ih

theorem passed_spec (spot : Spot) : Passed spot.rooted spot.passed := by
  obtain ⟨rooted, ups, names, htop, hdown⟩ := spot
  have habove : Passed rooted (List.replicate ups ['.', '.']) := by
    cases rooted with
    | true =>
        cases htop rfl
        exact .start
    | false => exact passed_replicate ups
  show Passed rooted (names ++ List.replicate ups ['.', '.'])
  -- only the names are left to be passed, and these may be any names
  clear htop
  induction names with
  | nil => exact habove
  | cons name earlier ih =>
      obtain ⟨⟨hleads, hclean⟩, hothers⟩ := List.forall_mem_cons.mp hdown
      obtain ⟨hnonempty, hdot, hdots⟩ := of_decide_eq_true hleads
      exact .name hnonempty hdot hdots hclean (ih hothers)

theorem rooted_up (spot : Spot) : spot.up.rooted = spot.rooted := by
  rw [up.eq_def]
  split <;> rfl

theorem rooted_follow (spot : Spot) (component : List Char) :
    (spot.follow component).rooted = spot.rooted := by
  rw [follow]
  split
  · rfl
  · split
    · exact rooted_up spot
    · rfl

theorem rooted_followAll (spot : Spot) (components : List (List Char)) :
    (spot.followAll components).rooted = spot.rooted := by
  induction components generalizing spot with
  | nil => rfl
  | cons component rest ih =>
      exact (ih (spot.follow component)).trans (rooted_follow spot component)

/-- Two dots lead one step up. -/
theorem walk_dots (spot : Spot) : walk spot.rooted spot.passed ['.', '.'] = spot.up.passed := by
  obtain ⟨rooted, ups, names, htop, hdown⟩ := spot
  cases names with
  | cons last earlier =>
      have hother : last ≠ ['.', '.'] := (of_decide_eq_true (hdown last List.mem_cons_self).1).2.2
      exact if_pos hother
  | nil =>
      cases rooted with
      | true =>
          cases htop rfl
          rfl
      | false =>
          cases ups <;> rfl

/-- A walk over the components of a path leads to the same spots. -/
theorem walk_passed (spot : Spot) (hclean : IsComponent component) :
    walk spot.rooted spot.passed component = (spot.follow component).passed := by
  rw [follow]
  split
  · rename_i hname
    obtain ⟨hnonempty, hdot, hdots⟩ := of_decide_eq_true hname.1
    rw [walk.eq_def, if_neg (not_or.mpr ⟨hnonempty, hdot⟩), if_neg hdots]
    rfl
  · rename_i hunnamed
    split
    · rename_i hdots
      rw [hdots, walk_dots]
    · rename_i hdots
      have hempty : component = [] ∨ component = ['.'] := by
        by_contra hsolid
        obtain ⟨hnonempty, hdot⟩ := not_or.mp hsolid
        exact hunnamed ⟨decide_eq_true ⟨hnonempty, hdot, hdots⟩, hclean⟩
      rw [walk.eq_def, if_pos hempty]

theorem foldl_walk_passed (spot : Spot) (hclean : ∀ component ∈ components, IsComponent component) :
    components.foldl (walk spot.rooted) spot.passed = (spot.followAll components).passed := by
  induction components generalizing spot with
  | nil => rfl
  | cons component rest ih =>
      obtain ⟨hown, hlater⟩ := List.forall_mem_cons.mp hclean
      rw [List.foldl_cons, walk_passed spot hown, ← rooted_follow spot component, ih _ hlater]
      rfl

/-- The path to a spot is absolute if it goes down from the root. -/
theorem isAbsolute_path (spot : Spot) : isAbsolute spot.path = spot.rooted := by
  rw [path_eq_render, isAbsolute_render spot.passed_spec]

end Spot

/-- The normal form of a path is the path to the spot that its components lead to. -/
theorem normalizeChars_eq_path (path : List Char) :
    normalizeChars path =
      ((Spot.start (isAbsolute (path.map slash))).followAll (parts path)).path := by
  rw [Spot.path_eq_render, Spot.rooted_followAll,
    ← Spot.foldl_walk_passed _ isComponent_of_mem_parts]
  rfl

theorem slash_slash (c : Char) : slash (slash c) = slash c :=
  if_neg (slash_ne c)

theorem slash_eq_of_cut {path folder last : List Char}
    (hcut : path.map slash = folder ++ '/' :: last) : ∀ c ∈ folder, slash c = c := by
  intro c hmem
  have hown : c ∈ path.map slash := hcut ▸ List.mem_append_left _ hmem
  obtain ⟨d, -, rfl⟩ := List.mem_map.mp hown
  exact slash_slash d

/-- The components of a path put after a directory are those of the directory and its own. -/
theorem parts_append {path folder last : List Char} (hcut : path.map slash = folder ++ '/' :: last)
    (file : List Char) : parts (folder ++ '/' :: file) = folder.splitOn '/' ++ parts file := by
  have hsame : folder.map slash = folder :=
    (List.map_congr_left (slash_eq_of_cut hcut)).trans (List.map_id _)
  have hjoin : slash '/' = '/' := rfl
  rw [parts, List.map_append, List.map_cons, hsame, hjoin, List.splitOn_append_cons_self]
  rfl

/-- A path is cut at its last slash, if it has one. -/
theorem exists_directory {path : List Char} (hslashed : '/' ∈ path) :
    ∃ folder last, path = folder ++ '/' :: last ∧ '/' ∉ last := by
  obtain ⟨last, folder, hcut, hsolid⟩ := List.eq_append_cons_of_mem (List.mem_reverse.mpr hslashed)
  refine ⟨folder.reverse, last.reverse, ?_, by rwa [List.mem_reverse]⟩
  have hwhole := congrArg List.reverse hcut
  rw [List.reverse_reverse] at hwhole
  simp [hwhole]

theorem directory_of_not_mem {path : List Char} (hunslashed : '/' ∉ path) :
    directory path = [] := by
  have hsolid : path.reverse.dropWhile (fun c => decide (c ≠ '/')) = [] := by
    rw [List.dropWhile_eq_nil_iff]
    intro c hmem
    exact decide_eq_true fun hslash => hunslashed (hslash ▸ List.mem_reverse.mp hmem)
  rw [directory, hsolid]
  rfl

theorem directory_append {folder last : List Char} (hunslashed : '/' ∉ last) :
    directory (folder ++ '/' :: last) = folder := by
  have hsolid : ∀ c ∈ last.reverse, decide (c ≠ '/') = true := fun c hmem =>
    decide_eq_true fun hslash => hunslashed (hslash ▸ List.mem_reverse.mp hmem)
  rw [directory, List.reverse_append, List.reverse_cons, List.append_assoc,
    List.dropWhile_append_of_pos hsolid]
  simp

theorem dropLast_splitOn {folder last : List Char} (hunslashed : '/' ∉ last) :
    ((folder ++ '/' :: last).splitOn '/').dropLast = folder.splitOn '/' := by
  rw [List.splitOn_append_cons_self, List.splitOn_eq_singleton hunslashed, List.dropLast_concat]

/-- The spot of the directory of a collection. Its path is followed but for the last component. -/
def folder (base : String) : Spot :=
  (Spot.start (isRooted base)).followAll (parts base.toList).dropLast

/-- Whether a path has a slash after its first character. Backslashes count as slashes. -/
def HasFolder (base : String) : Prop :=
  '/' ∈ (base.toList.map slash).tail

instance : DecidablePred HasFolder := fun base =>
  inferInstanceAs (Decidable ('/' ∈ (base.toList.map slash).tail))

variable {base : String}

/-- There is text before the last slash exactly if a slash is not the first character. -/
theorem directory_eq_nil_iff : directory (base.toList.map slash) = [] ↔ ¬HasFolder base := by
  unfold HasFolder
  by_cases hslashed : '/' ∈ base.toList.map slash
  · obtain ⟨folder, last, hcut, hsolid⟩ := exists_directory hslashed
    rw [hcut, directory_append hsolid]
    cases folder with
    | nil => exact iff_of_true rfl hsolid
    | cons first rest => simp
  · exact iff_of_true (directory_of_not_mem hslashed) (mt List.mem_of_mem_tail hslashed)

theorem folder_of_not_hasFolder (hnone : ¬HasFolder base) :
    folder base = Spot.start (isRooted base) := by
  rw [folder, parts]
  by_cases hslashed : '/' ∈ base.toList.map slash
  · obtain ⟨text, last, hcut, hsolid⟩ := exists_directory hslashed
    have hempty := directory_eq_nil_iff.mpr hnone
    rw [hcut, directory_append hsolid] at hempty
    rw [hcut, dropLast_splitOn hsolid, hempty]
    rfl
  · rw [List.splitOn_eq_singleton hslashed]
    rfl

/-- A path with the extension `.md`, unless it is written out in any case. -/
def extended (path : List Char) : List Char :=
  if ['.', 'm', 'd'] <:+ path.map Char.toLower then path else path ++ ['.', 'm', 'd']

theorem suffix_append_iff_of_not_mem {first : Char} {word small text : List Char}
    (habsent : first ∉ small) : first :: word <:+ small ++ text ↔ first :: word <:+ text := by
  induction small with
  | nil => exact Iff.rfl
  | cons other rest ih =>
      obtain ⟨hdiffers, hlater⟩ := List.ne_and_not_mem_of_not_mem_cons habsent
      rw [List.cons_append, List.suffix_cons_iff, ih hlater]
      refine or_iff_right fun hsame => ?_
      exact hdiffers (List.cons.inj hsame).1

theorem dot_not_mem_toLower {c : Char} (hother : c ≠ '.') : '.' ∉ [c.toLower] := by
  rw [List.mem_singleton]
  intro hdot
  have hlow : c.toLower.toNat < 65 := hdot ▸ (by decide)
  exact hother ((Text.toLower_eq_of_lt hlow).symm.trans hdot.symm)

/-- The extension is found in the full lowercase form of a path exactly if the path ends in it up to
the case of the letters from A to Z. -/
theorem suffix_lowercaseAfter_iff (before : Bool) (path : List Char) :
    ['.', 'm', 'd'] <:+ lowercaseAfter before path ↔ ['.', 'm', 'd'] <:+ path.map Char.toLower := by
  induction path generalizing before with
  | nil => exact Iff.rfl
  | cons c rest ih =>
      by_cases hdot : c = '.'
      · have hplain : ∀ c ∈ ['m', 'd'], Text.IsPlainLetter c :=
          List.forall_mem_cons.mpr ⟨by decide, List.forall_mem_singleton.mpr (by decide)⟩
        have hletters : lowercaseAfter (Text.endsCased before c) rest = ['m', 'd'] ↔
            rest.map Char.toLower = ['m', 'd'] :=
          ⟨Text.map_toLower_of_lowercaseAfter hplain, Text.lowercaseAfter_of_map_toLower hplain⟩
        subst hdot
        rw [Text.lowercaseAfter_cons_of_ne before rest (by decide),
          Text.lowercaseChar_of_lt (by decide), List.map_cons, List.singleton_append,
          List.suffix_cons_iff, List.suffix_cons_iff, ih]
        refine or_congr_left ?_
        rw [List.cons.injEq, List.cons.injEq, eq_comm (b := lowercaseAfter _ _),
          eq_comm (b := rest.map _), hletters]
      · have hsmall : '.' ∉ if c = 'Σ' then [if before && !Text.startsCased rest then 'ς' else 'σ']
            else Text.lowercaseChar c := by
          split
          · split <;> decide
          · exact Text.sign_not_mem_lowercaseChar (by decide) (by decide) hdot
        have hletter : ['.', 'm', 'd'] <:+ [c.toLower] ++ rest.map Char.toLower ↔
            ['.', 'm', 'd'] <:+ rest.map Char.toLower :=
          suffix_append_iff_of_not_mem (dot_not_mem_toLower hdot)
        rw [lowercaseAfter, suffix_append_iff_of_not_mem hsmall, ih, List.map_cons]
        exact hletter.symm

theorem extended_eq (path : List Char) :
    extended path = if hasExtension path then path else path ++ ['.', 'm', 'd'] := by
  have hsame : hasExtension path = true ↔ ['.', 'm', 'd'] <:+ path.map Char.toLower := by
    rw [hasExtension, List.isSuffixOf_iff_suffix, suffix_lowercaseAfter_iff]
  rw [extended]
  by_cases hwritten : hasExtension path = true
  · rw [if_pos hwritten, if_pos (hsame.mp hwritten)]
  · rw [if_neg hwritten, if_neg (mt hsame.mpr hwritten)]

theorem isAbsolute_append_of_ne {rest : List Char} (path : List Char)
    (hother : isAbsolute rest = false) : isAbsolute (path ++ rest) = isAbsolute path := by
  cases path with
  | nil => exact hother
  | cons first later => rfl

theorem isAbsolute_extended (path : List Char) : isAbsolute (extended path) = isAbsolute path := by
  rw [extended]
  split
  · rfl
  · exact isAbsolute_append_of_ne path rfl

/-- What a link to a file names whose path is followed from a spot, and the script in that file
if there is a name. -/
def Spot.locate (spot : Spot) (file name : String) : String :=
  String.ofList (extended (spot.followAll (parts file.toList)).path) ++
    if name = "" then "" else "#" ++ name

/-- Where the path of a link is followed from: the directory of the collection, if there is text
before the last slash of its path, or else where the path of the link starts itself. -/
def origin (base file : String) : Spot :=
  if HasFolder base then folder base else Spot.start (isRooted file)

variable {target file name : String}

theorem isAbsolute_locate (spot : Spot) (file name : String) :
    isAbsolute (spot.locate file name).toList = spot.rooted := by
  rw [Spot.locate, String.toList_append, isAbsolute_append_of_ne, String.toList_ofList,
    isAbsolute_extended, Spot.isAbsolute_path, Spot.rooted_followAll]
  split
  · rfl
  · rw [String.toList_append]
    rfl

/-- The path of a link, put after the directory of the collection, leads where it is followed to. -/
theorem normalizeChars_joined (base file : String) :
    normalizeChars (if directory (base.toList.map slash) = [] then file.toList
        else directory (base.toList.map slash) ++ '/' :: file.toList) =
      ((origin base file).followAll (parts file.toList)).path := by
  by_cases hhas : HasFolder base
  · obtain ⟨text, last, hcut, hsolid⟩ := exists_directory (List.mem_of_mem_tail hhas)
    have hnonempty := mt directory_eq_nil_iff.mp (not_not_intro hhas)
    rw [if_neg hnonempty, origin, if_pos hhas, normalizeChars_eq_path, folder,
      Spot.followAll_append]
    rw [hcut, directory_append hsolid] at hnonempty ⊢
    -- the joined path starts with the same character as the path of the collection
    have hstart : isAbsolute ((text ++ '/' :: file.toList).map slash) = isRooted base := by
      obtain ⟨first, rest, rfl⟩ := List.exists_cons_of_ne_nil hnonempty
      have hown : slash first = first := slash_eq_of_cut hcut first List.mem_cons_self
      rw [isRooted, hcut, List.cons_append, List.map_cons, hown]
      rfl
    have hway : parts base.toList = (text ++ '/' :: last).splitOn '/' := congrArg _ hcut
    rw [hstart, parts_append hcut, hway, dropLast_splitOn hsolid]
  · rw [if_pos (directory_eq_nil_iff.mpr hhas), origin, if_neg hhas, normalizeChars_eq_path]
    rfl

/-- A link that names a file is resolved to the spot that its path leads to. -/
theorem resolve_eq_locate (base : String) (htrimmed : Text.trim target.toList = target.toList)
    (hnonempty : file ≠ "") (hunhashed : '#' ∉ file.toList)
    (hwritten : target = file ∧ name = "" ∨ target = file ++ "#" ++ name) :
    resolve base target = (origin base file).locate file name := by
  have hcut : splitNameChars target.toList = (file.toList, name.toList) := by
    rcases hwritten with ⟨rfl, rfl⟩ | rfl
    · exact splitNameChars_of_not_mem hunhashed
    · rw [toList_hash]
      exact splitNameChars_append hunhashed name.toList
  have houtside : target.toList.head? ≠ some '#' := by
    intro hhash
    obtain ⟨rest, hstart⟩ := List.head?_eq_some_iff.mp hhash
    rw [hstart] at hcut
    exact hnonempty (String.toList_eq_nil_iff.mp (congrArg Prod.fst hcut).symm)
  have htail : (if name = "" then "" else "#" ++ name).toList =
      if name.toList = [] then [] else '#' :: name.toList := by
    by_cases hnone : name = ""
    · rw [if_pos hnone, if_pos (String.toList_eq_nil_iff.mpr hnone)]
      rfl
    · rw [if_neg hnone, if_neg (mt String.toList_eq_nil_iff.mp hnone), String.toList_append]
      rfl
  rw [← String.toList_inj, toList_resolve, resolveChars, htrimmed, if_neg houtside, hcut]
  dsimp only
  rw [normalizeChars_joined, ← extended_eq, Spot.locate, String.toList_append, String.toList_ofList,
    htail]
  split
  · rw [List.append_nil]
  · rfl

/-- Where there is text before the last slash, or both paths are absolute or both relative, the
path of a link is followed from the directory. -/
theorem origin_eq_folder (hfits : HasFolder base ∨ isRooted file = isRooted base) :
    origin base file = folder base := by
  by_cases hhas : HasFolder base
  · exact if_pos hhas
  · rw [origin, if_neg hhas, folder_of_not_hasFolder hhas, hfits.resolve_left hhas]

theorem fits_of_rooted (hsame : (origin base file).rooted = isRooted base) :
    HasFolder base ∨ isRooted file = isRooted base := by
  by_cases hhas : HasFolder base
  · exact .inl hhas
  · rw [origin, if_neg hhas] at hsame
    exact .inr hsame

/-- The path of a link that names a file is followed from the directory of its collection if there
is text before the last slash of the path of the collection. If there is none, this is only so when
the two paths are both absolute or both relative. In the same cases, and in no others, the path that
the link names is absolute as that of the collection is. -/
theorem resolve_eq_folder_iff (base : String) (htrimmed : Text.trim target.toList = target.toList)
    (hnonempty : file ≠ "") (hunhashed : '#' ∉ file.toList)
    (hwritten : target = file ∧ name = "" ∨ target = file ++ "#" ++ name) :
    resolve base target = (origin base file).locate file name ∧
      (resolve base target = (folder base).locate file name ↔
        HasFolder base ∨ isRooted file = isRooted base) ∧
      (isAbsolute (resolve base target).toList = isRooted base ↔
        HasFolder base ∨ isRooted file = isRooted base) := by
  have hresolved := resolve_eq_locate base htrimmed hnonempty hunhashed hwritten
  have habsolute : isAbsolute (resolve base target).toList = (origin base file).rooted := by
    rw [hresolved, isAbsolute_locate]
  have hrooted : (folder base).rooted = isRooted base := Spot.rooted_followAll _ _
  refine ⟨hresolved, ⟨fun hequal => ?_, fun hfits => ?_⟩, ⟨fun hequal => ?_, fun hfits => ?_⟩⟩
  -- a path shows in its first character where it has been followed from
  · rw [hequal, isAbsolute_locate, hrooted] at habsolute
    exact fits_of_rooted habsolute.symm
  · rw [hresolved, origin_eq_folder hfits]
  · exact fits_of_rooted (habsolute.symm.trans hequal)
  · rw [habsolute, origin_eq_folder hfits, hrooted]

/-- From the directory of an inn a link leads to a hall next to it. -/
theorem resolve_eq_folder_iff_hall :
    resolve "inns/green/inn.md" "..\\red//hall#Door" = "inns/red/hall.md#Door" ∧
      resolve "inns/green/inn.md" "..\\red//hall#Door" =
        (folder "inns/green/inn.md").locate "..\\red//hall" "Door" := by
  have hresolved := @resolve_eq_folder_iff "..\\red//hall#Door" "..\\red//hall" "Door"
    "inns/green/inn.md" (by decide +kernel) (by decide) (by decide) (.inr rfl)
  exact ⟨by decide +kernel, hresolved.2.1.mpr (.inl (by decide +kernel))⟩

/-- In a collection directly below the root, a link to a file next to it leads to the start of
relative paths. -/
theorem not_forall_resolve_folder :
    ¬ ∀ base target file name : String, Text.trim target.toList = target.toList → file ≠ "" →
      '#' ∉ file.toList → target = file ∧ name = "" ∨ target = file ++ "#" ++ name →
        resolve base target = (folder base).locate file name ∧
          isAbsolute (resolve base target).toList = isRooted base := by
  intro hall
  have hyard := hall "/inn.md" "yard" "yard" "" (by decide +kernel) (by decide) (by decide)
    (.inl ⟨rfl, rfl⟩)
  exact absurd hyard.2 (by decide +kernel)

end Dialogue.Path
