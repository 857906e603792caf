/-
# What a library of files reads

A library of files has a root. The file that it opens is named by the normal form of a path, put
after the root. If the path is relative and never climbs, that file stands below the root, and what
stands elsewhere makes no difference. A path that climbs leads up from the root as far as it climbs,
and a path that starts with a slash takes the place of the root. The root may be relative to the
working folder or start at the root of the file system.
-/

import Dialogue.Library.Folder
import Dialogue.Proofs.Library.FileTree
import Dialogue.Proofs.Path.Climbing

namespace Dialogue

/-- A library knows nothing of the playback that asks it. So its errors do not say where the
playback stood. -/
def Library.SaysNoPlace (library : Library) : Prop :=
  ∀ path error, library path = .error error → error.location? = none

namespace FolderLibrary

open FileTree (components)

variable {folder : FolderLibrary} {other : FileTree} {path rest : String} {place : List String}

/-- The place of the root. Without a root it is the working folder. -/
def base (folder : FolderLibrary) : Except FileFault (List String) :=
  if folder.root = "" then .ok folder.tree.working else folder.tree.find folder.root

theorem join_of_isAbsolute (root : String) (habsolute : Path.isAbsolute path.toList = true) :
    join root path = path := by
  rw [join, if_pos (.inl (beq_iff_eq.mp habsolute))]

/-- A relative path put after a root is known from the result. -/
theorem join_inj {root first second : String} (hfirst : Path.isAbsolute first.toList = false)
    (hsecond : Path.isAbsolute second.toList = false)
    (hsame : join root first = join root second) : first = second := by
  have hfirstStart := Path.head?_ne_of_isAbsolute hfirst
  have hsecondStart := Path.head?_ne_of_isAbsolute hsecond
  simp only [join, hfirstStart, hsecondStart, false_or] at hsame
  split at hsame
  · exact hsame
  · split at hsame
    · exact (String.append_right_inj root).mp hsame
    · exact (String.append_right_inj (root ++ "/")).mp hsame

/-- A root that is written stands before its own slash or another one. -/
theorem join_eq_of_isBelow {root : String} (hroot : root ≠ "") (hbelow : Path.IsBelow rest) :
    ∃ start tail, join root rest = start ++ "/" ++ rest ∧ join root rest = root ++ tail ∧
      (root = start ∨ root = start ++ "/" ++ "") := by
  have hrelative := Path.head?_ne_of_isAbsolute hbelow.relative
  by_cases hslash : root.toList.getLast? = some '/'
  · obtain ⟨start, hchars⟩ := List.getLast?_eq_some_iff.mp hslash
    have hwhole : root = String.ofList start ++ "/" := by
      rw [← String.toList_inj, hchars]
      simp
    have hjoin : join root rest = root ++ rest := by
      rw [join, if_neg (by simp [hrelative, hroot]), if_pos hslash]
    exact ⟨String.ofList start, rest, by rw [hjoin, hwhole], hjoin,
      .inr (by rw [hwhole, String.append_empty])⟩
  · have hjoin : join root rest = root ++ "/" ++ rest := by
      rw [join, if_neg (by simp [hrelative, hroot]), if_neg hslash]
    exact ⟨root, "/" ++ rest, hjoin, by rw [hjoin, String.append_assoc], .inl rfl⟩

/-- A walk to a file below a root goes over the root. -/
theorem exists_base_of_find_join (hbelow : Path.IsBelow rest)
    (hfound : folder.tree.find (join folder.root rest) = .ok place) :
    ∃ base, folder.base = .ok base ∧ folder.tree.walk base (components rest) = .ok place := by
  obtain ⟨hnull, hshort, -, hwalk⟩ := FileTree.find_eq_ok_iff.mp hfound
  rw [base]
  split
  · rename_i hempty
    have hrelative := Path.head?_ne_of_isAbsolute hbelow.relative
    rw [join, if_pos (.inr hempty), FileTree.origin, if_neg hrelative] at hwalk
    exact ⟨_, rfl, hwalk⟩
  · rename_i hroot
    obtain ⟨start, tail, hcut, hjoin, hisRoot⟩ := join_eq_of_isBelow hroot hbelow
    have horigin : folder.tree.origin (join folder.root rest) =
        folder.tree.origin folder.root := by
      obtain ⟨first, more, hchars⟩ :=
        List.exists_cons_of_ne_nil (mt String.toList_eq_nil_iff.mp hroot)
      rw [hjoin, FileTree.origin, FileTree.origin, String.toList_append, hchars]
      rfl
    rw [horigin, hcut, FileTree.components_append_slash] at hwalk
    obtain ⟨base, hled, honward⟩ := FileTree.exists_walk_of_append _ hwalk
    have hleads : folder.tree.walk (folder.tree.origin folder.root) (components folder.root) =
        .ok base := by
      generalize folder.tree.origin folder.root = top at hled ⊢
      rcases hisRoot with hsame | hslashed
      · rw [hsame]
        exact hled
      · -- the slash of the root leaves an empty component behind it
        rw [hslashed, FileTree.components_append_slash, FileTree.walk_append, hled]
        exact FileTree.walk_empty (FileTree.folder_of_walk_components honward)
    refine ⟨base, FileTree.find_eq_ok_iff.mpr ⟨?_, ?_, hroot, hleads⟩, honward⟩
    · rw [hjoin, String.toList_append] at hnull
      exact fun hmem => hnull (List.mem_append_left _ hmem)
    · rw [hjoin, String.utf8ByteSize_append] at hshort
      omega

/-- A file named by a path that stays below its start stands below the root. -/
theorem suffix_of_find_join (hbelow : Path.IsBelow rest)
    (hfound : folder.tree.find (join folder.root rest) = .ok place) :
    ∃ base, folder.base = .ok base ∧ base <:+ place := by
  have hsteady : ".." ∉ components rest := by
    intro hmem
    obtain ⟨part, hpart, hdots⟩ := List.mem_map.mp hmem
    rw [← String.toList_inj, String.toList_ofList] at hdots
    rw [hdots] at hpart
    exact hbelow.steady hpart
  obtain ⟨base, hbase, hwalk⟩ := exists_base_of_find_join hbelow hfound
  exact ⟨base, hbase, FileTree.suffix_of_walk hsteady hwalk⟩

/-- The files of a library and another tree differ only in what is in the files outside of the
root. -/
structure DiffersOutside (folder : FolderLibrary) (other : FileTree) : Prop where
  shape : folder.tree.SameShape other
  inside : ∀ base place, folder.base = .ok base → base <:+ place →
    other.node? place = folder.tree.node? place

/-- The library over another tree. -/
def withTree (folder : FolderLibrary) (tree : FileTree) : FolderLibrary :=
  { folder with tree := tree }

/-- Files outside of the root make no difference to what is read at a path below it. -/
theorem library_withTree (hbelow : Path.IsBelow (Path.normalize path))
    (hdiffers : folder.DiffersOutside other) :
    (folder.withTree other).library path = folder.library path := by
  have hsame := hdiffers.shape.find_eq (join folder.root (Path.normalize path))
  have hreads : other.isFile (join folder.root (Path.normalize path)) =
        folder.tree.isFile (join folder.root (Path.normalize path)) ∧
      other.readText (join folder.root (Path.normalize path)) =
        folder.tree.readText (join folder.root (Path.normalize path)) := by
    rw [FileTree.isFile, FileTree.readText, FileTree.isFile, FileTree.readText, hsame]
    cases hfound : folder.tree.find (join folder.root (Path.normalize path)) with
    | error fault => exact ⟨rfl, rfl⟩
    | ok place =>
        obtain ⟨base, hbase, haround⟩ := suffix_of_find_join hbelow hfound
        dsimp only
        rw [hdiffers.inside base place hbase haround]
        exact ⟨rfl, rfl⟩
  simp only [library, withTree, hreads]

/-- A collection is read from the file at the normal form of its path, put after the root. -/
theorem library_eq_ok_iff {collection : Collection} :
    folder.library path = .ok collection ↔
      ∃ text, folder.tree.readText (join folder.root (Path.normalize path)) = .ok text ∧
        Collection.parse folder.validate text (Path.normalize path) = .ok collection := by
  simp only [library]
  constructor
  · intro hreturned
    split at hreturned
    · split at hreturned
      · cases hreturned
      · rename_i text hread
        split at hreturned
        · cases hreturned
        · rename_i hparsed
          cases hreturned
          exact ⟨text, hread, hparsed⟩
    · cases hreturned
  · rintro ⟨text, hread, hparsed⟩
    rw [if_pos (FileTree.isFile_of_readText hread), hread]
    simp only [hparsed]

/-- A file of a folder library is there, but no collection can be read from it: it is not a text, or
the text is not a source. -/
inductive Fails (folder : FolderLibrary) (path : String) : Error → Prop where
  | unreadable {fault : FileFault}
      (hthere : folder.tree.isFile (join folder.root (Path.normalize path)) = true)
      (hfailed : folder.tree.readText (join folder.root (Path.normalize path)) = .error fault) :
      Fails folder path (.unreadable (join folder.root (Path.normalize path)) fault)
  | source {text : String} {error : SourceError}
      (hread : folder.tree.readText (join folder.root (Path.normalize path)) = .ok text)
      (hfailed : Collection.parse folder.validate text (Path.normalize path) = .error error) :
      Fails folder path (.source error)

theorem Fails.location?_eq {error : Error} (hfails : folder.Fails path error) :
    error.location? = none := by
  cases hfails <;> rfl

/-- A folder library finds no file, or it finds one that fails. -/
theorem missing_or_fails_of_library {error : Error}
    (hfailed : folder.library path = .error error) :
    error = .missingScript (Path.normalize path) none ∨ folder.Fails path error := by
  simp only [library] at hfailed
  split at hfailed
  · rename_i hthere
    split at hfailed
    · rename_i hunread
      cases hfailed
      exact .inr (.unreadable hthere hunread)
    · rename_i hread
      split at hfailed
      · rename_i hunparsed
        cases hfailed
        exact .inr (.source hread hunparsed)
      · cases hfailed
  · cases hfailed
    exact .inl rfl

/-- Which file a library opens. A relative path leads from the root to a file below it exactly if it
never climbs, and then nothing outside of the root makes a difference. A path that starts with a
slash names the file by itself. -/
theorem opens_below_iff_neverClimbs (folder : FolderLibrary) (path : String) :
    let file := join folder.root (Path.normalize path)
    (∀ collection, folder.library path = .ok collection ↔
      ∃ text, folder.tree.readText file = .ok text ∧
        Collection.parse folder.validate text (Path.normalize path) = .ok collection) ∧
    (Path.isRooted path = true → file = Path.normalize path) ∧
    (Path.isRooted path = false →
      ((∃ rest, Path.IsBelow rest ∧ file = join folder.root rest) ↔ Path.NeverClimbs path)) ∧
    (Path.isRooted path = false → Path.NeverClimbs path →
      (∀ place, folder.tree.find file = .ok place →
        ∃ base, folder.base = .ok base ∧ base <:+ place) ∧
      ∀ other, folder.DiffersOutside other →
        (folder.withTree other).library path = folder.library path) := by
  refine ⟨fun collection => library_eq_ok_iff, fun hrooted => ?_, fun hrelative => ?_,
    fun hrelative hnever => ?_⟩
  · exact join_of_isAbsolute folder.root ((Path.isAbsolute_normalize path).trans hrooted)
  · rw [← Path.isBelow_normalize_iff hrelative]
    constructor
    · rintro ⟨rest, hbelow, hsame⟩
      have hnormal :=
        join_inj ((Path.isAbsolute_normalize path).trans hrelative) hbelow.relative hsame
      rwa [hnormal]
    · exact fun hbelow => ⟨_, hbelow, rfl⟩
  · have hbelow := (Path.isBelow_normalize_iff hrelative).mpr hnever
    exact ⟨fun place hfound => suffix_of_find_join hbelow hfound,
      fun other hdiffers => library_withTree hbelow hdiffers⟩

/-- A village with an inn that has a hall, next to a cellar. The village is the working folder. -/
def village (cellar : String) : FileTree :=
  (((FileTree.empty ["village"]).put ["inn", "village"] .folder).put
    ["hall.md", "inn", "village"] (.file "Hi.".toUTF8)).put
    ["cellar.md", "village"] (.file cellar.toUTF8)

theorem node?_village_cellar (cellar : String) :
    (village cellar).node? ["cellar.md", "village"] = some (.file cellar.toUTF8) := by
  simp [FileTree.node?, FileTree.put, FileTree.empty, village, List.suffix_cons_iff]

theorem node?_village (first second : String) (hplace : place ≠ ["cellar.md", "village"]) :
    (village second).node? place = (village first).node? place := by
  simp [FileTree.node?, FileTree.put, FileTree.empty, village, hplace]

/-- Whatever is in the cellar, a library of the inn differs only outside of its root. -/
theorem differsOutside_village {root : String} (first second : String)
    (hroot : base ⟨village first, root, true⟩ = .ok ["inn", "village"]) :
    DiffersOutside ⟨village first, root, true⟩ (village second) := by
  refine ⟨⟨rfl, fun place => ?_, fun place => ?_⟩, fun base place hbase haround => ?_⟩
  · by_cases hcellar : place = ["cellar.md", "village"]
    · rw [hcellar, node?_village_cellar, node?_village_cellar]
      rfl
    · rw [node?_village first second hcellar]
  · by_cases hcellar : place = ["cellar.md", "village"]
    · rw [hcellar, node?_village_cellar, node?_village_cellar]
      simp
    · rw [node?_village first second hcellar]
  · apply node?_village
    rintro rfl
    cases hroot.symm.trans hbase
    exact absurd haround (by decide)

/-- The hall does not depend on the cellar. The root of the library starts with a slash. -/
theorem opens_below_iff_neverClimbs_hall :
    let folder : FolderLibrary := ⟨village "Boo.", "/village/inn", true⟩
    let path := "attic\\../hall.md"
    Path.isRooted path = false ∧ Path.NeverClimbs path ∧
      folder.tree.readText (join folder.root (Path.normalize path)) = .ok "Hi." ∧
      folder.DiffersOutside (village "Bye.") ∧
      (folder.withTree (village "Bye.")).library path = folder.library path := by
  intro folder path
  have hrelative : Path.isRooted path = false := by decide
  have hnever : Path.NeverClimbs path := by decide
  have hdiffers : folder.DiffersOutside (village "Bye.") :=
    differsOutside_village "Boo." "Bye." (by decide +kernel)
  have hopens := (opens_below_iff_neverClimbs folder path).2.2.2 hrelative hnever
  exact ⟨hrelative, hnever, by decide +kernel, hdiffers, hopens.2 _ hdiffers⟩

/-- Two dots lead from the inn to the cellar, and so does a path that starts with a slash. -/
theorem readText_of_climbing :
    let folder : FolderLibrary := ⟨village "Boo.", "inn", true⟩
    ∀ path ∈ ["../cellar.md", "/village/cellar.md"],
      let file := join folder.root (Path.normalize path)
      (¬∃ rest, Path.IsBelow rest ∧ file = join folder.root rest) ∧
        folder.tree.readText file = .ok "Boo." ∧
        ∀ base place, folder.base = .ok base → folder.tree.find file = .ok place →
          ¬base <:+ place := by
  intro folder path hpath file
  have hbase : folder.base = .ok ["inn", "village"] := by decide +kernel
  have hread : folder.tree.readText file = .ok "Boo." ∧
      folder.tree.find file = .ok ["cellar.md", "village"] := by
    rcases List.mem_pair.mp hpath with rfl | rfl
    · decide +kernel
    · decide +kernel
  refine ⟨?_, hread.1, fun base place hroot hfound => ?_⟩
  · rintro ⟨rest, hbelow, hsame⟩
    rcases List.mem_pair.mp hpath with rfl | rfl
    · have hnormal : Path.normalize "../cellar.md" = rest :=
        join_inj (by decide) hbelow.relative hsame
      have hclimbs : ¬Path.NeverClimbs "../cellar.md" := by decide
      rw [← hnormal, Path.isBelow_normalize_iff (by decide)] at hbelow
      exact hclimbs hbelow
    · -- what is put after the root starts with a letter
      have hroot : folder.root ≠ "" := by decide
      obtain ⟨start, tail, -, hjoin, -⟩ := join_eq_of_isBelow hroot hbelow
      have hfirst : file.toList.head? = some 'i' := by
        rw [hsame, hjoin]
        simp [folder]
      exact absurd hfirst (by decide +kernel)
  · cases hbase.symm.trans hroot
    cases hread.2.symm.trans hfound
    decide

end FolderLibrary

end Dialogue
