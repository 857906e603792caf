/-
# Where errors say that they happened

An error that a playback makes itself says where it happened: it has the place of the line that has
failed, or that of the link that leads nowhere. There are two others. The host may refuse a tag with
any error, and a folder library may find the file that a link leads to and yet get no collection
from it. Its error is about another source than the one that is played, and it is passed on as it
is. A catalogue never fails in this way.
-/

import Dialogue.Proofs.Library.Folder
import Dialogue.Proofs.Playback.Origin

namespace Dialogue

variable {μ : Type}

/-- A library is a catalogue or it reads files. -/
def Library.IsKnown (library : Library) : Prop :=
  (∃ catalogue : Catalogue, library = catalogue.library) ∨
    ∃ folder : FolderLibrary, library = folder.library

namespace Scene

/-- An operation follows a link out of the collection to a file of a folder library, and this is the
error that the library has with the file. -/
def MeetsFailingFile (setup : Setup μ) (scene : Scene μ) (operation : Operation) (error : Error) :
    Prop :=
  ∃ folder : FolderLibrary, setup.library = some folder.library ∧
    ∃ link, scene.Follows setup link operation ∧
      let file := (Path.splitName (scene.state.resolve link.target)).1
      scene.state.collection.isAt file = false ∧ folder.Fails file error

/-- The error of an operation says where it happened, except if the operation is a step that runs a
tag and the host refuses the tag with this error, or if the operation follows a link to a file that
fails with it. -/
def Locates (setup : Setup μ) (scene : Scene μ) (operation : Operation) (error : Error) : Prop :=
  operation = .step ∧ scene.RefusesNext setup error ∨
    (error.location? = none ↔ scene.MeetsFailingFile setup operation error)

variable {setup : Setup μ} {scene : Scene μ} {operation : Operation} {error : Error} {link : Link}

theorem MeetsFailingFile.location?_eq (hmeets : scene.MeetsFailingFile setup operation error) :
    error.location? = none := by
  obtain ⟨_, _, _, _, _, hfails⟩ := hmeets
  exact hfails.location?_eq

theorem locates_of_location {location : Location} (hplace : error.location? = some location) :
    scene.Locates setup operation error := by
  refine .inr ⟨fun hnone => ?_, MeetsFailingFile.location?_eq⟩
  rw [hplace] at hnone
  cases hnone

/-- If a known library fails with a file, then it has files and this is one of them. -/
theorem meetsFailingFile_of_leadsToFailing
    (hknown : ∀ library, setup.library = some library → library.IsKnown)
    (hfollows : scene.Follows setup link operation)
    (hleads : scene.LeadsToFailing setup link error) :
    scene.MeetsFailingFile setup operation error := by
  obtain ⟨houtside, ⟨library, hattached, hfailed⟩, hfound⟩ := hleads
  obtain ⟨catalogue, rfl⟩ | ⟨folder, rfl⟩ := hknown library hattached
  · exact absurd (Catalogue.eq_missingScript_of_library hfailed) (hfound _ _)
  · obtain hmissing | hfails := FolderLibrary.missing_or_fails_of_library hfailed
    · exact absurd hmissing (hfound _ _)
    · exact ⟨folder, hattached, link, hfollows, houtside, hfails⟩

theorem locates_of_origin (hknown : ∀ library, setup.library = some library → library.IsKnown)
    (horigin : scene.Origin setup error operation) : scene.Locates setup operation error := by
  cases horigin with
  | line hnext hfails => exact locates_of_location hfails.location?_eq
  | host hrefuses => exact .inl ⟨rfl, hrefuses⟩
  | link hfollows hmissing =>
      subst hmissing
      exact locates_of_location rfl
  | library hfollows hleads =>
      have hmeets := meetsFailingFile_of_leadsToFailing hknown hfollows hleads
      exact .inr ⟨fun _ => hmeets, MeetsFailingFile.location?_eq⟩
  | index hunoffered herror =>
      subst herror
      exact locates_of_location rfl

/-- Whatever operation fails, with a catalogue, a folder library or none at all, its error says
where it happened, except if the host refused the tag that was run with it or the link that was
followed leads to a file that is there but holds no collection. Then it is the error that the
library has with this file. Of the steps of an advance it is the last one that fails. -/
theorem location?_eq_none_iff_of_perform (setup : Setup μ)
    (hknown : ∀ library, setup.library = some library → library.IsKnown) (scene : Scene μ)
    (operation : Operation) (error : Error)
    (hfailed : (scene.perform setup operation).result = .error error) :
    ∃ count < operation.stepLimit,
      let last := scene.performAll setup (List.replicate count .step)
      (last.perform setup operation.single).result = .error error ∧
        (operation.single = .step ∧ last.RefusesNext setup error ∨
          (error.location? = none ↔ last.MeetsFailingFile setup operation.single error)) := by
  obtain ⟨count, hbound, hlast, horigin⟩ := origin_of_perform hfailed
  exact ⟨count, hbound, hlast, locates_of_origin hknown horigin⟩

/-- A link leads from the main script to a file whose only link has a blank target. The root of the
library starts with a slash. -/
theorem location?_eq_none_iff_of_perform_blank :
    let link : Link := ⟨⟨"[[bad]]", 1⟩, "bad", "bad"⟩
    let main : Script := ⟨Script.defaultName, "main.md", [.link link], .ofList ["bad.md"]⟩
    let collection : Collection := ⟨"main", "main.md", "[[bad]]", [main]⟩
    let folder : FolderLibrary :=
      ⟨(FileTree.empty ["inn"]).write "bad.md" "[[ ]]".toUTF8, "/inn", true⟩
    let setup : Setup Unit := ⟨.idle, some folder.library, true⟩
    let playback : Playback := ⟨.start collection 0 none, .notStarted⟩
    let scene := playback.opening ⟨(), .empty⟩
    let error := Error.source (.blankTarget "[[ ]]" 1)
    (∀ library, setup.library = some library → library.IsKnown) ∧
      (scene.perform setup (.advance 9)).result = .error error ∧
      ∃ count < 9,
        let last := scene.performAll setup (List.replicate count .step)
        (last.perform setup .step).result = .error error ∧
          (Operation.single (.advance 9) = .step ∧ last.RefusesNext setup error ∨
            (error.location? = none ↔ last.MeetsFailingFile setup .step error)) := by
  intro link main collection folder setup playback scene error
  have hknown : ∀ library, setup.library = some library → library.IsKnown := by
    intro library hattached
    exact .inr ⟨folder, (Option.some.inj hattached).symm⟩
  have hfailed : (scene.perform setup (.advance 9)).result = .error error := by decide +kernel
  exact ⟨hknown, hfailed,
    location?_eq_none_iff_of_perform setup hknown scene (.advance 9) error hfailed⟩

/-- The place is missing in an error that the playback has passed on, and the host never failed. -/
theorem not_forall_location?_of_perform :
    ¬∀ (setup : Setup Unit), (∀ library, setup.library = some library → library.IsKnown) →
      ∀ (collection : Collection) (playback : Playback),
        Playback.start collection none none = .ok playback →
          ∀ (operations : List Operation) (operation : Operation) (error : Error),
            let scene := (playback.opening ⟨(), .empty⟩).performAll setup operations
            (scene.perform setup operation).result = .error error →
              (∀ tag state world, (setup.host.tag tag state world).1.outcome ≠ .error error) →
                ∃ location, error.location? = some location := by
  intro hlocated
  let link : Link := ⟨⟨"[[bad]]", 1⟩, "bad", "bad"⟩
  let main : Script := ⟨Script.defaultName, "main.md", [.link link], .ofList ["bad.md"]⟩
  let collection : Collection := ⟨"main", "main.md", "[[bad]]", [main]⟩
  let folder : FolderLibrary :=
    ⟨(FileTree.empty ["inn"]).write "bad.md" "[[ ]]".toUTF8, ".", true⟩
  have hknown : ∀ library, some folder.library = some library → Library.IsKnown library := by
    intro library hattached
    exact .inr ⟨folder, (Option.some.inj hattached).symm⟩
  obtain ⟨location, hplace⟩ := hlocated ⟨.idle, some folder.library, true⟩ hknown collection
    ⟨.start collection 0 none, .notStarted⟩ rfl [.advance 1] (.advance 9)
    (.source (.blankTarget "[[ ]]" 1)) (by decide +kernel) nofun
  cases hplace

end Scene

end Dialogue
