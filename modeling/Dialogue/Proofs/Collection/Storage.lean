/-
# Stored collections

A collection is stored as the JSON of its scripts and lines, and read back from it. What a line is
stored as is a record of texts, numbers and lists of texts, together with the kind of the line. A
number is read back if it has at most 64 bits, and a source with fewer than 2 ^ 64 lines has no
greater ones.
-/

import Dialogue.Proofs.Collection.Sections
import Dialogue.Proofs.Json.Record

namespace Dialogue

open Json (natLimit)

namespace PathSet

theorem nodup_toList (set : PathSet) : set.toList.Nodup := by
  refine set.increasing.imp fun hless hsame => ?_
  rw [hsame] at hless
  exact String.lt_irrefl _ hless

/-- Sets with the same members are equal. -/
theorem eq_of_mem_iff {first second : PathSet} (hsame : ∀ path, path ∈ first ↔ path ∈ second) :
    first = second := by
  have hperm : first.toList.Perm second.toList :=
    (List.perm_ext_iff_of_nodup first.nodup_toList second.nodup_toList).mpr hsame
  have hequal : first.toList = second.toList :=
    hperm.eq_of_pairwise (fun _ _ _ _ hless hgreater => absurd hgreater (String.lt_asymm hless))
      first.increasing second.increasing
  cases first
  cases second
  cases hequal
  rfl

/-- A set is read back from its members. -/
theorem ofList_toList (set : PathSet) : ofList set.toList = set :=
  eq_of_mem_iff fun _ => mem_ofList

end PathSet

/-- The fields of a line can be stored beside its kind, and a reader gets the line back from
them. -/
structure Line.IsStoredAs {α : Type} (members : List (String × Json)) (read : Json → Option α)
    (line : α) : Prop where
  distinct : ("type" :: members.map Prod.fst).Nodup
  fields : ∀ part ∈ members, part.2.IsField
  readBack : read (.ofMembers members) = some line

theorem Cue.isStoredAs {cue : Cue} (hlt : cue.lineNo < natLimit) :
    Line.IsStoredAs cue.toMembers ofJson? cue := by
  have hdistinct : ("type" :: cue.toMembers.map Prod.fst).Nodup := by
    rw [toMembers, Json.memberOfTexts]
    cases cue.shownAs <;> split <;> simp
  refine ⟨hdistinct, ?_, ?_⟩
  · have hshown : ∀ part ∈ (cue.shownAs.map fun name => ("alias", Json.ofText name)).toList,
        part.2.IsField := by
      cases cue.shownAs with
      | none => simp
      | some name => simp [Json.IsField.ofText]
    have hadded : ∀ part ∈ Json.memberOfTexts "attributes" cue.attributes, part.2.IsField := by
      rw [Json.memberOfTexts]
      split <;> simp [Json.IsField.ofTexts]
    refine List.forall_mem_append.mpr ⟨List.forall_mem_append.mpr ⟨?_, hshown⟩, hadded⟩
    simp [Json.IsField.ofText, Json.IsField.ofNat hlt]
  · have hshown : shownAsOfField? (cue.toMembers.lookup "alias") = some cue.shownAs := by
      rw [toMembers, Json.memberOfTexts]
      cases cue.shownAs <;> split <;> rfl
    have hadded : Json.textsOfField? (cue.toMembers.lookup "attributes") = some cue.attributes := by
      rw [← Json.textsOfField?_lookup "attributes" cue.attributes, toMembers]
      cases cue.shownAs <;> rfl
    have hraw : cue.toMembers.lookup "raw" = some (.ofText cue.raw) := rfl
    have hnumber : cue.toMembers.lookup "line_no" = some (.ofNat cue.lineNo) := rfl
    have hidentifier : cue.toMembers.lookup "identifier" = some (.ofText cue.identifier) := rfl
    rw [ofJson?, Json.fields?_ofMembers (List.nodup_cons.mp hdistinct).2]
    simp only [List.map_cons, List.map_nil, hraw, hnumber, hidentifier, hshown, hadded,
      Json.nat?_ofNat hlt]
    rfl

theorem Speech.isStoredAs {speech : Speech} (hlt : speech.lineNo < natLimit) :
    Line.IsStoredAs speech.toMembers ofJson? speech where
  distinct := by simp [toMembers]
  fields := by simp [toMembers, Json.IsField.ofText, Json.IsField.ofNat hlt]
  readBack := by
    rw [ofJson?, Json.fields?_ofMembers (by simp [toMembers])]
    simp [toMembers, List.lookup_cons, Json.ofText, Json.text?, Json.nat?_ofNat hlt]

theorem Link.isStoredAs {link : Link} (hlt : link.lineNo < natLimit) :
    Line.IsStoredAs link.toMembers ofJson? link where
  distinct := by simp [toMembers]
  fields := by simp [toMembers, Json.IsField.ofText, Json.IsField.ofNat hlt]
  readBack := by
    rw [ofJson?, Json.fields?_ofMembers (by simp [toMembers])]
    simp [toMembers, List.lookup_cons, Json.ofText, Json.text?, Json.nat?_ofNat hlt]

theorem Quote.isStoredAs {quote : Quote} (hlt : quote.lineNo < natLimit) :
    Line.IsStoredAs quote.toMembers ofJson? quote where
  distinct := by simp [toMembers]
  fields := by simp [toMembers, Json.IsField.ofText, Json.IsField.ofNat hlt]
  readBack := by
    rw [ofJson?, Json.fields?_ofMembers (by simp [toMembers])]
    simp [toMembers, List.lookup_cons, Json.ofText, Json.text?, Json.nat?_ofNat hlt]

theorem Tag.isStoredAs {tag : Tag} (hlt : tag.lineNo < natLimit) :
    Line.IsStoredAs tag.toMembers ofJson? tag where
  distinct := by simp [toMembers]
  fields := by simp [toMembers, Json.IsField.ofText, Json.IsField.ofNat hlt]
  readBack := by
    rw [ofJson?, Json.fields?_ofMembers (by simp [toMembers])]
    simp [toMembers, List.lookup_cons, Json.ofText, Json.text?, Json.nat?_ofNat hlt]

namespace Line

variable {α : Type} {members : List (String × Json)} {read : Json → Option α} {line : α}

/-- The kind of a written line is told apart from its fields. -/
theorem IsStoredAs.splitKind?_eq (hstored : IsStoredAs members read line) (kind : String) :
    splitKind? (.ofMembers (("type", .ofText kind) :: members)) =
      some (kind, .ofMembers members) := by
  obtain ⟨huntyped, -⟩ := List.nodup_cons.mp hstored.distinct
  have hdistinct : ((("type", Json.ofText kind) :: members).map Prod.fst).Nodup := hstored.distinct
  have hown := Json.field?_of_nodup hdistinct "type"
  have hothers := Json.filter_ne_of_not_mem huntyped
  rw [List.lookup_cons_self] at hown
  rw [Json.ofMembers, splitKind?, hown]
  simp only [Json.ofText, Json.ofMembers, List.map_cons, List.filter_cons, ne_eq, not_true,
    decide_false, Bool.false_eq_true, if_false, hothers]

theorem IsStoredAs.isReadable (hstored : IsStoredAs members read line) (kind : String) :
    (Json.ofMembers (("type", .ofText kind) :: members)).isReadable levels = true :=
  Json.isReadable_ofMembers (List.forall_mem_cons.mpr ⟨.ofText kind, hstored.fields⟩) 121

theorem IsStoredAs.isPlain (hstored : IsStoredAs members read line) (kind : String) :
    (Json.ofMembers (("type", .ofText kind) :: members)).IsPlain :=
  .ofMembers _ (List.forall_mem_cons.mpr
    ⟨.ofText kind, fun part hmem => (hstored.fields part hmem).isPlain⟩)

theorem isPlain_toJson {line : Line} (hlt : line.lineNo < natLimit) : line.toJson.IsPlain := by
  cases line with
  | cue line => exact (Cue.isStoredAs hlt).isPlain _
  | speech line => exact (Speech.isStoredAs hlt).isPlain _
  | link line => exact (Link.isStoredAs hlt).isPlain _
  | quote line => exact (Quote.isStoredAs hlt).isPlain _
  | tag line => exact (Tag.isStoredAs hlt).isPlain _

/-- A line is read back from what it is stored as. -/
theorem ofJson?_toJson {line : Line} (hlt : line.lineNo < natLimit) :
    ofJson? line.toJson = some line := by
  cases line with
  | cue line =>
      have hstored := Cue.isStoredAs hlt
      rw [toJson, ofJson?, if_pos (hstored.isReadable _), hstored.splitKind?_eq]
      exact congrArg (Option.map cue) hstored.readBack
  | speech line =>
      have hstored := Speech.isStoredAs hlt
      rw [toJson, ofJson?, if_pos (hstored.isReadable _), hstored.splitKind?_eq]
      exact congrArg (Option.map speech) hstored.readBack
  | link line =>
      have hstored := Link.isStoredAs hlt
      rw [toJson, ofJson?, if_pos (hstored.isReadable _), hstored.splitKind?_eq]
      exact congrArg (Option.map link) hstored.readBack
  | quote line =>
      have hstored := Quote.isStoredAs hlt
      rw [toJson, ofJson?, if_pos (hstored.isReadable _), hstored.splitKind?_eq]
      exact congrArg (Option.map quote) hstored.readBack
  | tag line =>
      have hstored := Tag.isStoredAs hlt
      rw [toJson, ofJson?, if_pos (hstored.isReadable _), hstored.splitKind?_eq]
      exact congrArg (Option.map tag) hstored.readBack

end Line

namespace Script

/-- Whether the numbers of all lines have at most 64 bits. -/
def IsNumbered (script : Script) : Prop :=
  ∀ line ∈ script.lines, line.lineNo < natLimit

theorem isPlain_toJson {script : Script} (hnumbered : script.IsNumbered) :
    script.toJson.IsPlain := by
  have hlines : (Json.array (script.lines.map Line.toJson)).IsPlain := by
    refine .array _ fun item hmem => ?_
    obtain ⟨line, hlisted, rfl⟩ := List.mem_map.mp hmem
    exact Line.isPlain_toJson (hnumbered line hlisted)
  have hlinks : ∀ part ∈ Json.memberOfTexts "links" script.links.toList, part.2.IsPlain := by
    rw [Json.memberOfTexts]
    split
    · simp
    · simp [(Json.IsField.ofTexts script.links.toList).isPlain]
  refine .ofMembers _ (List.forall_mem_append.mpr ⟨?_, hlinks⟩)
  simp [Json.IsPlain.ofText, hlines]

/-- A script is read back from what it is stored as. -/
theorem ofJson?_toJson {script : Script} (hnumbered : script.IsNumbered) :
    ofJson? script.toJson = some script := by
  have hlines : (script.lines.map Line.toJson).mapM Line.ofJson? = some script.lines :=
    Json.mapM_map_eq_some fun line hlisted => Line.ofJson?_toJson (hnumbered line hlisted)
  have hlinks := Json.textsOfField?_lookup "links" script.links.toList
  have hfields : script.toJson.fields? ["name", "path", "lines", "links"] =
      some [some (.ofText script.name), some (.ofText script.path),
        some (.array (script.lines.map Line.toJson)),
        (Json.memberOfTexts "links" script.links.toList).lookup "links"] := by
    rw [toJson, Json.fields?_ofMembers]
    · rfl
    · rw [Json.memberOfTexts]
      split <;> simp
  rw [ofJson?, hfields]
  simp only [Json.items?, Option.bind_eq_bind, Option.bind_some, hlines, hlinks,
    PathSet.ofList_toList]
  rfl

end Script

namespace Collection

/-- Whether the numbers of all lines have at most 64 bits. -/
def IsNumbered (collection : Collection) : Prop :=
  ∀ script ∈ collection.scripts, script.IsNumbered

variable {collection : Collection}

theorem isPlain_toJson (hnumbered : collection.IsNumbered) : collection.toJson.IsPlain := by
  have hscripts : (Json.array (collection.scripts.map Script.toJson)).IsPlain := by
    refine .array _ fun item hmem => ?_
    obtain ⟨script, hlisted, rfl⟩ := List.mem_map.mp hmem
    exact Script.isPlain_toJson (hnumbered script hlisted)
  refine .ofMembers _ ?_
  simp [Json.IsPlain.ofText, hscripts]

/-- A collection is read back from what it is stored as. -/
theorem ofJson?_toJson (hnumbered : collection.IsNumbered) :
    ofJson? collection.toJson = some collection := by
  have hscripts : (collection.scripts.map Script.toJson).mapM Script.ofJson? =
      some collection.scripts :=
    Json.mapM_map_eq_some fun script hlisted => Script.ofJson?_toJson (hnumbered script hlisted)
  rw [toJson, ofJson?, Json.fields?_ofMembers (by simp)]
  simp [List.lookup_cons, Json.ofText, Json.text?, Json.items?, hscripts]

theorem isNumbered_of_parse {validate : Bool} {text path : String}
    (hshort : text.toList.count '\n' + 1 < natLimit)
    (hread : parse validate text path = .ok collection) : collection.IsNumbered := by
  obtain ⟨items, hclassified, rfl, hall, -⟩ := scripts_of_parse hread
  intro script hmem line hlisted
  have hwithin : Item.line line ∈ items := by
    have hlines := Section.lines_sublist_items collection.path (Section.ofSource items)
    rw [← hall, Section.flatMap_items_ofSource] at hlines
    exact hlines.subset (List.mem_map_of_mem (List.mem_flatMap_of_mem hmem hlisted))
  exact Nat.lt_of_le_of_lt (Item.lineNo_le_of_ofText hclassified _ hwithin) hshort

/-- A collection is read back from its stored form if the numbers of its lines have at most 64 bits.
This holds of all that is read from a source of fewer than 2 ^ 64 lines. -/
theorem ofStored?_stored :
    (∀ collection : Collection, collection.IsNumbered →
      ofStored? collection.stored = some collection) ∧
    ∀ validate text path, text.toList.count '\n' + 1 < natLimit →
      ∀ collection, parse validate text path = .ok collection →
        ofStored? collection.stored = some collection := by
  have hreadBack : ∀ collection : Collection, collection.IsNumbered →
      ofStored? collection.stored = some collection := by
    intro collection hnumbered
    rw [ofStored?, stored, Json.parse?_indented (isPlain_toJson hnumbered), Option.bind_some,
      ofJson?_toJson hnumbered]
  refine ⟨hreadBack, fun validate text path hshort collection hread => ?_⟩
  exact hreadBack collection (isNumbered_of_parse hshort hread)

/-- A cue whose text needs escapes and whose shown name is empty, and a source that is read. -/
theorem ofStored?_stored_inn :
    let cue : Cue := ⟨⟨"ANN \"é\\\x01", 18446744073709551615⟩, "ANN", some "", ["sad", ""]⟩
    let inn : Collection :=
      ⟨"inn", "inn", "", [⟨"Hall", "inn#Hall", [.cue cue], .ofList ["inn#Door", "barn"]⟩]⟩
    let link : Line := .link ⟨⟨"[[barn]]", 1⟩, "barn", "barn"⟩
    let barn : Collection := ⟨"inn", "inn", "[[barn]]\n", [Section.script "inn" ⟨none, [link]⟩]⟩
    inn.IsNumbered ∧ ofStored? inn.stored = some inn ∧
      parse false "[[barn]]\n" "inn" = .ok barn ∧ ofStored? barn.stored = some barn := by
  intro cue inn link barn
  have hnumbered : inn.IsNumbered := by
    intro script hmem line hlisted
    cases List.mem_singleton.mp hmem
    cases List.mem_singleton.mp hlisted
    decide
  have hlines : Item.sourceLines "[[barn]]\n".toList = ["[[barn]]".toList, []] := by cbv
  let sections : List Section := [⟨none, [link]⟩]
  have hclassified : Item.ofText "[[barn]]\n" = .ok (sections.flatMap Section.items) := by
    rw [Item.ofText, hlines]
    rfl
  have hread : parse false "[[barn]]\n" "inn" = .ok barn :=
    parse_of_sections hclassified (by decide) (by decide) rfl rfl (List.pairwise_singleton _ _)
      (absurd · Bool.false_ne_true)
  have hshort : "[[barn]]\n".toList.count '\n' + 1 < natLimit := by decide
  exact ⟨hnumbered, ofStored?_stored.1 inn hnumbered, hread,
    ofStored?_stored.2 false _ "inn" hshort barn hread⟩

end Collection

end Dialogue
