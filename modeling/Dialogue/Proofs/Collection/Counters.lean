/-
# Scripts and their counters

A store counts visits under the lowercase form of the whole path of a script, but only the names of
scripts are compared when a collection is read. The lowercase form of a sigma depends on the letters
around it, so that a name alone and a name in a path might have different forms. They do not, since
the hash in front of a name lets nothing through. So two paths with the same text before a hash
match exactly if the names after it do, and no two scripts of a collection have one counter.
-/

import Dialogue.Proofs.Collection.Sections
import Dialogue.Proofs.Path
import Dialogue.Store.Basic

namespace Dialogue

open Text (sameName lowercase)

namespace Path

/-- After the same text and a hash, paths match if their names do. The text may have hashes of its
own. -/
theorem sameName_append_hash_iff (path name other : String) :
    sameName (path ++ "#" ++ name) (path ++ "#" ++ other) = true ↔ sameName name other = true := by
  simp only [Text.sameName_iff, lowercase, String.ofList_inj, toList_hash,
    Text.lowercaseAfter_append_hash]
  rw [List.append_cancel_left_eq, List.cons.injEq]
  exact and_iff_right rfl

end Path

namespace Collection

variable {validate : Bool} {text path : String} {collection : Collection} {first second : Script}

/-- Two scripts have a counter each: their paths do not match. -/
def CountApart (first second : Script) : Prop :=
  sameName first.path second.path = false

theorem CountApart.symm (hapart : CountApart first second) : CountApart second first := by
  rw [CountApart, Text.sameName_comm]
  exact hapart

/-- A visit of one script leaves the count of another one as it is. -/
theorem CountApart.visitCount_markVisited (hapart : CountApart first second) (store : Store) :
    (store.markVisited first.path).visitCount second.path = store.visitCount second.path := by
  rw [Store.visitCount_markVisited, if_neg]
  intro hsame
  have hmatched : sameName first.path second.path = true := Text.sameName_iff.mpr hsame.symm
  rw [hapart] at hmatched
  cases hmatched

/-- Sections whose scripts differ in name count apart, if the second one has a heading. -/
theorem countApart_script {earlier later : Section} (hheaded : later.heading.isSome = true)
    (hdiffer : NamesDiffer (earlier.script path) (later.script path)) :
    CountApart (earlier.script path) (later.script path) := by
  obtain ⟨⟨name, lineNo⟩, htitle⟩ := Option.isSome_iff_exists.mp hheaded
  simp only [NamesDiffer, CountApart, Section.script, htitle] at hdiffer ⊢
  cases hstart : earlier.heading with
  | none => exact Path.sameName_hash_eq_false (.inl rfl)
  | some other =>
      rw [hstart] at hdiffer
      rw [Bool.eq_false_iff, Ne, Path.sameName_append_hash_iff, hdiffer]
      exact Bool.false_ne_true

/-- Only the first section may lack a heading, so all scripts of a source count apart. -/
theorem pairwise_countApart (hread : parse validate text path = .ok collection) :
    collection.scripts.Pairwise CountApart := by
  obtain ⟨items, -, rfl, hall, hdistinct⟩ := scripts_of_parse hread
  obtain ⟨start, later, hcut, -, hheaded⟩ := Section.ofSource_eq_cons items
  rw [hall, hcut, List.map_cons, List.pairwise_cons, List.pairwise_map] at hdistinct
  rw [hall, hcut, List.map_cons, List.pairwise_cons, List.pairwise_map]
  constructor
  · intro script hmem
    obtain ⟨part, hlisted, rfl⟩ := List.mem_map.mp hmem
    exact countApart_script (hheaded part hlisted) (hdistinct.1 _ hmem)
  · exact hdistinct.2.imp_of_mem fun _ hmem hdiffer => countApart_script (hheaded _ hmem) hdiffer

/-- No two scripts of a collection that has been read share a counter: their paths do not match, and
a visit of one of them changes the count of no other. For any path, names after it match in the path
exactly if they match alone, and the path itself matches none of them. -/
theorem countApart_of_parse (hread : parse validate text path = .ok collection) :
    (∀ (i j : Nat) (first second : Script), collection.scripts[i]? = some first →
      collection.scripts[j]? = some second → i ≠ j →
        sameName first.path second.path = false ∧
          ∀ store : Store, (store.markVisited first.path).visitCount second.path =
            store.visitCount second.path) ∧
      (∀ path name other : String,
        sameName (path ++ "#" ++ name) (path ++ "#" ++ other) = true ↔
          sameName name other = true) ∧
      ∀ path name : String, sameName path (path ++ "#" ++ name) = false := by
  refine ⟨?_, Path.sameName_append_hash_iff, fun _ _ => Path.sameName_hash_eq_false (.inl rfl)⟩
  intro i j first second hatFirst hatSecond hdiffer
  have hapart : CountApart first second := by
    have hpairwise := List.pairwise_iff_getElem.mp (pairwise_countApart hread)
    obtain ⟨hbound, rfl⟩ := List.getElem?_eq_some_iff.mp hatFirst
    obtain ⟨hotherBound, rfl⟩ := List.getElem?_eq_some_iff.mp hatSecond
    rcases Nat.lt_or_gt_of_ne hdiffer with hbefore | hafter
    · exact hpairwise i j hbound hotherBound hbefore
    · exact (hpairwise j i hotherBound hbound hafter).symm
  exact ⟨hapart, hapart.visitCount_markVisited⟩

/-- Two names that would match if a capital sigma looked through the hash at the letters of the
path. -/
theorem countApart_of_parse_sigma :
    let text := "# Σ\n# ς"
    ∃ collection, parse false text "inn" = .ok collection ∧
      collection.scripts.map Script.path = ["inn#Σ", "inn#ς"] ∧ sameName "innΣ" "innς" = true ∧
      (Store.empty.markVisited "inn#Σ").visitCount "inn#ς" = 0 := by
  intro text
  have hlines : Item.sourceLines "# Σ\n# ς".toList = ["# Σ".toList, "# ς".toList] := by cbv
  let sections : List Section := [⟨some ⟨"Σ", 1⟩, []⟩, ⟨some ⟨"ς", 2⟩, []⟩]
  have hclassified : Item.ofText text = .ok (sections.flatMap Section.items) := by
    rw [Item.ofText, hlines]
    rfl
  have hdistinct : (sections.map (Section.script "inn")).Pairwise NamesDiffer := by decide +kernel
  have hread : parse false text "inn" = .ok ⟨"inn", "inn", text,
      sections.map (Section.script "inn")⟩ :=
    parse_of_sections hclassified (by decide) (by decide) rfl rfl hdistinct
      (absurd · Bool.false_ne_true)
  have hcounts := ((countApart_of_parse hread).1 0 1 _ _ rfl rfl Nat.zero_ne_one).2 Store.empty
  exact ⟨_, hread, rfl, by decide +kernel, hcounts⟩

end Collection

end Dialogue
