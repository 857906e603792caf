/-
# Written records

The object of a record gives back the value of each field, if no two of its members have the same
name: the fields that are asked for are looked up, and members of other names do not matter.
-/

import Dialogue.Collection.Json
import Dialogue.Proofs.Json.RoundTrip

namespace Dialogue.Json

variable {members : List (String × Json)}

theorem valuesNamed_of_nodup (hdistinct : (members.map Prod.fst).Nodup) (name : String) :
    valuesNamed name (named members) = (members.lookup name).toList := by
  induction members with
  | nil => rfl
  | cons part later ih =>
      obtain ⟨other, value⟩ := part
      obtain ⟨hfresh, hdistinct⟩ := List.nodup_cons.mp hdistinct
      have hrest := ih hdistinct
      rw [valuesNamed] at hrest
      rw [valuesNamed, named, List.map_cons, List.filterMap_cons, hrest]
      by_cases hsame : other = name
      · subst hsame
        have hmissing : later.lookup other = none := by
          rw [List.lookup_eq_none_iff]
          intro part hmem
          rw [bne_iff_ne]
          intro hsame
          exact hfresh (List.mem_map.mpr ⟨part, hmem, hsame.symm⟩)
        rw [List.lookup_cons_self, hmissing]
        simp only [if_true]
        rfl
      · have hdiffers : (name == other) = false := beq_false_of_ne (Ne.symm hsame)
        simp only [List.lookup_cons, hdiffers, Option.some.injEq, hsame, if_false]

theorem field?_of_nodup (hdistinct : (members.map Prod.fst).Nodup) (name : String) :
    field? (named members) name = some (members.lookup name) := by
  rw [field?, valuesNamed_of_nodup hdistinct]
  cases members.lookup name <;> rfl

/-- Leaving out a name that no member has changes nothing. -/
theorem filter_ne_of_not_mem {name : String} (habsent : name ∉ members.map Prod.fst) :
    (named members).filter (fun (other, _) => other ≠ some name) = named members := by
  refine List.filter_eq_self.mpr fun part hmem => ?_
  obtain ⟨⟨other, value⟩, hlisted, rfl⟩ := List.mem_map.mp hmem
  refine decide_eq_true fun hsame => habsent ?_
  exact List.mem_map.mpr ⟨_, hlisted, Option.some.inj hsame⟩

/-- The fields of a written record are its members. -/
theorem fields?_ofMembers (hdistinct : (members.map Prod.fst).Nodup) (names : List String) :
    (ofMembers members).fields? names = some (names.map (members.lookup ·)) := by
  have hlooked : field? (named members) = fun name => some (members.lookup name) :=
    funext (field?_of_nodup hdistinct)
  rw [ofMembers, fields?]
  split
  · rw [hlooked]
    exact List.mapM_pure
  · rename_i hunnamed
    exact absurd (by simp) hunnamed

/-- A list is read back item by item. -/
theorem mapM_map_eq_some {α β : Type} {write : α → β} {read : β → Option α} {list : List α}
    (hreads : ∀ item ∈ list, read (write item) = some item) :
    (list.map write).mapM read = some list := by
  induction list with
  | nil => rfl
  | cons item rest ih =>
      obtain ⟨hfirst, hlater⟩ := List.forall_mem_cons.mp hreads
      rw [List.map_cons, List.mapM_cons, hfirst, ih hlater]
      rfl

theorem texts?_ofTexts (texts : List String) : (ofTexts texts).texts? = some texts :=
  mapM_map_eq_some fun _ _ => rfl

/-- An empty list of texts is left out, and read back from nothing. -/
theorem textsOfField?_lookup (name : String) (texts : List String) :
    textsOfField? ((memberOfTexts name texts).lookup name) = some texts := by
  rw [memberOfTexts]
  split
  · rename_i hnone
    rw [hnone]
    rfl
  · rw [List.lookup_cons_self]
    exact texts?_ofTexts texts

/-- A value of a field that is not a record: a text, a whole number of 64 bits, or a list of
texts. -/
inductive IsField : Json → Prop where
  | ofText (text : String) : IsField (ofText text)
  | ofNat {n : Nat} (hlt : n < natLimit) : IsField (ofNat n)
  | ofTexts (texts : List String) : IsField (ofTexts texts)

theorem IsField.isPlain {value : Json} (hfield : value.IsField) : value.IsPlain := by
  cases hfield with
  | ofText text => exact .ofText text
  | ofNat hlt => exact .ofNat _
  | ofTexts texts =>
      refine .array _ fun item hmem => ?_
      obtain ⟨text, -, rfl⟩ := List.mem_map.mp hmem
      exact .ofText text

theorem IsField.isReadable {value : Json} (hfield : value.IsField) (levels : Nat) :
    value.isReadable (levels + 1) = true := by
  cases hfield with
  | ofText text => rfl
  | ofNat hlt =>
      rw [Json.ofNat, Json.isReadable]
      exact isInRange_repr hlt
  | ofTexts texts =>
      have hall : areReadable levels (texts.map Json.ofText) = true := by
        induction texts with
        | nil => rfl
        | cons text rest ih =>
            rw [List.map_cons, areReadable, ih]
            rfl
      rw [Json.ofTexts, Json.isReadable]
      exact hall

/-- A record of fields nests two levels. -/
theorem isReadable_ofMembers (hfields : ∀ part ∈ members, part.2.IsField) (levels : Nat) :
    (ofMembers members).isReadable (levels + 2) = true := by
  have hall : membersAreReadable (levels + 1) (named members) = true := by
    induction members with
    | nil => rfl
    | cons part rest ih =>
        obtain ⟨hfirst, hlater⟩ := List.forall_mem_cons.mp hfields
        rw [named, List.map_cons, membersAreReadable, hfirst.isReadable levels, ih hlater]
        rfl
  rw [ofMembers, Json.isReadable]
  exact hall

end Dialogue.Json
