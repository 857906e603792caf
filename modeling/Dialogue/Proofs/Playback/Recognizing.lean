/-
# Recognizing the tags of blocks

A playback runs a tag by the full lowercase form of its name. A search for a tag counts it, and the
check of conditions reads its arguments, by the ASCII case of its name. Whatever the name is, the
two ways agree on the four tags of blocks: the tags that are counted and checked are those that run
as parts of blocks, and every other tag leaves the playback where it is.
-/

import Dialogue.Proofs.Collection.Refusal
import Dialogue.Proofs.Playback.Enactment

namespace Dialogue

variable {μ : Type}

namespace Scene

/-- What running a tag comes to that is recognized by the ASCII case of its name. -/
inductive RunsAsNamed (host : Host μ) (tag : Tag) (scene : Scene μ) : Outcome μ Unit → Prop where
  /-- The arguments are decided as a condition. -/
  | condition (hnamed : tag.isNamed "if" = true ∨
      tag.isNamed "elseif" = true ∧ scene.state.retrying = true) :
      RunsAsNamed host tag scene (scene.runCondition host tag)
  /-- A branch has been played, and the rest of the block is skipped. -/
  | rest (hnamed : tag.isNamed "elseif" = true ∧ scene.state.retrying = false ∨
      tag.isNamed "else" = true) : RunsAsNamed host tag scene (.ok () scene.skipBlock)
  /-- The block is over. -/
  | over (hnamed : tag.isNamed "endif" = true) : RunsAsNamed host tag scene (.ok () scene)
  /-- The tag is no part of a block, and the playback stays where it is. -/
  | other {outcome : Outcome μ Unit}
      (hunnamed : ∀ name ∈ ["if", "elseif", "else", "endif"], tag.isNamed name = false)
      (hstays : ∀ after, outcome = .ok () after → scene.SameSpot after) :
      RunsAsNamed host tag scene outcome

theorem runsAsNamed_runTag (host : Host μ) (tag : Tag) (scene : Scene μ) :
    scene.RunsAsNamed host tag (scene.runTag host tag) := by
  by_cases hplain : (Line.tag tag).isPlain = true
  · have hinert : tag.opensBlock = false ∧
        (tag.reversesBlock = false ∧ tag.retriesBlock = false) ∧ tag.closesBlock = false := by
      simpa [Line.isPlain, Line.tag?, Tag.endsBranch] using hplain
    obtain ⟨hopens, ⟨hreverses, hretries⟩, hcloses⟩ := hinert
    refine .other ?_ fun after hrun => sameSpot_runTag hplain hrun
    simp only [List.forall_mem_cons]
    exact ⟨hopens, hretries, hreverses, hcloses, fun _ hmem => absurd hmem List.not_mem_nil⟩
  · have hpart : tag.opensBlock = true ∨
        (tag.reversesBlock = true ∨ tag.retriesBlock = true) ∨ tag.closesBlock = true := by
      simpa only [Line.isPlain, Line.tag?, Tag.endsBranch, Bool.not_eq_true', Bool.not_eq_false,
        Bool.or_eq_true] using hplain
    rcases hpart with hopens | (hreverses | hretries) | hcloses
    · rw [runTag, Tag.opensBlock_iff.mp hopens]
      exact .condition (.inl hopens)
    · rw [runTag, Tag.reversesBlock_iff.mp hreverses]
      exact .rest (.inr hreverses)
    · rw [runTag, Tag.retriesBlock_iff.mp hretries]
      dsimp only
      split
      · exact .condition (.inr ⟨hretries, ‹_›⟩)
      · exact .rest (.inl ⟨hretries, Bool.eq_false_iff.mpr ‹_›⟩)
    · rw [runTag, Tag.closesBlock_iff.mp hcloses]
      exact .over hcloses

end Scene

namespace Tag

variable {tag : Tag}

/-- The directive of a tag and the ASCII case of its name say the same about its part in a block. -/
structure IsRecognized (tag : Tag) : Prop where
  ifHolds : Directive.ofName? tag.name = some .ifHolds ↔ tag.isNamed "if" = true
  elseIfHolds : Directive.ofName? tag.name = some .elseIfHolds ↔ tag.isNamed "elseif" = true
  otherwise : Directive.ofName? tag.name = some .otherwise ↔ tag.isNamed "else" = true
  endIf : Directive.ofName? tag.name = some .endIf ↔ tag.isNamed "endif" = true
  /-- A search counts the tags that run as the start or as the end of a block. -/
  counted : tag.nesting =
    (if Directive.ofName? tag.name = some .ifHolds then 1 else 0) -
      (if Directive.ofName? tag.name = some .endIf then 1 else 0)
  /-- A search for the end of a branch looks for the tags that run as the end of one. -/
  sought : tag.endsBranch = true ↔
    (Directive.ofName? tag.name = some .otherwise ∨
        Directive.ofName? tag.name = some .elseIfHolds) ∨
      Directive.ofName? tag.name = some .endIf
  /-- The tags are refused for their arguments that run these as conditions. -/
  checked : ∀ cause, tag.invalidCondition? = some cause ↔
    (Directive.ofName? tag.name = some .ifHolds ∨
        Directive.ofName? tag.name = some .elseIfHolds) ∧
      Condition.parse tag.args = .error cause
  /-- A tag runs as its name says. -/
  run : ∀ {μ : Type} (host : Host μ) (scene : Scene μ),
    scene.RunsAsNamed host tag (scene.runTag host tag)

/-- Whatever the name of a tag is, it runs as a part of a block exactly if it is counted or checked
as that part. -/
theorem isRecognized (tag : Tag) : tag.IsRecognized where
  ifHolds := opensBlock_iff.symm
  elseIfHolds := retriesBlock_iff.symm
  otherwise := reversesBlock_iff.symm
  endIf := closesBlock_iff.symm
  counted := by
    simp only [nesting, opensBlock_iff, closesBlock_iff]
  sought := endsBranch_iff
  checked cause := by
    rw [invalidCondition?_eq_some_iff, hasCondition_iff]
  run host scene := scene.runsAsNamed_runTag host tag

/-- The dotted capital has a small form of two characters, so it stands for no letter of a name. -/
example : Directive.ofName? "END\u0130F" = none ∧ Directive.ofName? "EndIf" = some .endIf := by
  decide +kernel

end Tag

end Dialogue
