/-
# Recognizing the directives of blocks

A playback finds a directive by the lowercase form of the name of a tag. Skipping and the check of
conditions find the tags of blocks by the ASCII case of their names. Here the two are shown to be
the same, so a tag that is counted as the start or the end of a block is one that runs as such.
-/

import Dialogue.Directive
import Dialogue.Proofs.Text.Words

namespace Dialogue

open Text (lowercase sameWord_iff_lowercase_eq)

/-- The name of a directive. -/
def Directive.word : Directive → String
  | ifHolds => "if"
  | elseIfHolds => "elseif"
  | otherwise => "else"
  | endIf => "endif"
  | finish => "end"
  | set => "set"
  | debug => "debug"
  | warn => "warn"
  | error => "error"
  | throw => "throw"
  | todo => "todo"

/-- A directive is found under its name and no other, up to full lowercase. -/
theorem Directive.ofName?_eq_some_iff {name : String} {directive : Directive} :
    ofName? name = some directive ↔ lowercase name = directive.word := by
  rw [ofName?]
  constructor
  · intro hfound
    split at hfound <;> cases hfound <;> assumption
  · intro hnamed
    rw [hnamed]
    cases directive <;> rfl

namespace Tag

variable {tag : Tag}

/-- A tag is known by the ASCII case of a directive's name exactly if it runs as that directive, as
long as the name is a plain word. -/
theorem isNamed_word_iff (directive : Directive)
    (hplain : Text.isPlainWord directive.word = true) :
    tag.isNamed directive.word = true ↔ Directive.ofName? tag.name = some directive := by
  rw [isNamed, sameWord_iff_lowercase_eq hplain, Directive.ofName?_eq_some_iff]

theorem opensBlock_iff : tag.opensBlock = true ↔ Directive.ofName? tag.name = some .ifHolds :=
  isNamed_word_iff .ifHolds (by decide)

theorem retriesBlock_iff :
    tag.retriesBlock = true ↔ Directive.ofName? tag.name = some .elseIfHolds :=
  isNamed_word_iff .elseIfHolds (by decide)

theorem reversesBlock_iff :
    tag.reversesBlock = true ↔ Directive.ofName? tag.name = some .otherwise :=
  isNamed_word_iff .otherwise (by decide)

theorem closesBlock_iff : tag.closesBlock = true ↔ Directive.ofName? tag.name = some .endIf :=
  isNamed_word_iff .endIf (by decide)

/-- The tags whose arguments are checked as conditions are those whose arguments are run as
conditions. -/
theorem hasCondition_iff :
    tag.hasCondition = true ↔
      Directive.ofName? tag.name = some .ifHolds ∨
        Directive.ofName? tag.name = some .elseIfHolds := by
  rw [hasCondition, Bool.or_eq_true, opensBlock_iff, retriesBlock_iff]

end Tag

end Dialogue
