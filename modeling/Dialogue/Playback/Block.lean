/-
# Skipping in blocks

When a branch of a block is not to be played, the playback goes on at the tag that continues or
closes the block. Blocks nest, so the search counts the tags that open and close blocks on its way
and stops only outside of all blocks it has entered.
-/

import Dialogue.Directive
import Dialogue.Playback.State

namespace Dialogue

namespace Tag

/-- By how many levels the blocks are deeper after a tag. -/
def nesting (tag : Tag) : Int :=
  (if tag.opensBlock then 1 else 0) - (if tag.closesBlock then 1 else 0)

/-- Whether a tag continues or closes a block. -/
def endsBranch (tag : Tag) : Bool :=
  tag.reversesBlock || tag.retriesBlock || tag.closesBlock

end Tag

/-- The first wanted tag outside of all blocks that the lines enter, and the number of lines before
it. The search starts at a depth in blocks. -/
def seekTag (wanted : Tag → Bool) : Int → List Line → Option (Nat × Tag)
  | _, [] => none
  | depth, line :: rest =>
    match line.tag? with
    | none => (seekTag wanted depth rest).map fun (before, tag) => (before + 1, tag)
    | some tag =>
      if depth = 0 ∧ wanted tag then some (0, tag)
      else (seekTag wanted (depth + tag.nesting) rest).map fun (before, tag) => (before + 1, tag)

namespace State

/-- Goes to the next wanted tag after the line to run, or to the end of the script if there is
none. -/
def skipTo (state : State) (wanted : Tag → Bool) : Option Tag × State :=
  match seekTag wanted 0 (state.script.lines.drop (state.cursor + 1)) with
  | some (before, tag) => (some tag, { state with cursor := state.cursor + 1 + before })
  | none => (none, { state with cursor := state.script.lines.length })

end State

end Dialogue
