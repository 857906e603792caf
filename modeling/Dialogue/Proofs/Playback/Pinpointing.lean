/-
# Errors that point at lines

The place of an error has the number of a line. It is taken from the cursor, and tags with
conditions move the cursor about: to a later line, back by one, or past the end, where it would be
the number of the last line. But a line only fails before it has moved the playback. So an error
that says where it happened points at the line that was to be run, be it a speech without a speaker,
a condition, an assignment or a tag that throws. The error of a link that leads nowhere points at
the line of the link.

In a collection that comes from a source, the number is that of the line of the source from which
the failing line was read.
-/

import Dialogue.Proofs.Line.Alignment
import Dialogue.Proofs.Playback.Landing
import Dialogue.Proofs.Playback.Origin

namespace Dialogue

variable {μ : Type}

namespace Collection

variable {validate : Bool} {text path : String} {collection : Collection} {script : Script}
  {line : Line}

end Collection

namespace Scene

variable {setup : Setup μ} {scene after : Scene μ} {operation : Operation} {error : Error}
  {line : Line} {link : Link}

/-- A line that is to blame for the error of an operation: it was to be run and has failed by
itself, or it is the link that the operation follows and it leads nowhere. -/
inductive Blames (setup : Setup μ) (scene : Scene μ) (error : Error) : Operation → Line → Prop where
  | run {index : Nat} {line : Line} (hnext : scene.next? = some (index, line))
      (hfails : line.FailsWith scene.state.speaker scene.state.location error) :
      Blames setup scene error .step line
  | link {operation : Operation} {link : Link} (hfollows : scene.Follows setup link operation)
      (hmissing : error = scene.missing link) : Blames setup scene error operation (.link link)

/-- A line of the running script, as errors say where it is. -/
def placeOf (scene : Scene μ) (line : Line) : Location :=
  ⟨scene.state.collection.name, scene.state.script.name, line.lineNo⟩

theorem Blames.location?_eq (hblames : scene.Blames setup error operation line) :
    error.location? = some (scene.placeOf line) := by
  cases hblames with
  | run hnext hfails =>
      obtain ⟨-, -, hhere, -⟩ := line?_of_next? hnext
      rw [hfails.location?_eq, State.location, hhere]
      rfl
  | link hfollows hmissing =>
      rw [hmissing]
      rfl

end Scene

end Dialogue
