import Dialogue.Collection.Json
import Dialogue.Library.Folder
import Dialogue.Playback.Session
import Dialogue.Proofs.Collection.Storage
import Dialogue.Proofs.Condition.RoundTrip
import Dialogue.Proofs.Playback.Announcing
import Dialogue.Proofs.Playback.Finishing
import Dialogue.Proofs.Playback.LocalLinks
import Dialogue.Proofs.Playback.OpenBlocks
import Dialogue.Proofs.Playback.Pinpointing
import Dialogue.Proofs.Playback.Shortcut
import Dialogue.Proofs.Playback.Speaking
import Dialogue.Proofs.Playback.Visits
import Dialogue.Proofs.Condition.Grammar
import Dialogue.Proofs.Collection.Refusal
import Dialogue.Proofs.Library.Folder
import Dialogue.Proofs.Playback.Assigning
import Dialogue.Proofs.Condition.ShortCircuit
import Dialogue.Proofs.Condition.Trailing
import Dialogue.Proofs.Comment
import Dialogue.Proofs.Comment.Covering
import Dialogue.Proofs.Line.Joining
import Dialogue.Proofs.Collection.LineEnds
import Dialogue.Proofs.Line.Alignment
import Dialogue.Proofs.Line.Forms
import Dialogue.Proofs.Collection.Counters
import Dialogue.Proofs.Path.Canonical
import Dialogue.Proofs.Playback.Forward
import Dialogue.Proofs.Library.Catalogue
import Dialogue.Proofs.Playback.Comparing
import Dialogue.Proofs.Playback.Recognizing
import Dialogue.Proofs.Playback.Validity
import Dialogue.Proofs.Playback.Locating
