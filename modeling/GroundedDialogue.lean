import GroundedDialogue.Main
import GroundedDialogue.Model.Validation
import GroundedDialogue.Proofs.Text.Truncate
import GroundedDialogue.Proofs.Text.Characters
import GroundedDialogue.Proofs.Store.Ranking
import GroundedDialogue.Proofs.Store.Record
import GroundedDialogue.Proofs.Store.Loading
import GroundedDialogue.Proofs.Text.Splitting
import GroundedDialogue.Proofs.Disk.Path
import GroundedDialogue.Proofs.Disk.Temporary
import GroundedDialogue.Proofs.Store.Adding
import GroundedDialogue.Proofs.Store.Saving
import GroundedDialogue.Proofs.Store.RoundTrip
import GroundedDialogue.Proofs.Text.Find
import GroundedDialogue.Proofs.Generation.StopMarker
import GroundedDialogue.Proofs.Generation.Scanner
import GroundedDialogue.Proofs.Generation.Flow
import GroundedDialogue.Proofs.Generation.Leak
import GroundedDialogue.Proofs.Generation.Recorded
import GroundedDialogue.Proofs.Generation.Playback
import GroundedDialogue.Proofs.Generation.Failures
import GroundedDialogue.Proofs.Answer
import GroundedDialogue.Proofs.Store.Runs
import GroundedDialogue.Proofs.Store.AtomicSave
import GroundedDialogue.Proofs.Reply.Cleanup
import GroundedDialogue.Proofs.Dialogue.Exchange
import GroundedDialogue.Proofs.Dialogue.Opening
import GroundedDialogue.Proofs.Dialogue.Answering
import GroundedDialogue.Proofs.Generation.Memoryless
import GroundedDialogue.Proofs.Dialogue.Separation
import GroundedDialogue.Proofs.Generation.Replay
import GroundedDialogue.Proofs.Generation.Streaming
import GroundedDialogue.Proofs.Generation.Protocol
import GroundedDialogue.Proofs.Text.Pieces
import GroundedDialogue.Proofs.Prompt
import GroundedDialogue.Proofs.Offline
import GroundedDialogue.Proofs.Text.Lines
import GroundedDialogue.Proofs.Corpus
import GroundedDialogue.Proofs.Store.Canonical
import GroundedDialogue.Proofs.Disk.Replacing
import GroundedDialogue.Proofs.Store.Findable
import GroundedDialogue.Proofs.Store.SaveFailures
import GroundedDialogue.Proofs.Text.Cut
import GroundedDialogue.Proofs.Text.Lowercase
import GroundedDialogue.Proofs.Reply.Echoes
import GroundedDialogue.Proofs.Reply.Echoed
import GroundedDialogue.Proofs.Text.Words
import GroundedDialogue.Proofs.Reply.Overlap
import GroundedDialogue.Proofs.Number.Binary32
import GroundedDialogue.Proofs.Embedding.Hashed
import GroundedDialogue.Proofs.Command.Closing
import GroundedDialogue.Proofs.Command.Asking
import GroundedDialogue.Proofs.Generation.Earliest
