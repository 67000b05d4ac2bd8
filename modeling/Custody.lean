import Custody.Main
import Custody.Proofs.Exclusivity
import Custody.Proofs.Frozen
import Custody.Proofs.Takes
import Custody.Proofs.Dangling
import Custody.Proofs.Conflicts
import Custody.Proofs.Refusals
import Custody.Proofs.Lifetimes
import Custody.Proofs.References
import Custody.Proofs.Typing
import Custody.Proofs.Keys
import Custody.Proofs.Lives
import Custody.Proofs.Endings
import Custody.Proofs.Consumption
import Custody.Proofs.Moves
import Custody.Proofs.Cleanliness
import Custody.Proofs.Blocks
import Custody.Proofs.Lexing
import Custody.Proofs.Readings
import Custody.Proofs.Lines
import Custody.Proofs.Streams
import Custody.Proofs.Sessions
import Custody.Proofs.Printing
import Custody.Proofs.RoundTrip
import Custody.Proofs.Inertness
import Custody.Proofs.Documents
import Custody.Proofs.Interchange
import Custody.Proofs.Misspelling
import Custody.Proofs.Recovery
import Custody.Proofs.Tasks
import Custody.Proofs.Perspectives
import Custody.Proofs.Places
import Custody.Proofs.Findings
import Custody.Proofs.Independence
import Custody.Proofs.Quoting
import Custody.Proofs.Faults
import Custody.Proofs.Spans
import Custody.Proofs.Commits
import Custody.Proofs.Histories
import Custody.Proofs.Maps
import Custody.Proofs.Queues
import Custody.Proofs.Tiling
import Custody.Proofs.Views
import Custody.Proofs.Emptiness
import Custody.Proofs.Encodings
import Custody.Proofs.Enclosure
import Custody.Proofs.Removals
import Custody.Proofs.Progress
