import Inlay.Cursor.Seek
import Inlay.Evaluator.Recorded
import Inlay.Evaluator.Session
import Inlay.Proofs.Build.Bindings
import Inlay.Proofs.Build.Concatenation
import Inlay.Proofs.Build.Failing
import Inlay.Proofs.Build.Holding
import Inlay.Proofs.Build.Isolation
import Inlay.Proofs.Build.Literals
import Inlay.Proofs.Build.Normalizing
import Inlay.Proofs.Build.Rebuilding
import Inlay.Proofs.Build.Scopes
import Inlay.Proofs.Build.Uses
import Inlay.Proofs.Cursor.Actions
import Inlay.Proofs.Cursor.Locating
import Inlay.Proofs.Cursor.Matching
import Inlay.Proofs.Cursor.Ordering
import Inlay.Proofs.Cursor.Runs
import Inlay.Proofs.Cursor.Seeking
import Inlay.Proofs.Duration.Alone
import Inlay.Proofs.Duration.FixedPoints
import Inlay.Proofs.Duration.Locality
import Inlay.Proofs.Duration.Parsing
import Inlay.Proofs.Duration.Rewriting
import Inlay.Proofs.Settings.Layering
import Inlay.Proofs.Settings.Naming
import Inlay.Proofs.Template.Completing
import Inlay.Proofs.Template.Displaying
import Inlay.Proofs.Template.Expressing
import Inlay.Proofs.Template.Joining
import Inlay.Proofs.Template.Progress
import Inlay.Proofs.Template.Renaming
import Inlay.Proofs.Template.RoundTrip
import Inlay.Proofs.Template.Stepping
import Inlay.Settings
import Inlay.Template.Build
