import Kaleidoscope.Main
import Kaleidoscope.Proofs.Batch.Units
import Kaleidoscope.Proofs.Batch.Preservation
import Kaleidoscope.Proofs.Batch.Failures
import Kaleidoscope.Proofs.Batch.Cutting
import Kaleidoscope.Proofs.Batch.Resolution
import Kaleidoscope.Proofs.Syntax.Climbing
import Kaleidoscope.Proofs.Batch.Acceptance
import Kaleidoscope.Proofs.Batch.Relocation
import Kaleidoscope.Proofs.Token.Coverage
import Kaleidoscope.Proofs.Session.Declarations
import Kaleidoscope.Proofs.Code.Limits
import Kaleidoscope.Proofs.Code.Recursion
import Kaleidoscope.Proofs.Session.Locations
import Kaleidoscope.Proofs.Syntax.RoundTrip
import Kaleidoscope.Proofs.Batch.Listings
import Kaleidoscope.Proofs.Lowering.Unfolding
import Kaleidoscope.Proofs.Syntax.Progress
import Kaleidoscope.Proofs.Token.Texts
import Kaleidoscope.Proofs.Syntax.Containment
import Kaleidoscope.Proofs.Decimal.Written
import Kaleidoscope.Proofs.Syntax.Identification
