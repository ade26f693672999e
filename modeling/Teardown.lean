import Teardown.Json.Reader
import Teardown.Log.Root
import Teardown.Policy.Loose
import Teardown.Script
import Teardown.Session
import Teardown.Proofs.Course
import Teardown.Proofs.Evaluation
import Teardown.Proofs.TeardownReport
import Teardown.Proofs.Turn
import Teardown.Proofs.Guard
import Teardown.Proofs.Exclusion
import Teardown.Proofs.Survival
import Teardown.Proofs.Boundary
import Teardown.Proofs.FetchFailure
import Teardown.Proofs.Visit
import Teardown.Proofs.Parts
import Teardown.Proofs.Placement
import Teardown.Proofs.Disturbance
import Teardown.Proofs.Alike
import Teardown.Proofs.Fleet
import Teardown.Proofs.Isolation
import Teardown.Proofs.Numeral
import Teardown.Proofs.Restoration
import Teardown.Proofs.Configuration
import Teardown.Proofs.Usability
import Teardown.Proofs.Chronicle
import Teardown.Proofs.Idleness
import Teardown.Proofs.Spelling
import Teardown.Proofs.Refinement
import Teardown.Proofs.ReadOnce
import Teardown.Proofs.Attribution
import Teardown.Proofs.Migration
import Teardown.Proofs.StoredMinutes
import Teardown.Proofs.Readability
import Teardown.Proofs.Rounding
import Teardown.Proofs.WholeMinutes
import Teardown.Proofs.Announcement
import Teardown.Proofs.JsonText
import Teardown.Proofs.LogLine
import Teardown.Proofs.LoggedFields
import Teardown.Proofs.LogSetup
