import LiveForm.Filter.Custom
import LiveForm.Session.Run
import LiveForm.Proofs.Grammar
import LiveForm.Proofs.Building
import LiveForm.Proofs.Coherence
import LiveForm.Proofs.Revalidation
import LiveForm.Proofs.Subscriptions
import LiveForm.Proofs.Pace
import LiveForm.Proofs.Writing
import LiveForm.Proofs.Recompilation
import LiveForm.Proofs.Aborting
import LiveForm.Proofs.Swapping
import LiveForm.Proofs.Renewing
import LiveForm.Proofs.Recency
import LiveForm.Proofs.Wording
import LiveForm.Proofs.LastPass
import LiveForm.Proofs.Checking
import LiveForm.Proofs.Coalescing
import LiveForm.Proofs.Warning
import LiveForm.Proofs.Splicing
import LiveForm.Proofs.Pointing
import LiveForm.Proofs.Blaming
import LiveForm.Proofs.Spacing
import LiveForm.Proofs.Rejoining
import LiveForm.Proofs.Reporting
import LiveForm.Proofs.Judging
import LiveForm.Proofs.Phrasing
import LiveForm.Proofs.Notifying
import LiveForm.Proofs.Measuring
import LiveForm.Proofs.Naming
import LiveForm.Proofs.Restoring
import LiveForm.Proofs.Formatting
import LiveForm.Proofs.Watching
