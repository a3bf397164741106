import MetricsDaemon.Main
import MetricsDaemon.Proofs.Answers
import MetricsDaemon.Proofs.Buffers
import MetricsDaemon.Proofs.Catalogue
import MetricsDaemon.Proofs.ClientAccounts
import MetricsDaemon.Proofs.Departures
import MetricsDaemon.Proofs.Detours
import MetricsDaemon.Proofs.Inquiries
import MetricsDaemon.Proofs.Intervals
import MetricsDaemon.Proofs.Isolation
import MetricsDaemon.Proofs.OneShots
import MetricsDaemon.Proofs.Ordering
import MetricsDaemon.Proofs.Orphans
import MetricsDaemon.Proofs.Passwords
import MetricsDaemon.Proofs.Readings
import MetricsDaemon.Proofs.References
import MetricsDaemon.Proofs.Registration
import MetricsDaemon.Proofs.Rejection
import MetricsDaemon.Proofs.Remembering
import MetricsDaemon.Proofs.Reports
import MetricsDaemon.Proofs.Sections
import MetricsDaemon.Proofs.Timeouts
import MetricsDaemon.Proofs.Wire
