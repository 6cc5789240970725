import SeanOs.Lib.Program
import SeanOs.Lib.Interleave
import SeanOs.Lib.Among
import SeanOs.Lib.Decimal
import SeanOs.Lib.Calendar
import SeanOs.Lib.IsoText
import SeanOs.Lib.IsoLaws
import SeanOs.Lib.IsoOrder
import SeanOs.Lib.Json
import SeanOs.Lib.Pattern
import SeanOs.Platform
import SeanOs.Security
import SeanOs.Store.Core
import SeanOs.Store.Approvals
import SeanOs.Store.ApprovalExpiry
import SeanOs.Lib.Double
import SeanOs.Lib.JsonText
import SeanOs.Backup.Adapter
import SeanOs.Backup.Restore
import SeanOs.Store.Outbox
import SeanOs.Store.BackupTransfers
import SeanOs.Store.BackupRestores
import SeanOs.Policy
import SeanOs.Store.Requests
import SeanOs.Store.AlertDeliveries
import SeanOs.Store.SingleUse
import SeanOs.Lib.Session
import SeanOs.Store.WorkQueue
import SeanOs.Store.StaleWork
import SeanOs.Store.WorkPoison
import SeanOs.Store.RetryBound
import SeanOs.Store.StaleOutbox
import SeanOs.Lib.Gate
import SeanOs.Lib.Exclusive
import SeanOs.Store.KillSwitch
import SeanOs.PolicyGate
import SeanOs.Store.BudgetConservation
import SeanOs.Store.Logging
import SeanOs.Store.Writes
import SeanOs.Store.DeliveryLife
import SeanOs.Store.FreshApproval
import SeanOs.CommandIntake
import SeanOs.Store.LeaseExclusive
import SeanOs.Scheduler
import SeanOs.ScheduleOnce
import SeanOs.Monitoring
import SeanOs.Store.WholeAuthorization
import SeanOs.Store.OneRequest
import SeanOs.Receipts
import SeanOs.Lib.JsonParse
import SeanOs.Store.AlertIncidents
import SeanOs.Store.AlertAccounting
import SeanOs.Lib.PatternLaws
import SeanOs.SecurityLaws
import SeanOs.Backup.Preflight
import SeanOs.Store.EvidenceSteps
import SeanOs.Store.PreflightEvidence
import SeanOs.Backup.Header
import SeanOs.Bridge
import SeanOs.BridgeAdmission
import SeanOs.Lib.DoubleRound
import SeanOs.Lib.DoubleOrder
import SeanOs.Store.Records
import SeanOs.ChiefOfStaff
import SeanOs.Lib.Outcome
import SeanOs.Store.RecordWrites
import SeanOs.KilledProjects
import SeanOs.Store.Stamps
import SeanOs.Lib.Trace
import SeanOs.Store.RecordVersions
import SeanOs.TextLaws
import SeanOs.Lib.PatternCuts
import SeanOs.SafeText
import SeanOs.Store.SaleExport
import SeanOs.PayloadScan
import SeanOs.PortfolioReview
import SeanOs.Lib.Growth
import SeanOs.Lib.Reliance
import SeanOs.Store.Ownership
import SeanOs.RecordAuthority
import SeanOs.Integrations
import SeanOs.CodingDeliveries
import SeanOs.ImportedArtifacts
import SeanOs.Backup.Envelope
import SeanOs.Backup.EnvelopeSteps
import SeanOs.Backup.EnvelopeSealing
import SeanOs.Backup.EnvelopeOpening
