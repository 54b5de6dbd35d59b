import QueueFabric.Admissions
import QueueFabric.Announcements
import QueueFabric.Answering
import QueueFabric.ApplyCases
import QueueFabric.AtMostOnce
import QueueFabric.Atomicity
import QueueFabric.Audit
import QueueFabric.Authority
import QueueFabric.Bindings
import QueueFabric.Buffering
import QueueFabric.CallCases
import QueueFabric.Clocks
import QueueFabric.Compaction
import QueueFabric.Confinement
import QueueFabric.Conflicts
import QueueFabric.Consumption
import QueueFabric.Conversations
import QueueFabric.CoordinatorCore
import QueueFabric.Corruption
import QueueFabric.CrashPrefixes
import QueueFabric.Decodability
import QueueFabric.Draining
import QueueFabric.DurableAnswers
import QueueFabric.Emptiness
import QueueFabric.Encodings
import QueueFabric.Enrollments
import QueueFabric.Epochs
import QueueFabric.Evidence
import QueueFabric.Exchanges
import QueueFabric.Expiry
import QueueFabric.FabricCore
import QueueFabric.FailedRecovery
import QueueFabric.FenceTokens
import QueueFabric.Fencing
import QueueFabric.FileJournalCore
import QueueFabric.FileRefinement
import QueueFabric.FileScan
import QueueFabric.FrameCore
import QueueFabric.Framing
import QueueFabric.Generations
import QueueFabric.Growth
import QueueFabric.HashCore
import QueueFabric.Idempotence
import QueueFabric.Identities
import QueueFabric.IdsCore
import QueueFabric.Interference
import QueueFabric.InvariantsCore
import QueueFabric.JournalCore
import QueueFabric.KindCases
import QueueFabric.Labels
import QueueFabric.Ledgers
import QueueFabric.Lib.Enrollment
import QueueFabric.Lib.Listing
import QueueFabric.Lib.Numerals
import QueueFabric.Lib.Reading
import QueueFabric.Lib.Runs
import QueueFabric.Lib.Simulation
import QueueFabric.Lib.Stream
import QueueFabric.Lib.Table
import QueueFabric.Lib.Wire
import QueueFabric.Lifecycles
import QueueFabric.Lives
import QueueFabric.LostPublishers
import QueueFabric.MemoTruth
import QueueFabric.Messages
import QueueFabric.Monitors
import QueueFabric.MutationCore
import QueueFabric.Notifications
import QueueFabric.Observations
import QueueFabric.Orphans
import QueueFabric.Overflows
import QueueFabric.Predictions
import QueueFabric.ProtocolCore
import QueueFabric.Queries
import QueueFabric.QueueCases
import QueueFabric.QueueRuns
import QueueFabric.QueueSteps
import QueueFabric.Quiescence
import QueueFabric.Readmission
import QueueFabric.RecordBounds
import QueueFabric.RecordsCore
import QueueFabric.RecoveryCases
import QueueFabric.RecoveryCore
import QueueFabric.Replies
import QueueFabric.Reservations
import QueueFabric.Restart
import QueueFabric.SampleOrder
import QueueFabric.SelfAudit
import QueueFabric.SerializeCore
import QueueFabric.SerializeRoundTrip
import QueueFabric.ServeCases
import QueueFabric.ServerCore
import QueueFabric.ServiceSteps
import QueueFabric.Shutdown
import QueueFabric.StoreCases
import QueueFabric.Survival
import QueueFabric.SystemCore
import QueueFabric.TableCases
import QueueFabric.Tampering
import QueueFabric.TopologyCore
import QueueFabric.TornTails
import QueueFabric.TypesCore
import QueueFabric.Usage
import QueueFabric.WorkerCore
import QueueFabric.WorkerSessions
