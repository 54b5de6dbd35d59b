import QueueFabric.MutationCore

/-!
Records of `fabric.hpp` and `journal.hpp`: configuration, events, resources,
reservations, statistics, journal records and the recovery report.
-/

namespace QueueFabric

structure FabricLimits where
  maxResources : UInt64 := 4096
  maxQueuesPerResource : UInt64 := 65536
  maxClassesPerResource : UInt64 := 4096
  maxPoolsPerResource : UInt64 := 4096
  maxGrantsPerResource : UInt64 := 256
  maxAttemptMemo : UInt64 := 64
  maxPendingAttempts : UInt64 := 4096
  maxQueuesTotal : UInt64 := 65536

structure FabricConfig where
  limits : FabricLimits := {}
  policy : FabricPolicy := {}
  occupancy : OccupancyPolicy := {}
  durable : Bool := false

inductive EventKind
  | mutationApplied
  | mutationReplayed
  | mutationRejected
  | lifecycleChanged
  | occupancyIngested
  | occupancyRejected
  | occupancyOverflow
  | drainProgress
  | fenceChanged
  | queueDeclared
  | queueRetired
  | topologyChanged
  | backendRegistered
  | backendDead
  | recovery
  | shutdown
  deriving DecidableEq

structure Event where
  kind : EventKind
  time : Nanos
  queue : QueueId := default
  resource : ResourceId := default
  mutation : MutationKind := .none
  attempt : AttemptId := default
  code : Code := .ok
  generation : Generation := default
  epoch : Epoch := default
  lifecycle : Lifecycle := .declared
  detail : Text

structure ResourceRecord where
  id : ResourceId := default
  name : Text := []
  owner : OwnerId := default
  generation : Generation := default
  epoch : Epoch := default
  authority : AuthorityVector := {}
  classes : List SchedulingClassDef := []
  pools : List BufferPoolDef := []
  backends : List BackendIncarnation := []
  applicability : Applicability := .none
  declaredBy : Provenance := {}
  declaredAt : Nanos := 0
  queueCount : UInt64 := 0

namespace ResourceRecord

def findClass (resource : ResourceRecord) (cls : ClassId) : Option SchedulingClassDef :=
  resource.classes.find? fun entry => entry.id = cls

def findPool (resource : ResourceRecord) (pool : PoolId) : Option BufferPoolDef :=
  resource.pools.find? fun entry => entry.id = pool

/-- The first live registration of a backend identity. -/
def findLive (resource : ResourceRecord) (backend : BackendId) : Option BackendIncarnation :=
  resource.backends.find? fun entry => entry.backend = backend && entry.alive

end ResourceRecord

structure PendingAttempt where
  attempt : AttemptId
  queue : QueueId
  kind : MutationKind
  startedAt : Nanos

structure BackendPlan where
  attempt : AttemptId
  queue : QueueId
  resource : ResourceId
  expectedGeneration : Generation
  cls : ClassBinding
  thresholds : Thresholds
  principal : OwnerId
  epoch : Epoch
  plannedAt : Nanos

structure FabricStats where
  mutationsApplied : UInt64 := 0
  mutationsReplayed : UInt64 := 0
  mutationsRejected : UInt64 := 0
  occupancyAccepted : UInt64 := 0
  occupancyOverflow : UInt64 := 0
  stalenessEvents : UInt64 := 0
  lifecycleTransitions : UInt64 := 0
  eventsEmitted : UInt64 := 0
  journalRecords : UInt64 := 0
  journalSyncs : UInt64 := 0

/-! Journal records. -/

inductive JournalRecordType
  | resourceState
  | queueState
  | beginAttempt
  | commitMutation
  | epochState
  | noop
  | unlisted (offset : Fin 65530)
  deriving DecidableEq

structure JournalRecord where
  type : JournalRecordType
  payload : Bytes
  deriving DecidableEq

structure EpochState where
  boot : BootId := default
  epoch : Epoch := default
  coordinatorIncarnation : Incarnation := default

structure RecoveryReport where
  journalPresent : Bool := false
  headerValid : Bool := false
  formatVersion : UInt16 := 0
  recordsTotal : Nat := 0
  recordsUsable : Nat := 0
  recordsTruncated : Nat := 0
  recordsCorrupt : Nat := 0
  bytesTruncated : Nat := 0
  orphanedBegins : Nat := 0
  queuesRestored : Nat := 0
  queuesRevalidated : Nat := 0
  mutationsReplayed : Nat := 0
  mutationsRejected : Nat := 0
  previousBootKnown : Bool := false
  previousBoot : BootId := default
  currentBoot : BootId := default
  previousEpoch : Epoch := default
  currentEpoch : Epoch := default
  status : Status := .success
  notes : List String := []

/-- Notes are bounded in number. -/
def RecoveryReport.note (report : RecoveryReport) (line : String) : RecoveryReport :=
  if report.notes.length ≥ 24 then report else { report with notes := report.notes ++ [line] }

end QueueFabric
