import QueueFabric.Lib.Wire
import QueueFabric.TypesCore

/-!
The durable encodings of `bytes.hpp` and `serialize.cpp`. Every `put` and `get`
lists the fields in the order the source writes and reads them.
-/

namespace QueueFabric

open Wire

/-! Numeric values of the stored enumerations. -/

def Code.toRaw : Code → UInt16
  | .ok => 0
  | .invalidArgument => 1
  | .outOfRange => 2
  | .notFound => 3
  | .alreadyExists => 4
  | .capacityExceeded => 5
  | .malformedInput => 6
  | .integrityFailure => 7
  | .unsupported => 8
  | .staleGeneration => 9
  | .staleEpoch => 10
  | .staleIncarnation => 11
  | .staleBoot => 12
  | .staleOccupancy => 13
  | .replayDetected => 14
  | .conflict => 15
  | .authorityDenied => 16
  | .lifecycleViolation => 17
  | .fenceViolation => 18
  | .thresholdExceeded => 19
  | .occupancyOverflow => 20
  | .drainIncomplete => 21
  | .backendMismatch => 22
  | .notDurable => 23
  | .ambiguousOutcome => 24
  | .shuttingDown => 25
  | .cancelled => 26
  | .busy => 27
  | .internal => 28
  | .unlisted offset => UInt16.ofNat (offset.val + 29)

def Code.named : List Code := [.ok, .invalidArgument, .outOfRange, .notFound, .alreadyExists,
  .capacityExceeded, .malformedInput, .integrityFailure, .unsupported, .staleGeneration,
  .staleEpoch, .staleIncarnation, .staleBoot, .staleOccupancy, .replayDetected, .conflict,
  .authorityDenied, .lifecycleViolation, .fenceViolation, .thresholdExceeded, .occupancyOverflow,
  .drainIncomplete, .backendMismatch, .notDurable, .ambiguousOutcome, .shuttingDown, .cancelled,
  .busy, .internal]

def Code.ofRaw (raw : UInt16) : Code :=
  if below : raw.toNat < 29 then Code.named.get ⟨raw.toNat, below⟩
  else .unlisted ⟨raw.toNat - 29, by have := raw.toNat_lt; omega⟩

def MutationKind.named : List MutationKind := [.none, .declareQueue, .validateQueue,
  .activateQueue, .rebindClass, .setThresholds, .transferOwnership, .ingestOccupancy,
  .requestDrain, .cancelDrain, .submitDrainEvidence, .quiesceQueue, .fenceQueue, .unfenceQueue,
  .failQueue, .retireQueue, .acknowledgeBackend, .registerBackend, .noOp]

def MutationKind.ofRaw (raw : UInt16) : MutationKind :=
  if below : raw.toNat < 19 then MutationKind.named.get ⟨raw.toNat, below⟩
  else .unlisted ⟨raw.toNat - 19, by have := raw.toNat_lt; omega⟩

def Lifecycle.toRaw : Lifecycle → UInt8
  | .declared => 0
  | .validated => 1
  | .active => 2
  | .draining => 3
  | .quiesced => 4
  | .retired => 5
  | .failed => 6
  | .unlisted offset => UInt8.ofNat (offset.val + 7)

def Lifecycle.named : List Lifecycle :=
  [.declared, .validated, .active, .draining, .quiesced, .retired, .failed]

def Lifecycle.ofRaw (raw : UInt8) : Lifecycle :=
  if below : raw.toNat < 7 then Lifecycle.named.get ⟨raw.toNat, below⟩
  else .unlisted ⟨raw.toNat - 7, by have := raw.toNat_lt; omega⟩

def Freshness.toRaw : Freshness → UInt8
  | .unknown => 0
  | .fresh => 1
  | .staleAge => 2
  | .staleRestart => 3
  | .staleGeneration => 4
  | .staleEpoch => 5
  | .futureTimestamp => 6
  | .staleBackend => 7
  | .unlisted offset => UInt8.ofNat (offset.val + 8)

def Freshness.named : List Freshness := [.unknown, .fresh, .staleAge, .staleRestart,
  .staleGeneration, .staleEpoch, .futureTimestamp, .staleBackend]

def Freshness.ofRaw (raw : UInt8) : Freshness :=
  if below : raw.toNat < 8 then Freshness.named.get ⟨raw.toNat, below⟩
  else .unlisted ⟨raw.toNat - 8, by have := raw.toNat_lt; omega⟩

def DrainPhase.toRaw : DrainPhase → UInt8
  | .idle => 0
  | .requested => 1
  | .evidencePending => 2
  | .completed => 3
  | .unlisted offset => UInt8.ofNat (offset.val + 4)

def DrainPhase.named : List DrainPhase := [.idle, .requested, .evidencePending, .completed]

def DrainPhase.ofRaw (raw : UInt8) : DrainPhase :=
  if below : raw.toNat < 4 then DrainPhase.named.get ⟨raw.toNat, below⟩
  else .unlisted ⟨raw.toNat - 4, by have := raw.toNat_lt; omega⟩

/-! The bounded writer and reader. -/

abbrev ByteWriter := Wire.Writer

namespace ByteWriter

def make : ByteWriter := Wire.Writer.fresh Limits.maxJournalRecordBytes

def putU8 (writer : ByteWriter) (value : UInt8) : ByteWriter := writer.putUInt 1 value.toNat
def putBool (writer : ByteWriter) (value : Bool) : ByteWriter := writer.putU8 (if value then 1 else 0)
def putU16 (writer : ByteWriter) (value : UInt16) : ByteWriter := writer.putUInt 2 value.toNat
def putU32 (writer : ByteWriter) (value : UInt32) : ByteWriter := writer.putUInt 4 value.toNat
def putU64 (writer : ByteWriter) (value : UInt64) : ByteWriter := writer.putUInt 8 value.toNat
def putI64 (writer : ByteWriter) (value : Int64) : ByteWriter := writer.putU64 value.toUInt64

def putString (writer : ByteWriter) (value : Text) : ByteWriter :=
  if value.length > Limits.maxNameChars then { writer with failed := true }
  else (writer.putU16 (UInt16.ofNat value.length)).putRaw value

end ByteWriter

def getU8 : Get UInt8 := do return UInt8.ofNat (← getUInt 1)
def getBool : Get Bool := do return (← getU8) != 0
def getU16 : Get UInt16 := do return UInt16.ofNat (← getUInt 2)
def getU32 : Get UInt32 := do return UInt32.ofNat (← getUInt 4)
def getU64 : Get UInt64 := do return UInt64.ofNat (← getUInt 8)
def getI64 : Get Int64 := do return (← getU64).toInt64

def getString (maxChars : Nat) : Get Text := do
  let length ← getU16
  if (← failing) || length.toNat > maxChars then
    latch
    return []
  else getRaw length.toNat

def getIdent (tag : IdTag) : Get (Ident tag) := do return ⟨← getU64⟩
def getCounter (tag : CounterTag) : Get (Counter tag) := do return ⟨← getU64⟩

/-! Field groups. -/

def putProvenance (writer : ByteWriter) (provenance : Provenance) : ByteWriter :=
  writer.putU64 provenance.publisher.value
    |>.putU64 provenance.node.value
    |>.putU64 provenance.incarnation.value
    |>.putU64 provenance.epoch.value
    |>.putU64 provenance.sequence.value
    |>.putU64 provenance.boot.hi
    |>.putU64 provenance.boot.lo

def getProvenance : Get Provenance := do
  let publisher ← getIdent .publisher
  let node ← getIdent .node
  let incarnation ← getCounter .incarnation
  let epoch ← getCounter .epoch
  let sequence ← getCounter .sequence
  let hi ← getU64
  let lo ← getU64
  return { publisher, node, incarnation, epoch, sequence, boot := ⟨hi, lo⟩ }

def putAttempt (writer : ByteWriter) (attempt : AttemptId) : ByteWriter :=
  writer.putU64 attempt.publisher.value |>.putU64 attempt.counter

def getAttempt : Get AttemptId := do
  let publisher ← getIdent .publisher
  let counter ← getU64
  return { publisher, counter }

def putThresholds (writer : ByteWriter) (thresholds : Thresholds) : ByteWriter :=
  writer.putU64 thresholds.lowWatermarkBytes
    |>.putU64 thresholds.highWatermarkBytes
    |>.putU64 thresholds.maxOccupancyBytes
    |>.putU64 thresholds.maxPackets
    |>.putI64 thresholds.occupancyStaleAfter

def getThresholds : Get Thresholds := do
  let lowWatermarkBytes ← getU64
  let highWatermarkBytes ← getU64
  let maxOccupancyBytes ← getU64
  let maxPackets ← getU64
  let occupancyStaleAfter ← getI64
  return {
    lowWatermarkBytes, highWatermarkBytes, maxOccupancyBytes, maxPackets,
    occupancyStaleAfter }

def putClassBinding (writer : ByteWriter) (binding : ClassBinding) : ByteWriter :=
  writer.putU64 binding.id.value |>.putU64 binding.generation.value

def getClassBinding : Get ClassBinding := do
  let id ← getIdent .cls
  let generation ← getCounter .generation
  return { id, generation }

def putPoolRef (writer : ByteWriter) (pool : PoolRef) : ByteWriter :=
  writer.putU64 pool.id.value |>.putU64 pool.generation.value |>.putU64 pool.capacityBytes

def getPoolRef : Get PoolRef := do
  let id ← getIdent .pool
  let generation ← getCounter .generation
  let capacityBytes ← getU64
  return { id, generation, capacityBytes }

def putOccupancyState (writer : ByteWriter) (state : OccupancyState) : ByteWriter :=
  let writer := writer.putBool state.present
    |>.putU64 state.bytes
    |>.putU64 state.packets
    |>.putI64 state.observedAt
    |>.putU64 state.sequence.value
    |>.putU64 state.epoch.value
  putProvenance writer state.provenance
    |>.putU64 state.queueGeneration.value
    |>.putU8 state.freshness.toRaw
    |>.putI64 state.age

def getOccupancyState : Get OccupancyState := do
  let present ← getBool
  let bytes ← getU64
  let packets ← getU64
  let observedAt ← getI64
  let sequence ← getCounter .sequence
  let epoch ← getCounter .epoch
  let provenance ← getProvenance
  let queueGeneration ← getCounter .generation
  let freshness ← getU8
  let age ← getI64
  return {
    present, bytes, packets, observedAt, sequence, epoch, provenance, queueGeneration,
    freshness := Freshness.ofRaw freshness, age }

def putFenceState (writer : ByteWriter) (fence : FenceState) : ByteWriter :=
  writer.putBool fence.fenced
    |>.putU64 fence.token
    |>.putU64 fence.epoch.value
    |>.putU64 fence.fencedBy.value
    |>.putString fence.reason
    |>.putI64 fence.fencedAt

def getFenceState : Get FenceState := do
  let fenced ← getBool
  let token ← getU64
  let epoch ← getCounter .epoch
  let fencedBy ← getIdent .owner
  let reason ← getString Limits.maxReasonChars
  let fencedAt ← getI64
  return { fenced, token, epoch, fencedBy, reason, fencedAt }

/-- The fields that follow the record count in drain evidence. -/
def putEvidenceBody (writer : ByteWriter) (evidence : DrainEvidence) : ByteWriter :=
  writer.putBool evidence.backend.requestAccepted
    |>.putBool evidence.backend.reportedDrained
    |>.putU64 evidence.backend.backend.value
    |>.putU64 evidence.backend.backendIncarnation.value
    |>.putU64 evidence.backend.epoch.value
    |>.putU64 evidence.backend.sequence.value
    |>.putI64 evidence.backend.observedAt
    |>.putBool evidence.occupancyZeroObserved
    |>.putI64 evidence.zeroObservedAt
    |>.putU64 evidence.zeroSequence.value
    |>.putBool evidence.revalidated

def putDrainEvidence (writer : ByteWriter) (evidence : DrainEvidence) : ByteWriter :=
  putEvidenceBody (writer.putU32 evidence.records) evidence

def getEvidenceBody (records : UInt32) : Get DrainEvidence := do
  let requestAccepted ← getBool
  let reportedDrained ← getBool
  let backend ← getIdent .backend
  let backendIncarnation ← getCounter .incarnation
  let epoch ← getCounter .epoch
  let sequence ← getCounter .sequence
  let observedAt ← getI64
  let occupancyZeroObserved ← getBool
  let zeroObservedAt ← getI64
  let zeroSequence ← getCounter .sequence
  let revalidated ← getBool
  return {
    records
    backend := ⟨requestAccepted, reportedDrained, backend, backendIncarnation, epoch, sequence,
      observedAt⟩
    occupancyZeroObserved, zeroObservedAt, zeroSequence, revalidated }

def putDrainState (writer : ByteWriter) (drain : DrainState) : ByteWriter :=
  let writer := putAttempt (writer.putU8 drain.phase.toRaw) drain.attempt
  let writer := putProvenance (writer.putI64 drain.requestedAt) drain.requestedBy
  putDrainEvidence writer drain.evidence

/-- A record count out of range leaves the rest of the evidence unread. -/
def getDrainState : Get DrainState := do
  let phase ← getU8
  let attempt ← getAttempt
  let requestedAt ← getI64
  let requestedBy ← getProvenance
  let records ← getU32
  if (← failing) || records.toNat > Limits.maxDrainEvidenceRecords then
    return {
      phase := DrainPhase.ofRaw phase, attempt, requestedAt, requestedBy,
      evidence := { records } }
  else
    let evidence ← getEvidenceBody records
    return { phase := DrainPhase.ofRaw phase, attempt, requestedAt, requestedBy, evidence }

def putBackendApplied (writer : ByteWriter) (applied : BackendApplied) : ByteWriter :=
  let writer := writer.putBool applied.known
    |>.putU64 applied.backend.value
    |>.putU64 applied.backendIncarnation.value
    |>.putU64 applied.epoch.value
    |>.putU64 applied.sequence.value
    |>.putI64 applied.appliedAt
  putClassBinding writer applied.appliedClass
    |>.putU64 applied.queueGeneration.value
    |>.putU64 applied.appliedHighWatermarkBytes
    |>.putU64 applied.appliedMaxOccupancyBytes

def getBackendApplied : Get BackendApplied := do
  let known ← getBool
  let backend ← getIdent .backend
  let backendIncarnation ← getCounter .incarnation
  let epoch ← getCounter .epoch
  let sequence ← getCounter .sequence
  let appliedAt ← getI64
  let appliedClass ← getClassBinding
  let queueGeneration ← getCounter .generation
  let appliedHighWatermarkBytes ← getU64
  let appliedMaxOccupancyBytes ← getU64
  return {
    known, backend, backendIncarnation, epoch, sequence, appliedAt, appliedClass,
    queueGeneration, appliedHighWatermarkBytes, appliedMaxOccupancyBytes }

/-- Runs a decoder over a whole record: a failed reader or leftover bytes are malformed. -/
def decodeWhole {α : Type} (get : Get (Except Status α)) (data : Bytes) (malformed : String) :
    Except Status α :=
  match get ⟨data, false⟩ with
  | (.error status, _) => .error status
  | (.ok value, reader) =>
      if reader.failed || reader.rest.length ≠ 0 then .error ⟨.malformedInput, malformed⟩
      else .ok value

/-! Epoch state. -/

def encodeEpochState (state : EpochState) : Bytes :=
  let writer : ByteWriter := Wire.Writer.fresh 256
  writer.putU64 state.boot.hi
    |>.putU64 state.boot.lo
    |>.putU64 state.epoch.value
    |>.putU64 state.coordinatorIncarnation.value
    |>.buffer

def getEpochState : Get (Except Status EpochState) := do
  let hi ← getU64
  let lo ← getU64
  let epoch ← getCounter .epoch
  let coordinatorIncarnation ← getCounter .incarnation
  return .ok { boot := ⟨hi, lo⟩, epoch, coordinatorIncarnation }

def decodeEpochState (data : Bytes) : Except Status EpochState :=
  decodeWhole getEpochState data "epoch state record is malformed"

/-! Resource state. -/

def putGrant (writer : ByteWriter) (grant : AuthorityGrant) : ByteWriter :=
  writer.putU64 grant.owner.value |>.putU32 grant.capabilities

def getGrant : Get AuthorityGrant := do
  let owner ← getIdent .owner
  let capabilities ← getU32
  return { owner, capabilities }

def putClassDef (writer : ByteWriter) (entry : SchedulingClassDef) : ByteWriter :=
  let writer := writer.putU64 entry.id.value
    |>.putU64 entry.resource.value
    |>.putString entry.name
    |>.putU32 entry.priority
    |>.putU32 entry.qos.priorityCode
    |>.putU32 entry.qos.trafficClass
    |>.putString entry.qos.group
    |>.putU64 entry.generation.value
  putProvenance writer entry.declaredBy

def getClassDef : Get SchedulingClassDef := do
  let id ← getIdent .cls
  let resource ← getIdent .resource
  let name ← getString Limits.maxNameChars
  let priority ← getU32
  let priorityCode ← getU32
  let trafficClass ← getU32
  let group ← getString Limits.maxNameChars
  let generation ← getCounter .generation
  let declaredBy ← getProvenance
  return {
    id, resource, name, priority, qos := { priorityCode, trafficClass, group }, generation,
    declaredBy }

def putPoolDef (writer : ByteWriter) (pool : BufferPoolDef) : ByteWriter :=
  let writer := writer.putU64 pool.id.value
    |>.putU64 pool.resource.value
    |>.putString pool.name
    |>.putU64 pool.capacityBytes
    |>.putU64 pool.generation.value
  putProvenance writer pool.declaredBy

def getPoolDef : Get BufferPoolDef := do
  let id ← getIdent .pool
  let resource ← getIdent .resource
  let name ← getString Limits.maxNameChars
  let capacityBytes ← getU64
  let generation ← getCounter .generation
  let declaredBy ← getProvenance
  return { id, resource, name, capacityBytes, generation, declaredBy }

def putBackend (writer : ByteWriter) (backend : BackendIncarnation) : ByteWriter :=
  writer.putU64 backend.backend.value
    |>.putU64 backend.resource.value
    |>.putU64 backend.incarnation.value
    |>.putU64 backend.epoch.value
    |>.putI64 backend.registeredAt
    |>.putBool backend.alive

def getBackend : Get BackendIncarnation := do
  let backend ← getIdent .backend
  let resource ← getIdent .resource
  let incarnation ← getCounter .incarnation
  let epoch ← getCounter .epoch
  let registeredAt ← getI64
  let alive ← getBool
  return { backend, resource, incarnation, epoch, registeredAt, alive }

/-- A counted section: a 32-bit count, then that many entries. -/
def putSection {α : Type} (put : ByteWriter → α → ByteWriter) (writer : ByteWriter)
    (items : List α) : ByteWriter :=
  Wire.Writer.putMany put (writer.putU32 (UInt32.ofNat items.length)) items

def putResourceHead (writer : ByteWriter) (resource : ResourceRecord) : ByteWriter :=
  writer.putU64 resource.id.value
    |>.putString resource.name
    |>.putU64 resource.owner.value
    |>.putU64 resource.generation.value
    |>.putU64 resource.epoch.value
    |>.putU64 resource.authority.owner.value
    |>.putU64 resource.authority.epoch.value

def putResourceTail (writer : ByteWriter) (resource : ResourceRecord) : ByteWriter :=
  let writer := putProvenance (writer.putU8 resource.applicability.bits) resource.declaredBy
  writer.putI64 resource.declaredAt |>.putU64 resource.queueCount

def putResourceState (writer : ByteWriter) (resource : ResourceRecord) : ByteWriter :=
  let writer := putResourceHead writer resource
  let writer := putSection putGrant writer resource.authority.grants
  let writer := putSection putClassDef writer resource.classes
  let writer := putSection putPoolDef writer resource.pools
  let writer := putSection putBackend writer resource.backends
  putResourceTail writer resource

def encodeResourceState (resource : ResourceRecord) : Bytes :=
  (putResourceState ByteWriter.make resource).finish

/-- Reads a counted section, refusing a count above `limit`. -/
def getSection {α β : Type} (item : Get α) (limit : Nat) (outOfRange : String)
    (next : List α → Get (Except Status β)) : Get (Except Status β) := do
  let count ← getU32
  if (← failing) || count.toNat > limit then return .error ⟨.malformedInput, outOfRange⟩
  else
    let items ← getMany item count.toNat
    next items

def getResourceState : Get (Except Status ResourceRecord) := do
  let id ← getIdent .resource
  let name ← getString Limits.maxNameChars
  let owner ← getIdent .owner
  let generation ← getCounter .generation
  let epoch ← getCounter .epoch
  let authorityOwner ← getIdent .owner
  let authorityEpoch ← getCounter .epoch
  getSection getGrant Limits.maxGrantsPerResource "resource grants are out of range" fun grants =>
  getSection getClassDef Limits.maxClassesPerResource "resource classes are out of range" fun classes =>
  getSection getPoolDef Limits.maxPoolsPerResource "resource pools are out of range" fun pools =>
  getSection getBackend Limits.maxResources "resource backends are out of range" fun backends => do
  let applicability ← getU8
  let declaredBy ← getProvenance
  let declaredAt ← getI64
  let queueCount ← getU64
  return .ok {
    id, name, owner, generation, epoch,
    authority := { owner := authorityOwner, epoch := authorityEpoch, grants }, classes, pools,
    backends, applicability := ⟨applicability⟩, declaredBy, declaredAt, queueCount }

def decodeResourceState (data : Bytes) : Except Status ResourceRecord :=
  decodeWhole getResourceState data "resource state record is malformed"

/-! Queue state. -/

def putDefinition (writer : ByteWriter) (definition : QueueDefinition) : ByteWriter :=
  let writer := writer.putU64 definition.id.value
    |>.putU64 definition.resource.value
    |>.putString definition.name
    |>.putU32 definition.depth
  let writer := putClassBinding writer definition.cls
  let writer := putPoolRef writer definition.pool
  let writer := putThresholds writer definition.thresholds
  let writer := writer.putU64 definition.owner.value |>.putU64 definition.generation.value
  putProvenance writer definition.declaredBy |>.putI64 definition.declaredAt

def getDefinition : Get QueueDefinition := do
  let id ← getIdent .queue
  let resource ← getIdent .resource
  let name ← getString Limits.maxNameChars
  let depth ← getU32
  let cls ← getClassBinding
  let pool ← getPoolRef
  let thresholds ← getThresholds
  let owner ← getIdent .owner
  let generation ← getCounter .generation
  let declaredBy ← getProvenance
  let declaredAt ← getI64
  return {
    id, resource, name, depth, cls, pool, thresholds, owner, generation, declaredBy,
    declaredAt }

def putMemo (writer : ByteWriter) (entry : AttemptMemo) : ByteWriter :=
  putAttempt writer entry.attempt
    |>.putU64 entry.fingerprint
    |>.putU16 entry.kind.toRaw
    |>.putU16 entry.outcome.toRaw
    |>.putU64 entry.generation.value
    |>.putBool entry.durable

def getMemo : Get AttemptMemo := do
  let attempt ← getAttempt
  let fingerprint ← getU64
  let kind ← getU16
  let outcome ← getU16
  let generation ← getCounter .generation
  let durable ← getBool
  return {
    attempt, fingerprint, kind := MutationKind.ofRaw kind, outcome := Code.ofRaw outcome,
    generation, durable }

def putQueueState (writer : ByteWriter) (queue : QueueRecord) : ByteWriter :=
  let writer := putDefinition writer queue.definition
  let writer := writer.putU8 queue.lifecycle.toRaw
    |>.putU8 queue.applicability.bits
    |>.putString queue.failureReason
  let writer := putOccupancyState writer queue.occupancy
  let writer := putFenceState writer queue.fence
  let writer := putDrainState writer queue.drain
  let writer := putBackendApplied writer queue.applied
  let writer := writer.putU64 queue.mutationCount
    |>.putU64 queue.replayedCount
    |>.putU64 queue.rejectedCount
    |>.putU64 queue.overflowEvents
    |>.putU64 queue.stalenessEvents
  putSection putMemo (putAttempt writer queue.lastAttempt) queue.memo

def encodeQueueState (queue : QueueRecord) : Bytes :=
  (putQueueState ByteWriter.make queue).finish

def getQueueState : Get (Except Status QueueRecord) := do
  let definition ← getDefinition
  let lifecycle ← getU8
  let applicability ← getU8
  let failureReason ← getString Limits.maxReasonChars
  let occupancy ← getOccupancyState
  let fence ← getFenceState
  let drain ← getDrainState
  let applied ← getBackendApplied
  let mutationCount ← getU64
  let replayedCount ← getU64
  let rejectedCount ← getU64
  let overflowEvents ← getU64
  let stalenessEvents ← getU64
  let lastAttempt ← getAttempt
  getSection getMemo Limits.maxAttemptMemoPerQueue "queue memo is out of range" fun memo => do
  return .ok {
    definition, lifecycle := Lifecycle.ofRaw lifecycle, applicability := ⟨applicability⟩,
    occupancy, fence, drain, applied, mutationCount, replayedCount, rejectedCount, overflowEvents,
    stalenessEvents, lastAttempt, failureReason, memo }

def decodeQueueState (data : Bytes) : Except Status QueueRecord :=
  decodeWhole getQueueState data "queue state record is malformed"

/-! Mutations. -/

def tagOf : MutationPayload → UInt8
  | .monostate => 0
  | .declareQueue _ => 1
  | .rebindClass _ => 2
  | .thresholds _ => 3
  | .ownership _ => 4
  | .occupancy _ => 5
  | .drainEvidence _ => 6
  | .fence _ => 7
  | .backendAck _ => 8
  | .backendRegistration _ => 9

def putOccupancySample (writer : ByteWriter) (sample : OccupancySample) : ByteWriter :=
  let writer := writer.putU64 sample.queue.value
    |>.putU64 sample.queueGeneration.value
    |>.putU64 sample.bytes
    |>.putU64 sample.packets
    |>.putU64 sample.epoch.value
    |>.putU64 sample.sequence.value
    |>.putI64 sample.observedAt
  putProvenance writer sample.provenance

def getOccupancySample : Get OccupancySample := do
  let queue ← getIdent .queue
  let queueGeneration ← getCounter .generation
  let bytes ← getU64
  let packets ← getU64
  let epoch ← getCounter .epoch
  let sequence ← getCounter .sequence
  let observedAt ← getI64
  let provenance ← getProvenance
  return { queue, queueGeneration, bytes, packets, epoch, sequence, observedAt, provenance }

def putDeclare (writer : ByteWriter) (declare : DeclareQueuePayload) : ByteWriter :=
  let writer := writer.putU64 declare.resource.value
    |>.putString declare.name
    |>.putU32 declare.depth
  let writer := putClassBinding writer declare.cls
  let writer := putPoolRef writer declare.pool
  putThresholds writer declare.thresholds

def getDeclare : Get DeclareQueuePayload := do
  let resource ← getIdent .resource
  let name ← getString Limits.maxNameChars
  let depth ← getU32
  let cls ← getClassBinding
  let pool ← getPoolRef
  let thresholds ← getThresholds
  return { resource, name, depth, cls, pool, thresholds }

def putPayload (writer : ByteWriter) : MutationPayload → ByteWriter
  | .monostate => writer
  | .declareQueue declare => putDeclare writer declare
  | .rebindClass cls => putClassBinding writer cls
  | .thresholds thresholds => putThresholds writer thresholds
  | .ownership owner => writer.putU64 owner.value
  | .occupancy sample => putOccupancySample writer sample
  | .drainEvidence evidence => putDrainEvidence writer evidence
  | .fence payload => writer.putBool payload.fence |>.putString payload.reason
  | .backendAck applied => putBackendApplied writer applied
  | .backendRegistration payload =>
      writer.putU64 payload.backend.value
        |>.putU64 payload.resource.value
        |>.putU64 payload.incarnation.value

def putRequestHead (writer : ByteWriter) (request : MutationRequest) : ByteWriter :=
  let writer := putAttempt writer request.attempt
    |>.putU16 request.kind.toRaw
    |>.putU64 request.queue.value
    |>.putU64 request.expectedGeneration.value
    |>.putU64 request.expectedEpoch.value
    |>.putU64 request.principal.value
  putProvenance writer request.provenance |>.putU8 (tagOf request.payload)

def putMutation (writer : ByteWriter) (request : MutationRequest) : ByteWriter :=
  putPayload (putRequestHead writer request) request.payload

def encodeMutation (request : MutationRequest) : Bytes :=
  (putMutation ByteWriter.make request).finish

def getDrainEvidence : Get (Except Status DrainEvidence) := do
  let records ← getU32
  if (← failing) || records.toNat > Limits.maxDrainEvidenceRecords then
    return .error ⟨.malformedInput, "drain evidence record count is out of range"⟩
  else
    let evidence ← getEvidenceBody records
    if ← failing then return .error ⟨.malformedInput, "drain evidence is malformed"⟩
    else return .ok evidence

def getPayload (tag : UInt8) : Get (Except Status MutationPayload) :=
  match tag.toNat with
  | 0 => return .ok .monostate
  | 1 => do return .ok (.declareQueue (← getDeclare))
  | 2 => do return .ok (.rebindClass (← getClassBinding))
  | 3 => do return .ok (.thresholds (← getThresholds))
  | 4 => do return .ok (.ownership (← getIdent .owner))
  | 5 => do return .ok (.occupancy (← getOccupancySample))
  | 6 => do return (← getDrainEvidence).map .drainEvidence
  | 7 => do
      let fence ← getBool
      let reason ← getString Limits.maxReasonChars
      return .ok (.fence { fence, reason })
  | 8 => do return .ok (.backendAck (← getBackendApplied))
  | 9 => do
      let backend ← getIdent .backend
      let resource ← getIdent .resource
      let incarnation ← getCounter .incarnation
      return .ok (.backendRegistration { backend, resource, incarnation })
  | _ => return .error ⟨.malformedInput, "mutation payload tag is unknown"⟩

def getMutation : Get (Except Status MutationRequest) := do
  let attempt ← getAttempt
  let kind ← getU16
  let queue ← getIdent .queue
  let expectedGeneration ← getCounter .generation
  let expectedEpoch ← getCounter .epoch
  let principal ← getIdent .owner
  let provenance ← getProvenance
  let tag ← getU8
  if ← failing then return .error ⟨.malformedInput, "mutation record is truncated"⟩
  else
    let payload ← getPayload tag
    return payload.map fun payload =>
      { attempt, kind := MutationKind.ofRaw kind, queue, expectedGeneration, expectedEpoch,
        principal, provenance, payload }

def decodeMutation (data : Bytes) : Except Status MutationRequest :=
  decodeWhole getMutation data "mutation record is malformed"

end QueueFabric
