import QueueFabric.RecordsCore

/-!
Mutation requests and queue records: `mutation.hpp`, `mutation.cpp`,
`queue.hpp` and `queue.cpp`.
-/

namespace QueueFabric

inductive MutationKind
  | none
  | declareQueue
  | validateQueue
  | activateQueue
  | rebindClass
  | setThresholds
  | transferOwnership
  | ingestOccupancy
  | requestDrain
  | cancelDrain
  | submitDrainEvidence
  | quiesceQueue
  | fenceQueue
  | unfenceQueue
  | failQueue
  | retireQueue
  | acknowledgeBackend
  | registerBackend
  | noOp
  | unlisted (offset : Fin 65517)
  deriving DecidableEq

def requiredCapability : MutationKind → Capability
  | .declareQueue => .declareQueue
  | .validateQueue => .validateQueue
  | .activateQueue => .activateQueue
  | .rebindClass => .rebindClass
  | .setThresholds => .setThresholds
  | .transferOwnership => .transferOwnership
  | .ingestOccupancy => .ingestOccupancy
  | .requestDrain => .requestDrain
  | .cancelDrain => .requestDrain
  | .submitDrainEvidence => .submitEvidence
  | .quiesceQueue => .quiesceQueue
  | .fenceQueue => .fenceQueue
  | .unfenceQueue => .unfenceQueue
  | .failQueue => .failQueue
  | .retireQueue => .retireQueue
  | .acknowledgeBackend => .acknowledgeBackend
  | .registerBackend => .declareTopology
  | .noOp => .none
  | .none => .none
  | .unlisted _ => .none

def isDynamic : MutationKind → Bool
  | .ingestOccupancy => true
  | .submitDrainEvidence => true
  | .acknowledgeBackend => true
  | _ => false

def isDurable (kind : MutationKind) : Bool := !isDynamic kind && kind ≠ .noOp && kind ≠ .none

structure DeclareQueuePayload where
  resource : ResourceId := default
  name : Text := []
  depth : UInt32 := 0
  cls : ClassBinding := {}
  pool : PoolRef := {}
  thresholds : Thresholds := {}
  deriving DecidableEq, Inhabited

structure FencePayload where
  fence : Bool := true
  reason : Text := []
  deriving DecidableEq, Inhabited

structure BackendRegistrationPayload where
  backend : BackendId := default
  resource : ResourceId := default
  incarnation : Incarnation := default
  deriving DecidableEq, Inhabited

inductive MutationPayload
  | monostate
  | declareQueue (payload : DeclareQueuePayload)
  | rebindClass (cls : ClassBinding)
  | thresholds (thresholds : Thresholds)
  | ownership (owner : OwnerId)
  | occupancy (sample : OccupancySample)
  | drainEvidence (evidence : DrainEvidence)
  | fence (payload : FencePayload)
  | backendAck (applied : BackendApplied)
  | backendRegistration (payload : BackendRegistrationPayload)
  deriving DecidableEq, Inhabited

structure MutationRequest where
  attempt : AttemptId := default
  kind : MutationKind := .none
  queue : QueueId := default
  expectedGeneration : Generation := default
  expectedEpoch : Epoch := default
  principal : OwnerId := default
  provenance : Provenance := {}
  payload : MutationPayload := .monostate
  deriving DecidableEq

def payloadMatches : MutationKind → MutationPayload → Bool
  | .declareQueue, .declareQueue _ => true
  | .rebindClass, .rebindClass _ => true
  | .setThresholds, .thresholds _ => true
  | .transferOwnership, .ownership _ => true
  | .ingestOccupancy, .occupancy _ => true
  | .submitDrainEvidence, .drainEvidence _ => true
  | .fenceQueue, .fence _ => true
  | .unfenceQueue, .fence _ => true
  | .failQueue, .fence _ => true
  | .acknowledgeBackend, .backendAck _ => true
  | .registerBackend, .backendRegistration _ => true
  | .validateQueue, .monostate => true
  | .activateQueue, .monostate => true
  | .requestDrain, .monostate => true
  | .cancelDrain, .monostate => true
  | .quiesceQueue, .monostate => true
  | .retireQueue, .monostate => true
  | .noOp, .monostate => true
  | _, _ => false

namespace MutationRequest

/-- Target checks: a declaration names a resource and no queue, every other kind names a queue. -/
def validateTarget (request : MutationRequest) : Status :=
  match request.kind, request.payload with
  | .declareQueue, .declareQueue declare =>
      if !declare.resource.valid then
        ⟨.invalidArgument, "declare requires a resource identity"⟩
      else if request.queue.valid then
        ⟨.invalidArgument, "declare must not name an existing queue identity"⟩
      else if declare.name.isEmpty || declare.name.length > Limits.maxNameChars then
        ⟨.outOfRange, "queue name length is out of range"⟩
      else if !declare.cls.valid then
        ⟨.invalidArgument, "declare requires an exact class binding"⟩
      else if !declare.pool.valid then
        ⟨.invalidArgument, "declare requires a pool reference"⟩
      else if !declare.thresholds.consistent then
        ⟨.invalidArgument, "threshold ladder is inconsistent"⟩
      else .success
  | _, _ =>
      if !request.queue.valid then
        ⟨.invalidArgument, "mutation requires a queue identity"⟩
      else .success

def validatePayload (request : MutationRequest) : Status :=
  match request.kind, request.payload with
  | .ingestOccupancy, .occupancy sample =>
      if !sample.structurallyValid then
        ⟨.malformedInput, "occupancy sample is structurally invalid"⟩
      else .success
  | .setThresholds, .thresholds thresholds =>
      if !thresholds.consistent then
        ⟨.invalidArgument, "threshold ladder is inconsistent"⟩
      else .success
  | .rebindClass, .rebindClass cls =>
      if !cls.valid then
        ⟨.invalidArgument, "rebind requires an exact class binding"⟩
      else .success
  | .transferOwnership, .ownership owner =>
      if !owner.valid then
        ⟨.invalidArgument, "transfer requires a target owner"⟩
      else .success
  | _, _ => .success

/-- Structural validation only: no authority, lifecycle or generation checks. -/
def validate (request : MutationRequest) : Status :=
  if !request.attempt.valid then ⟨.invalidArgument, "attempt identity is required"⟩
  else if request.kind = .none then ⟨.invalidArgument, "mutation kind is required"⟩
  else if !request.provenance.valid then ⟨.malformedInput, "complete provenance is required"⟩
  else if !request.principal.valid then ⟨.invalidArgument, "principal identity is required"⟩
  else if !payloadMatches request.kind request.payload then
    ⟨.invalidArgument, "payload does not match mutation kind"⟩
  else
    let target := request.validateTarget
    if !target.isOk then target else request.validatePayload

end MutationRequest

/-! Numeric values of the enumerations that reach the fingerprint and the journal. -/

namespace MutationKind

def toRaw : MutationKind → UInt16
  | .none => 0
  | .declareQueue => 1
  | .validateQueue => 2
  | .activateQueue => 3
  | .rebindClass => 4
  | .setThresholds => 5
  | .transferOwnership => 6
  | .ingestOccupancy => 7
  | .requestDrain => 8
  | .cancelDrain => 9
  | .submitDrainEvidence => 10
  | .quiesceQueue => 11
  | .fenceQueue => 12
  | .unfenceQueue => 13
  | .failQueue => 14
  | .retireQueue => 15
  | .acknowledgeBackend => 16
  | .registerBackend => 17
  | .noOp => 18
  | .unlisted offset => UInt16.ofNat (offset.val + 19)

end MutationKind

namespace MutationRequest

def mixThresholds (seed : UInt64) (thresholds : Thresholds) : UInt64 :=
  [thresholds.lowWatermarkBytes, thresholds.highWatermarkBytes, thresholds.maxOccupancyBytes,
    thresholds.maxPackets, thresholds.occupancyStaleAfter.toUInt64].foldl hashMix seed

def mixPayload (seed : UInt64) : MutationPayload → UInt64
  | .monostate => seed
  | .declareQueue declare =>
      let seed := hashMixText (hashMix seed declare.resource.value) declare.name
      let seed := [declare.depth.toUInt64, declare.cls.id.value, declare.cls.generation.value,
        declare.pool.id.value, declare.pool.generation.value,
        declare.pool.capacityBytes].foldl hashMix seed
      mixThresholds seed declare.thresholds
  | .rebindClass cls => hashMix (hashMix seed cls.id.value) cls.generation.value
  | .thresholds thresholds => mixThresholds seed thresholds
  | .ownership owner => hashMix seed owner.value
  | .occupancy sample =>
      [sample.bytes, sample.packets, sample.sequence.value, sample.provenance.fingerprint,
        sample.observedAt.toUInt64].foldl hashMix seed
  | .drainEvidence evidence =>
      let seed := hashMix seed evidence.records.toUInt64
      let seed := hashMixBool seed evidence.backend.reportedDrained
      let seed := hashMixBool seed evidence.backend.requestAccepted
      let seed := hashMixBool seed evidence.occupancyZeroObserved
      hashMix seed evidence.zeroSequence.value
  | .fence payload => hashMixText (hashMixBool seed payload.fence) payload.reason
  | .backendAck applied =>
      [applied.sequence.value, applied.backend.value,
        applied.backendIncarnation.value].foldl hashMix seed
  | .backendRegistration payload =>
      [payload.backend.value, payload.resource.value,
        payload.incarnation.value].foldl hashMix seed

/-- Effect fingerprint: attempt identity, provenance and claimed epoch are left out. -/
def fingerprint (request : MutationRequest) : UInt64 :=
  let seed := [request.kind.toRaw.toUInt64, request.queue.value,
    request.expectedGeneration.value, request.principal.value].foldl hashMix 0x243F6A8885A308D3
  mixPayload seed request.payload

end MutationRequest

structure MutationOutcome where
  queue : QueueId
  generation : Generation
  attempt : AttemptId
  definitionGeneration : Generation
  lifecycle : Lifecycle
  applicability : Applicability
  replayed : Bool
  durable : Bool
  rule : String

structure AttemptMemo where
  attempt : AttemptId := default
  fingerprint : UInt64 := 0
  kind : MutationKind := .none
  outcome : Code := .ok
  generation : Generation := default
  durable : Bool := false
  deriving DecidableEq, Inhabited

/-! Queue records. -/

structure QueueDefinition where
  id : QueueId := default
  resource : ResourceId := default
  name : Text := []
  depth : UInt32 := 0
  cls : ClassBinding := {}
  pool : PoolRef := {}
  thresholds : Thresholds := {}
  owner : OwnerId := default
  generation : Generation := default
  declaredBy : Provenance := {}
  declaredAt : Nanos := 0
  deriving DecidableEq

structure FenceState where
  fenced : Bool := false
  token : UInt64 := 0
  epoch : Epoch := default
  fencedBy : OwnerId := default
  reason : Text := []
  fencedAt : Nanos := 0
  deriving DecidableEq

structure QueueRecord where
  definition : QueueDefinition := {}
  lifecycle : Lifecycle := .declared
  applicability : Applicability := .none
  occupancy : OccupancyState := {}
  fence : FenceState := {}
  drain : DrainState := {}
  applied : BackendApplied := {}
  mutationCount : UInt64 := 0
  replayedCount : UInt64 := 0
  rejectedCount : UInt64 := 0
  overflowEvents : UInt64 := 0
  stalenessEvents : UInt64 := 0
  lastAttempt : AttemptId := default
  lastStatus : Status := .success
  lastRule : String := "unset"
  failureReason : Text := []
  memo : List AttemptMemo := []
  deriving DecidableEq

namespace QueueRecord

def findAttempt (queue : QueueRecord) (attempt : AttemptId) : Option AttemptMemo :=
  queue.memo.find? fun entry => entry.attempt = attempt

/-- Overwrites the entry of the same attempt; `none` when the attempt is not recorded. -/
def replaceMemo (entry : AttemptMemo) : List AttemptMemo → Option (List AttemptMemo)
  | [] => none
  | existing :: rest =>
      if existing.attempt = entry.attempt then some (entry :: rest)
      else (replaceMemo entry rest).map (existing :: ·)

def rememberIn (memo : List AttemptMemo) (entry : AttemptMemo) (capacity : UInt64) :
    List AttemptMemo :=
  if capacity = 0 then memo
  else match replaceMemo entry memo with
    | some replaced => replaced
    | none => (if memo.length ≥ capacity.toNat then memo.tail else memo) ++ [entry]

def remember (queue : QueueRecord) (entry : AttemptMemo) (capacity : UInt64) : QueueRecord :=
  { queue with memo := rememberIn queue.memo entry capacity }

end QueueRecord

end QueueFabric
