import QueueFabric.IdsCore

/-!
The pure rules of the fabric: provenance tracking, the lifecycle table,
authority, occupancy freshness, thresholds and policy, drain assessment and
backend verification.
-/

namespace QueueFabric

/-! `provenance.hpp` and `provenance.cpp`. -/

structure Provenance where
  publisher : PublisherId := default
  node : NodeId := default
  incarnation : Incarnation := default
  epoch : Epoch := default
  sequence : Sequence := default
  boot : BootId := default
  deriving DecidableEq, Inhabited

namespace Provenance

def valid (provenance : Provenance) : Bool :=
  provenance.publisher.valid && provenance.node.valid && provenance.incarnation.valid &&
    provenance.sequence.valid && provenance.boot.valid

def fingerprint (provenance : Provenance) : UInt64 :=
  [provenance.publisher.value, provenance.node.value, provenance.incarnation.value,
    provenance.epoch.value, provenance.sequence.value, provenance.boot.hi,
    provenance.boot.lo].foldl hashMix 0x51ED270B5F1F0E1B

end Provenance

inductive ProvenanceClass
  | accepted
  | duplicate
  | staleIncarnation
  | staleBoot
  | staleEpoch
  | invalid
  | capacityExceeded
  deriving DecidableEq

def ProvenanceClass.name : ProvenanceClass → String
  | .accepted => "accepted"
  | .duplicate => "duplicate"
  | .staleIncarnation => "stale_incarnation"
  | .staleBoot => "stale_boot"
  | .staleEpoch => "stale_epoch"
  | .invalid => "invalid"
  | .capacityExceeded => "capacity_exceeded"

structure PublisherState where
  incarnation : Incarnation := default
  boot : BootId := default
  epoch : Epoch := default
  lastSequence : Sequence := default
  accepted : UInt64 := 0
  duplicates : UInt64 := 0

structure ProvenanceTracker where
  states : Table PublisherId PublisherState
  maxPublishers : Nat

namespace ProvenanceTracker

def classify (tracker : ProvenanceTracker) (provenance : Provenance) : ProvenanceClass :=
  if !provenance.valid then .invalid
  else match tracker.states.get? provenance.publisher with
    | none => if tracker.states.size ≥ tracker.maxPublishers then .capacityExceeded else .accepted
    | some state =>
        if provenance.incarnation.value < state.incarnation.value then .staleIncarnation
        else if provenance.incarnation = state.incarnation then
          if provenance.boot ≠ state.boot then .staleBoot
          else if provenance.epoch.value < state.epoch.value then .staleEpoch
          else if provenance.sequence.value ≤ state.lastSequence.value then .duplicate
          else .accepted
        else .accepted

/-- The publisher entry after an accepted record. -/
def PublisherState.accept (state : PublisherState) (provenance : Provenance) : PublisherState :=
  { state with
    incarnation := provenance.incarnation
    boot := provenance.boot
    epoch := provenance.epoch
    lastSequence := provenance.sequence
    accepted := state.accepted + 1 }

def observe (tracker : ProvenanceTracker) (provenance : Provenance) : Status × ProvenanceTracker :=
  let state := (tracker.states.get? provenance.publisher).getD {}
  match tracker.classify provenance with
  | .invalid => (⟨.malformedInput, "provenance is structurally incomplete"⟩, tracker)
  | .capacityExceeded => (⟨.capacityExceeded, "publisher table is full"⟩, tracker)
  | .staleIncarnation => (⟨.staleIncarnation, "publisher incarnation is superseded"⟩, tracker)
  | .staleBoot =>
      (⟨.staleBoot, "boot identifier does not match publisher incarnation"⟩, tracker)
  | .staleEpoch => (⟨.staleEpoch, "provenance epoch is behind the observed epoch"⟩, tracker)
  | .duplicate =>
      let counted := { state with duplicates := state.duplicates + 1 }
      (⟨.replayDetected, "duplicate sequence from publisher"⟩,
        { tracker with states := tracker.states.insert provenance.publisher counted })
  | .accepted =>
      let accepted := PublisherState.accept state provenance
      (Status.success,
        { tracker with states := tracker.states.insert provenance.publisher accepted })

end ProvenanceTracker

/-! `lifecycle.hpp` and `lifecycle.cpp`. -/

inductive Lifecycle
  | declared
  | validated
  | active
  | draining
  | quiesced
  | retired
  | failed
  | unlisted (offset : Fin 249)
  deriving DecidableEq

/-- Applicability flags, kept as the byte the source stores. -/
structure Applicability where
  bits : UInt8
  deriving DecidableEq, Inhabited

namespace Applicability

def none : Applicability := ⟨0⟩
def stale : Applicability := ⟨1⟩
def fenced : Applicability := ⟨2⟩

def union (left right : Applicability) : Applicability := ⟨left.bits ||| right.bits⟩

def hasFlag (value flag : Applicability) : Bool := (value.bits &&& flag.bits) != 0

def clearFlag (value flag : Applicability) : Applicability := ⟨value.bits &&& ~~~flag.bits⟩

end Applicability

structure TransitionDecision where
  allowed : Bool
  rule : String
  code : Code

/-- The complete transition table: anything not listed is refused. -/
def transitionRules : List (Lifecycle × Lifecycle × String) := [
  (.declared, .validated, "declared-to-validated"),
  (.declared, .retired, "abandoned-before-validation"),
  (.declared, .failed, "declaration-failed"),
  (.validated, .active, "validated-to-active"),
  (.validated, .retired, "retired-before-activation"),
  (.validated, .failed, "validation-failed"),
  (.active, .draining, "active-must-drain-before-quiesce"),
  (.active, .failed, "activation-failed"),
  (.draining, .quiesced, "drain-proven-complete"),
  (.draining, .active, "drain-cancelled-by-revalidation"),
  (.draining, .failed, "drain-failed"),
  (.quiesced, .active, "reactivation-requires-revalidation"),
  (.quiesced, .retired, "quiesced-to-retired"),
  (.quiesced, .failed, "quiesced-fault"),
  (.failed, .retired, "failed-cleanup-retire")]

def checkTransition (source target : Lifecycle) : TransitionDecision :=
  if source = target then ⟨true, "no-op-idempotent", .ok⟩
  else match transitionRules.find? fun rule => rule.1 = source && rule.2.1 = target with
    | some rule => ⟨true, rule.2.2, .ok⟩
    | none =>
        if source = .retired then ⟨false, "retired-is-terminal", .lifecycleViolation⟩
        else ⟨false, "transition-not-permitted", .lifecycleViolation⟩

/-! `authority.hpp` and `authority.cpp`. -/

inductive Capability
  | none
  | declareTopology
  | declareQueue
  | validateQueue
  | activateQueue
  | rebindClass
  | setThresholds
  | ingestOccupancy
  | requestDrain
  | submitEvidence
  | quiesceQueue
  | retireQueue
  | fenceQueue
  | unfenceQueue
  | failQueue
  | transferOwnership
  | acknowledgeBackend
  | admin
  | all
  deriving DecidableEq

def Capability.toMask : Capability → UInt32
  | .none => 0
  | .declareTopology => 0x1
  | .declareQueue => 0x2
  | .validateQueue => 0x4
  | .activateQueue => 0x8
  | .rebindClass => 0x10
  | .setThresholds => 0x20
  | .ingestOccupancy => 0x40
  | .requestDrain => 0x80
  | .submitEvidence => 0x100
  | .quiesceQueue => 0x200
  | .retireQueue => 0x400
  | .fenceQueue => 0x800
  | .unfenceQueue => 0x1000
  | .failQueue => 0x2000
  | .transferOwnership => 0x4000
  | .acknowledgeBackend => 0x8000
  | .admin => 0x40000000
  | .all => 0x7FFFFFFF

def hasCapability (mask : UInt32) (value : Capability) : Bool :=
  (mask &&& value.toMask) = value.toMask

structure AuthorityGrant where
  owner : OwnerId
  capabilities : UInt32
  deriving DecidableEq

structure AuthorityVector where
  resource : ResourceId := default
  owner : OwnerId := default
  epoch : Epoch := default
  grants : List AuthorityGrant := []

def AuthorityVector.capabilitiesOf (authority : AuthorityVector) (principal : OwnerId) : UInt32 :=
  match authority.grants.find? fun grant => grant.owner = principal with
  | some grant => grant.capabilities
  | none => 0

/-- The authorization stages in their fixed order; `none` is an allowed request. -/
def authorize (authority : AuthorityVector) (principal : OwnerId) (required : Capability)
    (presentedEpoch : Epoch) (applicability : Applicability) (lifecycle : Lifecycle) :
    Option Refusal :=
  if !presentedEpoch.valid || presentedEpoch ≠ authority.epoch then
    some ⟨⟨.staleEpoch, "authority-epoch-mismatch"⟩, "authority-epoch-mismatch"⟩
  else if !hasCapability (authority.capabilitiesOf principal) required then
    some ⟨⟨.authorityDenied, "capability-not-granted"⟩, "capability-not-granted"⟩
  else if applicability.hasFlag .fenced && required ≠ .unfenceQueue && required ≠ .admin then
    some ⟨⟨.fenceViolation, "fenced-queue-refuses-fresh-mutation"⟩,
      "fenced-queue-refuses-fresh-mutation"⟩
  else if (lifecycle = .retired || lifecycle = .failed) && required ≠ .retireQueue &&
      required ≠ .admin then
    let rule := if lifecycle = .retired then "retired-is-terminal"
      else "failed-queue-accepts-only-cleanup"
    some ⟨⟨.lifecycleViolation, rule⟩, rule⟩
  else none

/-! `threshold.hpp`, `threshold.cpp`, `policy.hpp` and `policy.cpp`. -/

structure Thresholds where
  lowWatermarkBytes : UInt64 := 0
  highWatermarkBytes : UInt64 := 0
  maxOccupancyBytes : UInt64 := 0
  maxPackets : UInt64 := 0
  occupancyStaleAfter : Nanos := 0
  deriving DecidableEq, Inhabited

def Thresholds.consistent (thresholds : Thresholds) : Bool :=
  thresholds.lowWatermarkBytes ≤ thresholds.highWatermarkBytes &&
    thresholds.highWatermarkBytes ≤ thresholds.maxOccupancyBytes

inductive ThresholdBand
  | unknown
  | belowLow
  | nominal
  | aboveHigh
  | atLimit
  | exceeded
  deriving DecidableEq

structure ThresholdEvaluation where
  band : ThresholdBand
  admissionAuthorized : Bool
  headroomBytes : UInt64
  code : Code
  rule : String

def saturatingSub (left right : UInt64) : UInt64 := if right > left then 0 else left - right

def evaluateThresholds (thresholds : Thresholds) (observedBytes observedPackets : UInt64)
    (evidenceFresh : Bool) : ThresholdEvaluation :=
  let headroom := saturatingSub thresholds.maxOccupancyBytes observedBytes
  let bytesOver := observedBytes > thresholds.maxOccupancyBytes
  let packetsOver := thresholds.maxPackets ≠ 0 ∧ observedPackets > thresholds.maxPackets
  if !evidenceFresh then
    ⟨.unknown, false, headroom, .staleOccupancy, "stale-evidence-cannot-authorize-admission"⟩
  else if bytesOver ∨ packetsOver then
    ⟨.exceeded, false, headroom, .thresholdExceeded,
      if bytesOver then "observed-bytes-above-configured-maximum"
      else "observed-packets-above-configured-maximum"⟩
  else if observedBytes ≥ thresholds.maxOccupancyBytes then
    ⟨.atLimit, false, headroom, .thresholdExceeded, "occupancy-at-configured-maximum"⟩
  else if observedBytes ≥ thresholds.highWatermarkBytes then
    ⟨.aboveHigh, true, headroom, .ok, "occupancy-above-high-watermark-within-limit"⟩
  else if observedBytes ≤ thresholds.lowWatermarkBytes then
    ⟨.belowLow, true, headroom, .ok, "occupancy-below-low-watermark"⟩
  else ⟨.nominal, true, headroom, .ok, "occupancy-nominal"⟩

structure ClassPolicy where
  cls : ClassId := default
  thresholds : Thresholds := {}
  occupancyStaleAfter : Nanos := 0

structure FabricPolicy where
  defaultThresholds : Thresholds := {}
  occupancyStaleAfter : Nanos := 1000000000
  classes : List ClassPolicy := []
  maxDrainEvidenceRecords : UInt64 := 16
  requireBackendAckForDrain : Bool := true

namespace FabricPolicy

def findClass (policy : FabricPolicy) (cls : ClassId) : Option ClassPolicy :=
  policy.classes.find? fun entry => entry.cls = cls

/-- The thresholds a queue falls back to when one of its own fields is zero. -/
def fallback (policy : FabricPolicy) (cls : ClassId) : Thresholds :=
  match policy.findClass cls with
  | some classPolicy => classPolicy.thresholds
  | none => policy.defaultThresholds

def resolve (policy : FabricPolicy) (queue : Thresholds) (cls : ClassId) : Thresholds where
  lowWatermarkBytes :=
    if queue.lowWatermarkBytes ≠ 0 then queue.lowWatermarkBytes
    else (policy.fallback cls).lowWatermarkBytes
  highWatermarkBytes :=
    if queue.highWatermarkBytes ≠ 0 then queue.highWatermarkBytes
    else (policy.fallback cls).highWatermarkBytes
  maxOccupancyBytes :=
    if queue.maxOccupancyBytes ≠ 0 then queue.maxOccupancyBytes
    else (policy.fallback cls).maxOccupancyBytes
  maxPackets :=
    if queue.maxPackets ≠ 0 then queue.maxPackets else (policy.fallback cls).maxPackets
  occupancyStaleAfter :=
    if queue.occupancyStaleAfter ≠ 0 then queue.occupancyStaleAfter
    else match policy.findClass cls with
      | some classPolicy =>
          if classPolicy.occupancyStaleAfter ≠ 0 then classPolicy.occupancyStaleAfter
          else policy.occupancyStaleAfter
      | none => policy.occupancyStaleAfter

def staleAfterFor (policy : FabricPolicy) (effective : Thresholds) (cls : ClassId) : Nanos :=
  if effective.occupancyStaleAfter ≠ 0 then effective.occupancyStaleAfter
  else match policy.findClass cls with
    | some classPolicy =>
        if classPolicy.occupancyStaleAfter ≠ 0 then classPolicy.occupancyStaleAfter
        else policy.occupancyStaleAfter
    | none => policy.occupancyStaleAfter

end FabricPolicy

/-! `occupancy.hpp` and `occupancy.cpp`. -/

inductive Freshness
  | unknown
  | fresh
  | staleAge
  | staleRestart
  | staleGeneration
  | staleEpoch
  | futureTimestamp
  | staleBackend
  | unlisted (offset : Fin 248)
  deriving DecidableEq

structure OccupancyPolicy where
  maxAge : Nanos := 1000000000
  maxFutureSkew : Nanos := 1000000000
  requireGenerationMatch : Bool := true

structure OccupancySample where
  queue : QueueId := default
  queueGeneration : Generation := default
  bytes : UInt64 := 0
  packets : UInt64 := 0
  epoch : Epoch := default
  sequence : Sequence := default
  observedAt : Nanos := 0
  provenance : Provenance := {}
  deriving DecidableEq, Inhabited

def OccupancySample.structurallyValid (sample : OccupancySample) : Bool :=
  sample.queue.valid && sample.queueGeneration.valid && sample.sequence.valid &&
    sample.epoch.valid && sample.provenance.valid

structure OccupancyState where
  present : Bool := false
  bytes : UInt64 := 0
  packets : UInt64 := 0
  observedAt : Nanos := 0
  sequence : Sequence := default
  epoch : Epoch := default
  provenance : Provenance := {}
  queueGeneration : Generation := default
  freshness : Freshness := .unknown
  age : Nanos := 0
  deriving DecidableEq

def occupancyAge (now observedAt : Nanos) : Nanos :=
  if observedAt ≥ now then 0 else now - observedAt

def isSticky (reason : Freshness) : Bool :=
  reason = .staleRestart || reason = .staleEpoch || reason = .staleBackend

def classifyFreshness (state : OccupancyState) (now : Nanos) (policy : OccupancyPolicy)
    (currentGeneration : Generation) : Freshness :=
  if !state.present then .unknown
  else if isSticky state.freshness then state.freshness
  else if policy.requireGenerationMatch && state.queueGeneration ≠ currentGeneration then
    .staleGeneration
  else if state.observedAt > now &&
      (policy.maxFutureSkew ≤ 0 || state.observedAt - now > policy.maxFutureSkew) then
    .futureTimestamp
  else if policy.maxAge > 0 && occupancyAge now state.observedAt > policy.maxAge then .staleAge
  else .fresh

def invalidateOccupancy (state : OccupancyState) (reason : Freshness) : OccupancyState :=
  if !state.present then { state with freshness := .unknown }
  else { state with freshness := reason }

/-! `class_binding.hpp`. -/

structure QosRef where
  priorityCode : UInt32 := 0
  trafficClass : UInt32 := 0
  group : Text := []
  deriving DecidableEq, Inhabited

structure SchedulingClassDef where
  id : ClassId := default
  resource : ResourceId := default
  name : Text := []
  priority : UInt32 := 0
  qos : QosRef := {}
  generation : Generation := default
  declaredBy : Provenance := {}
  deriving DecidableEq, Inhabited

structure ClassBinding where
  id : ClassId := default
  generation : Generation := default
  deriving DecidableEq, Inhabited

def ClassBinding.valid (binding : ClassBinding) : Bool :=
  binding.id.valid && binding.generation.valid

structure PoolRef where
  id : PoolId := default
  generation : Generation := default
  capacityBytes : UInt64 := 0
  deriving DecidableEq, Inhabited

def PoolRef.valid (pool : PoolRef) : Bool := pool.id.valid && pool.generation.valid

structure BufferPoolDef where
  id : PoolId := default
  resource : ResourceId := default
  name : Text := []
  capacityBytes : UInt64 := 0
  generation : Generation := default
  declaredBy : Provenance := {}
  deriving DecidableEq, Inhabited

/-! `backend.hpp` and `backend.cpp`. -/

structure BackendApplied where
  known : Bool := false
  backend : BackendId := default
  backendIncarnation : Incarnation := default
  epoch : Epoch := default
  sequence : Sequence := default
  appliedAt : Nanos := 0
  appliedClass : ClassBinding := {}
  queueGeneration : Generation := default
  appliedHighWatermarkBytes : UInt64 := 0
  appliedMaxOccupancyBytes : UInt64 := 0
  deriving DecidableEq, Inhabited

structure BackendIncarnation where
  backend : BackendId := default
  resource : ResourceId := default
  incarnation : Incarnation := default
  epoch : Epoch := default
  registeredAt : Nanos := 0
  alive : Bool := true
  deriving DecidableEq, Inhabited

/-- A verified acknowledgement is `none`; otherwise the code and rule that refuse it. -/
def verifyBackendApplied (applied : BackendApplied) (live : BackendIncarnation)
    (currentEpoch : Epoch) (currentQueueGeneration : Generation) (currentClass : ClassBinding) :
    Option (Code × String) :=
  if !applied.known then some (.backendMismatch, "no-backend-acknowledgement")
  else if !live.alive then some (.staleIncarnation, "backend-incarnation-not-live")
  else if applied.backend ≠ live.backend then some (.backendMismatch, "backend-identity-mismatch")
  else if applied.backendIncarnation ≠ live.incarnation then
    some (.staleIncarnation, "backend-incarnation-superseded")
  else if applied.epoch ≠ currentEpoch then
    some (.staleEpoch, "acknowledgement-epoch-superseded")
  else if applied.queueGeneration ≠ currentQueueGeneration then
    some (.staleGeneration, "acknowledgement-bound-to-older-queue-generation")
  else if applied.appliedClass ≠ currentClass then
    some (.staleGeneration, "acknowledgement-bound-to-older-class-binding")
  else none

/-! `drain.hpp` and `drain.cpp`. -/

inductive DrainPhase
  | idle
  | requested
  | evidencePending
  | completed
  | unlisted (offset : Fin 252)
  deriving DecidableEq

structure BackendObservation where
  requestAccepted : Bool := false
  reportedDrained : Bool := false
  backend : BackendId := default
  backendIncarnation : Incarnation := default
  epoch : Epoch := default
  sequence : Sequence := default
  observedAt : Nanos := 0
  deriving DecidableEq, Inhabited

structure DrainEvidence where
  records : UInt32 := 0
  backend : BackendObservation := {}
  occupancyZeroObserved : Bool := false
  zeroObservedAt : Nanos := 0
  zeroSequence : Sequence := default
  revalidated : Bool := true
  deriving DecidableEq, Inhabited

structure DrainState where
  phase : DrainPhase := .idle
  attempt : AttemptId := default
  requestedAt : Nanos := 0
  requestedBy : Provenance := {}
  evidence : DrainEvidence := {}
  deriving DecidableEq

def DrainState.inProgress (drain : DrainState) : Bool :=
  drain.phase = .requested || drain.phase = .evidencePending

structure DrainAssessment where
  completable : Bool
  code : Code
  rule : String

def assessDrain (drain : DrainState) (occupancy : OccupancyState)
    (liveBackend : Option BackendIncarnation) (currentEpoch : Epoch) (policy : OccupancyPolicy)
    (now : Nanos) : DrainAssessment :=
  let backend := drain.evidence.backend
  if drain.phase = .idle then ⟨false, .drainIncomplete, "no-drain-requested"⟩
  else if drain.phase = .completed then ⟨true, .ok, "drain-already-proven-complete"⟩
  else if !drain.evidence.revalidated then
    ⟨false, .staleOccupancy, "drain-evidence-requires-revalidation-after-restart"⟩
  else if drain.evidence.records = 0 then
    ⟨false, .drainIncomplete, "no-drain-evidence-recorded"⟩
  else if !backend.requestAccepted then
    ⟨false, .drainIncomplete, "backend-did-not-accept-drain-request"⟩
  else if !backend.reportedDrained then
    ⟨false, .drainIncomplete, "backend-has-not-reported-drained"⟩
  else if backend.epoch ≠ currentEpoch then
    ⟨false, .staleEpoch, "drain-evidence-epoch-superseded"⟩
  else match liveBackend with
    | none => ⟨false, .staleIncarnation, "drain-evidence-names-unknown-backend"⟩
    | some live =>
        if !live.alive then ⟨false, .staleIncarnation, "drain-evidence-backend-not-live"⟩
        else if backend.backend ≠ live.backend ∨ backend.backendIncarnation ≠ live.incarnation then
          ⟨false, .staleIncarnation, "drain-evidence-backend-incarnation-superseded"⟩
        else if !drain.evidence.occupancyZeroObserved then
          ⟨false, .drainIncomplete, "no-zero-occupancy-observation"⟩
        else if !occupancy.present then
          ⟨false, .staleOccupancy, "occupancy-evidence-absent"⟩
        else if occupancy.freshness ≠ .fresh then
          ⟨false, .staleOccupancy, "occupancy-evidence-not-fresh"⟩
        else if occupancy.bytes ≠ 0 ∨ occupancy.packets ≠ 0 then
          ⟨false, .drainIncomplete, "occupancy-is-not-zero"⟩
        else if occupancy.observedAt < drain.requestedAt then
          ⟨false, .drainIncomplete, "zero-occupancy-observation-precedes-drain-request"⟩
        else if policy.maxAge > 0 && occupancyAge now occupancy.observedAt > policy.maxAge then
          ⟨false, .staleOccupancy, "zero-occupancy-observation-is-stale"⟩
        else ⟨true, .ok, "drain-evidence-complete-and-verifiable"⟩

end QueueFabric
