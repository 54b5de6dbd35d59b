import QueueFabric.JournalCore

/-!
Engine state and the mutation path: `fabric_impl.hpp`, `fabric_kinds.cpp` and
`fabric_apply.cpp`. The stages of `apply_existing_locked` and
`apply_declare_locked` are separate functions, in the order the source runs them.
-/

namespace QueueFabric

structure Fabric (J : Type) where
  config : FabricConfig
  clock : Clock
  journal : Option J
  healthy : Bool := true
  shuttingDown : Bool := false
  replaying : Bool := false
  epoch : Epoch := default
  boot : BootId := default
  coordinatorIncarnation : Incarnation := default
  rng : Rng
  provenance : ProvenanceTracker := ⟨.empty, Limits.maxProvenanceNodes⟩
  recovery : RecoveryReport := {}
  resources : Table ResourceId ResourceRecord := .empty
  queues : Table QueueId QueueRecord := .empty
  queueNames : Table Text QueueId := .empty
  pending : List PendingAttempt := []
  plans : Table AttemptId BackendPlan := .empty
  nextResourceId : UInt64 := 1
  nextQueueId : UInt64 := 1
  nextClassId : UInt64 := 1
  nextPoolId : UInt64 := 1
  nextBackendId : UInt64 := 1
  fenceTokens : UInt64 := 0
  stats : FabricStats := {}
  clockWatermark : Nanos := 0

/-- A public call: its result, the events it hands to the sink and the engine afterwards. -/
structure Reply (J α : Type) where
  result : Except Status α
  events : List Event
  fabric : Fabric J

namespace Fabric

variable {J : Type}

def create (config : FabricConfig) (clock : Clock) (journal : Option J) (seed : UInt64) :
    Fabric J :=
  { config, clock, journal, rng := ⟨seed⟩ }

def findResource (fabric : Fabric J) (id : ResourceId) : Option ResourceRecord :=
  fabric.resources.get? id

def findQueue (fabric : Fabric J) (id : QueueId) : Option QueueRecord := fabric.queues.get? id

def nameKey (resource : ResourceId) (name : Text) : Text := resource.toText ++ 0x2F :: name

def monotonicNow (fabric : Fabric J) : Nanos × Fabric J :=
  let now := fabric.clock.nowNanos.1
  let watermark := if now > fabric.clockWatermark then now else fabric.clockWatermark
  (watermark, { fabric with clock := fabric.clock.nowNanos.2, clockWatermark := watermark })

def occupancyPolicyFor (config : FabricConfig) (queue : QueueRecord) : OccupancyPolicy :=
  let cls := queue.definition.cls.id
  let effective := config.policy.resolve queue.definition.thresholds cls
  let staleAfter := config.policy.staleAfterFor effective cls
  if staleAfter > 0 then { config.occupancy with maxAge := staleAfter } else config.occupancy

def findLiveBackend (fabric : Fabric J) (resource : ResourceId) (backend : BackendId) :
    Option BackendIncarnation :=
  match fabric.findResource resource with
  | none => none
  | some record => if !backend.valid then none else record.findLive backend

/-! Rejections. -/

/-- The queue side of `record_rejection`. -/
def rejectQueue (config : FabricConfig) (queue : QueueRecord) (request : MutationRequest)
    (refusal : Refusal) : QueueRecord :=
  let entry : AttemptMemo := ⟨request.attempt, request.fingerprint, request.kind,
    refusal.status.code, queue.definition.generation, false⟩
  { queue with
    rejectedCount := queue.rejectedCount + 1
    lastAttempt := request.attempt
    lastStatus := refusal.status
    lastRule := refusal.rule }.remember entry config.limits.maxAttemptMemo

def countRejection (fabric : Fabric J) : Fabric J :=
  { fabric with
    stats := { fabric.stats with mutationsRejected := fabric.stats.mutationsRejected + 1 } }

/-- `record_rejection` on a queue stored under `key`, followed by the error return. -/
def reject (fabric : Fabric J) (key : QueueId) (queue : QueueRecord) (request : MutationRequest)
    (refusal : Refusal) (events : List Event) : Reply J MutationOutcome where
  result := .error refusal.status
  events := events
  fabric :=
    let counted := fabric.countRejection
    { counted with
      queues := fabric.queues.insert key (rejectQueue fabric.config queue request refusal) }

/-- `record_rejection` without a queue, followed by the error return. -/
def rejectUnbound (fabric : Fabric J) (refusal : Refusal) : Reply J MutationOutcome where
  result := .error refusal.status
  events := []
  fabric := fabric.countRejection

/-! `apply_kind_locked`. -/

/-- What an accepted kind leaves behind: the target, its rule and the side counters. -/
structure KindApplied where
  target : QueueRecord
  rule : String
  events : List Event
  fenceTokens : UInt64
  stats : FabricStats

/-- A status whose message is the rule itself. -/
def ruled (code : Code) (rule : String) : Refusal := ⟨⟨code, rule⟩, rule⟩

section Kinds

variable (fabric : Fabric J) (target : QueueRecord) (request : MutationRequest) (now : Nanos)

/-- `push_event` over the target as it stands. -/
def kindEvent (kind : EventKind) (code : Code) (detail : Text) : Event where
  kind := kind
  time := now
  queue := target.definition.id
  resource := target.definition.resource
  mutation := request.kind
  attempt := request.attempt
  code := code
  generation := target.definition.generation
  lifecycle := target.lifecycle
  detail := detail

/-- Acceptance that leaves the side counters alone. -/
def accept (updated : QueueRecord) (rule : String) (events : List Event) :
    Except Refusal KindApplied :=
  .ok ⟨updated, rule, events, fabric.fenceTokens, fabric.stats⟩

def unchanged (rule : String) : Except Refusal KindApplied := accept fabric target rule []

def requireTransition (goal : Lifecycle) : Except Refusal String :=
  let decision := checkTransition target.lifecycle goal
  if !decision.allowed then .error (ruled decision.code decision.rule) else .ok decision.rule

def checkClassBinding (binding : ClassBinding) : Except Refusal Unit :=
  let rule := "class-binding-not-exact-generation"
  match fabric.findResource target.definition.resource with
  | none => .error ⟨⟨.internal, "queue references an unknown resource"⟩, rule⟩
  | some resource =>
      match resource.findClass binding.id with
      | none => .error ⟨⟨.notFound, "scheduling class is not declared"⟩, rule⟩
      | some cls =>
          if cls.generation ≠ binding.generation then
            .error ⟨⟨.staleGeneration, "class generation is not the current class generation"⟩,
              rule⟩
          else .ok ()

def nextGeneration : Except Refusal Generation :=
  match target.definition.generation.next with
  | .ok generation => .ok generation
  | .error status => .error ⟨status, "generation-exhausted"⟩

/-- `invalidate_for_definition`, applied once the new definition is in place. -/
def redefine (definition : QueueDefinition) : QueueRecord :=
  { target with
    definition := definition
    applicability := target.applicability.union .stale
    occupancy := invalidateOccupancy target.occupancy .staleGeneration
    applied := { target.applied with known := false } }

def acceptRedefined (definition : QueueDefinition) (rule detail : String) :
    Except Refusal KindApplied :=
  let updated := redefine target definition
  accept fabric updated rule
    [kindEvent updated request now .occupancyRejected .staleGeneration (text detail)]

def applyValidate : Except Refusal KindApplied :=
  if target.lifecycle = .validated then unchanged fabric target "no-op-idempotent"
  else do
    let rule ← requireTransition target .validated
    checkClassBinding fabric target target.definition.cls
    let updated := { target with lifecycle := .validated }
    accept fabric updated rule
      [kindEvent updated request now .lifecycleChanged .ok (text "queue validated")]

def applyActivate : Except Refusal KindApplied :=
  if target.lifecycle = .active then unchanged fabric target "no-op-idempotent"
  else do
    let rule ← requireTransition target .active
    checkClassBinding fabric target target.definition.cls
    if !target.definition.thresholds.consistent then
      .error (ruled .invalidArgument "threshold-ladder-inconsistent")
    else
      let updated := { target with lifecycle := .active }
      accept fabric updated rule
        [kindEvent updated request now .lifecycleChanged .ok (text "queue activated")]

def applyRebind (cls : ClassBinding) : Except Refusal KindApplied := do
  checkClassBinding fabric target cls
  if target.definition.cls = cls then unchanged fabric target "binding-unchanged"
  else
    let generation ← nextGeneration target
    acceptRedefined fabric target request now { target.definition with cls, generation }
      "class-rebound-generation-advanced" "class rebinding advanced the queue generation"

def applySetThresholds (thresholds : Thresholds) : Except Refusal KindApplied :=
  if !thresholds.consistent then .error (ruled .invalidArgument "threshold-ladder-inconsistent")
  else if thresholds = target.definition.thresholds then
    unchanged fabric target "thresholds-unchanged"
  else do
    let generation ← nextGeneration target
    acceptRedefined fabric target request now { target.definition with thresholds, generation }
      "thresholds-updated-generation-advanced" "threshold update advanced the queue generation"

def applyTransfer (owner : OwnerId) : Except Refusal KindApplied :=
  if owner = target.definition.owner then unchanged fabric target "owner-unchanged"
  else do
    let generation ← nextGeneration target
    acceptRedefined fabric target request now { target.definition with owner, generation }
      "ownership-transferred-generation-advanced"
      "ownership transfer advanced the queue generation"

/-- The stored observation an accepted sample leaves behind. -/
def observed (sample : OccupancySample) : OccupancyState where
  present := true
  bytes := sample.bytes
  packets := sample.packets
  observedAt := sample.observedAt
  sequence := sample.sequence
  epoch := sample.epoch
  provenance := sample.provenance
  queueGeneration := sample.queueGeneration
  freshness := .fresh
  age := occupancyAge now sample.observedAt

/-- Zero observations are noted in the evidence of a drain that is in progress. -/
def noteZero (drain : DrainState) (sample : OccupancySample) : DrainState :=
  if !drain.inProgress then drain
  else if sample.bytes = 0 ∧ sample.packets = 0 then
    let zeroed := { drain.evidence with occupancyZeroObserved := true }
    let zeroed := { zeroed with zeroObservedAt := sample.observedAt }
    { drain with evidence := { zeroed with zeroSequence := sample.sequence } }
  else if drain.evidence.occupancyZeroObserved then
    { drain with evidence := { drain.evidence with occupancyZeroObserved := false } }
  else drain

def samePublisherLife (occupancy : OccupancyState) (sample : OccupancySample) : Bool :=
  occupancy.present && occupancy.provenance.publisher = sample.provenance.publisher &&
    occupancy.provenance.incarnation = sample.provenance.incarnation &&
    occupancy.provenance.boot = sample.provenance.boot

def ingestTarget (sample : OccupancySample) : QueueRecord :=
  { target with
    occupancy := observed now sample
    applicability := target.applicability.clearFlag .stale
    drain := noteZero target.drain sample }

def applyIngest (sample : OccupancySample) : Except Refusal KindApplied :=
  let policy := occupancyPolicyFor fabric.config target
  if sample.queue ≠ target.definition.id then
    .error (ruled .invalidArgument "occupancy-queue-mismatch")
  else if sample.queueGeneration ≠ target.definition.generation then
    .error (ruled .staleGeneration "occupancy-bound-to-other-generation")
  else if request.expectedEpoch ≠ fabric.epoch ∨ sample.epoch ≠ fabric.epoch then
    .error (ruled .staleEpoch "occupancy-from-superseded-epoch")
  else if sample.observedAt > now ∧ policy.maxFutureSkew > 0 ∧
      sample.observedAt - now > policy.maxFutureSkew then
    .error (ruled .staleOccupancy "observation-time-ahead-of-clock")
  else if samePublisherLife target.occupancy sample ∧
      sample.sequence.value ≤ target.occupancy.sequence.value then
    .error (ruled .staleOccupancy "occupancy-regression-for-publisher")
  else
    let effective := fabric.config.policy.resolve target.definition.thresholds
      target.definition.cls.id
    let bytesOver := effective.maxOccupancyBytes ≠ 0 ∧ sample.bytes > effective.maxOccupancyBytes
    let packetsOver := effective.maxPackets ≠ 0 ∧ sample.packets > effective.maxPackets
    let updated := ingestTarget target now sample
    let stats := { fabric.stats with occupancyAccepted := fabric.stats.occupancyAccepted + 1 }
    if bytesOver ∨ packetsOver then
      let rule := if bytesOver then "observed-occupancy-above-configured-maximum"
        else "observed-packets-above-configured-maximum"
      let updated := { updated with overflowEvents := updated.overflowEvents + 1 }
      .ok ⟨updated, rule,
        [kindEvent updated request now .occupancyOverflow .occupancyOverflow (text rule)],
        fabric.fenceTokens, { stats with occupancyOverflow := stats.occupancyOverflow + 1 }⟩
    else
      .ok ⟨updated, "occupancy-observed",
        [kindEvent updated request now .occupancyIngested .ok (text "occupancy observed")],
        fabric.fenceTokens, stats⟩

def applyRequestDrain : Except Refusal KindApplied :=
  if target.lifecycle = .draining then unchanged fabric target "drain-already-requested"
  else do
    let _ ← requireTransition target .draining
    let drain : DrainState := { phase := .requested, attempt := request.attempt,
                                requestedAt := now, requestedBy := request.provenance }
    let updated := { target with lifecycle := .draining, drain := drain }
    accept fabric updated "drain-requested-not-drained"
      [kindEvent updated request now .drainProgress .drainIncomplete (text "drain requested")]

def applyCancelDrain : Except Refusal KindApplied :=
  if target.lifecycle ≠ .draining then .error (ruled .drainIncomplete "no-drain-in-progress")
  else do
    let _ ← requireTransition target .active
    let updated := { target with lifecycle := .active, drain := {} }
    let rule := "drain-cancelled-by-revalidation"
    accept fabric updated rule
      [kindEvent updated request now .drainProgress .cancelled (text rule)]

/-- Evidence that names a backend needs that backend's live incarnation. -/
def checkEvidenceBackend (backend : BackendObservation) : Except Refusal Unit :=
  if backend.backend.valid then
    match fabric.findLiveBackend target.definition.resource backend.backend with
    | none => .error (ruled .staleIncarnation "drain-evidence-backend-not-live")
    | some live =>
        if live.incarnation ≠ backend.backendIncarnation then
          .error (ruled .staleIncarnation "drain-evidence-incarnation-superseded")
        else .ok ()
  else .ok ()

def recordEvidence (evidence : DrainEvidence) : QueueRecord :=
  let drain := { target.drain with phase := .evidencePending }
  { target with drain := { drain with evidence := { evidence with revalidated := true } } }

def applyEvidence (evidence : DrainEvidence) : Except Refusal KindApplied :=
  if !target.drain.inProgress then .error (ruled .drainIncomplete "no-drain-in-progress")
  else if evidence.records = 0 then .error (ruled .invalidArgument "drain-evidence-empty")
  else if evidence.records.toNat > fabric.config.policy.maxDrainEvidenceRecords.toNat then
    .error (ruled .outOfRange "drain-evidence-count-out-of-range")
  else do
    checkEvidenceBackend fabric target evidence.backend
    if evidence.backend.epoch.valid && evidence.backend.epoch ≠ fabric.epoch then
      .error (ruled .staleEpoch "drain-evidence-epoch-superseded")
    else
      let updated := recordEvidence target evidence
      let rule := "drain-evidence-recorded"
      accept fabric updated rule
        [kindEvent updated request now .drainProgress .drainIncomplete (text rule)]

/-- The backend acknowledgement a quiesce needs when the policy asks for one. -/
def checkQuiesceAck (live : Option BackendIncarnation) : Except Refusal Unit :=
  if fabric.config.policy.requireBackendAckForDrain then
    match live with
    | none =>
        .error (ruled .staleIncarnation "backend-acknowledgement-required-before-quiesce")
    | some live =>
        match verifyBackendApplied target.applied live fabric.epoch target.definition.generation
          target.definition.cls with
        | some _ => .error (ruled .backendMismatch "backend-applied-state-not-verifiable")
        | none => .ok ()
  else .ok ()

def applyQuiesce : Except Refusal KindApplied :=
  if target.lifecycle = .quiesced then unchanged fabric target "no-op-idempotent"
  else do
    let _ ← requireTransition target .quiesced
    let live := fabric.findLiveBackend target.definition.resource
      target.drain.evidence.backend.backend
    let assessment := assessDrain target.drain target.occupancy live fabric.epoch
      (occupancyPolicyFor fabric.config target) now
    if !assessment.completable then .error (ruled assessment.code assessment.rule)
    else
      checkQuiesceAck fabric target live
      let drain := { target.drain with phase := .completed }
      let updated := { target with lifecycle := .quiesced, drain := drain }
      accept fabric updated "drain-evidence-complete"
        [kindEvent updated request now .lifecycleChanged .ok
          (text "queue quiesced with drain evidence")]

def bounded (value : Text) (limit : Nat) : Text := value.take limit

def applyFence (payload : FencePayload) : Except Refusal KindApplied :=
  if target.fence.fenced then unchanged fabric target "already-fenced"
  else
    let token := fabric.fenceTokens + 1
    let reason := bounded payload.reason Limits.maxReasonChars
    let updated := { target with
      fence := ⟨true, token, fabric.epoch, request.principal, reason, now⟩
      applicability := target.applicability.union .fenced }
    .ok ⟨updated, "queue-fenced",
      [kindEvent updated request now .fenceChanged .ok reason], token, fabric.stats⟩

def applyUnfence : Except Refusal KindApplied :=
  if !target.fence.fenced then unchanged fabric target "already-unfenced"
  else
    let fence := { target.fence with fenced := false, reason := [] }
    let updated := { target with
      fence := fence
      applicability := target.applicability.clearFlag .fenced }
    accept fabric updated "queue-unfenced"
      [kindEvent updated request now .fenceChanged .ok (text "queue-unfenced")]

def applyFail (payload : FencePayload) : Except Refusal KindApplied :=
  if target.lifecycle = .failed then unchanged fabric target "already-failed"
  else do
    let _ ← requireTransition target .failed
    let reason := bounded payload.reason Limits.maxReasonChars
    let updated := { target with lifecycle := .failed, failureReason := reason }
    accept fabric updated "queue-failed"
      [kindEvent updated request now .lifecycleChanged .ok reason]

def applyRetire : Except Refusal KindApplied :=
  if target.lifecycle = .retired then unchanged fabric target "already-retired"
  else if target.lifecycle = .active then
    .error (ruled .lifecycleViolation "active-must-drain-before-retire")
  else do
    let _ ← requireTransition target .retired
    let updated := { target with
      lifecycle := .retired
      occupancy := {}
      drain := {}
      applicability := .none }
    accept fabric updated "queue-retired"
      [kindEvent updated request now .queueRetired .ok (text "queue-retired")]

def applyAcknowledge (applied : BackendApplied) : Except Refusal KindApplied :=
  if !applied.known || !applied.backend.valid then
    .error (ruled .invalidArgument "acknowledgement-without-backend-identity")
  else match fabric.findLiveBackend target.definition.resource applied.backend with
    | none => .error (ruled .staleIncarnation "backend-incarnation-not-live")
    | some live =>
        match verifyBackendApplied applied live fabric.epoch target.definition.generation
          target.definition.cls with
        | some (code, rule) => .error (ruled code rule)
        | none =>
            let updated := { target with
              applied := applied
              applicability := target.applicability.clearFlag .stale }
            let rule := "backend-acknowledgement-verified"
            accept fabric updated rule
              [kindEvent updated request now .mutationApplied .ok (text rule)]

/-- A payload that does not carry the kind's alternative is `std::get` throwing; validated
requests never reach it. -/
def applyKindLocked : Except Refusal KindApplied :=
  match request.kind, request.payload with
  | .validateQueue, _ => applyValidate fabric target request now
  | .activateQueue, _ => applyActivate fabric target request now
  | .rebindClass, .rebindClass cls => applyRebind fabric target request now cls
  | .setThresholds, .thresholds thresholds =>
      applySetThresholds fabric target request now thresholds
  | .transferOwnership, .ownership owner => applyTransfer fabric target request now owner
  | .ingestOccupancy, .occupancy sample => applyIngest fabric target request now sample
  | .requestDrain, _ => applyRequestDrain fabric target request now
  | .cancelDrain, _ => applyCancelDrain fabric target request now
  | .submitDrainEvidence, .drainEvidence evidence =>
      applyEvidence fabric target request now evidence
  | .quiesceQueue, _ => applyQuiesce fabric target request now
  | .fenceQueue, .fence payload => applyFence fabric target request now payload
  | .unfenceQueue, _ => applyUnfence fabric target request now
  | .failQueue, .fence payload => applyFail fabric target request now payload
  | .retireQueue, _ => applyRetire fabric target request now
  | .acknowledgeBackend, .backendAck applied =>
      applyAcknowledge fabric target request now applied
  | .noOp, _ => unchanged fabric target "no-op"
  | _, _ => .error (ruled .unsupported "mutation-kind-not-applicable")

end Kinds

/-! Journal commits. -/

variable [IJournal J]

/-- The begin and commit records of one mutation, then a sync. -/
def commitRecords (journal : J) (encoded : Bytes) : Status × J :=
  let (begun, journal) := IJournal.append journal .beginAttempt encoded
  if !begun.isOk then (begun, journal)
  else
    let (committed, journal) := IJournal.append journal .commitMutation encoded
    if !committed.isOk then (committed, journal)
    else
      let (synced, journal) := IJournal.sync journal
      if !synced.isOk then
        (⟨.notDurable, "durable commit did not reach stable storage"⟩, journal)
      else (.success, journal)

def countJournal (stats : FabricStats) (records : UInt64) : FabricStats :=
  { stats with
    journalRecords := stats.journalRecords + records
    journalSyncs := stats.journalSyncs + 1 }

def journalCommitLocked (fabric : Fabric J) (journal : J) (request : MutationRequest) :
    Status × Fabric J :=
  let encoded := encodeMutation request
  if encoded.isEmpty then (⟨.internal, "mutation could not be encoded"⟩, fabric)
  else
    let written := commitRecords journal encoded
    (written.1, { fabric with
      journal := some written.2
      stats := if written.1.isOk then countJournal fabric.stats 2 else fabric.stats })

/-- The durability step shared by both apply paths: `none` is a committed request. -/
def commitDurably (fabric : Fabric J) (request : MutationRequest) : Option Refusal × Fabric J :=
  match fabric.journal with
  | some journal =>
      let written := fabric.journalCommitLocked journal request
      (if !written.1.isOk then some ⟨written.1, "journal-commit-failed"⟩ else none, written.2)
  | none =>
      if fabric.config.durable then
        (some ⟨⟨.notDurable, "durable fabric requires a journal"⟩, "journal-required"⟩, fabric)
      else (none, fabric)

/-! `apply_existing_locked`. -/

section Existing

variable (fabric : Fabric J) (key : QueueId) (queue : QueueRecord) (request : MutationRequest)
  (now : Nanos)

/-- Stage 1: an attempt already recorded returns its original outcome. -/
def answerFromMemo (memo : AttemptMemo) : Reply J MutationOutcome :=
  if memo.fingerprint ≠ request.fingerprint then
    fabric.reject key queue request
      ⟨⟨.conflict, "attempt identity reused with different content"⟩,
        "attempt-identity-conflict"⟩ []
  else
    let stats := { fabric.stats with mutationsReplayed := fabric.stats.mutationsReplayed + 1 }
    let counted := { queue with replayedCount := queue.replayedCount + 1 }
    if memo.outcome ≠ .ok then
      let status : Status := ⟨memo.outcome, "idempotent replay of a rejected attempt"⟩
      let noted := { counted with
        lastAttempt := request.attempt
        lastStatus := status
        lastRule := "idempotent-replay-of-rejection" }
      ⟨.error status, [], { fabric with stats, queues := fabric.queues.insert key noted }⟩
    else
      let rule := "idempotent-replay"
      let outcome : MutationOutcome := {
        queue := queue.definition.id
        generation := queue.definition.generation
        attempt := request.attempt
        definitionGeneration := queue.definition.generation
        lifecycle := queue.lifecycle
        applicability := queue.applicability
        replayed := true
        durable := memo.durable
        rule }
      ⟨.ok outcome, [kindEvent queue request now .mutationReplayed .replayDetected (text rule)],
        { fabric with stats, queues := fabric.queues.insert key counted }⟩

/-- The refusal for a provenance class that is not accepted. -/
def provenanceRefusal : ProvenanceClass → Refusal
  | .duplicate => ruled .replayDetected "duplicate-sequence-without-memo"
  | .staleIncarnation => ruled .staleIncarnation "publisher-incarnation-superseded"
  | .staleBoot => ruled .staleBoot "publisher-boot-mismatch"
  | .staleEpoch => ruled .staleEpoch "publisher-epoch-behind"
  | .capacityExceeded => ruled .capacityExceeded "publisher-table-full"
  | .invalid => ruled .malformedInput "provenance-incomplete"
  | .accepted => ruled .staleIncarnation "provenance-rejected"

/-- Stage 3: the tracker after the provenance gate, or why the gate refused. -/
def admitProvenance (provenance : Provenance) : Except Refusal ProvenanceTracker :=
  if fabric.replaying then .ok fabric.provenance
  else match fabric.provenance.classify provenance with
    | .accepted =>
        let observed := fabric.provenance.observe provenance
        if !observed.1.isOk then .error ⟨observed.1, "provenance-rejected"⟩ else .ok observed.2
    | other => .error (provenanceRefusal other)

/-- Stage 4: exact generation and epoch. -/
def checkExpected : Option Refusal :=
  if !request.expectedGeneration.valid then
    some ⟨⟨.invalidArgument, "expected queue generation is required"⟩,
      "expected-generation-missing"⟩
  else if request.expectedGeneration ≠ queue.definition.generation then
    some ⟨⟨.staleGeneration, "expected generation is not the current queue generation"⟩,
      "expected-generation-mismatch"⟩
  else if !fabric.replaying && request.expectedEpoch ≠ fabric.epoch then
    some ⟨⟨.staleEpoch, "expected epoch is not the current coordinator epoch"⟩,
      "expected-epoch-mismatch"⟩
  else none

/-- The record published for an accepted mutation. -/
def publishQueue (applied : KindApplied) (durable : Bool) : QueueRecord :=
  let target := applied.target
  let entry : AttemptMemo := ⟨request.attempt, request.fingerprint, request.kind, .ok,
    target.definition.generation, durable⟩
  let published := { target with
    mutationCount := target.mutationCount + 1
    lastAttempt := request.attempt
    lastStatus := .success
    lastRule := applied.rule }.remember entry fabric.config.limits.maxAttemptMemo
  if queue.definition.generation ≠ target.definition.generation then
    { published with stalenessEvents := published.stalenessEvents + 1 }
  else published

def publishStats (stats : FabricStats) (target : QueueRecord) : FabricStats :=
  let stats := { stats with mutationsApplied := stats.mutationsApplied + 1 }
  let stats := if queue.lifecycle ≠ target.lifecycle then
    { stats with lifecycleTransitions := stats.lifecycleTransitions + 1 } else stats
  if queue.definition.generation ≠ target.definition.generation then
    { stats with stalenessEvents := stats.stalenessEvents + 1 } else stats

def publish (applied : KindApplied) : Reply J MutationOutcome :=
  let durable := isDurable request.kind && fabric.journal.isSome
  let target := applied.target
  let outcome : MutationOutcome := {
    queue := target.definition.id
    generation := target.definition.generation
    attempt := request.attempt
    definitionGeneration := target.definition.generation
    lifecycle := target.lifecycle
    applicability := target.applicability
    replayed := false
    durable
    rule := applied.rule }
  let announced := if fabric.replaying then [] else
    [kindEvent target request now .mutationApplied .ok (text applied.rule)]
  ⟨.ok outcome, applied.events ++ announced,
    { fabric with
      queues := fabric.queues.insert key (publishQueue fabric queue request applied durable)
      stats := publishStats queue fabric.stats target }⟩

/-- Stage 5: kind-specific work, the durable commit, then publication. -/
def applyAdmitted : Reply J MutationOutcome :=
  match applyKindLocked fabric queue request now with
  | .error refusal => fabric.reject key queue request refusal []
  | .ok applied =>
      let fabric := { fabric with
        fenceTokens := applied.fenceTokens
        stats := applied.stats }
      if isDurable request.kind then
        match fabric.commitDurably request with
        | (some refusal, fabric) => fabric.reject key queue request refusal applied.events
        | (none, fabric) => publish fabric key queue request now applied
      else publish fabric key queue request now applied

/-- Stage 2 to 5. -/
def applyFresh : Reply J MutationOutcome :=
  match fabric.findResource queue.definition.resource with
  | none =>
      fabric.reject key queue request
        ⟨⟨.internal, "queue references an unknown resource"⟩, "resource-index-corrupt"⟩ []
  | some resource =>
      let presented := if fabric.replaying then resource.authority.epoch
        else request.expectedEpoch
      match authorize resource.authority request.principal (requiredCapability request.kind)
        presented queue.applicability queue.lifecycle with
      | some refusal => fabric.reject key queue request refusal []
      | none =>
          match fabric.admitProvenance request.provenance with
          | .error refusal => fabric.reject key queue request refusal []
          | .ok provenance =>
              let fabric := { fabric with provenance }
              match fabric.checkExpected queue request with
              | some refusal => fabric.reject key queue request refusal []
              | none => fabric.applyAdmitted key queue request now

def applyExistingLocked : Reply J MutationOutcome :=
  match queue.findAttempt request.attempt with
  | some memo => fabric.answerFromMemo key queue request now memo
  | none => fabric.applyFresh key queue request now

end Existing

/-! `apply_declare_locked`. -/

section Declare

variable (fabric : Fabric J) (request : MutationRequest) (payload : DeclareQueuePayload)
  (now : Nanos)

def declareEvent (kind : EventKind) (code : Code) (queue : QueueId) (generation : Generation)
    (detail : String) : Event where
  kind := kind
  time := now
  queue := queue
  resource := payload.resource
  mutation := request.kind
  attempt := request.attempt
  code := code
  generation := generation
  detail := text detail

/-- The answer for a name that is already declared. -/
def answerDeclared (id : QueueId) : Reply J MutationOutcome :=
  let taken : Refusal := ⟨⟨.alreadyExists, "queue name is already declared in this resource"⟩,
    "queue-name-already-declared"⟩
  match fabric.findQueue id with
  | none => fabric.rejectUnbound taken
  | some existing =>
      if existing.definition.declaredBy.publisher = request.provenance.publisher ∧
          existing.definition.declaredBy.sequence = request.provenance.sequence then
        let rule := "duplicate-declaration-identity"
        let outcome : MutationOutcome := {
          queue := existing.definition.id
          generation := existing.definition.generation
          attempt := request.attempt
          definitionGeneration := existing.definition.generation
          lifecycle := existing.lifecycle
          applicability := existing.applicability
          replayed := true
          durable := fabric.journal.isSome
          rule }
        let stats := { fabric.stats with
          mutationsReplayed := fabric.stats.mutationsReplayed + 1 }
        ⟨.ok outcome, [declareEvent request payload now .mutationReplayed .replayDetected
          existing.definition.id default rule], { fabric with stats }⟩
      else fabric.rejectUnbound taken

/-- The number of queues a resource holds. -/
def resourceQueues (queues : Table QueueId QueueRecord) (resource : ResourceId) : Nat :=
  queues.values.countP fun queue => queue.definition.resource = resource

/-- Capacity, class, pool and threshold checks, in order. -/
def checkDeclaration (resource : ResourceRecord) : Option Refusal :=
  if resourceQueues fabric.queues payload.resource ≥
      fabric.config.limits.maxQueuesPerResource.toNat then
    some ⟨⟨.capacityExceeded, "queue capacity for this resource is exhausted"⟩,
      "resource-queue-capacity-exhausted"⟩
  else if fabric.queues.size ≥ fabric.config.limits.maxQueuesTotal.toNat then
    some ⟨⟨.capacityExceeded, "fabric queue capacity is exhausted"⟩,
      "fabric-queue-capacity-exhausted"⟩
  else match resource.findClass payload.cls.id with
    | none => some ⟨⟨.notFound, "scheduling class is not declared"⟩, "class-not-declared"⟩
    | some cls =>
        if cls.generation ≠ payload.cls.generation then
          some ⟨⟨.staleGeneration, "class binding does not name the current class generation"⟩,
            "class-generation-mismatch"⟩
        else match resource.findPool payload.pool.id with
          | none => some ⟨⟨.notFound, "buffer pool is not declared"⟩, "pool-not-declared"⟩
          | some pool =>
              if pool.generation ≠ payload.pool.generation then
                some ⟨⟨.staleGeneration,
                  "pool reference does not name the current pool generation"⟩,
                  "pool-generation-mismatch"⟩
              else if !payload.thresholds.consistent then
                some ⟨⟨.invalidArgument, "threshold ladder is inconsistent"⟩,
                  "threshold-ladder-inconsistent"⟩
              else none

/-- The provenance check that precedes the journal write of a declaration. -/
def checkDeclareProvenance : Option Refusal :=
  if fabric.replaying then none
  else match fabric.provenance.classify request.provenance with
    | .accepted => none
    | .duplicate => some ⟨⟨.replayDetected, ProvenanceClass.duplicate.name⟩, "provenance-rejected"⟩
    | other => some ⟨⟨.staleIncarnation, other.name⟩, "provenance-rejected"⟩

def declaredRecord (durable : Bool) : QueueRecord :=
  let definition : QueueDefinition := {
    id := ⟨fabric.nextQueueId⟩
    resource := payload.resource
    name := payload.name
    depth := payload.depth
    cls := payload.cls
    pool := payload.pool
    thresholds := payload.thresholds
    owner := request.principal
    generation := ⟨1⟩
    declaredBy := request.provenance
    declaredAt := now }
  let entry : AttemptMemo := ⟨request.attempt, request.fingerprint, request.kind, .ok, ⟨1⟩,
    durable⟩
  let record : QueueRecord := {
    definition
    mutationCount := 1
    lastAttempt := request.attempt
    lastRule := "declared" }
  record.remember entry fabric.config.limits.maxAttemptMemo

/-- Publication of a committed declaration. -/
def publishDeclared (resource : ResourceRecord) : Reply J MutationOutcome :=
  let durable := fabric.journal.isSome
  let id : QueueId := ⟨fabric.nextQueueId⟩
  let outcome : MutationOutcome := {
    queue := id
    generation := ⟨1⟩
    attempt := request.attempt
    definitionGeneration := ⟨1⟩
    lifecycle := .declared
    applicability := .none
    replayed := false
    durable
    rule := "declared" }
  let counted := { resource with queueCount := resource.queueCount + 1 }
  ⟨.ok outcome,
    [declareEvent request payload now .queueDeclared .ok id ⟨1⟩ "queue declared"],
    { fabric with
      nextQueueId := fabric.nextQueueId + 1
      resources := fabric.resources.insert payload.resource counted
      queueNames := fabric.queueNames.emplace (nameKey payload.resource payload.name) id
      queues := fabric.queues.emplace id (declaredRecord fabric request payload now durable)
      stats := { fabric.stats with mutationsApplied := fabric.stats.mutationsApplied + 1 } }⟩

/-- The provenance gate of a declaration, passed only after the journal write. -/
def admitDeclared (resource : ResourceRecord) : Reply J MutationOutcome :=
  if fabric.replaying then fabric.publishDeclared request payload now resource
  else
    let observed := fabric.provenance.observe request.provenance
    let fabric := { fabric with provenance := observed.2 }
    if !observed.1.isOk then fabric.rejectUnbound ⟨observed.1, "provenance-rejected"⟩
    else fabric.publishDeclared request payload now resource

/-- A declaration whose name is free. -/
def declareFresh (resource : ResourceRecord) : Reply J MutationOutcome :=
  match fabric.checkDeclaration payload resource with
  | some refusal => fabric.rejectUnbound refusal
  | none =>
      match fabric.checkDeclareProvenance request with
      | some refusal => fabric.rejectUnbound refusal
      | none =>
          match fabric.commitDurably request with
          | (some refusal, fabric) => fabric.rejectUnbound refusal
          | (none, fabric) => fabric.admitDeclared request payload now resource

def applyDeclareLocked : Reply J MutationOutcome :=
  match fabric.findResource payload.resource with
  | none =>
      fabric.rejectUnbound ⟨⟨.notFound, "resource is not declared"⟩, "resource-not-found"⟩
  | some resource =>
      let presented := if fabric.replaying then resource.authority.epoch
        else request.expectedEpoch
      match authorize resource.authority request.principal .declareQueue presented
        resource.applicability .active with
      | some refusal => fabric.rejectUnbound refusal
      | none =>
          match fabric.queueNames.get? (nameKey payload.resource payload.name) with
          | some id => fabric.answerDeclared request payload now id
          | none => fabric.declareFresh request payload now resource

end Declare

/-- `apply_locked` after the clock reading. -/
def applyAt (fabric : Fabric J) (request : MutationRequest) (now : Nanos) :
    Reply J MutationOutcome :=
  if fabric.shuttingDown then ⟨.error ⟨.shuttingDown, "fabric is shutting down"⟩, [], fabric⟩
  else
    let structural := request.validate
    if !structural.isOk then
      fabric.rejectUnbound ⟨structural, "structural-validation-failed"⟩
    else match request.kind, request.payload with
      | .declareQueue, .declareQueue payload => fabric.applyDeclareLocked request payload now
      | _, _ =>
          match fabric.findQueue request.queue with
          | none =>
              fabric.rejectUnbound ⟨⟨.notFound, "queue is not declared"⟩, "queue-not-found"⟩
          | some queue => fabric.applyExistingLocked request.queue queue request now

def applyLocked (fabric : Fabric J) (request : MutationRequest) : Reply J MutationOutcome :=
  fabric.monotonicNow.2.applyAt request fabric.monotonicNow.1

/-- `emit_events`: the counter side of handing events to the sink. -/
def emitted (fabric : Fabric J) (events : List Event) : Fabric J :=
  { fabric with
    stats := { fabric.stats with
      eventsEmitted := fabric.stats.eventsEmitted + UInt64.ofNat events.length } }

end Fabric

def Reply.emit {J α : Type} (reply : Reply J α) : Reply J α :=
  { reply with fabric := reply.fabric.emitted reply.events }

namespace Fabric

variable {J : Type} [IJournal J]

def apply (fabric : Fabric J) (request : MutationRequest) : Reply J MutationOutcome :=
  (fabric.applyLocked request).emit

end Fabric

end QueueFabric
