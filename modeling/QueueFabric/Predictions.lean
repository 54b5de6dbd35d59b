import QueueFabric.Conflicts
import QueueFabric.Observations
import QueueFabric.Quiescence

/-!
What `explain` says of a drain and what `quiesce_queue` does with it. Both assess
the drain and verify the backend, but the handler takes the verdict stored with
the observation and the backend named in the evidence, where the explanation
classifies the observation anew and asks for the backend that acknowledged.
-/

namespace QueueFabric

theorem not_completable_of_unfresh {drain : DrainState} {occupancy : OccupancyState}
    (live : Option BackendIncarnation) (epoch : Epoch) (policy : OccupancyPolicy) (now : Nanos)
    (unproven : drain.phase ≠ .completed) (unfresh : occupancy.freshness ≠ .fresh) :
    (assessDrain drain occupancy live epoch policy now).completable = false := by
  fun_cases assessDrain drain occupancy live epoch policy now
  all_goals first
    | rfl
    | exact absurd ‹drain.phase = .completed› unproven
    | exact absurd unfresh ‹_›

/-- A drain is complete on an observation whose verdict is fresh, or was completed before. -/
theorem assessDrain_completable (drain : DrainState) (occupancy : OccupancyState)
    (live : Option BackendIncarnation) (epoch : Epoch) (policy : OccupancyPolicy) (now : Nanos) :
    (assessDrain drain occupancy live epoch policy now).completable = true ↔
      (assessDrain drain { occupancy with freshness := .fresh, age := 0 } live epoch policy
        now).completable = true ∧ (drain.phase = .completed ∨ occupancy.freshness = .fresh) := by
  by_cases completed : drain.phase = .completed
  · simp [assessDrain, completed]
  by_cases fresh : occupancy.freshness = .fresh
  · simp only [assessDrain, fresh, or_true, and_true]
  · rw [not_completable_of_unfresh live epoch policy now completed fresh]
    simp [completed, fresh]

namespace Fabric

variable {J : Type}

theorem findLiveBackend_some {fabric : Fabric J} {resource : ResourceId} {backend : BackendId}
    {live : BackendIncarnation} (found : fabric.findLiveBackend resource backend = some live) :
    backend.valid = true ∧ live.backend = backend := by
  rw [findLiveBackend] at found
  split at found
  · cases found
  split at found
  · cases found
  rename_i record _ valid
  have listed := List.find?_some found
  simp only [Bool.and_eq_true, decide_eq_true_eq] at listed
  exact ⟨by simpa using valid, listed.1⟩

/-- The acknowledgement of the queue verifies against the live registration of its own backend. -/
def AckVerifies (fabric : Fabric J) (queue : QueueRecord) : Prop :=
  ∃ live, fabric.findLiveBackend queue.definition.resource queue.applied.backend = some live ∧
    verifyBackendApplied queue.applied live fabric.epoch queue.definition.generation
      queue.definition.cls = none

/-- A backend that is asked for acknowledged nothing unless it is the one that did. -/
theorem verified_at_iff {fabric : Fabric J} {queue : QueueRecord} {backend : BackendId} :
    (∃ live, fabric.findLiveBackend queue.definition.resource backend = some live ∧
      verifyBackendApplied queue.applied live fabric.epoch queue.definition.generation
        queue.definition.cls = none) ↔ fabric.AckVerifies queue ∧ queue.applied.backend = backend := by
  constructor
  · rintro ⟨live, found, verified⟩
    have same : queue.applied.backend = backend :=
      (verified_of_none verified).backend.trans (findLiveBackend_some found).2
    exact ⟨⟨live, same ▸ found, verified⟩, same⟩
  · rintro ⟨⟨live, found, verified⟩, rfl⟩
    exact ⟨live, found, verified⟩

theorem explained_verification_iff {fabric : Fabric J} {queue : QueueRecord} {principal : OwnerId}
    {now : Nanos} :
    (fabric.explainQueue queue principal now).backendVerification = none ↔
      fabric.AckVerifies queue := by
  have asked : (fabric.explainQueue queue principal now).backendVerification = none ↔
      fabric.AckVerifies queue ∧ queue.applied.backend =
        if queue.applied.backend.valid then queue.applied.backend
        else queue.drain.evidence.backend.backend := by
    rw [← verified_at_iff]
    simp only [explainQueue]
    generalize fabric.findLiveBackend queue.definition.resource _ = live
    cases live with
    | none => simp
    | some live => simp
  refine asked.trans ?_
  constructor
  · exact And.left
  · rintro ⟨live, found, verified⟩
    rw [if_pos (findLiveBackend_some found).1]
    exact ⟨⟨live, found, verified⟩, rfl⟩

theorem checkQuiesceAck_iff {fabric : Fabric J} {queue : QueueRecord} :
    checkQuiesceAck fabric queue (fabric.findLiveBackend queue.definition.resource
        queue.drain.evidence.backend.backend) = .ok () ↔
      (fabric.config.policy.requireBackendAckForDrain = true → fabric.AckVerifies queue ∧
        queue.applied.backend = queue.drain.evidence.backend.backend) := by
  rw [← verified_at_iff]
  unfold checkQuiesceAck
  by_cases required : fabric.config.policy.requireBackendAckForDrain = true
  · rw [if_pos required]
    cases fabric.findLiveBackend queue.definition.resource
        queue.drain.evidence.backend.backend with
    | none => simp [required]
    | some live =>
        simp only [Option.some.injEq, required, forall_const, exists_eq_left']
        split
        · rename_i refused
          simp [refused]
        · rename_i verified
          simp [verified]
  · simp [required]

/-! The request. -/

variable [IJournal J]

/-- A new quiesce request for the queue that is authorized, names the current generation and epoch,
comes with fresh provenance and finds a journal that takes it. -/
structure AsksQuiesce (fabric : Fabric J) (queue : QueueRecord) (request : MutationRequest) :
    Prop where
  running : fabric.shuttingDown = false
  valid : request.validate.isOk = true
  kind : request.kind = .quiesceQueue
  found : fabric.findQueue request.queue = some queue
  unseen : queue.findAttempt request.attempt = none
  authorized : ∃ resource, fabric.findResource queue.definition.resource = some resource ∧
    authorize resource.authority request.principal (requiredCapability request.kind)
      (if fabric.replaying then resource.authority.epoch else request.expectedEpoch)
      queue.applicability queue.lifecycle = none
  gate : ∃ tracker, fabric.admitProvenance request.provenance = .ok tracker
  expected : fabric.checkExpected queue request = none
  journal : (fabric.commitDurably request).1 = none

theorem commitDurably_congr {fabric other : Fabric J} {request : MutationRequest}
    (journal : other.journal = fabric.journal) (config : other.config = fabric.config) :
    (other.commitDurably request).1 = (fabric.commitDurably request).1 := by
  rw [commitDurably, commitDurably, journal, config]
  cases fabric.journal with
  | none =>
      simp only []
      split
      · rfl
      · rfl
  | some store =>
      simp only [journalCommitLocked]
      split
      · rfl
      · rfl

theorem AsksQuiesce.ok_iff {fabric : Fabric J} {queue : QueueRecord} {request : MutationRequest}
    (asks : AsksQuiesce fabric queue request) :
    (∃ outcome, (fabric.apply request).result = .ok outcome) ↔
      ∃ applied, applyKindLocked fabric queue request fabric.monotonicNow.1 = .ok applied := by
  have other : request.kind ≠ .declareQueue := by simp [asks.kind]
  refine Iff.trans (applyAt_ok_iff asks.running asks.valid) ?_
  constructor
  · intro accepted
    cases accepted with
    | remembered stored entry kind found recorded ok same =>
        have here : stored = queue := Option.some.inj (found.symm.trans asks.found)
        rw [here, asks.unseen] at recorded
        cases recorded
    | redeclared again =>
        cases again with
        | intro payload resource key stored declares => exact absurd declares other
    | fresh passes =>
        cases passes with
        | mutation stored tracker applied kind found admitted durable =>
            have here : stored = queue := Option.some.inj (found.symm.trans asks.found)
            subst here
            exact ⟨applied, admitted.kind⟩
        | declaration payload resource declares carried declarable durable =>
            exact absurd declares other
  · rintro ⟨applied, accepted⟩
    obtain ⟨tracker, gate⟩ := asks.gate
    refine .fresh (.mutation queue tracker applied other asks.found
      ⟨asks.unseen, asks.authorized, gate, asks.expected, accepted⟩ fun _ => ?_)
    have same : ((fabric.monotonicNow.2.accepted tracker applied).commitDurably request).1 =
        (fabric.commitDurably request).1 := commitDurably_congr rfl rfl
    exact same.trans asks.journal

theorem asksQuiesce_of_executed {fabric : Fabric J} {queue : QueueRecord}
    {request : MutationRequest} (kind : request.kind = .quiesceQueue)
    (found : fabric.findQueue request.queue = some queue)
    (executed : Executed (fabric.apply request).result) : AsksQuiesce fabric queue request := by
  obtain ⟨outcome, ok, first⟩ := executed
  change (fabric.monotonicNow.2.applyAt request fabric.monotonicNow.1).result = _ at ok
  obtain ⟨running, valid⟩ := applyAt_running ok
  have other : request.kind ≠ .declareQueue := by simp [kind]
  rw [applyAt_existing running valid other found] at ok
  have ended := applyExistingLocked_cases fabric.monotonicNow.2 request.queue queue request
    fabric.monotonicNow.1
  generalize fabric.monotonicNow.2.applyExistingLocked request.queue queue request
    fabric.monotonicNow.1 = reply at ended ok
  cases ended with
  | answered memo recorded =>
      obtain ⟨_, _, _, _, again⟩ := answerFromMemo_unmoved fabric.monotonicNow.2 request.queue
        queue request fabric.monotonicNow.1 memo
      exact absurd ⟨outcome, ok, first⟩ again
  | refused tracker refusal unseen gate real => cases ok
  | undurable tracker applied refusal after admitted durable failed real => cases ok
  | published tracker applied after admitted committed =>
      have durable : isDurable request.kind = true := by rw [kind]; rfl
      rw [if_pos durable] at committed
      have same : ((fabric.monotonicNow.2.accepted tracker applied).commitDurably request).1 =
          (fabric.commitDurably request).1 := commitDurably_congr rfl rfl
      refine ⟨running, valid, kind, found, admitted.unseen, admitted.authorized,
        ⟨tracker, admitted.gate⟩, admitted.expected, ?_⟩
      rw [← same, committed]

omit [IJournal J] in
theorem applyQuiesce_ok_iff {fabric : Fabric J} {queue : QueueRecord} {request : MutationRequest}
    {now : Nanos} (draining : queue.lifecycle = .draining) :
    (∃ applied, applyQuiesce fabric queue request now = .ok applied) ↔
      (assessDrain queue.drain queue.occupancy (fabric.findLiveBackend queue.definition.resource
        queue.drain.evidence.backend.backend) fabric.epoch (occupancyPolicyFor fabric.config queue)
        now).completable = true ∧
      checkQuiesceAck fabric queue (fabric.findLiveBackend queue.definition.resource
        queue.drain.evidence.backend.backend) = .ok () := by
  have unquiesced : queue.lifecycle ≠ .quiesced := by simp [draining]
  have edge : requireTransition queue .quiesced = .ok "drain-proven-complete" := by
    rw [requireTransition, draining]
    rfl
  simp only [applyQuiesce, if_neg unquiesced, edge, bind, Except.bind]
  split
  · rename_i incomplete
    constructor
    · rintro ⟨applied, impossible⟩
      cases impossible
    · rintro ⟨complete, _⟩
      rw [complete] at incomplete
      cases incomplete
  · rename_i complete
    rw [Bool.not_eq_true, Bool.not_eq_false'] at complete
    cases checkQuiesceAck fabric queue (fabric.findLiveBackend queue.definition.resource
        queue.drain.evidence.backend.backend) with
    | error refusal => simp
    | ok done => exact ⟨fun _ => ⟨complete, rfl⟩, fun _ => ⟨_, rfl⟩⟩

/-! The prediction. -/

/-- The drain lacks nothing but a verdict on its observation. -/
def DrainsOtherwise (fabric : Fabric J) (queue : QueueRecord) (now : Nanos) : Prop :=
  (assessDrain queue.drain { queue.occupancy with freshness := .fresh, age := 0 }
      (fabric.findLiveBackend queue.definition.resource queue.drain.evidence.backend.backend)
      fabric.epoch (occupancyPolicyFor fabric.config queue) now).completable = true ∧
    (fabric.config.policy.requireBackendAckForDrain = true → fabric.AckVerifies queue)

/-- Where the drain lacks nothing else, the stored verdict is the one found now, and the evidence
names the backend that acknowledged. -/
def Foreseeable (fabric : Fabric J) (queue : QueueRecord) (now : Nanos) : Prop :=
  fabric.DrainsOtherwise queue now →
    (((queue.drain.phase = .completed ∨ queue.occupancy.freshness = .fresh) ∧
        (fabric.config.policy.requireBackendAckForDrain = true →
          queue.applied.backend = queue.drain.evidence.backend.backend)) ↔
      (queue.drain.phase = .completed ∨ refreshedFreshness fabric.config queue now = .fresh))

/-- The explanation says that the drain can be completed and, where it has to be, that the backend
is verified. -/
def Explanation.Completable (explanation : Explanation) (config : FabricConfig) : Prop :=
  explanation.drainAssessment.completable = true ∧
    (config.policy.requireBackendAckForDrain = true → explanation.backendVerification = none)

/-- `explain` predicts a quiesce at the same clock reading exactly where both go by the same verdict
and the same backend. -/
theorem explain_predicts_quiesce_iff {fabric : Fabric J} {queue : QueueRecord}
    {request : MutationRequest} (asks : AsksQuiesce fabric queue request)
    (draining : queue.lifecycle = .draining) (principal : OwnerId) :
    ∃ explanation, (fabric.explain request.queue principal).result = .ok explanation ∧
      (((∃ outcome, (fabric.apply request).result = .ok outcome) ↔
          explanation.Completable fabric.config) ↔
        fabric.Foreseeable queue fabric.monotonicNow.1) := by
  refine ⟨fabric.monotonicNow.2.explainQueue queue principal fabric.monotonicNow.1, ?_, ?_⟩
  · rw [explain, asks.found]
    rfl
  have executed : (∃ outcome, (fabric.apply request).result = .ok outcome) ↔
      ((assessDrain queue.drain { queue.occupancy with freshness := .fresh, age := 0 }
          (fabric.findLiveBackend queue.definition.resource queue.drain.evidence.backend.backend)
          fabric.epoch (occupancyPolicyFor fabric.config queue)
          fabric.monotonicNow.1).completable = true ∧
        (queue.drain.phase = .completed ∨ queue.occupancy.freshness = .fresh)) ∧
      (fabric.config.policy.requireBackendAckForDrain = true → fabric.AckVerifies queue ∧
        queue.applied.backend = queue.drain.evidence.backend.backend) := by
    rw [asks.ok_iff]
    simp only [applyKindLocked, asks.kind]
    rw [applyQuiesce_ok_iff draining, checkQuiesceAck_iff, assessDrain_completable]
  have explained : (fabric.monotonicNow.2.explainQueue queue principal
      fabric.monotonicNow.1).Completable fabric.config ↔
      ((assessDrain queue.drain { queue.occupancy with freshness := .fresh, age := 0 }
          (fabric.findLiveBackend queue.definition.resource queue.drain.evidence.backend.backend)
          fabric.epoch (occupancyPolicyFor fabric.config queue)
          fabric.monotonicNow.1).completable = true ∧
        (queue.drain.phase = .completed ∨
          refreshedFreshness fabric.config queue fabric.monotonicNow.1 = .fresh)) ∧
      (fabric.config.policy.requireBackendAckForDrain = true → fabric.AckVerifies queue) := by
    rw [Explanation.Completable, explained_verification_iff]
    exact and_congr_left fun _ => assessDrain_completable _ _ _ _ _ _
  rw [executed, explained, Foreseeable, DrainsOtherwise]
  constructor
  · rintro agrees ⟨rest, verified⟩
    constructor
    · rintro ⟨stored, same⟩
      exact (agrees.mp ⟨⟨rest, stored⟩, fun needed => ⟨verified needed, same needed⟩⟩).1.2
    · intro found
      obtain ⟨⟨_, stored⟩, acknowledged⟩ := agrees.mpr ⟨⟨rest, found⟩, verified⟩
      exact ⟨stored, fun needed => (acknowledged needed).2⟩
  · intro agrees
    constructor
    · rintro ⟨⟨rest, stored⟩, acknowledged⟩
      have verified := fun needed => (acknowledged needed).1
      refine ⟨⟨rest, (agrees ⟨rest, verified⟩).mp ⟨stored, ?_⟩⟩, verified⟩
      exact fun needed => (acknowledged needed).2
    · rintro ⟨⟨rest, found⟩, verified⟩
      obtain ⟨stored, same⟩ := (agrees ⟨rest, verified⟩).mpr found
      exact ⟨⟨rest, stored⟩, fun needed => ⟨verified needed, same needed⟩⟩

end Fabric

namespace System

theorem proven_quiesce_predicted :
    ∃ explanation, ((sampleStart.run provenSteps).fabric.explain ⟨1⟩ ⟨5⟩).result = .ok explanation ∧
      ((∃ outcome, ((sampleStart.run provenSteps).fabric.apply quiescing).result = .ok outcome) ↔
        explanation.Completable (sampleStart.run provenSteps).fabric.config) := by
  obtain ⟨queue, found, draining, foreseen⟩ := @first_queue (sampleStart.run provenSteps).fabric
    (fun queue => queue.lifecycle = .draining ∧ queue.occupancy.freshness = .fresh ∧
      (sampleStart.run provenSteps).fabric.config.policy.requireBackendAckForDrain = true ∧
      queue.applied.backend = queue.drain.evidence.backend.backend ∧
      Fabric.refreshedFreshness (sampleStart.run provenSteps).fabric.config queue
        (sampleStart.run provenSteps).fabric.monotonicNow.1 = .fresh) _ (by decide +kernel)
  have asks := @Fabric.asksQuiesce_of_executed _ _ _ queue quiescing rfl found
    (by decide +kernel)
  obtain ⟨explanation, explained, agrees⟩ := Fabric.explain_predicts_quiesce_iff asks draining ⟨5⟩
  refine ⟨explanation, explained, agrees.mpr fun _ => ?_⟩
  obtain ⟨stored, _, same, again⟩ := foreseen
  exact ⟨fun _ => .inr again, fun _ => ⟨.inr stored, fun _ => same⟩⟩

/-- Where no skew is allowed, the zero observation is stamped one nanosecond ahead of the clock. -/
def skewedSystem : System :=
  (boot { occupancy := { maxFutureSkew := 0 } } (some {}) ⟨fun _ => 1000, 0⟩ 7 []).run
    (provenSteps.dropLast ++
      [.call (.apply (sampleRequest 7 .ingestOccupancy (.occupancy (sampleZero 7 1001)))) []])

/-- The first backend acknowledged, and the drain evidence names the second. -/
def twoBackends : System :=
  sampleStart.run (sampleSteps ++ drainingSteps ++ [
    registration,
    .call (.registerBackend ⟨1⟩ ⟨1⟩ ⟨5⟩ ⟨1⟩ (sampleProvenance 1)) [],
    .call (.apply (sampleRequest 5 .acknowledgeBackend (.backendAck sampleAck))) [],
    .call (.apply (sampleRequest 6 .submitDrainEvidence (.drainEvidence
      { sampleEvidence with backend := { sampleEvidence.backend with backend := ⟨2⟩ } }))) [],
    .call (.apply (sampleRequest 7 .ingestOccupancy (.occupancy (sampleZero 7 1000)))) []])

def saysCompletable (system : System) : Bool :=
  match (system.fabric.explain ⟨1⟩ ⟨5⟩).result with
  | .ok explanation => explanation.drainAssessment.completable &&
      explanation.backendVerification.isNone
  | .error _ => false

def refusal (system : System) (request : MutationRequest) : Option String :=
  match (system.fabric.apply request).result with
  | .ok _ => none
  | .error status => some status.message

/-- A quiesce the explanation speaks against is carried out; one it speaks for is refused. -/
theorem quiesce_not_predicted :
    (∃ queue, Fabric.AsksQuiesce skewedSystem.fabric queue quiescing ∧
      queue.lifecycle = .draining ∧
      (∃ outcome, (skewedSystem.fabric.apply quiescing).result = .ok outcome) ∧
      ∃ explanation, (skewedSystem.fabric.explain ⟨1⟩ ⟨5⟩).result = .ok explanation ∧
        ¬ explanation.Completable skewedSystem.fabric.config) ∧
    saysCompletable twoBackends = true ∧
      refusal twoBackends quiescing = some "backend-applied-state-not-verifiable" := by
  refine ⟨?_, by decide +kernel, by decide +kernel⟩
  obtain ⟨queue, found, draining⟩ := @first_queue skewedSystem.fabric
    (fun queue => queue.lifecycle = .draining) _ (by decide +kernel)
  have executed : Fabric.Executed (skewedSystem.fabric.apply quiescing).result := by decide +kernel
  have asks := @Fabric.asksQuiesce_of_executed _ _ _ queue quiescing rfl found executed
  obtain ⟨outcome, ok, _⟩ := executed
  refine ⟨queue, asks, draining, ⟨outcome, ok⟩, ?_⟩
  have denied : saysCompletable skewedSystem = false := by decide +kernel
  have needed : skewedSystem.fabric.config.policy.requireBackendAckForDrain = true := by
    decide +kernel
  rw [saysCompletable] at denied
  cases explained : (skewedSystem.fabric.explain ⟨1⟩ ⟨5⟩).result with
  | error status =>
      have served : (skewedSystem.fabric.explain ⟨1⟩ ⟨5⟩).result.isOk = true := by decide +kernel
      rw [explained] at served
      cases served
  | ok explanation =>
      refine ⟨explanation, rfl, fun completable => ?_⟩
      rw [explained] at denied
      simp [completable.1, completable.2 needed] at denied

end System

end QueueFabric
