import QueueFabric.AtMostOnce
import QueueFabric.MemoTruth

/-!
Reuse of an attempt with other content. The fingerprint is a chain over the
values a request mixes; what an application accepts is listed case by case, and a
reuse that conflicts with an applied request is refused unless it falls into one
of the listed ways to be accepted.
-/

namespace QueueFabric

namespace MutationRequest

/-! The values that reach the fingerprint. -/

inductive Mixed
  | word (value : UInt64)
  | flag (value : Bool)
  | text (value : Text)
  | chain (values : List UInt64)
  deriving DecidableEq

def Mixed.into (seed : UInt64) : Mixed → UInt64
  | .word value => hashMix seed value
  | .flag value => hashMixBool seed value
  | .text value => hashMixText seed value
  | .chain values => hashMix seed (values.foldl hashMix 0x51ED270B5F1F0E1B)

def mixedThresholds (thresholds : Thresholds) : List Mixed :=
  [.word thresholds.lowWatermarkBytes, .word thresholds.highWatermarkBytes,
    .word thresholds.maxOccupancyBytes, .word thresholds.maxPackets,
    .word thresholds.occupancyStaleAfter.toUInt64]

def mixedPayload : MutationPayload → List Mixed
  | .monostate => []
  | .declareQueue declare =>
      [.word declare.resource.value, .text declare.name, .word declare.depth.toUInt64,
        .word declare.cls.id.value, .word declare.cls.generation.value,
        .word declare.pool.id.value, .word declare.pool.generation.value,
        .word declare.pool.capacityBytes] ++ mixedThresholds declare.thresholds
  | .rebindClass cls => [.word cls.id.value, .word cls.generation.value]
  | .thresholds thresholds => mixedThresholds thresholds
  | .ownership owner => [.word owner.value]
  | .occupancy sample =>
      [.word sample.bytes, .word sample.packets, .word sample.sequence.value,
        .chain [sample.provenance.publisher.value, sample.provenance.node.value,
          sample.provenance.incarnation.value, sample.provenance.epoch.value,
          sample.provenance.sequence.value, sample.provenance.boot.hi, sample.provenance.boot.lo],
        .word sample.observedAt.toUInt64]
  | .drainEvidence evidence =>
      [.word evidence.records.toUInt64, .flag evidence.backend.reportedDrained,
        .flag evidence.backend.requestAccepted, .flag evidence.occupancyZeroObserved,
        .word evidence.zeroSequence.value]
  | .fence payload => [.flag payload.fence, .text payload.reason]
  | .backendAck applied =>
      [.word applied.sequence.value, .word applied.backend.value,
        .word applied.backendIncarnation.value]
  | .backendRegistration payload =>
      [.word payload.backend.value, .word payload.resource.value, .word payload.incarnation.value]

/-- The value list of a request, in the order it is mixed. -/
def mixed (request : MutationRequest) : List Mixed :=
  [.word request.kind.toRaw.toUInt64, .word request.queue.value,
    .word request.expectedGeneration.value, .word request.principal.value] ++
    mixedPayload request.payload

theorem fingerprint_eq_chain (request : MutationRequest) :
    request.fingerprint = request.mixed.foldl Mixed.into 0x243F6A8885A308D3 := by
  rw [fingerprint, mixed, List.foldl_append]
  generalize request.payload = payload
  cases payload <;> rfl

/-- The two requests do not collide: equal chains were mixed from equal value lists. -/
def Separated (first second : MutationRequest) : Prop :=
  first.fingerprint = second.fingerprint → first.mixed = second.mixed

instance (first second : MutationRequest) : Decidable (Separated first second) :=
  inferInstanceAs (Decidable (_ → _))

theorem Separated.fingerprint_eq_iff {first second : MutationRequest}
    (separated : Separated first second) :
    first.fingerprint = second.fingerprint ↔ first.mixed = second.mixed := by
  refine ⟨separated, fun same => ?_⟩
  rw [fingerprint_eq_chain, fingerprint_eq_chain, same]

/-! Conflicting content. -/

/-- The part of a payload its handler stores. -/
def storedPayload : MutationKind → MutationPayload → MutationPayload
  | .ingestOccupancy, .occupancy sample => .occupancy { sample with queue := default }
  | .submitDrainEvidence, .drainEvidence evidence =>
      .drainEvidence { evidence with revalidated := true }
  | .fenceQueue, .fence payload => .fence ⟨true, Fabric.bounded payload.reason Limits.maxReasonChars⟩
  | .failQueue, .fence payload => .fence ⟨true, Fabric.bounded payload.reason Limits.maxReasonChars⟩
  | .unfenceQueue, .fence _ => .fence {}
  | _, payload => payload

/-- The same attempt with another kind, target, principal or stored payload. -/
structure Conflicts (first second : MutationRequest) : Prop where
  attempt : second.attempt = first.attempt
  content : second.kind ≠ first.kind ∨ second.queue ≠ first.queue ∨
    second.principal ≠ first.principal ∨
    storedPayload second.kind second.payload ≠ storedPayload first.kind first.payload

theorem mixedThresholds_injective {first second : Thresholds}
    (same : mixedThresholds first = mixedThresholds second) : first = second := by
  rcases first with ⟨_, _, _, _, ⟨_⟩⟩
  rcases second with ⟨_, _, _, _, ⟨_⟩⟩
  simp only [mixedThresholds, List.cons.injEq, Mixed.word.injEq] at same
  obtain ⟨rfl, rfl, rfl, rfl, rfl, _⟩ := same
  rfl

theorem mixedDeclaration_injective {first second : DeclareQueuePayload}
    (same : mixedPayload (.declareQueue first) = mixedPayload (.declareQueue second)) :
    first = second := by
  rcases first with ⟨⟨_⟩, _, _, ⟨⟨_⟩, ⟨_⟩⟩, ⟨⟨_⟩, ⟨_⟩, _⟩, _⟩
  rcases second with ⟨⟨_⟩, _, _, ⟨⟨_⟩, ⟨_⟩⟩, ⟨⟨_⟩, ⟨_⟩, _⟩, _⟩
  simp only [mixedPayload, List.cons_append, List.nil_append, List.cons.injEq, Mixed.word.injEq,
    Mixed.text.injEq, UInt32.toUInt64_inj] at same
  obtain ⟨rfl, rfl, rfl, rfl, rfl, rfl, rfl, rfl, ladder⟩ := same
  rw [mixedThresholds_injective ladder]

theorem alternative_of_matches {kind : MutationKind} {first second : MutationPayload}
    (one : payloadMatches kind first = true) (two : payloadMatches kind second = true) :
    first.ctorIdx = second.ctorIdx := by
  cases kind <;> cases first <;> first
    | exact absurd one Bool.false_ne_true
    | (cases second <;> first | rfl | exact absurd two Bool.false_ne_true)

/-- Outside the evidence kinds the mixed values determine the whole payload. -/
theorem mixedPayload_injective {kind : MutationKind} {first second : MutationPayload}
    (lasting : isDynamic kind = false) (one : payloadMatches kind first = true)
    (two : payloadMatches kind second = true)
    (same : mixedPayload first = mixedPayload second) : first = second := by
  have shape := alternative_of_matches one two
  cases first with
  | monostate =>
      cases second with
      | monostate => rfl
      | _ => cases shape
  | declareQueue payload =>
      cases second with
      | declareQueue other => exact congrArg _ (mixedDeclaration_injective same)
      | _ => cases shape
  | rebindClass cls =>
      cases second with
      | rebindClass other =>
          rcases cls with ⟨⟨_⟩, ⟨_⟩⟩
          rcases other with ⟨⟨_⟩, ⟨_⟩⟩
          simpa [mixedPayload] using same
      | _ => cases shape
  | thresholds thresholds =>
      cases second with
      | thresholds other => exact congrArg _ (mixedThresholds_injective same)
      | _ => cases shape
  | ownership owner =>
      cases second with
      | ownership other =>
          rcases owner with ⟨_⟩
          rcases other with ⟨_⟩
          simpa [mixedPayload] using same
      | _ => cases shape
  | occupancy sample => cases kind <;> first | (cases one; done) | cases lasting
  | drainEvidence evidence => cases kind <;> first | (cases one; done) | cases lasting
  | fence payload =>
      cases second with
      | fence other =>
          rcases payload with ⟨_, _⟩
          rcases other with ⟨_, _⟩
          simpa [mixedPayload] using same
      | _ => cases shape
  | backendAck applied => cases kind <;> first | (cases one; done) | cases lasting
  | backendRegistration payload =>
      cases second with
      | backendRegistration other =>
          rcases payload with ⟨⟨_⟩, ⟨_⟩, ⟨_⟩⟩
          rcases other with ⟨⟨_⟩, ⟨_⟩, ⟨_⟩⟩
          simpa [mixedPayload] using same
      | _ => cases shape

theorem Conflicts.mixed_ne {first second : MutationRequest} (conflicts : Conflicts first second)
    (lasting : isDynamic first.kind = false) (one : payloadMatches first.kind first.payload = true)
    (two : payloadMatches second.kind second.payload = true) : first.mixed ≠ second.mixed := by
  intro same
  simp only [mixed, List.cons_append, List.nil_append, List.cons.injEq, Mixed.word.injEq,
    UInt16.toUInt64_inj] at same
  obtain ⟨raw, queue, _, principal, payload⟩ := same
  have kind : first.kind = second.kind := by
    rw [← MutationKind.ofRaw_toRaw first.kind, raw, MutationKind.ofRaw_toRaw]
  rw [← kind] at two
  have stored := mixedPayload_injective lasting one two payload
  rcases conflicts.content with other | other | other | other
  · exact other kind.symm
  · exact other (Ident.ext queue).symm
  · exact other (Ident.ext principal).symm
  · exact other (by rw [kind, stored])

end MutationRequest

open MutationRequest

namespace Fabric

variable {J : Type} [IJournal J]

/-! What an application accepts. -/

/-- The request passes every check of a new request and its write succeeds. -/
inductive Passes (fabric : Fabric J) (request : MutationRequest) (now : Nanos) : Prop
  | mutation (queue : QueueRecord) (tracker : ProvenanceTracker) (applied : KindApplied)
      (kind : request.kind ≠ .declareQueue)
      (found : fabric.findQueue request.queue = some queue)
      (admitted : Admitted fabric queue request now tracker applied)
      (durable : isDurable request.kind = true →
        ((fabric.accepted tracker applied).commitDurably request).1 = none)
  | declaration (payload : DeclareQueuePayload) (resource : ResourceRecord)
      (kind : request.kind = .declareQueue) (carried : request.payload = .declareQueue payload)
      (declarable : Declarable fabric request payload resource)
      (durable : (fabric.commitDurably request).1 = none)

/-- The request declares a taken name under the publisher and sequence that declared it. -/
inductive Redeclares (fabric : Fabric J) (request : MutationRequest) : Prop
  | intro (payload : DeclareQueuePayload) (resource : ResourceRecord) (key : QueueId)
      (queue : QueueRecord) (kind : request.kind = .declareQueue)
      (carried : request.payload = .declareQueue payload)
      (home : fabric.findResource payload.resource = some resource)
      (authorized : authorize resource.authority request.principal .declareQueue
        (if fabric.replaying then resource.authority.epoch else request.expectedEpoch)
        resource.applicability .active = none)
      (named : fabric.queueNames.get? (nameKey payload.resource payload.name) = some key)
      (found : fabric.findQueue key = some queue)
      (publisher : queue.definition.declaredBy.publisher = request.provenance.publisher)
      (sequence : queue.definition.declaredBy.sequence = request.provenance.sequence)

/-- Every way `apply_locked` answers ok. -/
inductive Accepted (fabric : Fabric J) (request : MutationRequest) (now : Nanos) : Prop
  | remembered (queue : QueueRecord) (entry : AttemptMemo) (kind : request.kind ≠ .declareQueue)
      (found : fabric.findQueue request.queue = some queue)
      (recorded : queue.findAttempt request.attempt = some entry) (ok : entry.outcome = .ok)
      (same : entry.fingerprint = request.fingerprint)
  | redeclared (again : Redeclares fabric request)
  | fresh (passes : Passes fabric request now)

omit [IJournal J] in
/-- A recorded attempt with the same fingerprint is answered with its success. -/
theorem answerFromMemo_ok {fabric : Fabric J} {key : QueueId} {queue : QueueRecord}
    {request : MutationRequest} {now : Nanos} {entry : AttemptMemo} :
    (∃ outcome, (fabric.answerFromMemo key queue request now entry).result = .ok outcome) ↔
      entry.fingerprint = request.fingerprint ∧ entry.outcome = .ok := by
  rw [answerFromMemo]
  split
  · rename_i different
    constructor
    · rintro ⟨outcome, impossible⟩
      cases impossible
    · rintro ⟨same, _⟩
      exact absurd same different
  · rename_i same
    simp only [ne_eq, not_not] at same
    split
    · rename_i failed
      constructor
      · rintro ⟨outcome, impossible⟩
        cases impossible
      · rintro ⟨_, ok⟩
        exact absurd ok failed
    · rename_i ok
      simp only [ne_eq, not_not] at ok
      exact ⟨fun _ => ⟨same, ok⟩, fun _ => ⟨_, rfl⟩⟩

/-- A new request is published exactly when it passes every stage and its write succeeds. -/
theorem applyFresh_ok {fabric : Fabric J} {key : QueueId} {queue : QueueRecord}
    {request : MutationRequest} {now : Nanos} {tracker : ProvenanceTracker} {applied : KindApplied}
    (admitted : Admitted fabric queue request now tracker applied)
    (durable : isDurable request.kind = true →
      ((fabric.accepted tracker applied).commitDurably request).1 = none) :
    ∃ outcome, (fabric.applyExistingLocked key queue request now).result = .ok outcome := by
  obtain ⟨resource, home, allowed⟩ := admitted.authorized
  have expected : { fabric with provenance := tracker }.checkExpected queue request = none :=
    admitted.expected
  rw [applyExistingLocked, admitted.unseen]
  simp only [applyFresh, home, allowed, admitted.gate, expected, applyAdmitted,
    applyKindLocked_provenance, admitted.kind]
  by_cases lasting : isDurable request.kind = true
  · have written := durable lasting
    simp only [accepted] at written
    cases commit : { fabric with
        provenance := tracker
        fenceTokens := applied.fenceTokens
        stats := applied.stats }.commitDurably request with
    | mk failure after =>
        rw [commit] at written
        cases written
        simp only [lasting, ↓reduceIte]
        exact ⟨_, rfl⟩
  · simp only [lasting, Bool.false_eq_true, ↓reduceIte]
    exact ⟨_, rfl⟩

omit [IJournal J] in
theorem observe_ok_of_gate {fabric : Fabric J} {request : MutationRequest}
    (live : fabric.replaying ≠ true) (gate : fabric.checkDeclareProvenance request = none) :
    (fabric.provenance.observe request.provenance).1.isOk = true := by
  rw [checkDeclareProvenance, if_neg live] at gate
  split at gate
  · rename_i accepted
    rw [ProvenanceTracker.observe_of_accepted _ _ accepted]
    rfl
  · cases gate
  · cases gate

theorem Declarable.published {fabric : Fabric J} {request : MutationRequest}
    {payload : DeclareQueuePayload} {resource : ResourceRecord}
    (declarable : Declarable fabric request payload resource)
    (durable : (fabric.commitDurably request).1 = none) (now : Nanos) :
    ∃ after : Fabric J, after.queues = fabric.queues ∧ after.nextQueueId = fabric.nextQueueId ∧
      fabric.applyDeclareLocked request payload now =
        after.publishDeclared request payload now resource := by
  simp only [applyDeclareLocked, declarable.found, declarable.authorized, declarable.free,
    declareFresh, declarable.checked, declarable.gate]
  cases commit : fabric.commitDurably request with
  | mk failure after =>
      have touch := commitDurably_touch commit
      rw [commit] at durable
      cases durable
      simp only [admitDeclared]
      by_cases replaying : after.replaying = true
      · rw [if_pos replaying]
        exact ⟨after, touch.queues, touch.nextQueueId, rfl⟩
      · have passed : (after.provenance.observe request.provenance).1.isOk = true := by
          rw [touch.provenance]
          exact observe_ok_of_gate (touch.replaying ▸ replaying) declarable.gate
        simp only [replaying, passed, Bool.not_true, Bool.false_eq_true, ↓reduceIte]
        refine ⟨_, ?_, ?_, rfl⟩
        · exact touch.queues
        · exact touch.nextQueueId

theorem declareFresh_ok {fabric : Fabric J} {request : MutationRequest}
    {payload : DeclareQueuePayload} {now : Nanos} {resource : ResourceRecord}
    (declarable : Declarable fabric request payload resource)
    (durable : (fabric.commitDurably request).1 = none) :
    ∃ outcome, (fabric.applyDeclareLocked request payload now).result = .ok outcome := by
  obtain ⟨after, _, _, published⟩ := declarable.published durable now
  rw [published]
  exact ⟨_, rfl⟩

omit [IJournal J] in
theorem answerDeclared_ok {fabric : Fabric J} {request : MutationRequest}
    {payload : DeclareQueuePayload} {now : Nanos} {key : QueueId} :
    (∃ outcome, (fabric.answerDeclared request payload now key).result = .ok outcome) ↔
      ∃ queue, fabric.findQueue key = some queue ∧
        queue.definition.declaredBy.publisher = request.provenance.publisher ∧
        queue.definition.declaredBy.sequence = request.provenance.sequence := by
  rw [answerDeclared]
  cases found : fabric.findQueue key with
  | none =>
      constructor
      · rintro ⟨outcome, impossible⟩
        cases impossible
      · rintro ⟨queue, impossible, _⟩
        cases impossible
  | some queue =>
      simp only []
      split
      · rename_i same
        exact ⟨fun _ => ⟨queue, rfl, same⟩, fun _ => ⟨_, rfl⟩⟩
      · rename_i different
        constructor
        · rintro ⟨outcome, impossible⟩
          cases impossible
        · rintro ⟨other, same, matching⟩
          cases same
          exact absurd matching different

theorem applyExistingLocked_ok {fabric : Fabric J} {queue : QueueRecord}
    {request : MutationRequest} {now : Nanos} (kind : request.kind ≠ .declareQueue)
    (found : fabric.findQueue request.queue = some queue) {outcome : MutationOutcome}
    (ok : (fabric.applyExistingLocked request.queue queue request now).result = .ok outcome) :
    Accepted fabric request now := by
  have ended := applyExistingLocked_cases fabric request.queue queue request now
  generalize fabric.applyExistingLocked request.queue queue request now = reply at ended ok
  cases ended with
  | answered memo recorded =>
      obtain ⟨same, succeeded⟩ := answerFromMemo_ok.mp ⟨outcome, ok⟩
      exact .remembered queue memo kind found recorded succeeded same
  | refused tracker refusal unseen gate real => cases ok
  | undurable tracker applied refusal after admitted durable failed real => cases ok
  | published tracker applied after admitted committed =>
      refine .fresh (.mutation queue tracker applied kind found admitted fun durable => ?_)
      rw [if_pos durable] at committed
      rw [committed]

theorem applyDeclareLocked_ok {fabric : Fabric J} {request : MutationRequest}
    {payload : DeclareQueuePayload} {now : Nanos} (kind : request.kind = .declareQueue)
    (carried : request.payload = .declareQueue payload) {outcome : MutationOutcome}
    (ok : (fabric.applyDeclareLocked request payload now).result = .ok outcome) :
    Accepted fabric request now := by
  rw [applyDeclareLocked] at ok
  cases home : fabric.findResource payload.resource with
  | none =>
      rw [home] at ok
      cases ok
  | some resource =>
      simp only [home] at ok
      split at ok
      · cases ok
      rename_i authorized
      cases named : fabric.queueNames.get? (nameKey payload.resource payload.name) with
      | some key =>
          rw [named] at ok
          obtain ⟨queue, found, publisher, sequence⟩ := answerDeclared_ok.mp ⟨outcome, ok⟩
          exact .redeclared (.intro payload resource key queue kind carried home authorized named
            found publisher sequence)
      | none =>
          simp only [named, declareFresh] at ok
          split at ok
          · cases ok
          rename_i checked
          split at ok
          · cases ok
          rename_i gate
          split at ok
          · cases ok
          rename_i after committed
          refine .fresh (.declaration payload resource kind carried
            ⟨home, authorized, named, checked, gate⟩ ?_)
          rw [committed]

omit [IJournal J] in
theorem admitted_of_now {fabric : Fabric J} {queue : QueueRecord} {request : MutationRequest}
    {now : Nanos} {tracker : ProvenanceTracker} {applied : KindApplied} :
    Admitted fabric.monotonicNow.2 queue request now tracker applied ↔
      Admitted fabric queue request now tracker applied := by
  constructor
  · rintro ⟨unseen, authorized, gate, expected, kind⟩
    exact ⟨unseen, authorized, gate, expected, kind⟩
  · rintro ⟨unseen, authorized, gate, expected, kind⟩
    exact ⟨unseen, authorized, gate, expected, kind⟩

theorem applyAt_declare {fabric : Fabric J} {request : MutationRequest}
    {payload : DeclareQueuePayload} (running : fabric.shuttingDown = false)
    (valid : request.validate.isOk = true) (kind : request.kind = .declareQueue)
    (carried : request.payload = .declareQueue payload) (now : Nanos) :
    fabric.applyAt request now = fabric.applyDeclareLocked request payload now := by
  simp only [applyAt, running, valid, kind, carried, Bool.not_true, Bool.false_eq_true,
    ↓reduceIte]

theorem applyAt_existing {fabric : Fabric J} {request : MutationRequest} {queue : QueueRecord}
    (running : fabric.shuttingDown = false) (valid : request.validate.isOk = true)
    (kind : request.kind ≠ .declareQueue) (found : fabric.findQueue request.queue = some queue)
    (now : Nanos) :
    fabric.applyAt request now = fabric.applyExistingLocked request.queue queue request now := by
  simp only [applyAt, running, valid, Bool.not_true, Bool.false_eq_true, ↓reduceIte]
  split
  · rename_i declares _
    exact absurd declares kind
  · rw [found]

/-- An application that reaches its stages answers ok exactly in the listed ways. -/
theorem applyAt_ok_iff {fabric : Fabric J} {request : MutationRequest} {now : Nanos}
    (running : fabric.shuttingDown = false) (valid : request.validate.isOk = true) :
    (∃ outcome, (fabric.applyAt request now).result = .ok outcome) ↔
      Accepted fabric request now := by
  by_cases kind : request.kind = .declareQueue
  · obtain ⟨payload, carried⟩ := declare_payload_of_valid valid kind
    rw [applyAt_declare running valid kind carried]
    constructor
    · rintro ⟨outcome, ok⟩
      exact applyDeclareLocked_ok kind carried ok
    · intro accepted
      cases accepted with
      | remembered queue entry other found recorded ok same => exact absurd kind other
      | redeclared again =>
          obtain ⟨declared, resource, key, queue, _, same, home, authorized, named, found,
            publisher, sequence⟩ := again
          rw [carried] at same
          cases same
          simp only [applyDeclareLocked, home, authorized, named]
          exact answerDeclared_ok.mpr ⟨queue, found, publisher, sequence⟩
      | fresh passes =>
          cases passes with
          | mutation queue tracker applied other found admitted durable => exact absurd kind other
          | declaration declared resource _ same declarable durable =>
              rw [carried] at same
              cases same
              exact declareFresh_ok declarable durable
  · constructor
    · rintro ⟨outcome, ok⟩
      cases found : fabric.findQueue request.queue with
      | some queue =>
          rw [applyAt_existing running valid kind found] at ok
          exact applyExistingLocked_ok kind found ok
      | none =>
          simp only [applyAt, running, valid, Bool.not_true, Bool.false_eq_true,
            ↓reduceIte] at ok
          split at ok
          · rename_i declares _
            exact absurd declares kind
          · rw [found] at ok
            cases ok
    · intro accepted
      cases accepted with
      | remembered queue entry _ found recorded ok same =>
          rw [applyAt_existing running valid kind found, applyExistingLocked, recorded]
          exact answerFromMemo_ok.mpr ⟨same, ok⟩
      | redeclared again =>
          cases again with
          | intro payload resource key queue declares => exact absurd declares kind
      | fresh passes =>
          cases passes with
          | mutation queue tracker applied _ found admitted durable =>
              rw [applyAt_existing running valid kind found]
              exact applyFresh_ok admitted durable
          | declaration payload resource declares carried declarable durable =>
              exact absurd declares kind

/-- An application that is stopped, or handed a malformed request, answers with an error. -/
theorem applyAt_running {fabric : Fabric J} {request : MutationRequest} {now : Nanos}
    {outcome : MutationOutcome} (ok : (fabric.applyAt request now).result = .ok outcome) :
    fabric.shuttingDown = false ∧ request.validate.isOk = true := by
  rw [applyAt] at ok
  split at ok
  · cases ok
  rename_i running
  simp only [] at ok
  split at ok
  · cases ok
  rename_i valid
  exact ⟨by simpa using running, by simpa using valid⟩

end Fabric

namespace System

/-! Reuse along runs. -/

/-- The fabric an application works on: its journal scripted and its clock read. -/
def serving (system : System) (script : List Bool) : Fabric StableStore :=
  (withScript system.fabric script).monotonicNow.2

def reading (system : System) (script : List Bool) : Nanos :=
  (withScript system.fabric script).monotonicNow.1

theorem apply_result (system : System) (request : MutationRequest) (script : List Bool) :
    (system.step (.call (.apply request) script)).result =
      ((system.serving script).applyAt request (system.reading script)).result.map .outcome := rfl

/-- The request was applied to the queue, and its attempt is still in the memo of that queue or
declared it. -/
structure Standing (start : System) (done : List Step) (id : QueueId)
    (request : MutationRequest) : Prop where
  applied : WasApplied start done id request
  kept : ∃ queue, (start.run done).fabric.findQueue id = some queue ∧
    ((queue.findAttempt request.attempt).isSome = true ∨ request.kind = .declareQueue)

/-- Every reuse of an attempt that conflicts with a standing request is refused. -/
def ConflictRefused (start : System) (done : List Step) (second : MutationRequest)
    (script : List Bool) : Prop :=
  ∀ id first, Standing start done id first → Conflicts first second →
    ∃ status, ((start.run done).step (.call (.apply second) script)).result = .error status

/-- The ways a reuse goes through: it repeats every mixed value of the request its queue remembers,
it declares a name again under the publisher and sequence that declared it, or nothing stands
against it and it passes as a new request. -/
inductive Unnoticed (start : System) (done : List Step) (second : MutationRequest)
    (script : List Bool) : Prop
  | repeated (queue : QueueRecord) (entry : AttemptMemo) (recorder : MutationRequest)
      (kind : second.kind ≠ .declareQueue)
      (found : (start.run done).fabric.findQueue second.queue = some queue)
      (recorded : queue.findAttempt second.attempt = some entry) (ok : entry.outcome = .ok)
      (applied : WasApplied start done second.queue recorder)
      (attempt : recorder.attempt = second.attempt)
      (written : recorder.fingerprint = entry.fingerprint) (same : recorder.mixed = second.mixed)
  | redeclared (again : Fabric.Redeclares ((start.run done).serving script) second)
  | fresh (passes : Fabric.Passes ((start.run done).serving script) second
      ((start.run done).reading script))

/-- An application answers ok exactly when it is served and the reuse goes through. -/
theorem apply_ok_iff {start : System} {done : List Step} (holds : MemoHolds start done)
    {second : MutationRequest} {script : List Bool}
    (separated : ∀ id earlier, WasApplied start done id earlier → Separated earlier second) :
    (∃ answer, ((start.run done).step (.call (.apply second) script)).result = .ok answer) ↔
      (start.run done).fabric.shuttingDown = false ∧ second.validate.isOk = true ∧
        Unnoticed start done second script := by
  have lifted : (∃ answer, ((start.run done).step (.call (.apply second) script)).result =
      .ok answer) ↔ ∃ outcome, (((start.run done).serving script).applyAt second
        ((start.run done).reading script)).result = .ok outcome := by
    rw [apply_result]
    cases (((start.run done).serving script).applyAt second
        ((start.run done).reading script)).result with
    | error status => simp [Except.map]
    | ok outcome => simp [Except.map]
  rw [lifted]
  constructor
  · rintro ⟨outcome, ok⟩
    obtain ⟨running, valid⟩ := Fabric.applyAt_running ok
    refine ⟨running, valid, ?_⟩
    cases (Fabric.applyAt_ok_iff running valid).mp ⟨outcome, ok⟩ with
    | remembered queue entry kind found recorded succeeded same =>
        -- the entry was left by an applied request, and the chains of the two agree
        obtain ⟨own, traced⟩ := holds.queues second.queue queue found
        obtain ⟨recorder, _, attempt, written, applied⟩ :=
          traced.memo entry (List.mem_of_find?_eq_some recorded)
        have named : entry.attempt = second.attempt := by simpa using List.find?_some recorded
        rw [own] at applied
        exact .repeated queue entry recorder kind found recorded succeeded (applied succeeded)
          (attempt.trans named) written
          (separated _ _ (applied succeeded) (written.trans same))
    | redeclared again => exact .redeclared again
    | fresh passes => exact .fresh passes
  · rintro ⟨running, valid, unnoticed⟩
    have served : ((start.run done).serving script).shuttingDown = false := running
    refine (Fabric.applyAt_ok_iff served valid).mpr ?_
    cases unnoticed with
    | repeated queue entry recorder kind found recorded succeeded applied attempt written same =>
        refine .remembered queue entry kind found recorded succeeded ?_
        exact written.symm.trans ((separated _ _ applied).fingerprint_eq_iff.mpr same)
    | redeclared again => exact .redeclared again
    | fresh passes => exact .fresh passes

/-- The identity under which a system reported a first execution. -/
def executedQueue (system : System) : Option QueueId :=
  match system.result with
  | .ok (.outcome outcome) => if outcome.replayed then none else some outcome.queue
  | _ => none

theorem applies_of_executedQueue {system : System} {request : MutationRequest}
    {script : List Bool} {id : QueueId}
    (executed : executedQueue (system.step (.call (.apply request) script)) = some id) :
    Applies id request system (.call (.apply request) script) := by
  rw [executedQueue] at executed
  split at executed
  · rename_i outcome answered
    split at executed
    · cases executed
    · rename_i fresh
      cases executed
      exact .served script outcome answered (by simpa using fresh) rfl
  · cases executed

/-- A publisher activates the queue under the attempt that validated it. -/
def memoActivate : MutationRequest := { memoValidate 1 with kind := .activateQueue }

theorem memoValidate_recorded : ((memoStart.run memoSteps).fabric.findQueue ⟨1⟩).any
    (fun queue => (queue.findAttempt ⟨⟨9⟩, 2⟩).isSome) = true := by decide +kernel

theorem memoValidate_standing : Standing memoStart memoSteps ⟨1⟩ (memoValidate 1) := by
  refine ⟨⟨memoSteps.take 4, .call (.apply (memoValidate 1)) [], [], rfl, ?_⟩, ?_⟩
  · exact applies_of_executedQueue (by decide +kernel)
  · obtain ⟨queue, found, held⟩ := (Option.any_eq_true _ _).mp memoValidate_recorded
    exact ⟨queue, found, .inl held⟩

theorem memoActivate_conflicts : Conflicts (memoValidate 1) memoActivate :=
  ⟨rfl, .inl (by decide)⟩

/-- An observation, and the same attempt with an observation of another epoch. -/
def memoIngest (epoch : UInt64) : MutationRequest :=
  { attempt := ⟨⟨9⟩, 3⟩, kind := .ingestOccupancy, queue := ⟨1⟩, expectedGeneration := ⟨1⟩,
    expectedEpoch := ⟨1⟩, principal := ⟨5⟩, provenance := memoProvenance 1 3,
    payload := .occupancy { queue := ⟨1⟩, queueGeneration := ⟨1⟩, bytes := 5, packets := 1,
                            epoch := ⟨epoch⟩, sequence := ⟨1⟩, observedAt := 1000,
                            provenance := memoProvenance 1 3 } }

/-- The declaration of the queue, with another depth. -/
def memoDeeper : MutationRequest :=
  { memoDeclare with
    payload := .declareQueue { resource := ⟨1⟩, name := text "q", depth := 8, cls := ⟨⟨1⟩, ⟨1⟩⟩,
                               pool := ⟨⟨1⟩, ⟨1⟩, 0⟩, thresholds := ⟨10, 50, 100, 0, 0⟩ } }

def ingestSteps : List Step := memoSteps ++ [.call (.apply (memoIngest 1)) []]

theorem memoIngest_standing : Standing memoStart ingestSteps ⟨1⟩ (memoIngest 1) := by
  refine ⟨⟨memoSteps, .call (.apply (memoIngest 1)) [], [], rfl, ?_⟩, ?_⟩
  · exact applies_of_executedQueue (by decide +kernel)
  · have kept : ((memoStart.run ingestSteps).fabric.findQueue ⟨1⟩).any
        (fun queue => (queue.findAttempt ⟨⟨9⟩, 3⟩).isSome) = true := by decide +kernel
    obtain ⟨queue, found, held⟩ := (Option.any_eq_true _ _).mp kept
    exact ⟨queue, found, .inl held⟩

theorem memoDeclare_standing : Standing memoStart ingestSteps ⟨1⟩ memoDeclare := by
  refine ⟨⟨memoSteps.take 3, .call (.apply memoDeclare) [],
    [.call (.apply (memoValidate 1)) [], .call (.apply (memoIngest 1)) []], rfl, ?_⟩, ?_⟩
  · exact applies_of_executedQueue (by decide +kernel)
  · have kept : ((memoStart.run ingestSteps).fabric.findQueue ⟨1⟩).isSome = true := by
      decide +kernel
    obtain ⟨queue, found⟩ := Option.isSome_iff_exists.mp kept
    exact ⟨queue, found, .inr rfl⟩

theorem ingestSteps_separated {id : QueueId} {earlier : MutationRequest}
    (applied : WasApplied memoStart ingestSteps id earlier) :
    Separated earlier (memoIngest 2) ∧ Separated earlier memoDeeper := by
  obtain ⟨before, input, after, split, applies⟩ := applied
  have listed : input ∈ ingestSteps := by simp [split]
  simp only [ingestSteps, memoSteps, List.cons_append, List.nil_append, List.mem_cons,
    List.not_mem_nil, or_false] at listed
  have known : earlier = memoDeclare ∨ earlier = memoValidate 1 ∨ earlier = memoIngest 1 := by
    rcases listed with rfl | rfl | rfl | rfl | rfl | rfl
    all_goals
      have call := request_of_shown (by simp) (by simp) (.inr applies)
      cases call
      try simp
  rcases known with rfl | rfl | rfl
  · exact ⟨by decide +kernel, by decide +kernel⟩
  · exact ⟨by decide +kernel, by decide +kernel⟩
  · exact ⟨by decide +kernel, by decide +kernel⟩

end System

end QueueFabric
