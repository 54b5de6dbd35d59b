import QueueFabric.KindCases
import QueueFabric.SystemCore

/-!
What one application can do. `ExistingCase` and `DeclareCase` list every way the
two apply paths end, with the facts each end rests on; later modules split on
these cases and never unfold the stages again.
-/

namespace QueueFabric

namespace Fabric

variable {J : Type}

/-- The identities the next declarations of topology will take. -/
structure Identities where
  resource : UInt64
  cls : UInt64
  pool : UInt64
  backend : UInt64

def identities (fabric : Fabric J) : Identities :=
  ⟨fabric.nextResourceId, fabric.nextClassId, fabric.nextPoolId, fabric.nextBackendId⟩

def numbered (fabric : Fabric J) (identities : Identities) : Fabric J :=
  { fabric with
    nextResourceId := identities.resource
    nextClassId := identities.cls
    nextPoolId := identities.pool
    nextBackendId := identities.backend }

/-- Nothing the durable state, the evidence or the provenance gate depends on has moved. -/
structure Touch (before after : Fabric J) : Prop where
  config : after.config = before.config
  replaying : after.replaying = before.replaying
  epoch : after.epoch = before.epoch
  provenance : after.provenance = before.provenance
  resources : after.resources = before.resources
  queues : after.queues = before.queues
  queueNames : after.queueNames = before.queueNames
  nextQueueId : after.nextQueueId = before.nextQueueId
  fenceTokens : after.fenceTokens = before.fenceTokens
  identities : after.identities = before.identities
  healthy : after.healthy = true → before.healthy = true

theorem Touch.refl (fabric : Fabric J) : Touch fabric fabric :=
  ⟨rfl, rfl, rfl, rfl, rfl, rfl, rfl, rfl, rfl, rfl, id⟩

theorem Touch.trans {first second third : Fabric J} (one : Touch first second)
    (two : Touch second third) : Touch first third :=
  ⟨two.config.trans one.config, two.replaying.trans one.replaying, two.epoch.trans one.epoch,
    two.provenance.trans one.provenance, two.resources.trans one.resources,
    two.queues.trans one.queues, two.queueNames.trans one.queueNames,
    two.nextQueueId.trans one.nextQueueId, two.fenceTokens.trans one.fenceTokens,
    two.identities.trans one.identities, one.healthy ∘ two.healthy⟩

/-- The checks an accepted mutation of an existing queue has passed. -/
structure Admitted (fabric : Fabric J) (queue : QueueRecord) (request : MutationRequest)
    (now : Nanos) (tracker : ProvenanceTracker) (applied : KindApplied) : Prop where
  unseen : queue.findAttempt request.attempt = none
  authorized : ∃ resource, fabric.findResource queue.definition.resource = some resource ∧
    authorize resource.authority request.principal (requiredCapability request.kind)
      (if fabric.replaying then resource.authority.epoch else request.expectedEpoch)
      queue.applicability queue.lifecycle = none
  gate : fabric.admitProvenance request.provenance = .ok tracker
  expected : fabric.checkExpected queue request = none
  kind : applyKindLocked fabric queue request now = .ok applied

/-- The engine once the gate is passed and the kind accepted, before the journal is written. -/
def accepted (fabric : Fabric J) (tracker : ProvenanceTracker) (applied : KindApplied) :
    Fabric J :=
  { fabric with
    provenance := tracker
    fenceTokens := applied.fenceTokens
    stats := applied.stats }

variable [IJournal J]

inductive ExistingCase (fabric : Fabric J) (key : QueueId) (queue : QueueRecord)
    (request : MutationRequest) (now : Nanos) : Reply J MutationOutcome → Prop
  | answered (memo : AttemptMemo) (recorded : queue.findAttempt request.attempt = some memo) :
      ExistingCase fabric key queue request now
        (fabric.answerFromMemo key queue request now memo)
  | refused (tracker : ProvenanceTracker) (refusal : Refusal)
      (unseen : queue.findAttempt request.attempt = none)
      (gate : tracker = fabric.provenance ∨
        fabric.admitProvenance request.provenance = .ok tracker)
      (real : refusal.status.isOk = false) :
      ExistingCase fabric key queue request now
        ({ fabric with provenance := tracker }.reject key queue request refusal [])
  | undurable (tracker : ProvenanceTracker) (applied : KindApplied) (refusal : Refusal)
      (after : Fabric J) (admitted : Admitted fabric queue request now tracker applied)
      (durable : isDurable request.kind = true)
      (failed : (fabric.accepted tracker applied).commitDurably request = (some refusal, after))
      (real : refusal.status.isOk = false) :
      ExistingCase fabric key queue request now
        (after.reject key queue request refusal applied.events)
  | published (tracker : ProvenanceTracker) (applied : KindApplied) (after : Fabric J)
      (admitted : Admitted fabric queue request now tracker applied)
      (committed : if isDurable request.kind then
        (fabric.accepted tracker applied).commitDurably request = (none, after)
        else after = fabric.accepted tracker applied) :
      ExistingCase fabric key queue request now (after.publish key queue request now applied)

omit [IJournal J] in
theorem applyKindLocked_provenance (fabric : Fabric J) (tracker : ProvenanceTracker)
    (queue : QueueRecord) (request : MutationRequest) (now : Nanos) :
    applyKindLocked { fabric with provenance := tracker } queue request now =
      applyKindLocked fabric queue request now := rfl

omit [IJournal J] in
theorem authorize_honest {authority : AuthorityVector} {principal : OwnerId}
    {required : Capability} {presented : Epoch} {applicability : Applicability}
    {lifecycle : Lifecycle} {refusal : Refusal}
    (refused : authorize authority principal required presented applicability lifecycle =
      some refusal) : refusal.status.isOk = false := by
  rw [authorize] at refused
  repeat' split at refused
  all_goals
    cases refused
    try rfl

omit [IJournal J] in
theorem admitProvenance_plain {fabric : Fabric J} {provenance : Provenance} :
    Plain (fabric.admitProvenance provenance) := by
  rw [admitProvenance]
  refine .ite (plain_ok _) ?_
  split
  · rename_i accepted
    have observed : (fabric.provenance.observe provenance).1 = .success := by
      simp only [ProvenanceTracker.observe, accepted]
    simp only [observed]
    exact plain_ok _
  · cases fabric.provenance.classify provenance <;> exact plain_ruled _ (by decide)

omit [IJournal J] in
theorem checkExpected_plain {fabric : Fabric J} {queue : QueueRecord}
    {request : MutationRequest} {refusal : Refusal}
    (refused : fabric.checkExpected queue request = some refusal) :
    refusal.status.code ≠ .ok ∧ refusal.status.code ≠ .authorityDenied := by
  rw [checkExpected] at refused
  repeat' split at refused
  all_goals
    cases refused
    try decide

theorem commitDurably_honest {fabric after : Fabric J} {request : MutationRequest}
    {refusal : Refusal} (failed : fabric.commitDurably request = (some refusal, after)) :
    refusal.status.isOk = false := by
  rw [commitDurably] at failed
  split at failed
  · rw [Prod.mk.injEq] at failed
    obtain ⟨refused, _⟩ := failed
    split at refused
    · rename_i lost
      cases refused
      simpa using lost
    · cases refused
  · split at failed
    · cases failed
      rfl
    · cases failed

/-- Every application to an existing queue ends in one of the listed cases. -/
theorem applyExistingLocked_cases (fabric : Fabric J) (key : QueueId) (queue : QueueRecord)
    (request : MutationRequest) (now : Nanos) :
    ExistingCase fabric key queue request now
      (fabric.applyExistingLocked key queue request now) := by
  have early : ∀ refusal, queue.findAttempt request.attempt = none →
      refusal.status.isOk = false →
      ExistingCase fabric key queue request now (fabric.reject key queue request refusal []) :=
    fun refusal unseen real => .refused fabric.provenance refusal unseen (.inl rfl) real
  rw [applyExistingLocked]
  cases recorded : queue.findAttempt request.attempt with
  | some memo => exact .answered memo recorded
  | none =>
      simp only [applyFresh]
      cases resourceFound : fabric.findResource queue.definition.resource with
      | none => exact early _ recorded rfl
      | some resource =>
          cases allowed : authorize resource.authority request.principal
              (requiredCapability request.kind)
              (if fabric.replaying then resource.authority.epoch else request.expectedEpoch)
              queue.applicability queue.lifecycle with
          | some refusal =>
              simpa only [allowed] using early refusal recorded (authorize_honest allowed)
          | none =>
              simp only [allowed]
              cases gate : fabric.admitProvenance request.provenance with
              | error refusal =>
                  exact early refusal recorded (admitProvenance_plain.honest refusal gate)
              | ok tracker =>
                  simp only []
                  cases expected : fabric.checkExpected queue request with
                  | some refusal =>
                      have same : { fabric with provenance := tracker }.checkExpected queue
                          request = some refusal := expected
                      simp only [same]
                      exact .refused tracker refusal recorded (.inr gate)
                        (decide_eq_false (checkExpected_plain expected).1)
                  | none =>
                      have same : { fabric with provenance := tracker }.checkExpected queue
                          request = none := expected
                      simp only [same, applyAdmitted, applyKindLocked_provenance]
                      cases kind : applyKindLocked fabric queue request now with
                      | error refusal =>
                          exact .refused tracker refusal recorded (.inr gate)
                            (applyKindLocked_honest refusal kind)
                      | ok applied =>
                          have admitted : Admitted fabric queue request now tracker applied :=
                            ⟨recorded, ⟨resource, resourceFound, allowed⟩, gate, expected, kind⟩
                          simp only []
                          by_cases durable : isDurable request.kind = true
                          · simp only [durable, ↓reduceIte]
                            cases commit : (fabric.accepted tracker applied).commitDurably
                                request with
                            | mk failure after =>
                                simp only [accepted] at commit
                                simp only [commit]
                                cases failure with
                                | some refusal =>
                                    exact .undurable tracker applied refusal after admitted
                                      durable commit (commitDurably_honest commit)
                                | none =>
                                    refine .published tracker applied after admitted ?_
                                    rw [if_pos durable]
                                    exact commit
                          · simp only [durable, Bool.false_eq_true, ↓reduceIte]
                            refine .published tracker applied _ admitted ?_
                            rw [if_neg durable]
                            rfl

/-- The checks an accepted declaration has passed before the journal is written. -/
structure Declarable (fabric : Fabric J) (request : MutationRequest)
    (payload : DeclareQueuePayload) (resource : ResourceRecord) : Prop where
  found : fabric.findResource payload.resource = some resource
  authorized : authorize resource.authority request.principal .declareQueue
    (if fabric.replaying then resource.authority.epoch else request.expectedEpoch)
    resource.applicability .active = none
  free : fabric.queueNames.get? (nameKey payload.resource payload.name) = none
  checked : fabric.checkDeclaration payload resource = none
  gate : fabric.checkDeclareProvenance request = none

inductive DeclareCase (fabric : Fabric J) (request : MutationRequest)
    (payload : DeclareQueuePayload) (now : Nanos) : Reply J MutationOutcome → Prop
  | refused (refusal : Refusal) :
      DeclareCase fabric request payload now (fabric.rejectUnbound refusal)
  | answered (id : QueueId)
      (taken : fabric.queueNames.get? (nameKey payload.resource payload.name) = some id) :
      DeclareCase fabric request payload now (fabric.answerDeclared request payload now id)
  | undurable (resource : ResourceRecord) (refusal : Refusal) (after : Fabric J)
      (declarable : Declarable fabric request payload resource)
      (failed : fabric.commitDurably request = (some refusal, after)) :
      DeclareCase fabric request payload now (after.rejectUnbound refusal)
  | committed (resource : ResourceRecord) (after : Fabric J)
      (declarable : Declarable fabric request payload resource)
      (written : fabric.commitDurably request = (none, after)) :
      DeclareCase fabric request payload now (after.admitDeclared request payload now resource)

theorem applyDeclareLocked_cases (fabric : Fabric J) (request : MutationRequest)
    (payload : DeclareQueuePayload) (now : Nanos) :
    DeclareCase fabric request payload now
      (fabric.applyDeclareLocked request payload now) := by
  rw [applyDeclareLocked]
  cases found : fabric.findResource payload.resource with
  | none => exact .refused _
  | some resource =>
      simp only []
      cases allowed : authorize resource.authority request.principal .declareQueue
          (if fabric.replaying then resource.authority.epoch else request.expectedEpoch)
          resource.applicability .active with
      | some refusal => exact .refused refusal
      | none =>
          simp only []
          cases free : fabric.queueNames.get? (nameKey payload.resource payload.name) with
          | some id => exact .answered id free
          | none =>
              simp only [declareFresh]
              cases checked : fabric.checkDeclaration payload resource with
              | some refusal => exact .refused refusal
              | none =>
                  simp only []
                  cases gate : fabric.checkDeclareProvenance request with
                  | some refusal => exact .refused refusal
                  | none =>
                      have declarable : Declarable fabric request payload resource :=
                        ⟨found, allowed, free, checked, gate⟩
                      simp only []
                      cases commit : fabric.commitDurably request with
                      | mk failure after =>
                          cases failure with
                          | some refusal =>
                              exact .undurable resource refusal after declarable commit
                          | none => exact .committed resource after declarable commit

/-- The begin and commit records of a mutation offered to the journal. -/
inductive Committed (encoded : Bytes) : Option J → Bool → Option J → Prop
  | unjournaled : Committed encoded none true none
  | required : Committed encoded none false none
  | unencoded (journal : J) (empty : encoded = []) :
      Committed encoded (some journal) false (some journal)
  | offered (journal : J) (ok : Bool) (nonempty : encoded ≠ [])
      (status : (commitRecords journal encoded).1.isOk = ok) :
      Committed encoded (some journal) ok (some (commitRecords journal encoded).2)

/-- The durability step leaves the engine alone and commits exactly when it reports no refusal. -/
theorem commitDurably_cases (fabric : Fabric J) (request : MutationRequest) :
    Touch fabric (fabric.commitDurably request).2 ∧
      Committed (encodeMutation request) fabric.journal
        (fabric.commitDurably request).1.isNone (fabric.commitDurably request).2.journal := by
  rw [commitDurably]
  cases present : fabric.journal with
  | none =>
      simp only []
      split
      · refine ⟨.refl fabric, ?_⟩
        rw [present]
        exact .required
      · refine ⟨.refl fabric, ?_⟩
        rw [present]
        exact .unjournaled
  | some journal =>
      simp only [journalCommitLocked]
      split
      · rename_i empty
        rw [List.isEmpty_iff] at empty
        refine ⟨.refl fabric, ?_⟩
        simp only [present]
        exact .unencoded journal empty
      · rename_i nonempty
        rw [List.isEmpty_iff] at nonempty
        refine ⟨⟨rfl, rfl, rfl, rfl, rfl, rfl, rfl, rfl, rfl, rfl, id⟩, ?_⟩
        refine .offered journal _ nonempty ?_
        cases (commitRecords journal (encodeMutation request)).1.isOk <;> rfl

theorem commitDurably_touch {fabric after : Fabric J} {request : MutationRequest}
    {failure : Option Refusal} (ended : fabric.commitDurably request = (failure, after)) :
    Touch fabric after := by
  have touch := (commitDurably_cases fabric request).1
  rwa [ended] at touch

theorem commitDurably_committed {fabric after : Fabric J} {request : MutationRequest}
    {failure : Option Refusal} (ended : fabric.commitDurably request = (failure, after)) :
    Committed (encodeMutation request) fabric.journal failure.isNone after.journal := by
  have committed := (commitDurably_cases fabric request).2
  rwa [ended] at committed

theorem published_touch {fabric after : Fabric J} {tracker : ProvenanceTracker}
    {applied : KindApplied} {request : MutationRequest}
    (committed : if isDurable request.kind then
      (fabric.accepted tracker applied).commitDurably request = (none, after)
      else after = fabric.accepted tracker applied) :
    Touch (fabric.accepted tracker applied) after := by
  split at committed
  · exact commitDurably_touch committed
  · exact committed ▸ .refl _

/-- What one call of `apply_locked` can do after the clock was read. -/
inductive ApplyCase (fabric : Fabric J) (request : MutationRequest) (now : Nanos) :
    Reply J MutationOutcome → Prop
  | stopped (stopping : fabric.shuttingDown = true) :
      ApplyCase fabric request now
        ⟨.error ⟨.shuttingDown, "fabric is shutting down"⟩, [], fabric⟩
  | unbound (refusal : Refusal) : ApplyCase fabric request now (fabric.rejectUnbound refusal)
  | declare (payload : DeclareQueuePayload) (reply : Reply J MutationOutcome)
      (valid : request.validate.isOk = true) (kind : request.kind = .declareQueue)
      (carried : request.payload = .declareQueue payload)
      (ended : DeclareCase fabric request payload now reply) :
      ApplyCase fabric request now reply
  | existing (queue : QueueRecord) (reply : Reply J MutationOutcome)
      (valid : request.validate.isOk = true) (kind : request.kind ≠ .declareQueue)
      (found : fabric.findQueue request.queue = some queue)
      (ended : ExistingCase fabric request.queue queue request now reply) :
      ApplyCase fabric request now reply

omit [IJournal J] in
theorem payloadMatches_of_valid {request : MutationRequest}
    (valid : request.validate.isOk = true) :
    payloadMatches request.kind request.payload = true := by
  by_contra mismatch
  rw [Bool.not_eq_true] at mismatch
  have refused : request.validate.isOk = false := by
    simp only [MutationRequest.validate, mismatch, Bool.not_false, ↓reduceIte]
    repeat' split
    all_goals rfl
  simp [refused] at valid

omit [IJournal J] in
theorem target_of_valid {request : MutationRequest} (valid : request.validate.isOk = true) :
    request.validateTarget.isOk = true := by
  by_contra failed
  rw [Bool.not_eq_true] at failed
  have refused : request.validate.isOk = false := by
    simp only [MutationRequest.validate, failed, Bool.not_false, ↓reduceIte]
    repeat' split
    all_goals first | rfl | exact failed
  exact absurd (refused.symm.trans valid) Bool.false_ne_true

omit [IJournal J] in
theorem declare_payload_of_valid {request : MutationRequest}
    (valid : request.validate.isOk = true) (kind : request.kind = .declareQueue) :
    ∃ payload, request.payload = .declareQueue payload := by
  have matched := payloadMatches_of_valid valid
  rw [kind] at matched
  cases carried : request.payload with
  | declareQueue payload => exact ⟨payload, rfl⟩
  | _ => simp [carried, payloadMatches] at matched

theorem applyAt_cases (fabric : Fabric J) (request : MutationRequest) (now : Nanos) :
    ApplyCase fabric request now (fabric.applyAt request now) := by
  rw [applyAt]
  by_cases stopping : fabric.shuttingDown = true
  · rw [if_pos stopping]
    exact .stopped stopping
  · rw [if_neg stopping]
    by_cases valid : request.validate.isOk = true
    · simp only [valid, Bool.not_true, Bool.false_eq_true, ↓reduceIte]
      by_cases kind : request.kind = .declareQueue
      · obtain ⟨payload, carried⟩ := declare_payload_of_valid valid kind
        simp only [kind, carried]
        exact .declare payload _ valid kind carried (applyDeclareLocked_cases ..)
      · split
        · rename_i declares _
          exact absurd declares kind
        · split
          · exact .unbound _
          · rename_i queue found
            exact .existing queue _ valid kind found (applyExistingLocked_cases ..)
    · simp only [valid, Bool.not_false, ↓reduceIte]
      exact .unbound _

end Fabric

end QueueFabric
