import QueueFabric.Lib.Runs
import QueueFabric.Atomicity

/-!
After a recovery that failed. It leaves the fabric unhealthy, but three calls are all
that ask: the others go on working on whatever the recovery had installed.
-/

namespace QueueFabric

namespace Fabric

variable {J : Type}

/-- A call that gets as far as its change without asking whether the fabric is healthy. -/
inductive Unasked (fabric : Fabric J) : Call → Prop
  | granted (resource : ResourceId) (grantee : OwnerId) (capabilities : UInt32)
      (principal : OwnerId) (epoch : Epoch) (provenance : Provenance) (record : ResourceRecord)
      (live : ¬ fabric.shuttingDown = true) (found : fabric.findResource resource = some record)
      (allowed : authorize record.authority principal .admin epoch record.applicability .active =
        none) :
      Unasked fabric (.grantCapabilities resource grantee capabilities principal epoch provenance)
  | classed (resource : ResourceId) (name : Text) (priority : UInt32) (qos : QosRef)
      (principal : OwnerId) (epoch : Epoch) (provenance : Provenance) (record : ResourceRecord)
      (live : ¬ fabric.shuttingDown = true) (found : fabric.findResource resource = some record)
      (allowed : authorize record.authority principal .declareTopology epoch record.applicability
        .active = none) :
      Unasked fabric (.declareClass resource name priority qos principal epoch provenance)
  | pooled (resource : ResourceId) (name : Text) (capacityBytes : UInt64) (principal : OwnerId)
      (epoch : Epoch) (provenance : Provenance) (record : ResourceRecord)
      (live : ¬ fabric.shuttingDown = true) (found : fabric.findResource resource = some record)
      (allowed : authorize record.authority principal .declareTopology epoch record.applicability
        .active = none) :
      Unasked fabric (.declarePool resource name capacityBytes principal epoch provenance)
  | registered (resource : ResourceId) (incarnation : Incarnation) (principal : OwnerId)
      (epoch : Epoch) (provenance : Provenance) (record : ResourceRecord)
      (registrable : fabric.Registrable resource incarnation principal epoch provenance record) :
      Unasked fabric (.registerBackend resource incarnation principal epoch provenance)
  | buried (backend : BackendId) (incarnation : Incarnation) (principal : OwnerId) (epoch : Epoch)
      (key : ResourceId) (record : ResourceRecord) (live : ¬ fabric.shuttingDown = true)
      (found : fabric.resources.entries.find? (fun entry =>
        entry.2.backends.any fun registered => registered.backend = backend) = some (key, record))
      (allowed : authorize record.authority principal .admin epoch record.applicability .active =
        none) :
      Unasked fabric (.markBackendDead backend incarnation principal epoch)
  | invalidated (id : QueueId) (principal : OwnerId) (epoch : Epoch) (reason : Text)
      (queue : QueueRecord) (resource : ResourceRecord) (found : fabric.findQueue id = some queue)
      (home : fabric.findResource queue.definition.resource = some resource)
      (allowed : authorize resource.authority principal .admin epoch queue.applicability
        queue.lifecycle = none) :
      Unasked fabric (.invalidateEvidence id principal epoch reason)
  | declared (request : MutationRequest) (payload : DeclareQueuePayload) (resource : ResourceRecord)
      (live : ¬ fabric.shuttingDown = true) (valid : request.validate.isOk = true)
      (kind : request.kind = .declareQueue) (carried : request.payload = .declareQueue payload)
      (declarable : Declarable fabric request payload resource) :
      Unasked fabric (.apply request)
  | mutated (request : MutationRequest) (queue : QueueRecord) (resource : ResourceRecord)
      (live : ¬ fabric.shuttingDown = true) (valid : request.validate.isOk = true)
      (kind : request.kind ≠ .declareQueue) (found : fabric.findQueue request.queue = some queue)
      (unseen : queue.findAttempt request.attempt = none)
      (home : fabric.findResource queue.definition.resource = some resource)
      (allowed : authorize resource.authority request.principal (requiredCapability request.kind)
        (if fabric.replaying then resource.authority.epoch else request.expectedEpoch)
        queue.applicability queue.lifecycle = none) :
      Unasked fabric (.apply request)
  | remembered (request : MutationRequest) (queue : QueueRecord) (memo : AttemptMemo)
      (live : ¬ fabric.shuttingDown = true) (valid : request.validate.isOk = true)
      (kind : request.kind ≠ .declareQueue) (found : fabric.findQueue request.queue = some queue)
      (seen : queue.findAttempt request.attempt = some memo)
      (same : memo.fingerprint = request.fingerprint) (accepted : memo.outcome = .ok) :
      Unasked fabric (.apply request)
  | acknowledged (plan : BackendPlan) (applied : BackendApplied) (provenance : Provenance)
      (queue : QueueRecord) (live : ¬ fabric.shuttingDown = true)
      (held : fabric.plans.contains plan.attempt = true)
      (found : fabric.findQueue plan.queue = some queue)
      (current : queue.definition.generation = plan.expectedGeneration)
      (complete : provenance.valid = true) :
      Unasked fabric (.commitBackendApply plan applied provenance)
  | refreshed (live : ¬ fabric.shuttingDown = true) (populated : fabric.queues.size ≠ 0) :
      Unasked fabric .refreshFreshness

variable [IJournal J]

/-- A call that returns ok has changed nothing. -/
def Closed (fabric : Fabric J) (call : Call) : Prop :=
  (∃ answer, (fabric.serve call).result = .ok answer) → Intact fabric (fabric.serve call).fabric

theorem closed_of_refuse {α : Type} {fabric : Fabric J} {call : Call} {reply : Reply J α}
    {render : α → Answer} (served : fabric.serve call = reply.answered render)
    (refused : ∃ status, reply.result = .error status) : Closed fabric call := by
  obtain ⟨status, failed⟩ := refused
  rintro ⟨answer, succeeded⟩
  rw [served, Reply.answered, failed] at succeeded
  cases succeeded

/-! The calls that do not ask, one at a time: either they refuse or they get through. -/

theorem grantCapabilities_closed {fabric : Fabric J} {resource : ResourceId} {grantee : OwnerId}
    {capabilities : UInt32} {principal : OwnerId} {epoch : Epoch} {provenance : Provenance}
    (held : ¬ Unasked fabric
      (.grantCapabilities resource grantee capabilities principal epoch provenance)) :
    Closed fabric (.grantCapabilities resource grantee capabilities principal epoch provenance) := by
  refine closed_of_refuse rfl ?_
  rw [grantCapabilities]
  split
  · exact ⟨_, rfl⟩
  rename_i live
  split
  · exact ⟨_, rfl⟩
  split
  · exact ⟨_, rfl⟩
  rename_i record found
  split
  · exact ⟨_, rfl⟩
  rename_i allowed
  exact absurd (.granted resource grantee capabilities principal epoch provenance record live found
    allowed) held

theorem declareClass_closed {fabric : Fabric J} {resource : ResourceId} {name : Text}
    {priority : UInt32} {qos : QosRef} {principal : OwnerId} {epoch : Epoch}
    {provenance : Provenance}
    (held : ¬ Unasked fabric (.declareClass resource name priority qos principal epoch provenance)) :
    Closed fabric (.declareClass resource name priority qos principal epoch provenance) := by
  refine closed_of_refuse rfl ?_
  rw [declareClass]
  split
  · exact ⟨_, rfl⟩
  rename_i live
  split
  · exact ⟨_, rfl⟩
  split
  · exact ⟨_, rfl⟩
  split
  · exact ⟨_, rfl⟩
  rename_i record found
  split
  · exact ⟨_, rfl⟩
  rename_i allowed
  exact absurd (.classed resource name priority qos principal epoch provenance record live found
    allowed) held

theorem declarePool_closed {fabric : Fabric J} {resource : ResourceId} {name : Text}
    {capacityBytes : UInt64} {principal : OwnerId} {epoch : Epoch} {provenance : Provenance}
    (held : ¬ Unasked fabric (.declarePool resource name capacityBytes principal epoch provenance)) :
    Closed fabric (.declarePool resource name capacityBytes principal epoch provenance) := by
  refine closed_of_refuse rfl ?_
  rw [declarePool]
  split
  · exact ⟨_, rfl⟩
  rename_i live
  split
  · exact ⟨_, rfl⟩
  split
  · exact ⟨_, rfl⟩
  split
  · exact ⟨_, rfl⟩
  rename_i record found
  split
  · exact ⟨_, rfl⟩
  rename_i allowed
  exact absurd (.pooled resource name capacityBytes principal epoch provenance record live found
    allowed) held

theorem registerBackend_closed {fabric : Fabric J} {resource : ResourceId}
    {incarnation : Incarnation} {principal : OwnerId} {epoch : Epoch} {provenance : Provenance}
    (held : ¬ Unasked fabric (.registerBackend resource incarnation principal epoch provenance)) :
    Closed fabric (.registerBackend resource incarnation principal epoch provenance) := by
  rcases registerBackend_split fabric resource incarnation principal epoch provenance with
    ⟨refused, _⟩ | ⟨record, registrable, _⟩
  · exact closed_of_refuse rfl refused.failed
  · exact absurd (.registered resource incarnation principal epoch provenance record registrable)
      held

theorem markBackendDead_closed {fabric : Fabric J} {backend : BackendId}
    {incarnation : Incarnation} {principal : OwnerId} {epoch : Epoch}
    (held : ¬ Unasked fabric (.markBackendDead backend incarnation principal epoch)) :
    Closed fabric (.markBackendDead backend incarnation principal epoch) := by
  refine closed_of_refuse rfl ?_
  rw [markBackendDead]
  split
  · exact ⟨_, rfl⟩
  rename_i live
  split
  · exact ⟨_, rfl⟩
  rename_i key record found
  split
  · exact ⟨_, rfl⟩
  rename_i allowed
  exact absurd (.buried backend incarnation principal epoch key record live found allowed) held

theorem invalidateEvidence_closed {fabric : Fabric J} {id : QueueId} {principal : OwnerId}
    {epoch : Epoch} {reason : Text}
    (held : ¬ Unasked fabric (.invalidateEvidence id principal epoch reason)) :
    Closed fabric (.invalidateEvidence id principal epoch reason) := by
  refine closed_of_refuse rfl ?_
  rw [invalidateEvidence]
  split
  · exact ⟨_, rfl⟩
  rename_i queue found
  split
  · exact ⟨_, rfl⟩
  rename_i resource home
  split
  · exact ⟨_, rfl⟩
  rename_i allowed
  exact absurd (.invalidated id principal epoch reason queue resource found home allowed) held

theorem commitBackendApply_closed {fabric : Fabric J} {plan : BackendPlan}
    {applied : BackendApplied} {provenance : Provenance}
    (held : ¬ Unasked fabric (.commitBackendApply plan applied provenance)) :
    Closed fabric (.commitBackendApply plan applied provenance) := by
  refine closed_of_refuse rfl ?_
  rw [commitBackendApply]
  split
  · exact ⟨_, rfl⟩
  rename_i live
  split
  · exact ⟨_, rfl⟩
  rename_i reserved
  split
  · exact ⟨_, rfl⟩
  rename_i queue found
  split
  · exact ⟨_, rfl⟩
  rename_i current
  split
  · exact ⟨_, rfl⟩
  rename_i complete
  exact absurd (.acknowledged plan applied provenance queue live (by simpa using reserved) found
    (by simpa using current) (by simpa using complete)) held

/-- An application that gets no further than an answer leaves everything as it was. -/
theorem apply_closed {fabric : Fabric J} {request : MutationRequest}
    (held : ¬ Unasked fabric (.apply request)) : Closed fabric (.apply request) := by
  rintro ⟨answer, succeeded⟩
  have accepted : ∃ outcome, (fabric.applyLocked request).result = .ok outcome := by
    cases result : (fabric.applyLocked request).result with
    | ok outcome => exact ⟨outcome, rfl⟩
    | error status =>
        simp [serve, apply, Reply.emit, Reply.answered, result, Except.map] at succeeded
  obtain ⟨outcome, accepted⟩ := accepted
  suffices same : Intact fabric (fabric.applyLocked request).fabric from
    ⟨same.resources, same.epoch, same.queues⟩
  by_cases live : fabric.shuttingDown = true
  · have stopped : fabric.applyLocked request =
        ⟨.error ⟨.shuttingDown, "fabric is shutting down"⟩, [], fabric.monotonicNow.2⟩ :=
      if_pos live
    rw [stopped] at accepted
    cases accepted
  have ended := applyAt_cases fabric.monotonicNow.2 request fabric.monotonicNow.1
  rw [applyLocked] at accepted ⊢
  generalize fabric.monotonicNow.2.applyAt request fabric.monotonicNow.1 = reply at ended accepted ⊢
  cases ended with
  | stopped stopping => cases accepted
  | unbound refusal => cases accepted
  | declare payload reply valid kind carried ended =>
      cases ended with
      | refused refusal => cases accepted
      | answered id taken =>
          rw [answerDeclared]
          split
          · exact ⟨rfl, rfl, rfl⟩
          split
          · exact ⟨rfl, rfl, rfl⟩
          · exact ⟨rfl, rfl, rfl⟩
      | undurable resource refusal after declarable failed => cases accepted
      | committed resource after declarable written =>
          exact absurd (.declared request payload resource live valid kind carried
            ⟨declarable.found, declarable.authorized, declarable.free, declarable.checked,
              declarable.gate⟩) held
  | existing queue reply valid kind found ended =>
      cases ended with
      | answered memo recorded =>
          rw [answerFromMemo] at accepted
          split at accepted
          · cases accepted
          rename_i same
          simp only [] at accepted
          split at accepted
          · cases accepted
          rename_i ok
          exact absurd (.remembered request queue memo live valid kind found recorded
            (by simpa using same) (by simpa using ok)) held
      | refused tracker refusal unseen gate real => cases accepted
      | undurable tracker applied refusal after admitted durable failed real => cases accepted
      | published tracker applied after admitted committed =>
          obtain ⟨resource, home, allowed⟩ := admitted.authorized
          exact absurd (.mutated request queue resource live valid kind found admitted.unseen home
            allowed) held

omit [IJournal J] in
theorem refreshFreshness_intact {fabric : Fabric J} (held : ¬ Unasked fabric .refreshFreshness) :
    Intact fabric fabric.refreshFreshness.fabric := by
  rw [refreshFreshness]
  split
  · exact ⟨rfl, rfl, rfl⟩
  rename_i live
  have vacant : fabric.queues.entries = [] := by
    by_contra populated
    exact held (.refreshed live fun none => populated (List.eq_nil_of_length_eq_zero none))
  refine ⟨rfl, rfl, Table.eq_of_entries ?_⟩
  change fabric.queues.entries.map _ = _
  rw [vacant]
  rfl

/-- An unhealthy fabric is closed to every call that does not slip past the check. -/
theorem serve_closed {fabric : Fabric J} (ailing : fabric.healthy = false) {call : Call}
    (living : call ≠ .recover) (held : ¬ Unasked fabric call) : Closed fabric call := by
  cases call with
  | recover => exact absurd rfl living
  | shutdown => exact fun _ => (shutdown_cases fabric).1.intact
  | declareResource name owner provenance =>
      refine closed_of_refuse rfl ?_
      rw [declareResource]
      split
      · exact ⟨_, rfl⟩
      · rw [ailing]
        exact ⟨_, rfl⟩
  | grantCapabilities resource grantee capabilities principal epoch provenance =>
      exact grantCapabilities_closed held
  | declareClass resource name priority qos principal epoch provenance =>
      exact declareClass_closed held
  | declarePool resource name capacityBytes principal epoch provenance =>
      exact declarePool_closed held
  | registerBackend resource incarnation principal epoch provenance =>
      exact registerBackend_closed held
  | markBackendDead backend incarnation principal epoch => exact markBackendDead_closed held
  | advanceEpoch principal provenance =>
      refine closed_of_refuse rfl ?_
      simp only [advanceEpoch]
      split
      · exact ⟨_, rfl⟩
      · rw [ailing]
        exact ⟨_, rfl⟩
  | invalidateEvidence queue principal epoch reason => exact invalidateEvidence_closed held
  | apply request => exact apply_closed held
  | planBackendApply queue expected principal provenance =>
      refine closed_of_refuse rfl ?_
      rw [planBackendApply]
      split
      · exact ⟨_, rfl⟩
      · rw [ailing]
        exact ⟨_, rfl⟩
  | commitBackendApply plan applied provenance => exact commitBackendApply_closed held
  | abortBackendApply plan reason =>
      intro _
      have ended := abortBackendApply_cases fabric plan reason
      change Intact fabric (fabric.abortBackendApply plan reason).fabric
      generalize fabric.abortBackendApply plan reason = reply at ended ⊢
      rcases ended with refused | recorded
      · exact refused.intact
      · cases recorded with
        | lost status events after touch written => exact touch.intact
        | kept events after touch written => exact touch.intact
  | explain queue principal => exact fun _ => (explain_cases fabric queue principal).1.intact
  | refreshFreshness => exact fun _ => refreshFreshness_intact held
  | compact =>
      intro _
      rcases compact_cases fabric with refused | ⟨journal, present, touch, rewritten⟩
      · exact refused.intact
      · exact touch.intact

/-! Only a recovery heals. -/

theorem ExistingCase.healthy {fabric : Fabric J} {key : QueueId} {queue : QueueRecord}
    {request : MutationRequest} {now : Nanos} {reply : Reply J MutationOutcome}
    (ended : ExistingCase fabric key queue request now reply)
    (well : reply.fabric.healthy = true) : fabric.healthy = true := by
  cases ended with
  | answered memo recorded =>
      rw [answerFromMemo] at well
      split at well
      · exact well
      simp only [] at well
      split at well
      · exact well
      · exact well
  | refused tracker refusal unseen gate real => exact well
  | undurable tracker applied refusal after admitted durable failed real =>
      exact (commitDurably_touch failed).healthy well
  | published tracker applied after admitted committed =>
      exact (published_touch committed).healthy well

theorem DeclareCase.healthy {fabric : Fabric J} {request : MutationRequest}
    {payload : DeclareQueuePayload} {now : Nanos} {reply : Reply J MutationOutcome}
    (ended : DeclareCase fabric request payload now reply)
    (well : reply.fabric.healthy = true) : fabric.healthy = true := by
  cases ended with
  | refused refusal => exact well
  | answered id taken =>
      rw [answerDeclared] at well
      split at well
      · exact well
      split at well
      · exact well
      · exact well
  | undurable resource refusal after declarable failed =>
      exact (commitDurably_touch failed).healthy well
  | committed resource after declarable written =>
      refine (commitDurably_touch written).healthy ?_
      rw [admitDeclared] at well
      split at well
      · exact well
      simp only [] at well
      split at well
      · exact well
      · exact well

theorem ApplyCase.healthy {fabric : Fabric J} {request : MutationRequest} {now : Nanos}
    {reply : Reply J MutationOutcome} (ended : ApplyCase fabric request now reply)
    (well : reply.fabric.healthy = true) : fabric.healthy = true := by
  cases ended with
  | stopped stopping => exact well
  | unbound refusal => exact well
  | declare payload reply valid kind carried ended => exact ended.healthy well
  | existing queue reply valid kind found ended => exact ended.healthy well

theorem Recorded.healthy {α : Type} {before lost kept : Fabric J} {type : JournalRecordType}
    {payload : Bytes} {value : α} {reply : Reply J α}
    (recorded : Recorded before type payload lost kept value reply)
    (well : reply.fabric.healthy = true) : lost.healthy = true ∨ kept.healthy = true := by
  cases recorded with
  | lost status events after touch written => exact .inl (touch.healthy well)
  | kept events after touch written => exact .inr (touch.healthy well)

theorem serve_ailing {fabric : Fabric J} (ailing : fabric.healthy = false) {call : Call}
    (living : call ≠ .recover) : (fabric.serve call).fabric.healthy = false := by
  rw [← Bool.not_eq_true] at ailing ⊢
  intro well
  refine ailing ?_
  have ended := serve_cases fabric call
  generalize fabric.serve call = reply at ended well
  cases ended with
  | refused refused => exact refused.touch.healthy well
  | recovered => exact absurd rfl living
  | stopped touch journal => exact touch.healthy well
  | edited lost kept updated value spent issued edit recorded =>
      exact (or_self_iff.mp (recorded.healthy well) :)
  | classed resource name priority qos principal epoch provenance record cls classes nextClassId
      generation found declared recorded => exact (or_self_iff.mp (recorded.healthy well) :)
  | advanced principal provenance epoch payload minted recorded healthy named => exact healthy
  | invalidated id principal epoch reason queue events after found touch journal =>
      exact touch.healthy well
  | applied request now reply events after ended touch journal read =>
      exact ended.healthy (touch.healthy well)
  | gated id expected principal provenance accepted refused => exact refused.touch.healthy well
  | planned id expected principal provenance plan accepted recorded =>
      exact (or_self_iff.mp (recorded.healthy well) :)
  | committed plan applied provenance queue reply found ended =>
      cases ended with
      | refused refused => exact refused.touch.healthy well
      | lost status events after touch written => exact touch.healthy well
      | served middle now inner events after touch written ended final journal =>
          exact touch.healthy (ended.healthy (final.healthy well))
  | aborted plan reason recorded => exact (or_self_iff.mp (recorded.healthy well) :)
  | explained id principal touch journal => exact touch.healthy well
  | refreshed now touch journal => exact touch.healthy well
  | compacted journal present touch rewritten => exact touch.healthy well

/-! A recovery that fails. -/

theorem sealRecovery_ailing {fabric : Fabric J} {journal : J} {status : Status}
    (failed : (fabric.sealRecovery journal).result = .error status) :
    (fabric.sealRecovery journal).fabric.healthy = false := by
  simp only [sealRecovery] at failed ⊢
  split at failed
  · rename_i lost
    rw [if_pos lost]
    rfl
  · cases failed

theorem finishRecovery_ailing {fabric : Fabric J} {journal : J} {status : Status}
    (failed : (fabric.finishRecovery journal).result = .error status) :
    (fabric.finishRecovery journal).fabric.healthy = false := by
  simp only [finishRecovery] at failed ⊢
  split at failed
  · rename_i lost
    rw [if_pos lost]
    rfl
  · rename_i written
    rw [if_neg written]
    exact sealRecovery_ailing failed

theorem closeRecovery_ailing {fabric : Fabric J} {status : Status}
    (failed : fabric.closeRecovery.result = .error status) :
    fabric.closeRecovery.fabric.healthy = false := by
  rw [closeRecovery] at failed ⊢
  cases present : fabric.journal with
  | none =>
      rw [present] at failed
      cases failed
  | some journal =>
      rw [present] at failed
      exact finishRecovery_ailing failed

theorem recoverLocked_ailing {fabric : Fabric J} {status : Status}
    (failed : fabric.recoverLocked.result = .error status) :
    fabric.recoverLocked.fabric.healthy = false := by
  rw [recoverLocked] at failed ⊢
  simp only [] at failed ⊢
  cases present : fabric.beginRecovery.journal with
  | none =>
      simp only [present] at failed
      cases failed
  | some journal =>
      simp only [present] at failed ⊢
      split at failed
      · rename_i unopened
        rw [if_pos unopened]
      rename_i opened
      rw [if_neg opened]
      simp only [recoverOpened] at failed ⊢
      cases minted : (fabric.beginRecovery.scanJournal
          (IJournal.openJournal journal).2).mintEpoch with
      | error exhausted =>
          simp only [minted] at failed ⊢
          rfl
      | ok epoch =>
          simp only [minted] at failed ⊢
          exact closeRecovery_ailing failed

theorem recover_ailing {fabric : Fabric J}
    (failed : (fabric.serve .recover).result.isOk = false) :
    (fabric.serve .recover).fabric.healthy = false := by
  cases ended : fabric.recoverLocked.result with
  | error status => exact recoverLocked_ailing ended
  | ok value =>
      simp [serve, recover, Reply.emit, Reply.answered, ended, Except.map, Except.isOk,
        Except.toBool] at failed

/-- After a recovery that failed, every later call that returns ok has left the queues, the
resources and the epoch alone, as long as no call gets past the missing check. -/
theorem failed_recovery_closed (fabric : Fabric J)
    (failed : (fabric.serve .recover).result.isOk = false) {later : List Call}
    (held : Runs.Along (fun fabric call => (fabric.serve call).fabric)
      (fun fabric call => call ≠ .recover ∧ ¬ Unasked fabric call) (fabric.serve .recover).fabric
      later) :
    Runs.Along (fun fabric call => (fabric.serve call).fabric) Closed
      (fabric.serve .recover).fabric later := by
  have ailing := recover_ailing failed
  generalize (fabric.serve .recover).fabric = failing at held ailing
  induction later generalizing failing with
  | nil => trivial
  | cons call rest ih =>
      obtain ⟨⟨living, asked⟩, along⟩ := held
      exact ⟨serve_closed ailing living asked, ih _ along (serve_ailing ailing living)⟩

end Fabric

/-! A recovery whose epoch record cannot be synced, over the journal of the sample system. -/

namespace System

def failingRecovery : Fabric StableStore :=
  withScript (Fabric.create {} ⟨fun _ => 2000, 0⟩ (sampleSystem.fabric.journal.map (·.crash 0)) 8)
    [true, true, true, true, false]

/-- A validation presented after it, under the epoch it minted. -/
def lateValidation : MutationRequest :=
  { sampleRequest 2 .validateQueue .monostate with expectedEpoch := ⟨2⟩ }

theorem failed_recovery_closed_sample :
    Runs.Along (fun fabric call => (fabric.serve call).fabric) Fabric.Closed
      (failingRecovery.serve .recover).fabric
      [.advanceEpoch ⟨5⟩ (sampleProvenance 2), .compact] := by
  refine Fabric.failed_recovery_closed failingRecovery (by decide +kernel)
    ⟨⟨by simp, ?_⟩, ⟨by simp, ?_⟩, trivial⟩
  · intro unasked
    cases unasked
  · intro unasked
    cases unasked

/-- The recovery fails and the next application is accepted all the same. -/
theorem failed_recovery_not_closed :
    (failingRecovery.serve .recover).result.isOk = false ∧
      ¬ Runs.Along (fun fabric call => (fabric.serve call).fabric) Fabric.Closed
        (failingRecovery.serve .recover).fabric [.apply lateValidation] := by
  refine ⟨by decide +kernel, fun closed => ?_⟩
  have accepted : (((failingRecovery.serve .recover).fabric.serve
      (.apply lateValidation)).result).isOk = true := by decide +kernel
  have moved : ((failingRecovery.serve .recover).fabric.serve
      (.apply lateValidation)).fabric.queues.get? ⟨1⟩ ≠
        (failingRecovery.serve .recover).fabric.queues.get? ⟨1⟩ := by decide +kernel
  refine moved ?_
  cases ended : ((failingRecovery.serve .recover).fabric.serve (.apply lateValidation)).result with
  | error status =>
      rw [ended] at accepted
      cases accepted
  | ok answer => rw [(closed.1 ⟨answer, ended⟩).queues]

end System

end QueueFabric
