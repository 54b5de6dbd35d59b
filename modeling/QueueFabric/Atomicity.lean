import QueueFabric.QueueSteps

/-!
Failures leave the engine alone. An application that fails, or that is answered
from an earlier one, decides nothing. A topology call that fails changes nothing
either, with one exception: a backend registration is published before it is
written.
-/

namespace QueueFabric

open QueueRecord

namespace Fabric

variable {J : Type} [IJournal J]

/-! Applications. -/

/-- The tables beside the queues, and the counters a mutation moves. -/
structure SameTables (before after : Fabric J) : Prop where
  resources : after.resources = before.resources
  queueNames : after.queueNames = before.queueNames
  nextQueueId : after.nextQueueId = before.nextQueueId
  epoch : after.epoch = before.epoch
  plans : after.plans = before.plans

/-- Nothing a mutation decides has changed. -/
structure Undecided (before after : Fabric J) : Prop extends SameTables before after where
  queues : ∀ id, Option.Rel Unmoved (before.findQueue id) (after.findQueue id)

omit [IJournal J] in
theorem Moves.undecided {fabric : Fabric J} {request : MutationRequest} {now : Nanos}
    {result : Except Status MutationOutcome} {id : QueueId} {before after : Option QueueRecord}
    (moves : Moves fabric request now result id before after) (idle : ¬ Executed result) :
    Option.Rel Unmoved before after := by
  cases moves with
  | absent => exact .none
  | unmoved unmoved idle => exact .some unmoved
  | mutated named kind executed mutated => exact absurd executed idle
  | declared executed declared => exact absurd executed idle

theorem commitDurably_plans {fabric after : Fabric J} {request : MutationRequest}
    {failure : Option Refusal} (ended : fabric.commitDurably request = (failure, after)) :
    after.plans = fabric.plans := by
  have same : (fabric.commitDurably request).2.plans = fabric.plans := by
    rw [commitDurably]
    split
    · simp only [journalCommitLocked]
      split <;> rfl
    · split <;> rfl
  rwa [ended] at same

theorem commitDurably_tables {fabric after : Fabric J} {request : MutationRequest}
    {failure : Option Refusal} (ended : fabric.commitDurably request = (failure, after)) :
    SameTables fabric after := by
  have kept := commitDurably_touch ended
  exact ⟨kept.resources, kept.queueNames, kept.nextQueueId, kept.epoch, commitDurably_plans ended⟩

omit [IJournal J] in
theorem answerFromMemo_tables (fabric : Fabric J) (key : QueueId) (queue : QueueRecord)
    (request : MutationRequest) (now : Nanos) (memo : AttemptMemo) :
    SameTables fabric (fabric.answerFromMemo key queue request now memo).fabric := by
  rw [answerFromMemo]
  split
  · exact ⟨rfl, rfl, rfl, rfl, rfl⟩
  · split <;> exact ⟨rfl, rfl, rfl, rfl, rfl⟩

theorem ExistingCase.tables {fabric : Fabric J} {key : QueueId} {queue : QueueRecord}
    {request : MutationRequest} {now : Nanos} {reply : Reply J MutationOutcome}
    (ended : ExistingCase fabric key queue request now reply) :
    SameTables fabric reply.fabric := by
  cases ended with
  | answered memo recorded => exact answerFromMemo_tables ..
  | refused tracker refusal unseen gate real => exact ⟨rfl, rfl, rfl, rfl, rfl⟩
  | undurable tracker applied refusal after admitted durable failed real =>
      have kept := commitDurably_tables failed
      exact ⟨kept.resources, kept.queueNames, kept.nextQueueId, kept.epoch, kept.plans⟩
  | published tracker applied after admitted committed =>
      have kept : SameTables (fabric.accepted tracker applied) after := by
        split at committed
        · exact commitDurably_tables committed
        · exact committed ▸ ⟨rfl, rfl, rfl, rfl, rfl⟩
      exact ⟨kept.resources, kept.queueNames, kept.nextQueueId, kept.epoch, kept.plans⟩

theorem DeclareCase.tables {fabric : Fabric J} {request : MutationRequest}
    {payload : DeclareQueuePayload} {now : Nanos} {reply : Reply J MutationOutcome}
    (ended : DeclareCase fabric request payload now reply) (idle : ¬ Executed reply.result) :
    SameTables fabric reply.fabric := by
  cases ended with
  | refused refusal => exact ⟨rfl, rfl, rfl, rfl, rfl⟩
  | answered id taken =>
      rw [answerDeclared]
      split
      · exact ⟨rfl, rfl, rfl, rfl, rfl⟩
      · split <;> exact ⟨rfl, rfl, rfl, rfl, rfl⟩
  | undurable resource refusal after declarable failed =>
      have kept := commitDurably_tables failed
      exact ⟨kept.resources, kept.queueNames, kept.nextQueueId, kept.epoch, kept.plans⟩
  | committed resource after declarable written =>
      have kept := commitDurably_tables written
      rw [admitDeclared] at idle ⊢
      split at idle
      · exact absurd ⟨_, rfl, rfl⟩ idle
      · rename_i live
        simp only [live, Bool.false_eq_true, ↓reduceIte] at idle ⊢
        split at idle
        · rename_i refused
          rw [if_pos refused]
          exact ⟨kept.resources, kept.queueNames, kept.nextQueueId, kept.epoch, kept.plans⟩
        · exact absurd ⟨_, rfl, rfl⟩ idle

theorem ApplyCase.undecided {fabric : Fabric J} {request : MutationRequest} {now : Nanos}
    {reply : Reply J MutationOutcome} (ended : ApplyCase fabric request now reply)
    (idle : ¬ Executed reply.result) : Undecided fabric reply.fabric := by
  have tables : SameTables fabric reply.fabric := by
    cases ended with
    | stopped stopping => exact ⟨rfl, rfl, rfl, rfl, rfl⟩
    | unbound refusal => exact ⟨rfl, rfl, rfl, rfl, rfl⟩
    | declare payload reply valid kind carried ended => exact ended.tables idle
    | existing queue reply valid kind found ended => exact ended.tables
  exact ⟨tables, fun id => (ended.moves id).undecided idle⟩

/-- A failed or replayed application changes nothing that a mutation decides. -/
theorem apply_failure_atomic (fabric : Fabric J) (request : MutationRequest)
    (failed : (∃ status, (fabric.apply request).result = .error status) ∨
      ∃ outcome, (fabric.apply request).result = .ok outcome ∧ outcome.replayed = true) :
    Undecided fabric (fabric.apply request).fabric := by
  have ended := applyAt_cases fabric.monotonicNow.2 request fabric.monotonicNow.1
  have idle : ¬ Executed (fabric.applyLocked request).result := by
    rintro ⟨outcome, succeeded, new⟩
    have same : (fabric.apply request).result = .ok outcome := succeeded
    rcases failed with ⟨status, failed⟩ | ⟨other, succeeded, replayed⟩
    · rw [same] at failed
      cases failed
    · rw [same, Except.ok.injEq] at succeeded
      rw [← succeeded, new] at replayed
      cases replayed
  have undecided := ended.undecided idle
  exact ⟨⟨undecided.resources, undecided.queueNames, undecided.nextQueueId, undecided.epoch,
    undecided.plans⟩, undecided.queues⟩

/-! Topology. -/

/-- The resource records, the epoch and every queue record are as they were. -/
structure Intact (before after : Fabric J) : Prop where
  resources : after.resources = before.resources
  epoch : after.epoch = before.epoch
  queues : after.queues = before.queues

omit [IJournal J] in
theorem Touch.intact {before after : Fabric J} (touch : Touch before after) :
    Intact before after := ⟨touch.resources, touch.epoch, touch.queues⟩

omit [IJournal J] in
theorem Refused.intact {α : Type} {before : Fabric J} {reply : Reply J α}
    (refused : Refused before reply) : Intact before reply.fabric :=
  ⟨refused.touch.resources, refused.touch.epoch, refused.touch.queues⟩

/-- The topology operations, the epoch advance among them. -/
def topological : Call → Bool
  | .declareResource .. => true
  | .grantCapabilities .. => true
  | .declareClass .. => true
  | .declarePool .. => true
  | .registerBackend .. => true
  | .markBackendDead .. => true
  | .advanceEpoch .. => true
  | _ => false

/-- The write of one record fails: the journal refuses it, or a durable fabric has none. -/
def WriteFails (fabric : Fabric J) (type : JournalRecordType) (payload : Bytes) : Prop :=
  match fabric.journal with
  | none => fabric.config.durable = true
  | some journal => (IJournal.append journal type payload).1.isOk = false ∨
      (IJournal.sync (IJournal.append journal type payload).2).1.isOk = false

theorem persist_fails_iff (fabric : Fabric J) (type : JournalRecordType) (payload : Bytes)
    (lost : String) :
    (fabric.persist type payload lost).1.isOk = false ↔ fabric.WriteFails type payload := by
  rw [persist, WriteFails]
  cases fabric.journal with
  | some journal =>
      simp only [persistIn]
      cases appended : (IJournal.append journal type payload).1.isOk with
      | false => simp [appended]
      | true =>
          cases flushed : (IJournal.sync (IJournal.append journal type payload).2).1.isOk with
          | false =>
              simp only [Bool.not_true, Bool.not_false, Bool.false_eq_true, ↓reduceIte, or_true,
                iff_true]
              rfl
          | true =>
              simp only [Bool.not_true, Bool.false_eq_true, ↓reduceIte, Bool.true_eq_false,
                or_self, iff_false]
              decide
  | none =>
      simp only []
      split
      · rename_i durable
        simp only [durable, iff_true]
        rfl
      · rename_i volatile
        simp only [volatile]
        decide

/-- A registration that passes its checks and then fails to write. -/
inductive LosesRegistration (fabric : Fabric J) : Call → Prop
  | intro (resource : ResourceId) (incarnation : Incarnation) (principal : OwnerId)
      (epoch : Epoch) (provenance : Provenance) (record : ResourceRecord)
      (passed : fabric.Registrable resource incarnation principal epoch provenance record)
      (lost : fabric.WriteFails .resourceState (encodeResourceState { record with
        backends := record.backends ++ [fabric.registration resource incarnation] })) :
      LosesRegistration fabric (.registerBackend resource incarnation principal epoch provenance)

theorem admitBackend_failed_iff (fabric : Fabric J) (record : ResourceRecord)
    (resource : ResourceId) (entry : BackendIncarnation) (now : Nanos) :
    (∃ status, (fabric.admitBackend record resource entry now).result = .error status) ↔
      fabric.WriteFails .resourceState
        (encodeResourceState { record with backends := record.backends ++ [entry] }) := by
  have written := persist_fails_iff { fabric with
    nextBackendId := fabric.nextBackendId + 1
    resources := fabric.resources.insert resource
      { record with backends := record.backends ++ [entry] } } .resourceState
    (encodeResourceState { record with backends := record.backends ++ [entry] })
    "backend registration is not durable"
  have same : WriteFails { fabric with
      nextBackendId := fabric.nextBackendId + 1
      resources := fabric.resources.insert resource
        { record with backends := record.backends ++ [entry] } } .resourceState
      (encodeResourceState { record with backends := record.backends ++ [entry] }) ↔
      fabric.WriteFails .resourceState
        (encodeResourceState { record with backends := record.backends ++ [entry] }) := Iff.rfl
  rw [← same, ← written, admitBackend]
  simp only [orRefuse]
  split
  · rename_i failed
    simp only [Bool.not_eq_true'] at failed
    simp only [failed, iff_true]
    exact ⟨_, rfl⟩
  · rename_i succeeded
    simp only [Bool.not_eq_true', Bool.not_eq_false] at succeeded
    simp only [succeeded, Bool.true_eq_false, iff_false]
    rintro ⟨status, impossible⟩
    cases impossible

theorem admitBackend_resources (fabric : Fabric J) (record : ResourceRecord)
    (resource : ResourceId) (entry : BackendIncarnation) (now : Nanos)
    (found : fabric.findResource resource = some record) :
    (fabric.admitBackend record resource entry now).fabric.resources ≠ fabric.resources := by
  have published : (fabric.admitBackend record resource entry now).fabric.resources =
      fabric.resources.insert resource
        { record with backends := record.backends ++ [entry] } := by
    have recorded := admitBackend_recorded fabric record resource entry now
    generalize fabric.admitBackend record resource entry now = reply at recorded
    cases recorded with
    | lost status events after touch written => exact touch.resources
    | kept events after touch written => exact touch.resources
  intro same
  have after := Table.get?_insert_self fabric.resources resource
    { record with backends := record.backends ++ [entry] }
  rw [← published, same, show fabric.resources.get? resource = some record from found,
    Option.some.injEq] at after
  have longer := congrArg (fun record : ResourceRecord => record.backends.length) after
  simp only [List.length_append, List.length_singleton] at longer
  omega

theorem registerBackend_atomic_iff (fabric : Fabric J) (resource : ResourceId)
    (incarnation : Incarnation) (principal : OwnerId) (epoch : Epoch) (provenance : Provenance) :
    let reply := fabric.registerBackend resource incarnation principal epoch provenance
    ((∃ status, reply.result = .error status) → Intact fabric reply.fabric) ↔
      ¬ fabric.LosesRegistration
        (.registerBackend resource incarnation principal epoch provenance) := by
  intro reply
  rcases registerBackend_split fabric resource incarnation principal epoch provenance with
    ⟨refused, barred⟩ | ⟨record, passed, published⟩
  · refine ⟨fun _ loses => ?_, fun _ _ => refused.intact⟩
    cases loses with
    | intro _ _ _ _ _ record passed lost => exact barred record passed
  · have failed := admitBackend_failed_iff fabric.monotonicNow.2 record resource
      (fabric.registration resource incarnation) fabric.monotonicNow.1
    rw [← published] at failed
    constructor
    · intro atomic loses
      cases loses with
      | intro _ _ _ _ _ other allowed lost =>
          have same : other = record := Option.some.inj (allowed.found.symm.trans passed.found)
          subst same
          have changed := admitBackend_resources fabric.monotonicNow.2 other resource
            (fabric.registration resource incarnation) fabric.monotonicNow.1 passed.found
          rw [← published] at changed
          exact changed (atomic (failed.mpr lost)).resources
    · intro kept lost
      exact absurd (.intro resource incarnation principal epoch provenance record passed
        (failed.mp lost)) kept

theorem Recorded.intact {α : Type} {before lost kept : Fabric J} {type : JournalRecordType}
    {payload : Bytes} {value : α} {reply : Reply J α}
    (recorded : Recorded before type payload lost kept value reply)
    (failed : ∃ status, reply.result = .error status) (same : Intact before lost) :
    Intact before reply.fabric := by
  cases recorded with
  | lost status events after touch written =>
      exact ⟨touch.resources.trans same.resources, touch.epoch.trans same.epoch,
        touch.queues.trans same.queues⟩
  | kept events after touch written =>
      obtain ⟨status, impossible⟩ := failed
      cases impossible

omit [IJournal J] in
theorem answered_failed {α : Type} (reply : Reply J α) (render : α → Answer) :
    (∃ status, (reply.answered render).result = .error status) ↔
      ∃ status, reply.result = .error status := by
  rw [Reply.answered]
  cases reply.result with
  | ok value => simp [Except.map]
  | error status => simp [Except.map]

/-- A failing topology call changes nothing, exactly when it is not a registration that fails to
write. -/
theorem topology_failure_atomic_iff (fabric : Fabric J) (call : Call)
    (topology : topological call = true) :
    ((∃ status, (fabric.serve call).result = .error status) →
      Intact fabric (fabric.serve call).fabric) ↔ ¬ fabric.LosesRegistration call := by
  have ended := serve_cases fabric call
  -- every other call publishes what it has written
  have atomic : (∀ resource incarnation principal epoch provenance,
      call ≠ .registerBackend resource incarnation principal epoch provenance) →
      (((∃ status, (fabric.serve call).result = .error status) →
        Intact fabric (fabric.serve call).fabric) ↔ ¬ fabric.LosesRegistration call) := by
    intro other
    refine iff_of_true (fun failed => ?_) fun loses => ?_
    · generalize fabric.serve call = reply at ended failed
      cases ended with
      | refused refused => exact refused.intact
      | edited lost kept updated value spent issued edit recorded =>
          cases edit with
          | registered resource incarnation principal epoch provenance record backends found =>
              exact absurd rfl (other resource incarnation principal epoch provenance)
          | _ => exact recorded.intact failed ⟨rfl, rfl, rfl⟩
      | classed resource name priority qos principal epoch provenance record cls classes
          nextClassId generation found declared recorded =>
          exact recorded.intact failed ⟨rfl, rfl, rfl⟩
      | advanced principal provenance epoch payload minted recorded =>
          exact recorded.intact failed ⟨rfl, rfl, rfl⟩
      | _ => cases topology
    · cases loses with
      | intro resource incarnation principal epoch provenance record passed lost =>
          exact other resource incarnation principal epoch provenance rfl
  cases call with
  | registerBackend resource incarnation principal epoch provenance =>
      have direct := registerBackend_atomic_iff fabric resource incarnation principal epoch
        provenance
      simp only [serve, answered_failed]
      exact direct
  | _ => exact atomic (fun _ _ _ _ _ => by simp)

end Fabric

namespace System

theorem error_of_not_ok {α : Type} {result : Except Status α} (failed : result.isOk = false) :
    ∃ status, result = .error status := by
  cases result with
  | error status => exact ⟨status, rfl⟩
  | ok value => cases failed

/-- The sample system with a journal that refuses its third call. -/
def failingSync : Fabric StableStore := withScript sampleSystem.fabric [true, true, false]

theorem apply_failure_atomic_unsynced :
    let reply := failingSync.apply (sampleRequest 2 .validateQueue .monostate)
    reply.result.isOk = false ∧ failingSync.Undecided reply.fabric := by
  have failed : (failingSync.apply
      (sampleRequest 2 .validateQueue .monostate)).result.isOk = false := by decide +kernel
  exact ⟨failed, Fabric.apply_failure_atomic _ _ (.inl (error_of_not_ok failed))⟩

/-- The sample system with a journal that refuses its next call. -/
def failingAppend : Fabric StableStore := withScript sampleSystem.fabric [false]

theorem topology_failure_atomic_pool :
    let reply := failingAppend.serve (.declarePool ⟨1⟩ (text "p") 9 ⟨5⟩ ⟨1⟩ (sampleProvenance 1))
    reply.result.isOk = false ∧ failingAppend.Intact reply.fabric := by
  intro reply
  have failed : reply.result.isOk = false := by decide +kernel
  refine ⟨failed, (Fabric.topology_failure_atomic_iff failingAppend
    (.declarePool ⟨1⟩ (text "p") 9 ⟨5⟩ ⟨1⟩ (sampleProvenance 1)) rfl).mpr ?_
    (error_of_not_ok failed)⟩
  rintro ⟨⟩

/-- A registration reported as failed is in force. -/
theorem failed_registration_stays :
    let reply := failingAppend.serve (.registerBackend ⟨1⟩ ⟨1⟩ ⟨5⟩ ⟨1⟩ (sampleProvenance 1))
    reply.result.isOk = false ∧ ¬ failingAppend.Intact reply.fabric ∧
      (reply.fabric.findLiveBackend ⟨1⟩ ⟨1⟩).isSome = true := by
  intro reply
  have before : (failingAppend.findLiveBackend ⟨1⟩ ⟨1⟩).isSome = false := by decide +kernel
  have after : (reply.fabric.findLiveBackend ⟨1⟩ ⟨1⟩).isSome = true := by decide +kernel
  refine ⟨by decide +kernel, fun intact => ?_, after⟩
  simp only [Fabric.findLiveBackend, Fabric.findResource, intact.resources] at after
  simp only [Fabric.findLiveBackend, Fabric.findResource, after] at before
  cases before

end System

end QueueFabric
