import QueueFabric.QueueSteps
import QueueFabric.RecoveryCases

/-!
The clock watermark over a process life. Whatever the clock returns, no call
moves the watermark back.
-/

namespace QueueFabric

namespace Fabric

variable {J : Type}

/-- The watermark of `after` is not behind that of `before`. -/
def Elapses (before after : Fabric J) : Prop := before.clockWatermark ≤ after.clockWatermark

theorem Elapses.refl (fabric : Fabric J) : Elapses fabric fabric := Int64.le_refl _

theorem Elapses.trans {first second third : Fabric J} (one : Elapses first second)
    (two : Elapses second third) : Elapses first third := Int64.le_trans one two

theorem elapses_of_eq {before after : Fabric J}
    (same : after.clockWatermark = before.clockWatermark) : Elapses before after := by
  rw [Elapses, same]
  exact Int64.le_refl _

theorem monotonicNow_elapses (fabric : Fabric J) : Elapses fabric fabric.monotonicNow.2 := by
  simp only [Elapses, monotonicNow]
  split
  · rename_i later
    exact Int64.le_of_lt later
  · exact Int64.le_refl _

theorem monotonicNow_reading (fabric : Fabric J) :
    fabric.monotonicNow.1 = fabric.monotonicNow.2.clockWatermark := rfl

theorem refuse_elapses {α : Type} {start fabric : Fabric J} (elapsed : Elapses start fabric)
    (status : Status) : Elapses start (fabric.refuse status : Reply J α).fabric := elapsed

theorem announce_elapses {α : Type} {start fabric : Fabric J} (elapsed : Elapses start fabric)
    (value : α) (event : Nanos → Event) : Elapses start (fabric.announce value event).fabric :=
  elapsed.trans (monotonicNow_elapses fabric)

theorem orRefuse_elapses {α : Type} {start : Fabric J} {checked : Status × Fabric J}
    {next : Fabric J → Reply J α} (early : Elapses start checked.2)
    (later : ∀ middle : Fabric J, Elapses start middle → Elapses start (next middle).fabric) :
    Elapses start (orRefuse checked next).fabric := by
  rw [orRefuse]
  split
  · exact early
  · exact later checked.2 early

variable [IJournal J]

/-! One synced record. -/

theorem persistIn_watermark (fabric : Fabric J) (journal : J) (type : JournalRecordType)
    (payload : Bytes) (lost : String) :
    (fabric.persistIn journal type payload lost).2.clockWatermark = fabric.clockWatermark := by
  simp only [persistIn]
  split
  · rfl
  split
  · rfl
  · rfl

theorem persist_elapses {start fabric : Fabric J} (elapsed : Elapses start fabric)
    (type : JournalRecordType) (payload : Bytes) (lost : String) :
    Elapses start (fabric.persist type payload lost).2 := by
  refine elapsed.trans (elapses_of_eq ?_)
  rw [persist]
  split
  · exact persistIn_watermark _ _ _ _ _
  split
  · rfl
  · rfl

theorem persistIfJournaled_elapses {start fabric : Fabric J} (elapsed : Elapses start fabric)
    (type : JournalRecordType) (payload : Bytes) (lost : String) :
    Elapses start (fabric.persistIfJournaled type payload lost).2 := by
  refine elapsed.trans (elapses_of_eq ?_)
  rw [persistIfJournaled]
  split
  · exact persistIn_watermark _ _ _ _ _
  · rfl

theorem commitDurably_elapses {fabric after : Fabric J} {request : MutationRequest}
    {failure : Option Refusal} (ended : fabric.commitDurably request = (failure, after)) :
    Elapses fabric after := by
  have same : (fabric.commitDurably request).2.clockWatermark = fabric.clockWatermark := by
    rw [commitDurably]
    split
    · rw [journalCommitLocked]
      split
      · rfl
      · rfl
    split
    · rfl
    · rfl
  rw [ended] at same
  exact elapses_of_eq same

/-! Mutations. -/

theorem ExistingCase.elapses {fabric : Fabric J} {key : QueueId} {queue : QueueRecord}
    {request : MutationRequest} {now : Nanos} {reply : Reply J MutationOutcome}
    (ended : ExistingCase fabric key queue request now reply) : Elapses fabric reply.fabric := by
  cases ended with
  | answered memo recorded =>
      refine elapses_of_eq ?_
      rw [answerFromMemo]
      split
      · rfl
      simp only []
      split
      · rfl
      · rfl
  | refused tracker refusal unseen gate real => exact Elapses.refl fabric
  | undurable tracker applied refusal after admitted durable failed real =>
      have elapsed : Elapses (fabric.accepted tracker applied) after := commitDurably_elapses failed
      exact elapsed
  | published tracker applied after admitted committed =>
      have elapsed : Elapses (fabric.accepted tracker applied) after := by
        split at committed
        · exact commitDurably_elapses committed
        · exact committed ▸ .refl _
      exact elapsed

theorem DeclareCase.elapses {fabric : Fabric J} {request : MutationRequest}
    {payload : DeclareQueuePayload} {now : Nanos} {reply : Reply J MutationOutcome}
    (ended : DeclareCase fabric request payload now reply) : Elapses fabric reply.fabric := by
  cases ended with
  | refused refusal => exact Elapses.refl fabric
  | answered id taken =>
      refine elapses_of_eq ?_
      rw [answerDeclared]
      split
      · rfl
      split
      · rfl
      · rfl
  | undurable resource refusal after declarable failed =>
      have elapsed : Elapses fabric after := commitDurably_elapses failed
      exact elapsed
  | committed resource after declarable written =>
      refine (commitDurably_elapses written).trans (elapses_of_eq ?_)
      rw [admitDeclared]
      split
      · rfl
      simp only []
      split
      · rfl
      · rfl

theorem applyAt_elapses (fabric : Fabric J) (request : MutationRequest) (now : Nanos) :
    Elapses fabric (fabric.applyAt request now).fabric := by
  have ended := applyAt_cases fabric request now
  generalize fabric.applyAt request now = reply at ended
  cases ended with
  | stopped stopping => exact Elapses.refl fabric
  | unbound refusal => exact Elapses.refl fabric
  | declare payload reply valid kind carried ended => exact ended.elapses
  | existing queue reply valid kind found ended => exact ended.elapses

theorem applyLocked_elapses (fabric : Fabric J) (request : MutationRequest) :
    Elapses fabric (fabric.applyLocked request).fabric :=
  (monotonicNow_elapses fabric).trans (applyAt_elapses fabric.monotonicNow.2 request _)

/-! Topology and governance. -/

theorem publishResource_elapses {α : Type} {start fabric : Fabric J}
    (elapsed : Elapses start fabric) {updated : ResourceRecord} {id : ResourceId} {lost : String}
    {after : Fabric J → Reply J α}
    (later : ∀ middle : Fabric J, Elapses start middle → Elapses start (after middle).fabric) :
    Elapses start (fabric.publishResource updated id lost after).fabric :=
  orRefuse_elapses (persist_elapses elapsed _ _ _)
    fun middle elapsed => later { middle with resources := middle.resources.insert id updated } elapsed

theorem declareResource_elapses (fabric : Fabric J) (name : Text) (owner : OwnerId)
    (provenance : Provenance) :
    Elapses fabric (fabric.declareResource name owner provenance).fabric := by
  have read := monotonicNow_elapses fabric
  rw [declareResource]
  repeat' split
  all_goals try with_reducible exact refuse_elapses (.refl fabric) _
  rw [atNow, admitResource]
  split
  · exact read
  · refine orRefuse_elapses (persist_elapses read _ _ _) fun middle elapsed => ?_
    refine announce_elapses ?_ _ _
    exact elapsed

theorem grantCapabilities_elapses (fabric : Fabric J) (resource : ResourceId) (grantee : OwnerId)
    (capabilities : UInt32) (principal : OwnerId) (epoch : Epoch) (provenance : Provenance) :
    Elapses fabric
      (fabric.grantCapabilities resource grantee capabilities principal epoch provenance).fabric := by
  rw [grantCapabilities]
  repeat' split
  all_goals try with_reducible exact refuse_elapses (.refl fabric) _
  all_goals
    exact publishResource_elapses (.refl fabric) fun middle elapsed => announce_elapses elapsed _ _

theorem declareClass_elapses (fabric : Fabric J) (resource : ResourceId) (name : Text)
    (priority : UInt32) (qos : QosRef) (principal : OwnerId) (epoch : Epoch)
    (provenance : Provenance) :
    Elapses fabric
      (fabric.declareClass resource name priority qos principal epoch provenance).fabric := by
  rw [declareClass]
  repeat' split
  all_goals try with_reducible exact refuse_elapses (.refl fabric) _
  · refine refuse_elapses ?_ _
    exact Elapses.refl fabric
  · simp only [publishClass]
    refine publishResource_elapses ?_ fun middle elapsed => announce_elapses ?_ _ _
    · exact Elapses.refl fabric
    · exact elapsed

theorem declarePool_elapses (fabric : Fabric J) (resource : ResourceId) (name : Text)
    (capacityBytes : UInt64) (principal : OwnerId) (epoch : Epoch) (provenance : Provenance) :
    Elapses fabric
      (fabric.declarePool resource name capacityBytes principal epoch provenance).fabric := by
  rw [declarePool]
  repeat' split
  all_goals try with_reducible exact refuse_elapses (.refl fabric) _
  refine publishResource_elapses ?_ fun middle elapsed => announce_elapses elapsed _ _
  exact Elapses.refl fabric

theorem registerBackend_elapses (fabric : Fabric J) (resource : ResourceId)
    (incarnation : Incarnation) (principal : OwnerId) (epoch : Epoch) (provenance : Provenance) :
    Elapses fabric
      (fabric.registerBackend resource incarnation principal epoch provenance).fabric := by
  have read := monotonicNow_elapses fabric
  rw [registerBackend]
  repeat' split
  all_goals try with_reducible exact refuse_elapses (.refl fabric) _
  rw [atNow]
  split
  · exact read
  · refine orRefuse_elapses (persist_elapses ?_ _ _ _) fun middle elapsed => elapsed
    exact read

theorem markBackendDead_elapses (fabric : Fabric J) (backend : BackendId)
    (incarnation : Incarnation) (principal : OwnerId) (epoch : Epoch) :
    Elapses fabric (fabric.markBackendDead backend incarnation principal epoch).fabric := by
  rw [markBackendDead]
  repeat' split
  all_goals try with_reducible exact refuse_elapses (.refl fabric) _
  simp only []
  split
  · exact Elapses.refl fabric
  · refine orRefuse_elapses (persistIfJournaled_elapses (.refl fabric) _ _ _)
      fun middle elapsed => ?_
    refine announce_elapses ?_ _ _
    exact elapsed

theorem advanceEpoch_elapses (fabric : Fabric J) (principal : OwnerId) (provenance : Provenance) :
    Elapses fabric (fabric.advanceEpoch principal provenance).fabric := by
  simp only [advanceEpoch]
  repeat' split
  all_goals try with_reducible exact refuse_elapses (.refl fabric) _
  rw [admitEpoch]
  split
  · exact Elapses.refl fabric
  · refine orRefuse_elapses (persist_elapses (.refl fabric) _ _ _) fun middle elapsed => ?_
    refine announce_elapses ?_ _ _
    exact elapsed

omit [IJournal J] in
theorem invalidateEvidence_elapses (fabric : Fabric J) (id : QueueId) (principal : OwnerId)
    (epoch : Epoch) (reason : Text) :
    Elapses fabric (fabric.invalidateEvidence id principal epoch reason).fabric := by
  rw [invalidateEvidence]
  repeat' split
  all_goals try with_reducible exact refuse_elapses (.refl fabric) _
  refine announce_elapses ?_ _ _
  exact Elapses.refl fabric

/-! Plans and maintenance. -/

theorem planBackendApply_elapses (fabric : Fabric J) (id : QueueId) (expected : Generation)
    (principal : OwnerId) (provenance : Provenance) :
    Elapses fabric (fabric.planBackendApply id expected principal provenance).fabric := by
  have read := monotonicNow_elapses fabric
  simp only [planBackendApply]
  repeat' split
  all_goals try with_reducible exact refuse_elapses (.refl fabric) _
  rw [atNow, admitPlan]
  split
  · exact read
  · refine orRefuse_elapses read fun middle elapsed => ?_
    rw [recordPlan]
    split
    · exact elapsed
    · exact orRefuse_elapses (persist_elapses elapsed _ _ _) fun _ elapsed => elapsed

theorem acknowledgePlan_elapses {start fabric : Fabric J} (elapsed : Elapses start fabric)
    (plan : BackendPlan) (queue : QueueRecord) (request : MutationRequest) :
    Elapses start (fabric.acknowledgePlan plan queue request).fabric := by
  have served := (applyExistingLocked_cases fabric.monotonicNow.2 plan.queue queue request
    fabric.monotonicNow.1).elapses
  refine elapsed.trans ((monotonicNow_elapses fabric).trans ?_)
  simp only [acknowledgePlan, atNow]
  split
  · exact served
  · exact served

theorem commitBackendApply_elapses (fabric : Fabric J) (plan : BackendPlan)
    (applied : BackendApplied) (provenance : Provenance) :
    Elapses fabric (fabric.commitBackendApply plan applied provenance).fabric := by
  rw [commitBackendApply]
  repeat' split
  all_goals try with_reducible exact refuse_elapses (.refl fabric) _
  rw [commitPlan]
  split
  · exact Elapses.refl fabric
  · exact orRefuse_elapses (persist_elapses (.refl fabric) _ _ _)
      fun middle elapsed => acknowledgePlan_elapses elapsed _ _ _

theorem abortBackendApply_elapses (fabric : Fabric J) (plan : BackendPlan) (reason : Text) :
    Elapses fabric (fabric.abortBackendApply plan reason).fabric := by
  rw [abortBackendApply]
  split
  · exact Elapses.refl fabric
  simp only []
  split
  · exact Elapses.refl fabric
  · refine orRefuse_elapses (persistIfJournaled_elapses (.refl fabric) _ _ _)
      fun middle elapsed => ?_
    refine announce_elapses ?_ _ _
    exact elapsed

omit [IJournal J] in
theorem explain_elapses (fabric : Fabric J) (id : QueueId) (principal : OwnerId) :
    Elapses fabric (fabric.explain id principal).fabric := by
  rw [explain]
  split
  · exact Elapses.refl fabric
  · exact monotonicNow_elapses fabric

omit [IJournal J] in
theorem refreshFreshness_elapses (fabric : Fabric J) :
    Elapses fabric fabric.refreshFreshness.fabric := by
  rw [refreshFreshness]
  split
  · exact Elapses.refl fabric
  · exact monotonicNow_elapses fabric

theorem compact_elapses (fabric : Fabric J) : Elapses fabric fabric.compact.fabric := by
  rw [compact]
  repeat' split
  all_goals try with_reducible exact refuse_elapses (.refl fabric) _
  refine orRefuse_elapses ?_ fun middle elapsed => ?_
  · exact Elapses.refl fabric
  · exact elapsed

theorem shutdown_elapses (fabric : Fabric J) : Elapses fabric fabric.shutdown.fabric := by
  rw [shutdown]
  split
  · exact Elapses.refl fabric
  · refine announce_elapses ?_ _ _
    exact Elapses.refl fabric

/-! Recovery. -/

theorem replayAll_elapses (fabric : Fabric J) (requests : List MutationRequest) :
    Elapses fabric (fabric.replayAll requests) := by
  induction requests generalizing fabric with
  | nil => exact Elapses.refl fabric
  | cons request rest ih =>
      refine Elapses.trans ?_ (ih (fabric.replayOne request))
      have served := applyLocked_elapses { fabric with replaying := true } request
      simp only [replayOne]
      split
      · exact served
      · exact served

omit [IJournal J] in
theorem revalidateAll_elapses (fabric : Fabric J) (outstanding : List MutationRequest) :
    Elapses fabric (fabric.revalidateAll outstanding) := by
  have folded : ∀ marked : Fabric J,
      (outstanding.foldl noteUnfinished marked).clockWatermark = marked.clockWatermark := by
    induction outstanding with
    | nil => exact fun marked => rfl
    | cons request rest ih => exact fun marked => ih (marked.noteUnfinished request)
  exact elapses_of_eq (folded _)

theorem sealRecovery_elapses (fabric : Fabric J) (journal : J) :
    Elapses fabric (fabric.sealRecovery journal).fabric := by
  have recorded : (fabric.appendEpochStateLocked journal).2.clockWatermark =
      fabric.clockWatermark := by
    simp only [appendEpochStateLocked]
    split
    · rfl
    split
    · rfl
    split
    · rfl
    · rfl
  simp only [sealRecovery]
  generalize fabric.appendEpochStateLocked journal = written at recorded ⊢
  split
  · exact elapses_of_eq recorded
  · exact (elapses_of_eq recorded).trans (monotonicNow_elapses written.2)

theorem finishRecovery_elapses (fabric : Fabric J) (journal : J) :
    Elapses fabric (fabric.finishRecovery journal).fabric := by
  simp only [finishRecovery]
  split
  · exact Elapses.refl fabric
  · refine Elapses.trans ?_ (sealRecovery_elapses _ _)
    rw [dropTornTail]
    split
    · exact Elapses.refl fabric
    · exact Elapses.refl fabric

theorem recoverOpened_elapses (fabric : Fabric J) (journal : J) :
    Elapses fabric (fabric.recoverOpened journal).fabric := by
  have closed : ∀ start : Fabric J, Elapses start start.closeRecovery.fabric := by
    intro start
    rw [closeRecovery]
    split
    · exact finishRecovery_elapses _ _
    · exact Elapses.refl start
  rw [recoverOpened]
  cases (fabric.scanJournal journal).mintEpoch with
  | error status => exact Elapses.refl fabric
  | ok epoch =>
      refine Elapses.trans ?_ (closed _)
      refine Elapses.trans ?_ (revalidateAll_elapses _ _)
      refine Elapses.trans ?_ (replayAll_elapses _ _)
      exact elapses_of_eq rfl

theorem recover_elapses (fabric : Fabric J) : Elapses fabric fabric.recover.fabric := by
  have locked : Elapses fabric fabric.recoverLocked.fabric := by
    rw [recoverLocked]
    simp only []
    cases fabric.beginRecovery.journal with
    | none => exact Elapses.refl fabric
    | some journal =>
        simp only []
        split
        · exact Elapses.refl fabric
        · exact recoverOpened_elapses fabric.beginRecovery _
  exact locked

theorem serve_elapses (fabric : Fabric J) (call : Call) :
    Elapses fabric (fabric.serve call).fabric := by
  cases call with
  | recover => exact recover_elapses fabric
  | shutdown => exact shutdown_elapses fabric
  | declareResource name owner provenance => exact declareResource_elapses fabric _ _ _
  | grantCapabilities resource grantee capabilities principal epoch provenance =>
      exact grantCapabilities_elapses fabric _ _ _ _ _ _
  | declareClass resource name priority qos principal epoch provenance =>
      exact declareClass_elapses fabric _ _ _ _ _ _ _
  | declarePool resource name capacityBytes principal epoch provenance =>
      exact declarePool_elapses fabric _ _ _ _ _ _
  | registerBackend resource incarnation principal epoch provenance =>
      exact registerBackend_elapses fabric _ _ _ _ _
  | markBackendDead backend incarnation principal epoch =>
      exact markBackendDead_elapses fabric _ _ _ _
  | advanceEpoch principal provenance => exact advanceEpoch_elapses fabric _ _
  | invalidateEvidence queue principal epoch reason =>
      exact invalidateEvidence_elapses fabric _ _ _ _
  | apply request => exact applyLocked_elapses fabric request
  | planBackendApply queue expected principal provenance =>
      exact planBackendApply_elapses fabric _ _ _ _
  | commitBackendApply plan applied provenance => exact commitBackendApply_elapses fabric _ _ _
  | abortBackendApply plan reason => exact abortBackendApply_elapses fabric _ _
  | explain queue principal => exact explain_elapses fabric _ _
  | refreshFreshness => exact refreshFreshness_elapses fabric
  | compact => exact compact_elapses fabric

end Fabric

end QueueFabric
