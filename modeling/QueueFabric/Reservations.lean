import QueueFabric.QueueSteps

/-!
Backend reservations over a process life. Two tables hold them, the plans and the
pending list; only the three calls of the two-phase application touch either, and
they keep both in step. A commit, though, works on the plan it is handed and not
on the one that was reserved.
-/

namespace QueueFabric

/-- The part of a fabric that its reservations live in. -/
structure Reservations where
  plans : Table AttemptId BackendPlan
  pending : List PendingAttempt
  shuttingDown : Bool
  config : FabricConfig

namespace Fabric

variable {J : Type}

def reservations (fabric : Fabric J) : Reservations :=
  ⟨fabric.plans, fabric.pending, fabric.shuttingDown, fabric.config⟩

/-! Steps that leave the reservations alone. -/

section Steps

variable [IJournal J]

theorem persistIn_reservations (fabric : Fabric J) (journal : J) (type : JournalRecordType)
    (payload : Bytes) (lost : String) :
    (fabric.persistIn journal type payload lost).2.reservations = fabric.reservations := by
  simp only [persistIn]
  split
  · rfl
  split
  · rfl
  · rfl

theorem persist_reservations (fabric : Fabric J) (type : JournalRecordType) (payload : Bytes)
    (lost : String) : (fabric.persist type payload lost).2.reservations = fabric.reservations := by
  rw [persist]
  split
  · exact persistIn_reservations _ _ _ _ _
  split
  · rfl
  · rfl

theorem persistIfJournaled_reservations (fabric : Fabric J) (type : JournalRecordType)
    (payload : Bytes) (lost : String) :
    (fabric.persistIfJournaled type payload lost).2.reservations = fabric.reservations := by
  rw [persistIfJournaled]
  split
  · exact persistIn_reservations _ _ _ _ _
  · rfl

omit [IJournal J] in
theorem orRefuse_reservations {α : Type} {held : Reservations} {checked : Status × Fabric J}
    {next : Fabric J → Reply J α} (early : checked.2.reservations = held)
    (later : ∀ middle : Fabric J, middle.reservations = held →
      (next middle).fabric.reservations = held) :
    (orRefuse checked next).fabric.reservations = held := by
  rw [orRefuse]
  split
  · exact early
  · exact later checked.2 early

theorem commitDurably_reservations {fabric after : Fabric J} {request : MutationRequest}
    {failure : Option Refusal} (ended : fabric.commitDurably request = (failure, after)) :
    after.reservations = fabric.reservations := by
  have same : (fabric.commitDurably request).2.reservations = fabric.reservations := by
    rw [commitDurably]
    split
    · rw [journalCommitLocked]
      split
      · rfl
      · rfl
    split
    · rfl
    · rfl
  rwa [ended] at same

omit [IJournal J] in
theorem answerFromMemo_reservations (fabric : Fabric J) (key : QueueId) (queue : QueueRecord)
    (request : MutationRequest) (now : Nanos) (memo : AttemptMemo) :
    (fabric.answerFromMemo key queue request now memo).fabric.reservations =
      fabric.reservations := by
  rw [answerFromMemo]
  split
  · rfl
  simp only []
  split
  · rfl
  · rfl

theorem ExistingCase.reservations {fabric : Fabric J} {key : QueueId} {queue : QueueRecord}
    {request : MutationRequest} {now : Nanos} {reply : Reply J MutationOutcome}
    (ended : ExistingCase fabric key queue request now reply) :
    reply.fabric.reservations = fabric.reservations := by
  cases ended with
  | answered memo recorded => exact answerFromMemo_reservations _ _ _ _ _ _
  | refused tracker refusal unseen gate real => rfl
  | undurable tracker applied refusal after admitted durable failed real =>
      have kept : after.reservations = (fabric.accepted tracker applied).reservations :=
        commitDurably_reservations failed
      exact kept
  | published tracker applied after admitted committed =>
      have kept : after.reservations = (fabric.accepted tracker applied).reservations := by
        split at committed
        · exact commitDurably_reservations committed
        · exact committed ▸ rfl
      exact kept

theorem DeclareCase.reservations {fabric : Fabric J} {request : MutationRequest}
    {payload : DeclareQueuePayload} {now : Nanos} {reply : Reply J MutationOutcome}
    (ended : DeclareCase fabric request payload now reply) :
    reply.fabric.reservations = fabric.reservations := by
  cases ended with
  | refused refusal => rfl
  | answered id taken =>
      rw [answerDeclared]
      split
      · rfl
      split
      · rfl
      · rfl
  | undurable resource refusal after declarable failed =>
      have kept : after.reservations = fabric.reservations := commitDurably_reservations failed
      exact kept
  | committed resource after declarable written =>
      refine Eq.trans ?_ (commitDurably_reservations written)
      rw [admitDeclared]
      split
      · rfl
      simp only []
      split
      · rfl
      · rfl

theorem applyAt_reservations (fabric : Fabric J) (request : MutationRequest) (now : Nanos) :
    (fabric.applyAt request now).fabric.reservations = fabric.reservations := by
  have ended := applyAt_cases fabric request now
  generalize fabric.applyAt request now = reply at ended
  cases ended with
  | stopped stopping => rfl
  | unbound refusal => rfl
  | declare payload reply valid kind carried ended => exact ended.reservations
  | existing queue reply valid kind found ended => exact ended.reservations

theorem apply_reservations (fabric : Fabric J) (request : MutationRequest) :
    (fabric.apply request).fabric.reservations = fabric.reservations :=
  applyAt_reservations fabric.monotonicNow.2 request fabric.monotonicNow.1

/-! Topology and governance. -/

theorem declareResource_reservations (fabric : Fabric J) (name : Text) (owner : OwnerId)
    (provenance : Provenance) :
    (fabric.declareResource name owner provenance).fabric.reservations = fabric.reservations := by
  rw [declareResource]
  repeat' split
  all_goals try rfl
  rw [atNow, admitResource]
  split
  · rfl
  · exact orRefuse_reservations (persist_reservations _ _ _ _) fun middle same => same

theorem publishResource_reservations {α : Type} {fabric : Fabric J} {held : Reservations}
    {updated : ResourceRecord} {id : ResourceId} {lost : String} {after : Fabric J → Reply J α}
    (start : fabric.reservations = held)
    (later : ∀ middle : Fabric J, middle.reservations = held →
      (after middle).fabric.reservations = held) :
    (fabric.publishResource updated id lost after).fabric.reservations = held :=
  orRefuse_reservations ((persist_reservations _ _ _ _).trans start)
    fun middle same => later { middle with resources := middle.resources.insert id updated } same

theorem grantCapabilities_reservations (fabric : Fabric J) (resource : ResourceId)
    (grantee : OwnerId) (capabilities : UInt32) (principal : OwnerId) (epoch : Epoch)
    (provenance : Provenance) :
    (fabric.grantCapabilities resource grantee capabilities principal epoch
      provenance).fabric.reservations = fabric.reservations := by
  rw [grantCapabilities]
  repeat' split
  all_goals first
    | rfl
    | exact publishResource_reservations rfl fun middle same => same

theorem declareClass_reservations (fabric : Fabric J) (resource : ResourceId) (name : Text)
    (priority : UInt32) (qos : QosRef) (principal : OwnerId) (epoch : Epoch)
    (provenance : Provenance) :
    (fabric.declareClass resource name priority qos principal epoch
      provenance).fabric.reservations = fabric.reservations := by
  rw [declareClass]
  repeat' split
  all_goals first
    | rfl
    | exact publishResource_reservations rfl fun middle same => same

theorem declarePool_reservations (fabric : Fabric J) (resource : ResourceId) (name : Text)
    (capacityBytes : UInt64) (principal : OwnerId) (epoch : Epoch) (provenance : Provenance) :
    (fabric.declarePool resource name capacityBytes principal epoch
      provenance).fabric.reservations = fabric.reservations := by
  rw [declarePool]
  repeat' split
  all_goals first
    | rfl
    | exact publishResource_reservations rfl fun middle same => same

theorem registerBackend_reservations (fabric : Fabric J) (resource : ResourceId)
    (incarnation : Incarnation) (principal : OwnerId) (epoch : Epoch) (provenance : Provenance) :
    (fabric.registerBackend resource incarnation principal epoch
      provenance).fabric.reservations = fabric.reservations := by
  rw [registerBackend]
  repeat' split
  all_goals try rfl
  rw [atNow]
  split
  · rfl
  · exact orRefuse_reservations (persist_reservations _ _ _ _) fun middle same => same

theorem markBackendDead_reservations (fabric : Fabric J) (backend : BackendId)
    (incarnation : Incarnation) (principal : OwnerId) (epoch : Epoch) :
    (fabric.markBackendDead backend incarnation principal epoch).fabric.reservations =
      fabric.reservations := by
  rw [markBackendDead]
  repeat' split
  all_goals try rfl
  simp only []
  split
  · rfl
  · exact orRefuse_reservations (persistIfJournaled_reservations _ _ _ _) fun middle same => same

theorem advanceEpoch_reservations (fabric : Fabric J) (principal : OwnerId)
    (provenance : Provenance) :
    (fabric.advanceEpoch principal provenance).fabric.reservations = fabric.reservations := by
  simp only [advanceEpoch]
  repeat' split
  all_goals try rfl
  rw [admitEpoch]
  split
  · rfl
  · exact orRefuse_reservations (persist_reservations _ _ _ _) fun middle same => same

omit [IJournal J] in
theorem invalidateEvidence_reservations (fabric : Fabric J) (id : QueueId) (principal : OwnerId)
    (epoch : Epoch) (reason : Text) :
    (fabric.invalidateEvidence id principal epoch reason).fabric.reservations =
      fabric.reservations := by
  rw [invalidateEvidence]
  repeat' split
  all_goals rfl

theorem compact_reservations (fabric : Fabric J) :
    fabric.compact.fabric.reservations = fabric.reservations := by
  rw [compact]
  repeat' split
  all_goals try rfl
  exact orRefuse_reservations rfl fun middle same => same

omit [IJournal J] in
theorem explain_reservations (fabric : Fabric J) (id : QueueId) (principal : OwnerId) :
    (fabric.explain id principal).fabric.reservations = fabric.reservations := by
  rw [explain]
  split
  · rfl
  · rfl

omit [IJournal J] in
theorem refreshFreshness_reservations (fabric : Fabric J) :
    fabric.refreshFreshness.fabric.reservations = fabric.reservations := by
  rw [refreshFreshness]
  split
  · rfl
  · rfl

/-! Recovery. -/

theorem replayAll_reservations (fabric : Fabric J) (requests : List MutationRequest) :
    (fabric.replayAll requests).reservations = fabric.reservations := by
  induction requests generalizing fabric with
  | nil => rfl
  | cons request rest ih =>
      refine (ih (fabric.replayOne request)).trans ?_
      have served := applyAt_reservations { fabric with replaying := true }.monotonicNow.2 request
        { fabric with replaying := true }.monotonicNow.1
      rw [replayOne]
      simp only []
      split
      · exact served
      · exact served

omit [IJournal J] in
theorem revalidateAll_reservations (fabric : Fabric J) (outstanding : List MutationRequest) :
    (fabric.revalidateAll outstanding).reservations = fabric.reservations := by
  have folded : ∀ marked : Fabric J,
      (outstanding.foldl noteUnfinished marked).reservations = marked.reservations := by
    induction outstanding with
    | nil => exact fun marked => rfl
    | cons request rest ih => exact fun marked => ih (marked.noteUnfinished request)
  exact folded _

theorem finishRecovery_reservations (fabric : Fabric J) (journal : J) :
    (fabric.finishRecovery journal).fabric.reservations = fabric.reservations := by
  have sealed : ∀ (start : Fabric J) (journal : J),
      (start.sealRecovery journal).fabric.reservations = start.reservations := by
    intro start journal
    have recorded : (start.appendEpochStateLocked journal).2.reservations =
        start.reservations := by
      simp only [appendEpochStateLocked]
      split
      · rfl
      split
      · rfl
      split
      · rfl
      · rfl
    simp only [sealRecovery]
    generalize start.appendEpochStateLocked journal = written at recorded ⊢
    split
    · exact recorded
    · exact recorded
  simp only [finishRecovery]
  split
  · rfl
  · refine (sealed _ _).trans ?_
    rw [dropTornTail]
    split
    · rfl
    · rfl

theorem recoverOpened_reservations (fabric : Fabric J) (journal : J) :
    (fabric.recoverOpened journal).fabric.reservations = fabric.reservations := by
  have replayed : ∀ (start : Fabric J) (scan : Scan) (epoch : Epoch),
      (start.replayScan scan epoch).reservations = start.reservations := fun start scan epoch =>
    (revalidateAll_reservations _ _).trans (replayAll_reservations _ _)
  have closed : ∀ start : Fabric J,
      start.closeRecovery.fabric.reservations = start.reservations := by
    intro start
    rw [closeRecovery]
    split
    · exact finishRecovery_reservations _ _
    · rfl
  rw [recoverOpened]
  cases (fabric.scanJournal journal).mintEpoch with
  | error status => rfl
  | ok epoch => exact (closed _).trans (replayed _ _ epoch)

theorem recover_reservations (fabric : Fabric J) :
    fabric.recover.fabric.reservations = fabric.reservations := by
  have locked : fabric.recoverLocked.fabric.reservations = fabric.reservations := by
    rw [recoverLocked]
    simp only []
    cases fabric.beginRecovery.journal with
    | none => rfl
    | some journal =>
        simp only []
        split
        · rfl
        · exact recoverOpened_reservations _ _
  exact locked

end Steps

end Fabric

/-! The calls that move a reservation. -/

namespace Reservations

/-- A plan joins both tables, unless the pending list is full and its oldest entry makes room. -/
def reserve (held : Reservations) (plan : BackendPlan) : Reservations :=
  let pending := held.pending ++
    [⟨plan.attempt, plan.queue, .acknowledgeBackend, plan.plannedAt⟩]
  { held with
    plans := held.plans.emplace plan.attempt plan
    pending := if pending.length > held.config.limits.maxPendingAttempts.toNat then
      pending.tail else pending }

def release (held : Reservations) (attempt : AttemptId) : Reservations :=
  { held with
    plans := held.plans.erase attempt
    pending := Fabric.erasePending attempt held.pending }

/-- Both tables hold the same attempts, each plan under its own, within the limit. -/
structure Agree (held : Reservations) : Prop where
  listed : (held.pending.map (·.attempt)).Perm held.plans.keys
  own : ∀ attempt plan, held.plans.get? attempt = some plan → plan.attempt = attempt
  bounded : held.plans.size ≤ held.config.limits.maxPendingAttempts.toNat

theorem map_erasePending (attempt : AttemptId) (pending : List PendingAttempt) :
    (Fabric.erasePending attempt pending).map (·.attempt) =
      (pending.map (·.attempt)).erase attempt := by
  induction pending with
  | nil => rfl
  | cons entry rest ih =>
      rw [Fabric.erasePending, List.map_cons, List.erase_cons]
      by_cases same : entry.attempt = attempt
      · simp [same]
      · simp [same, ih]

theorem Agree.reserve_pending {held : Reservations} (agree : held.Agree) {plan : BackendPlan}
    (room : held.plans.size < held.config.limits.maxPendingAttempts.toNat) :
    (held.reserve plan).pending = held.pending ++
      [⟨plan.attempt, plan.queue, .acknowledgeBackend, plan.plannedAt⟩] := by
  have few : held.pending.length = held.plans.size := by
    rw [← Table.length_keys, ← agree.listed.length_eq, List.length_map]
  rw [reserve, if_neg]
  rw [List.length_append, List.length_singleton]
  omega

theorem Agree.reserve {held : Reservations} (agree : held.Agree) {plan : BackendPlan}
    (room : held.plans.size < held.config.limits.maxPendingAttempts.toNat)
    (free : held.plans.get? plan.attempt = none) : (held.reserve plan).Agree where
  listed := by
    rw [agree.reserve_pending room, List.map_append]
    have grown : (held.reserve plan).plans.keys = held.plans.keys ++ [plan.attempt] :=
      Table.keys_emplace_of_absent plan free
    rw [grown]
    exact agree.listed.append_right _
  own := by
    intro attempt stored found
    have grown : (held.reserve plan).plans.get? attempt = (held.plans.get? attempt).or
        (if plan.attempt = attempt then some plan else none) := Table.get?_emplace _ _ _ _
    rw [grown, Option.or_eq_some_iff] at found
    rcases found with earlier | ⟨_, last⟩
    · exact agree.own attempt stored earlier
    · split at last
      · rename_i named
        cases last
        exact named
      · cases last
  bounded := by
    have grown : (held.reserve plan).plans.size ≤ held.plans.size + 1 :=
      Table.size_emplace_le _ _ _
    exact grown.trans room

theorem Agree.release {held : Reservations} (agree : held.Agree) (attempt : AttemptId) :
    (held.release attempt).Agree where
  listed := by
    rw [Reservations.release, map_erasePending, Table.keys_erase]
    exact agree.listed.erase attempt
  own := by
    intro other stored found
    have left : (held.release attempt).plans.get? other =
        if attempt = other then none else held.plans.get? other := Table.get?_erase _ _ _
    rw [left] at found
    split at found
    · cases found
    · exact agree.own other stored found
  bounded := (List.length_filter_le _ _).trans agree.bounded

/-- The call that commits or aborts a reservation of `attempt`. -/
inductive Releases (attempt : AttemptId) : Call → Prop
  | commit (plan : BackendPlan) (applied : BackendApplied) (provenance : Provenance)
      (named : plan.attempt = attempt) :
      Releases attempt (.commitBackendApply plan applied provenance)
  | abort (plan : BackendPlan) (reason : Text) (named : plan.attempt = attempt) :
      Releases attempt (.abortBackendApply plan reason)

/-- What a call, with its result, does to the reservations. -/
inductive Change (held : Reservations) : Call → Except Status Answer → Reservations → Prop
  | left {call : Call} {result : Except Status Answer} : Change held call result held
  | stopped : Change held .shutdown (.ok .done) { held with pending := [], shuttingDown := true }
  | reserved (id : QueueId) (expected : Generation) (principal : OwnerId)
      (provenance : Provenance) (plan : BackendPlan)
      (room : held.plans.size < held.config.limits.maxPendingAttempts.toNat)
      (free : held.plans.get? plan.attempt = none) :
      Change held (.planBackendApply id expected principal provenance) (.ok (.plan plan))
        (held.reserve plan)
  | released {call : Call} (attempt : AttemptId) (answer : Answer)
      (releases : Releases attempt call) :
      Change held call (.ok answer) (held.release attempt)

theorem Change.agree {before after : Reservations} {call : Call} {result : Except Status Answer}
    (change : Change before call result after) (running : call ≠ .shutdown)
    (agree : before.Agree) : after.Agree := by
  cases change with
  | left => exact agree
  | stopped => exact absurd rfl running
  | reserved id expected principal provenance plan room free => exact agree.reserve room free
  | released attempt answer releases => exact agree.release attempt

theorem Change.config {before after : Reservations} {call : Call} {result : Except Status Answer}
    (change : Change before call result after) : after.config = before.config := by
  cases change <;> rfl

/-- A plan stays as it is until a call that names its attempt succeeds. -/
theorem Change.keeps {before after : Reservations} {call : Call} {result : Except Status Answer}
    (change : Change before call result after) {attempt : AttemptId} {plan : BackendPlan}
    (held : before.plans.get? attempt = some plan) :
    after.plans.get? attempt = some plan ∨ Releases attempt call ∧ result.isOk = true := by
  cases change with
  | left => exact .inl held
  | stopped => exact .inl held
  | reserved id expected principal provenance other room free =>
      refine .inl ?_
      have grown : (before.reserve other).plans.get? attempt = (before.plans.get? attempt).or
          (if other.attempt = attempt then some other else none) := Table.get?_emplace _ _ _ _
      rw [grown, held, Option.some_or]
  | released other answer releases =>
      by_cases same : other = attempt
      · exact .inr ⟨same ▸ releases, rfl⟩
      · refine .inl ?_
        have left : (before.release other).plans.get? attempt =
            if other = attempt then none else before.plans.get? attempt := Table.get?_erase _ _ _
        rw [left, if_neg same, held]

end Reservations

namespace Fabric

variable {J : Type} [IJournal J]

open Reservations

omit [IJournal J] in
theorem change_refuse {α : Type} {held : Reservations} {fabric : Fabric J}
    (same : fabric.reservations = held) (status : Status) (call : Call) (render : α → Answer) :
    Change held call ((fabric.refuse status : Reply J α).answered render).result
      ((fabric.refuse status : Reply J α).answered render).fabric.reservations := by
  have after : ((fabric.refuse status : Reply J α).answered render).fabric.reservations = held :=
    same
  rw [after]
  exact .left

omit [IJournal J] in
theorem change_orRefuse {α : Type} {held : Reservations} {checked : Status × Fabric J}
    {next : Fabric J → Reply J α} {call : Call} {render : α → Answer}
    (early : checked.2.reservations = held)
    (later : ∀ middle : Fabric J, middle.reservations = held →
      Change held call ((next middle).answered render).result
        ((next middle).answered render).fabric.reservations) :
    Change held call ((orRefuse checked next).answered render).result
      ((orRefuse checked next).answered render).fabric.reservations := by
  rw [orRefuse]
  split
  · exact change_refuse early _ call render
  · exact later checked.2 early

theorem admitPlan_change (fabric : Fabric J) (plan : BackendPlan) (id : QueueId)
    (expected : Generation) (principal : OwnerId) (provenance : Provenance)
    (room : fabric.plans.size < fabric.config.limits.maxPendingAttempts.toNat) :
    Change fabric.reservations (.planBackendApply id expected principal provenance)
      ((fabric.admitPlan plan provenance).answered .plan).result
      ((fabric.admitPlan plan provenance).answered .plan).fabric.reservations := by
  rw [admitPlan]
  split
  · exact change_refuse rfl _ _ _
  rename_i taken
  have free : fabric.plans.get? plan.attempt = none := by
    simpa [Table.contains] using taken
  rw [reservePlan]
  refine change_orRefuse rfl fun gated same => ?_
  rw [recordPlan]
  split
  · exact change_refuse same _ _ _
  refine change_orRefuse ((persist_reservations _ _ _ _).trans same) fun middle kept => ?_
  have after : (middle.reserve plan).reservations = fabric.reservations.reserve plan := by
    rw [← kept]
    rfl
  have reserved := @Change.reserved fabric.reservations id expected principal provenance plan
    room free
  rw [← after] at reserved
  exact reserved

theorem planBackendApply_change (fabric : Fabric J) (id : QueueId) (expected : Generation)
    (principal : OwnerId) (provenance : Provenance) :
    Change fabric.reservations (.planBackendApply id expected principal provenance)
      ((fabric.planBackendApply id expected principal provenance).answered .plan).result
      ((fabric.planBackendApply id expected principal
        provenance).answered .plan).fabric.reservations := by
  rw [planBackendApply]
  split
  · exact change_refuse rfl _ _ _
  split
  · exact change_refuse rfl _ _ _
  split
  · exact change_refuse rfl _ _ _
  split
  · exact change_refuse rfl _ _ _
  split
  · exact change_refuse rfl _ _ _
  split
  · exact change_refuse rfl _ _ _
  simp only []
  split
  · exact change_refuse rfl _ _ _
  split
  · exact change_refuse rfl _ _ _
  split
  · exact change_refuse rfl _ _ _
  rename_i room
  split
  · exact change_refuse rfl _ _ _
  exact admitPlan_change fabric.monotonicNow.2 _ id expected principal provenance
    (Nat.lt_of_not_le room)

theorem commitBackendApply_change (fabric : Fabric J) (plan : BackendPlan)
    (applied : BackendApplied) (provenance : Provenance) :
    Change fabric.reservations (.commitBackendApply plan applied provenance)
      ((fabric.commitBackendApply plan applied provenance).answered .outcome).result
      ((fabric.commitBackendApply plan applied
        provenance).answered .outcome).fabric.reservations := by
  rw [commitBackendApply]
  split
  · exact change_refuse rfl _ _ _
  split
  · exact change_refuse rfl _ _ _
  split
  · exact change_refuse rfl _ _ _
  rename_i queue found
  split
  · exact change_refuse rfl _ _ _
  split
  · exact change_refuse rfl _ _ _
  rw [commitPlan]
  split
  · exact change_refuse rfl _ _ _
  refine change_orRefuse (persist_reservations _ _ _ _) fun middle kept => ?_
  have served := (applyExistingLocked_cases middle.monotonicNow.2 plan.queue queue
    (fabric.planRequest plan applied provenance) middle.monotonicNow.1).reservations
  rw [acknowledgePlan, atNow]
  generalize middle.monotonicNow.2.applyExistingLocked plan.queue queue
    (fabric.planRequest plan applied provenance) middle.monotonicNow.1 = reply at served
  have same : reply.fabric.reservations = fabric.reservations := served.trans kept
  simp only []
  split
  · rename_i outcome succeeded
    have after : (reply.fabric.release plan.attempt).reservations =
        fabric.reservations.release plan.attempt := by
      rw [← same]
      rfl
    have released := @Change.released fabric.reservations _ plan.attempt
      (.outcome outcome) (.commit plan applied provenance rfl)
    rw [← after] at released
    exact released
  · rename_i status failed
    have left : Change fabric.reservations (.commitBackendApply plan applied provenance)
        (.error status) reply.fabric.reservations := same ▸ .left
    exact left

theorem abortBackendApply_change (fabric : Fabric J) (plan : BackendPlan) (reason : Text) :
    Change fabric.reservations (.abortBackendApply plan reason)
      ((fabric.abortBackendApply plan reason).answered fun _ => .done).result
      ((fabric.abortBackendApply plan reason).answered fun _ => .done).fabric.reservations := by
  rw [abortBackendApply]
  split
  · exact change_refuse rfl _ _ _
  simp only []
  split
  · exact change_refuse rfl _ _ _
  refine change_orRefuse (persistIfJournaled_reservations _ _ _ _) fun middle kept => ?_
  have after : (middle.release plan.attempt).reservations =
      fabric.reservations.release plan.attempt := by
    rw [← kept]
    rfl
  have released := @Change.released fabric.reservations _ plan.attempt .done
    (.abort plan reason rfl)
  rw [← after] at released
  exact released

theorem serve_change (fabric : Fabric J) (call : Call) :
    Change fabric.reservations call (fabric.serve call).result
      (fabric.serve call).fabric.reservations := by
  have left : ∀ {after : Reservations}, after = fabric.reservations →
      Change fabric.reservations call (fabric.serve call).result after := fun same => same ▸ .left
  cases call with
  | recover => exact left (recover_reservations fabric)
  | shutdown =>
      rw [serve, shutdown]
      split
      · exact .left
      · exact .stopped
  | declareResource name owner provenance => exact left (declareResource_reservations _ _ _ _)
  | grantCapabilities resource grantee capabilities principal epoch provenance =>
      exact left (grantCapabilities_reservations _ _ _ _ _ _ _)
  | declareClass resource name priority qos principal epoch provenance =>
      exact left (declareClass_reservations _ _ _ _ _ _ _ _)
  | declarePool resource name capacityBytes principal epoch provenance =>
      exact left (declarePool_reservations _ _ _ _ _ _ _)
  | registerBackend resource incarnation principal epoch provenance =>
      exact left (registerBackend_reservations _ _ _ _ _ _)
  | markBackendDead backend incarnation principal epoch =>
      exact left (markBackendDead_reservations _ _ _ _ _)
  | advanceEpoch principal provenance => exact left (advanceEpoch_reservations _ _ _)
  | invalidateEvidence queue principal epoch reason =>
      exact left (invalidateEvidence_reservations _ _ _ _ _)
  | apply request => exact left (apply_reservations _ _)
  | planBackendApply queue expected principal provenance =>
      exact planBackendApply_change _ _ _ _ _
  | commitBackendApply plan applied provenance => exact commitBackendApply_change _ _ _ _
  | abortBackendApply plan reason => exact abortBackendApply_change _ _ _
  | explain queue principal => exact left (explain_reservations _ _ _)
  | refreshFreshness => exact left (refreshFreshness_reservations _)
  | compact => exact left (compact_reservations _)

theorem serveAll_agree (fabric : Fabric J) {calls : List Call} (running : .shutdown ∉ calls)
    (agree : fabric.reservations.Agree) : (fabric.serveAll calls).reservations.Agree := by
  induction calls generalizing fabric with
  | nil => exact agree
  | cons call rest ih =>
      rw [List.mem_cons, not_or] at running
      obtain ⟨first, later⟩ := running
      exact ih (fabric.serve call).fabric later
        ((serve_change fabric call).agree (Ne.symm first) agree)

theorem serveAll_config (fabric : Fabric J) (calls : List Call) :
    (fabric.serveAll calls).config = fabric.config := by
  induction calls generalizing fabric with
  | nil => rfl
  | cons call rest ih => exact (ih (fabric.serve call).fabric).trans (serve_change fabric call).config

/-- In a life without a shutdown the pending list and the plans hold the same attempts, once each,
within the configured limit, and a plan only goes through a commit or an abort of its attempt that
succeeds. -/
theorem reservations_in_step (config : FabricConfig) (clock : Clock) (journal : Option J)
    (seed : UInt64) {calls : List Call} (running : .shutdown ∉ calls) :
    let fabric := (create config clock journal seed).serveAll calls
    (fabric.pending.map (·.attempt)).Nodup ∧
    (∀ attempt, attempt ∈ fabric.pending.map (·.attempt) ↔
      fabric.plans.contains attempt = true) ∧
    (∀ attempt plan, fabric.plans.get? attempt = some plan → plan.attempt = attempt) ∧
    fabric.plans.size ≤ config.limits.maxPendingAttempts.toNat ∧
    fabric.pending.length = fabric.plans.size ∧
    ∀ call attempt plan, fabric.plans.get? attempt = some plan →
      (fabric.serve call).fabric.plans.get? attempt = some plan ∨
        Releases attempt call ∧ (fabric.serve call).result.isOk = true := by
  intro fabric
  have agree : fabric.reservations.Agree := by
    refine serveAll_agree _ running ⟨List.Perm.refl _, ?_, Nat.zero_le _⟩
    intro attempt plan found
    cases found
  have listed : (fabric.pending.map (·.attempt)).Perm fabric.plans.keys := agree.listed
  have bounded : fabric.plans.size ≤ config.limits.maxPendingAttempts.toNat := by
    have within : fabric.plans.size ≤ fabric.config.limits.maxPendingAttempts.toNat :=
      agree.bounded
    rwa [serveAll_config] at within
  refine ⟨?_, ?_, agree.own, bounded, ?_, ?_⟩
  · exact listed.nodup_iff.mpr fabric.plans.nodup_keys
  · intro attempt
    rw [listed.mem_iff, Table.mem_keys_iff]
  · rw [← Table.length_keys, ← listed.length_eq, List.length_map]
  · intro call attempt plan held
    exact (serve_change fabric call).keeps held

/-! What a commit acts on. -/

theorem change_replayed (count : UInt64) : count + 1 ≠ count := by
  intro same
  simp at same

omit [IJournal J] in
/-- An acknowledgement leaves the counter of mutations for the publication to move. -/
theorem acknowledged_mutationCount {fabric : Fabric J} {queue : QueueRecord}
    {request : MutationRequest} {now : Nanos} {applied : KindApplied}
    (ok : applyKindLocked fabric queue request now = .ok applied) :
    applied.target.mutationCount = queue.mutationCount := by
  have ended := applyKindLocked_cases ok
  cases ended <;> rfl

/-- A request on an existing queue that succeeds rewrites its record and no other. -/
theorem ExistingCase.rewrites {fabric : Fabric J} {key : QueueId} {queue : QueueRecord}
    {request : MutationRequest} {now : Nanos} {reply : Reply J MutationOutcome}
    (ended : ExistingCase fabric key queue request now reply)
    (ok : reply.result.isOk = true) :
    ∃ updated, updated ≠ queue ∧ reply.fabric.queues = fabric.queues.insert key updated := by
  cases ended with
  | answered memo recorded =>
      rw [answerFromMemo] at ok ⊢
      split at ok
      · cases ok
      rename_i same
      rw [if_neg same]
      split at ok
      · cases ok
      rename_i accepted
      simp only [accepted, ↓reduceIte]
      refine ⟨_, ?_, rfl⟩
      intro equal
      exact change_replayed _ (congrArg QueueRecord.replayedCount equal)
  | refused tracker refusal unseen gate real => cases ok
  | undurable tracker applied refusal after admitted durable failed real => cases ok
  | published tracker applied after admitted committed =>
      have kept := (published_touch committed).queues
      refine ⟨publishQueue after queue request applied
        (isDurable request.kind && after.journal.isSome), ?_, ?_⟩
      swap
      · rw [publish, kept]
        rfl
      intro equal
      have counted : (publishQueue after queue request applied
          (isDurable request.kind && after.journal.isSome)).mutationCount =
            applied.target.mutationCount + 1 := by
        simp only [publishQueue]
        split
        · rfl
        · rfl
      rw [equal, acknowledged_mutationCount admitted.kind] at counted
      exact change_replayed _ counted.symm

/-- A commit that succeeds rewrites the record of the queue its plan names, at the generation its
plan names. -/
theorem commitBackendApply_rewrites {fabric : Fabric J} {plan : BackendPlan}
    {applied : BackendApplied} {provenance : Provenance}
    (ok : (fabric.commitBackendApply plan applied provenance).result.isOk = true) :
    ∃ queue updated, fabric.findQueue plan.queue = some queue ∧
      queue.definition.generation = plan.expectedGeneration ∧ updated ≠ queue ∧
      (fabric.commitBackendApply plan applied provenance).fabric.queues =
        fabric.queues.insert plan.queue updated := by
  rw [commitBackendApply] at ok ⊢
  split at ok
  · cases ok
  rename_i running
  split at ok
  · cases ok
  rename_i held
  rw [if_neg running, if_neg held]
  cases found : fabric.findQueue plan.queue with
  | none =>
      simp only [found] at ok
      cases ok
  | some queue =>
      simp only [found] at ok ⊢
      split at ok
      · cases ok
      rename_i generation
      split at ok
      · cases ok
      rename_i complete
      rw [if_neg generation, if_neg complete]
      rw [ne_eq, not_not] at generation
      have ended := commitPlan_cases fabric plan queue
        (fabric.planRequest plan applied provenance)
      generalize fabric.commitPlan plan queue (fabric.planRequest plan applied provenance) =
        reply at ok ended
      cases ended with
      | refused refused =>
          obtain ⟨status, failed⟩ := refused.failed
          rw [failed] at ok
          cases ok
      | lost status events after touch written => cases ok
      | served middle now inner events after touch written ended final journal =>
          obtain ⟨updated, moved, queues⟩ := ended.rewrites ok
          refine ⟨queue, updated, rfl, generation, moved, ?_⟩
          rw [← touch.queues]
          exact final.queues.trans queues

/-- The commit of `plan` acts on a reservation: it rewrites the record of the reserved queue alone,
at the reserved generation, and the acknowledgement is authorized in the name of its principal. -/
structure ActsOn (fabric : Fabric J) (reservation plan : BackendPlan) (applied : BackendApplied)
    (provenance : Provenance) : Prop where
  alone : ∀ id, (fabric.commitBackendApply plan applied provenance).fabric.findQueue id ≠
    fabric.findQueue id ↔ id = reservation.queue
  generation : (fabric.findQueue reservation.queue).map (·.definition.generation) =
    some reservation.expectedGeneration
  principal : (fabric.planRequest plan applied provenance).principal = reservation.principal

/-- Two queues and a live backend, with a reservation for the first queue. -/
def reservingCalls : List Call := [
  .recover,
  .declareResource (text "r") ⟨5⟩ (System.sampleProvenance 1),
  .declareClass ⟨1⟩ (text "c") 0 {} ⟨5⟩ ⟨1⟩ (System.sampleProvenance 1),
  .declarePool ⟨1⟩ (text "p") 0 ⟨5⟩ ⟨1⟩ (System.sampleProvenance 1),
  .registerBackend ⟨1⟩ ⟨1⟩ ⟨5⟩ ⟨1⟩ (System.sampleProvenance 1),
  .apply System.sampleDeclaration,
  .apply { System.sampleDeclaration with
    attempt := ⟨⟨9⟩, 2⟩
    provenance := System.sampleProvenance 2
    payload := .declareQueue
      { resource := ⟨1⟩, name := text "other", cls := ⟨⟨1⟩, ⟨1⟩⟩, pool := ⟨⟨1⟩, ⟨1⟩, 0⟩ } },
  .planBackendApply ⟨1⟩ ⟨1⟩ ⟨5⟩ (System.sampleProvenance 3)]

def reservingFabric : Fabric StableStore :=
  (create {} ⟨fun _ => 1000, 0⟩ (some {}) 7).serveAll reservingCalls

def samplePlan : BackendPlan :=
  { attempt := ⟨⟨9⟩, 3⟩, queue := ⟨1⟩, resource := ⟨1⟩, expectedGeneration := ⟨1⟩,
    cls := ⟨⟨1⟩, ⟨1⟩⟩, thresholds := ⟨10, 50, 100, 0, 0⟩, principal := ⟨5⟩, epoch := ⟨1⟩,
    plannedAt := 1000 }

def sampleApplied : BackendApplied :=
  { known := true, backend := ⟨1⟩, backendIncarnation := ⟨1⟩, epoch := ⟨1⟩, sequence := ⟨1⟩,
    appliedClass := ⟨⟨1⟩, ⟨1⟩⟩, queueGeneration := ⟨1⟩ }

theorem reservations_in_step_sample :
    (reservingFabric.pending.map (·.attempt)).Nodup ∧
      reservingFabric.pending.length = reservingFabric.plans.size := by
  obtain ⟨once, _, _, _, same, _⟩ := @reservations_in_step StableStore _ {} ⟨fun _ => 1000, 0⟩
    (some {}) 7 reservingCalls (by simp [reservingCalls])
  exact ⟨once, same⟩

theorem reserving_holds : ∃ reservation,
    reservingFabric.plans.get? samplePlan.attempt = some reservation ∧
      samplePlan.queue = reservation.queue ∧
      samplePlan.expectedGeneration = reservation.expectedGeneration ∧
      samplePlan.principal = reservation.principal := by
  have listed : (reservingFabric.plans.get? samplePlan.attempt).map (fun plan =>
      (plan.queue, plan.expectedGeneration, plan.principal)) =
        some (samplePlan.queue, samplePlan.expectedGeneration, samplePlan.principal) := by
    decide +kernel
  obtain ⟨reservation, held, fields⟩ := Option.map_eq_some_iff.mp listed
  simp only [Prod.mk.injEq] at fields
  obtain ⟨queue, generation, principal⟩ := fields
  exact ⟨reservation, held, queue.symm, generation.symm, principal.symm⟩

end Fabric

end QueueFabric
