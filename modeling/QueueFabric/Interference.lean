import QueueFabric.QueueSteps
import QueueFabric.StoreCases

/-!
Requests that are denied authority. Such a request leaves no trace but counters
and an entry in the memo of its queue. Two fabrics that differ in counters and
memos answer alike, as long as the memo of the queue answers alike.
-/

namespace QueueFabric

open QueueRecord

namespace QueueRecord

/-- The counters and the memo of one queue with everything else taken from another. -/
def decided (queue counters : QueueRecord) : QueueRecord :=
  { counters with
    definition := queue.definition
    lifecycle := queue.lifecycle
    applicability := queue.applicability
    occupancy := queue.occupancy
    fence := queue.fence
    drain := queue.drain
    applied := queue.applied
    failureReason := queue.failureReason }

theorem Unmoved.eq_decided {before after : QueueRecord} (unmoved : Unmoved before after) :
    after = before.decided after := by
  rw [decided, ← unmoved.definition, ← unmoved.lifecycle, ← unmoved.applicability,
    ← unmoved.occupancy, ← unmoved.fence, ← unmoved.drain, ← unmoved.applied,
    ← unmoved.failureReason]

theorem Unmoved.symm {before after : QueueRecord} (unmoved : Unmoved before after) :
    Unmoved after before :=
  ⟨unmoved.definition.symm, unmoved.lifecycle.symm, unmoved.applicability.symm,
    unmoved.occupancy.symm, unmoved.fence.symm, unmoved.drain.symm, unmoved.applied.symm,
    unmoved.failureReason.symm⟩

theorem Unmoved.lift {first second first' second' : QueueRecord} (unmoved : Unmoved first second)
    (one : Unmoved first first') (two : Unmoved second second') : Unmoved first' second' :=
  (one.symm.trans unmoved).trans two

end QueueRecord

namespace Fabric

variable {J : Type}

/-! Kinds on two queues that differ in counters and memo. -/

/-- Two results of a kind that differ in counters and memo. -/
inductive Peers : Except Refusal KindApplied → Except Refusal KindApplied → Prop
  | refused (refusal : Refusal) : Peers (.error refusal) (.error refusal)
  | accepted {first second : QueueRecord} (rule : String) (events : List Event)
      (fenceTokens : UInt64) (stats stats' : FabricStats) (unmoved : Unmoved first second) :
      Peers (.ok ⟨first, rule, events, fenceTokens, stats⟩)
        (.ok ⟨second, rule, events, fenceTokens, stats'⟩)

theorem Peers.ite {condition : Prop} [Decidable condition]
    {first first' second second' : Except Refusal KindApplied} (one : Peers first first')
    (two : Peers second second') :
    Peers (if condition then first else second) (if condition then first' else second') := by
  split
  · exact one
  · exact two

theorem Peers.bind {α : Type} (stage : Except Refusal α)
    {next next' : α → Except Refusal KindApplied} (peers : ∀ value, Peers (next value) (next' value)) :
    Peers (stage >>= next) (stage >>= next') := by
  cases stage with
  | error refusal => exact .refused refusal
  | ok value => exact peers value

section Kinds

variable (fabric : Fabric J) (stats : FabricStats) (queues : Table QueueId QueueRecord)
  (target counters : QueueRecord) (request : MutationRequest) (now : Nanos)

theorem peers_accept {updated updated' : QueueRecord} (rule : String) (events : List Event)
    (unmoved : Unmoved updated updated') :
    Peers (accept fabric updated rule events)
      (accept { fabric with stats, queues } updated' rule events) :=
  .accepted rule events fabric.fenceTokens fabric.stats stats unmoved

theorem unmoved_decided : Unmoved target (target.decided counters) :=
  ⟨rfl, rfl, rfl, rfl, rfl, rfl, rfl, rfl⟩

theorem peers_unchanged (rule : String) : Peers (unchanged fabric target rule)
    (unchanged { fabric with stats, queues } (target.decided counters) rule) :=
  peers_accept fabric stats queues rule [] (unmoved_decided target counters)

theorem applyIngest_peers (sample : OccupancySample) :
    Peers (applyIngest fabric target request now sample)
      (applyIngest { fabric with stats, queues } (target.decided counters) request now sample) := by
  simp only [applyIngest]
  refine .ite (.refused _) (.ite (.refused _) (.ite (.refused _) (.ite (.refused _)
    (.ite (.refused _) (.ite ?_ ?_)))))
  · exact .accepted _ _ _ _ _ ⟨rfl, rfl, rfl, rfl, rfl, rfl, rfl, rfl⟩
  · exact .accepted _ _ _ _ _ ⟨rfl, rfl, rfl, rfl, rfl, rfl, rfl, rfl⟩

theorem applyQuiesce_peers : Peers (applyQuiesce fabric target request now)
    (applyQuiesce { fabric with stats, queues } (target.decided counters) request now) := by
  refine .ite (peers_unchanged ..) (.bind _ fun _ => .ite (.refused _) (.bind _ fun _ => ?_))
  exact peers_accept fabric stats queues _ _ ⟨rfl, rfl, rfl, rfl, rfl, rfl, rfl, rfl⟩

theorem applyAcknowledge_peers (acknowledged : BackendApplied) :
    Peers (applyAcknowledge fabric target request now acknowledged)
      (applyAcknowledge { fabric with stats, queues } (target.decided counters) request now
        acknowledged) := by
  have live : ({ fabric with stats, queues } : Fabric J).findLiveBackend
      (target.decided counters).definition.resource acknowledged.backend =
      fabric.findLiveBackend target.definition.resource acknowledged.backend := rfl
  rw [applyAcknowledge, applyAcknowledge, live]
  refine .ite (.refused _) ?_
  cases fabric.findLiveBackend target.definition.resource acknowledged.backend with
  | none => exact .refused _
  | some live =>
      dsimp only [decided]
      cases verifyBackendApplied acknowledged live fabric.epoch target.definition.generation
        target.definition.cls with
      | some refused => exact .refused _
      | none =>
          exact peers_accept fabric stats queues _ _ ⟨rfl, rfl, rfl, rfl, rfl, rfl, rfl, rfl⟩

theorem applyKindLocked_peers : Peers (applyKindLocked fabric target request now)
    (applyKindLocked { fabric with stats, queues } (target.decided counters) request now) := by
  have same := peers_unchanged fabric stats queues target counters
  have edit : ∀ {updated updated' : QueueRecord} (rule : String) (events : List Event),
      Unmoved updated updated' → Peers (accept fabric updated rule events)
        (accept { fabric with stats, queues } updated' rule events) :=
    fun rule events unmoved => peers_accept fabric stats queues rule events unmoved
  unfold applyKindLocked
  split
  · exact .ite (same _) (.bind _ fun _ => .bind _ fun _ =>
      edit _ _ ⟨rfl, rfl, rfl, rfl, rfl, rfl, rfl, rfl⟩)
  · exact .ite (same _) (.bind _ fun _ => .bind _ fun _ => .ite (.refused _)
      (edit _ _ ⟨rfl, rfl, rfl, rfl, rfl, rfl, rfl, rfl⟩))
  · exact .bind _ fun _ => .ite (same _) (.bind _ fun _ =>
      edit _ _ ⟨rfl, rfl, rfl, rfl, rfl, rfl, rfl, rfl⟩)
  · exact .ite (.refused _) (.ite (same _) (.bind _ fun _ =>
      edit _ _ ⟨rfl, rfl, rfl, rfl, rfl, rfl, rfl, rfl⟩))
  · exact .ite (same _) (.bind _ fun _ => edit _ _ ⟨rfl, rfl, rfl, rfl, rfl, rfl, rfl, rfl⟩)
  · exact applyIngest_peers ..
  · exact .ite (same _) (.bind _ fun _ => edit _ _ ⟨rfl, rfl, rfl, rfl, rfl, rfl, rfl, rfl⟩)
  · exact .ite (.refused _) (.bind _ fun _ => edit _ _ ⟨rfl, rfl, rfl, rfl, rfl, rfl, rfl, rfl⟩)
  · exact .ite (.refused _) (.ite (.refused _) (.ite (.refused _) (.bind _ fun _ =>
      .ite (.refused _) (edit _ _ ⟨rfl, rfl, rfl, rfl, rfl, rfl, rfl, rfl⟩))))
  · exact applyQuiesce_peers ..
  · exact .ite (same _) (.accepted _ _ _ _ _ ⟨rfl, rfl, rfl, rfl, rfl, rfl, rfl, rfl⟩)
  · exact .ite (same _) (edit _ _ ⟨rfl, rfl, rfl, rfl, rfl, rfl, rfl, rfl⟩)
  · exact .ite (same _) (.bind _ fun _ => edit _ _ ⟨rfl, rfl, rfl, rfl, rfl, rfl, rfl, rfl⟩)
  · exact .ite (same _) (.ite (.refused _) (.bind _ fun _ =>
      edit _ _ ⟨rfl, rfl, rfl, rfl, rfl, rfl, rfl, rfl⟩))
  · exact applyAcknowledge_peers ..
  · exact same _
  · exact .refused _

end Kinds

/-! Requests on two fabrics that differ in counters and memos. -/

/-- The same fabric up to statistics, counters of queues and memos. -/
def Beside (first second : Fabric J) : Prop :=
  ∃ stats queues, second = { first with stats, queues } ∧
    Table.Related Unmoved first.queues queues

theorem Beside.refl (fabric : Fabric J) : Beside fabric fabric :=
  ⟨_, _, rfl, Table.related_refl Unmoved.refl _⟩

theorem Beside.findQueue {first second : Fabric J} (beside : Beside first second) (id : QueueId) :
    Option.Rel Unmoved (first.findQueue id) (second.findQueue id) := by
  obtain ⟨stats, queues, rfl, related⟩ := beside
  exact related.find id

/-- Two replies with one result, leaving fabrics that differ in counters and memos. -/
structure Agrees {α : Type} (first second : Reply J α) : Prop where
  result : second.result = first.result
  fabric : Beside first.fabric second.fabric

section Stages

variable (fabric : Fabric J) (stats : FabricStats) {queues : Table QueueId QueueRecord}
  (related : Table.Related Unmoved fabric.queues queues)

include related

theorem rejectUnbound_agrees (refusal : Refusal) :
    Agrees (fabric.rejectUnbound refusal)
      (({ fabric with stats, queues } : Fabric J).rejectUnbound refusal) :=
  ⟨rfl, _, _, rfl, related⟩

variable (key : QueueId) {queue queue' : QueueRecord} (unmoved : Unmoved queue queue')
  (request : MutationRequest) (now : Nanos)

include unmoved

theorem reject_agrees (refusal : Refusal) (events events' : List Event) :
    Agrees (fabric.reject key queue request refusal events)
      (({ fabric with stats, queues } : Fabric J).reject key queue' request refusal events') := by
  refine ⟨rfl, _, _, rfl, related.insert key ?_⟩
  exact unmoved.lift (unmoved_rejectQueue ..) (unmoved_rejectQueue ..)

theorem answerFromMemo_agrees (memo : AttemptMemo) :
    Agrees (fabric.answerFromMemo key queue request now memo)
      (({ fabric with stats, queues } : Fabric J).answerFromMemo key queue' request now memo) := by
  rw [answerFromMemo, answerFromMemo]
  split
  · exact reject_agrees fabric stats related key unmoved request _ _ _
  split
  · refine ⟨rfl, _, _, rfl, related.insert key (unmoved.lift ?_ ?_)⟩
    all_goals exact ⟨rfl, rfl, rfl, rfl, rfl, rfl, rfl, rfl⟩
  · refine ⟨?_, _, _, rfl, related.insert key (unmoved.lift ?_ ?_)⟩
    · rw [unmoved.definition, unmoved.lifecycle, unmoved.applicability]
    all_goals exact ⟨rfl, rfl, rfl, rfl, rfl, rfl, rfl, rfl⟩

omit related unmoved in
theorem publish_agrees [IJournal J] {applied applied' : KindApplied}
    (related : Table.Related Unmoved fabric.queues queues)
    (targets : Unmoved applied.target applied'.target) (rule : applied'.rule = applied.rule) :
    Agrees (fabric.publish key queue request now applied)
      (({ fabric with stats, queues } : Fabric J).publish key queue' request now applied') := by
  refine ⟨?_, _, _, rfl, related.insert key ?_⟩
  · simp only [publish, targets.definition, targets.lifecycle, targets.applicability, rule]
  · exact targets.lift (unmoved_publishQueue ..) (unmoved_publishQueue ..)

end Stages

variable [IJournal J]

/-- A commit writes the journal whatever the counters and the queues are. -/
theorem commitDurably_beside (fabric : Fabric J) (stats : FabricStats)
    (queues : Table QueueId QueueRecord) (request : MutationRequest) :
    ∃ stats', ({ fabric with stats, queues } : Fabric J).commitDurably request =
      ((fabric.commitDurably request).1,
        { (fabric.commitDurably request).2 with stats := stats', queues }) := by
  cases fabric with
  | mk config clock journal =>
      cases journal with
      | none =>
          simp only [commitDurably]
          split
          · exact ⟨stats, rfl⟩
          · exact ⟨stats, rfl⟩
      | some journal =>
          simp only [commitDurably, journalCommitLocked]
          split
          · exact ⟨stats, rfl⟩
          · exact ⟨_, rfl⟩

section Requests

variable (fabric : Fabric J) (stats : FabricStats) {queues : Table QueueId QueueRecord}
  (related : Table.Related Unmoved fabric.queues queues) (key : QueueId)
  {queue queue' : QueueRecord} (unmoved : Unmoved queue queue') (request : MutationRequest)
  (now : Nanos)

include related

section Existing

include unmoved

theorem applyAdmitted_agrees :
    Agrees (fabric.applyAdmitted key queue request now)
      (({ fabric with stats, queues } : Fabric J).applyAdmitted key queue' request now) := by
  have peers := applyKindLocked_peers fabric stats queues queue queue' request now
  rw [← unmoved.eq_decided] at peers
  rw [applyAdmitted, applyAdmitted]
  generalize applyKindLocked fabric queue request now = first at peers ⊢
  generalize applyKindLocked { fabric with stats, queues } queue' request now = second at peers ⊢
  cases peers with
  | refused refusal => exact reject_agrees fabric stats related key unmoved request refusal _ _
  | accepted rule events fenceTokens counted counted' targets =>
      dsimp only
      split
      · obtain ⟨stats', same⟩ := commitDurably_beside
          { fabric with fenceTokens, stats := counted } counted' queues request
        have touch := (commitDurably_cases { fabric with fenceTokens, stats := counted } request).1
        change ({ fabric with fenceTokens, stats := counted', queues } : Fabric J).commitDurably
          request = _ at same
        rw [same]
        generalize ({ fabric with fenceTokens, stats := counted } : Fabric J).commitDurably request =
          outcome at touch ⊢
        have kept : Table.Related Unmoved outcome.2.queues queues := touch.queues ▸ related
        obtain ⟨failure, after⟩ := outcome
        cases failure with
        | some refusal => exact reject_agrees after stats' kept key unmoved request refusal _ _
        | none => exact publish_agrees after stats' key request now kept targets rfl
      · exact publish_agrees { fabric with fenceTokens, stats := counted } counted' key request now
          related targets rfl

omit [IJournal J] related in
theorem checkExpected_beside :
    ({ fabric with stats, queues } : Fabric J).checkExpected queue' request =
      fabric.checkExpected queue request := by
  rw [checkExpected, checkExpected, unmoved.definition]

theorem applyFresh_agrees :
    Agrees (fabric.applyFresh key queue request now)
      (({ fabric with stats, queues } : Fabric J).applyFresh key queue' request now) := by
  have refuse (refusal : Refusal) : Agrees (fabric.reject key queue request refusal [])
      (({ fabric with stats, queues } : Fabric J).reject key queue' request refusal []) :=
    reject_agrees fabric stats related key unmoved request refusal [] []
  have resource : ({ fabric with stats, queues } : Fabric J).findResource queue'.definition.resource =
      fabric.findResource queue.definition.resource := by
    rw [unmoved.definition]
    rfl
  rw [applyFresh, applyFresh, resource, unmoved.applicability, unmoved.lifecycle]
  cases fabric.findResource queue.definition.resource with
  | none => exact refuse _
  | some resource =>
      dsimp only
      cases authorize resource.authority request.principal (requiredCapability request.kind)
        (if fabric.replaying then resource.authority.epoch else request.expectedEpoch)
        queue.applicability queue.lifecycle with
      | some refusal => exact refuse refusal
      | none =>
          have gate : ({ fabric with stats, queues } : Fabric J).admitProvenance
            request.provenance = fabric.admitProvenance request.provenance := rfl
          rw [gate]
          cases fabric.admitProvenance request.provenance with
          | error refusal => exact refuse refusal
          | ok provenance =>
              dsimp only
              have expected : ({ fabric with provenance, stats, queues } : Fabric J).checkExpected
                  queue' request =
                  ({ fabric with provenance } : Fabric J).checkExpected queue request :=
                checkExpected_beside { fabric with provenance } stats unmoved request
              rw [expected]
              cases ({ fabric with provenance } : Fabric J).checkExpected queue request with
              | some refusal =>
                  exact reject_agrees { fabric with provenance } stats related key unmoved request
                    refusal [] []
              | none =>
                  exact applyAdmitted_agrees { fabric with provenance } stats related key unmoved
                    request now

theorem applyExistingLocked_agrees
    (memo : queue'.findAttempt request.attempt = queue.findAttempt request.attempt) :
    Agrees (fabric.applyExistingLocked key queue request now)
      (({ fabric with stats, queues } : Fabric J).applyExistingLocked key queue' request now) := by
  rw [applyExistingLocked, applyExistingLocked, memo]
  cases queue.findAttempt request.attempt with
  | some entry => exact answerFromMemo_agrees fabric stats related key unmoved request now entry
  | none => exact applyFresh_agrees fabric stats related key unmoved request now

end Existing

section Declare

variable (payload : DeclareQueuePayload)

omit [IJournal J] in
theorem checkDeclaration_beside (resource : ResourceRecord) :
    ({ fabric with stats, queues } : Fabric J).checkDeclaration payload resource =
      fabric.checkDeclaration payload resource := by
  have count : resourceQueues queues payload.resource =
      resourceQueues fabric.queues payload.resource :=
    related.countP_values fun first second unmoved => by rw [unmoved.definition]
  rw [checkDeclaration, checkDeclaration]
  dsimp only
  rw [count, related.size_eq]

omit [IJournal J] in
theorem answerDeclared_agrees (id : QueueId) :
    Agrees (fabric.answerDeclared request payload now id)
      (({ fabric with stats, queues } : Fabric J).answerDeclared request payload now id) := by
  have found : Option.Rel Unmoved (fabric.findQueue id)
    (({ fabric with stats, queues } : Fabric J).findQueue id) := related.find id
  simp only [answerDeclared]
  generalize fabric.findQueue id = existing at found ⊢
  generalize ({ fabric with stats, queues } : Fabric J).findQueue id = existing' at found ⊢
  cases found with
  | none => exact rejectUnbound_agrees fabric stats related _
  | some unmoved =>
      dsimp only
      rw [unmoved.definition]
      split
      · refine ⟨?_, _, _, rfl, related⟩
        rw [unmoved.lifecycle, unmoved.applicability]
      · exact rejectUnbound_agrees fabric stats related _

omit [IJournal J] in
theorem publishDeclared_agrees (resource : ResourceRecord) [IJournal J] :
    Agrees (fabric.publishDeclared request payload now resource)
      (({ fabric with stats, queues } : Fabric J).publishDeclared request payload now resource) :=
  ⟨rfl, _, _, rfl, related.emplace _ (.refl _)⟩

theorem admitDeclared_agrees (resource : ResourceRecord) :
    Agrees (fabric.admitDeclared request payload now resource)
      (({ fabric with stats, queues } : Fabric J).admitDeclared request payload now resource) := by
  rw [admitDeclared, admitDeclared]
  split
  · exact publishDeclared_agrees fabric stats related request now payload resource
  dsimp only
  split
  · exact rejectUnbound_agrees
      { fabric with provenance := (fabric.provenance.observe request.provenance).2 } stats related _
  · exact publishDeclared_agrees
      { fabric with provenance := (fabric.provenance.observe request.provenance).2 } stats related
      request now payload resource

theorem declareFresh_agrees (resource : ResourceRecord) :
    Agrees (fabric.declareFresh request payload now resource)
      (({ fabric with stats, queues } : Fabric J).declareFresh request payload now resource) := by
  have gate : ({ fabric with stats, queues } : Fabric J).checkDeclareProvenance request =
    fabric.checkDeclareProvenance request := rfl
  rw [declareFresh, declareFresh, checkDeclaration_beside fabric stats related payload resource, gate]
  cases fabric.checkDeclaration payload resource with
  | some refusal => exact rejectUnbound_agrees fabric stats related refusal
  | none =>
      cases fabric.checkDeclareProvenance request with
      | some refusal => exact rejectUnbound_agrees fabric stats related refusal
      | none =>
          dsimp only
          obtain ⟨stats', same⟩ := commitDurably_beside fabric stats queues request
          have touch := (commitDurably_cases fabric request).1
          rw [same]
          generalize fabric.commitDurably request = outcome at touch ⊢
          have kept : Table.Related Unmoved outcome.2.queues queues := touch.queues ▸ related
          obtain ⟨failure, after⟩ := outcome
          cases failure with
          | some refusal => exact rejectUnbound_agrees after stats' kept refusal
          | none => exact admitDeclared_agrees after stats' kept request now payload resource

theorem applyDeclareLocked_agrees :
    Agrees (fabric.applyDeclareLocked request payload now)
      (({ fabric with stats, queues } : Fabric J).applyDeclareLocked request payload now) := by
  have found : ({ fabric with stats, queues } : Fabric J).findResource payload.resource =
    fabric.findResource payload.resource := rfl
  rw [applyDeclareLocked, applyDeclareLocked, found]
  cases fabric.findResource payload.resource with
  | none => exact rejectUnbound_agrees fabric stats related _
  | some resource =>
      dsimp only
      cases authorize resource.authority request.principal .declareQueue
        (if fabric.replaying then resource.authority.epoch else request.expectedEpoch)
        resource.applicability .active with
      | some refusal => exact rejectUnbound_agrees fabric stats related refusal
      | none =>
          dsimp only
          cases fabric.queueNames.get? (nameKey payload.resource payload.name) with
          | some id => exact answerDeclared_agrees fabric stats related request now payload id
          | none => exact declareFresh_agrees fabric stats related request now payload resource

end Declare

/-- Fabrics that differ in counters and memos answer alike, if the memo of the queue does. -/
theorem applyAt_agrees
    (memo : request.kind ≠ .declareQueue → ∀ queue queue',
      fabric.findQueue request.queue = some queue → queues.get? request.queue = some queue' →
      queue'.findAttempt request.attempt = queue.findAttempt request.attempt) :
    Agrees (fabric.applyAt request now)
      (({ fabric with stats, queues } : Fabric J).applyAt request now) := by
  rw [applyAt, applyAt]
  split
  · exact ⟨rfl, _, _, rfl, related⟩
  dsimp only
  split
  · exact rejectUnbound_agrees fabric stats related _
  rename_i valid
  split
  · exact applyDeclareLocked_agrees fabric stats related request now _
  · rename_i other
    have kind : request.kind ≠ .declareQueue := by
      intro declares
      obtain ⟨payload, carried⟩ := declare_payload_of_valid (by simpa using valid) declares
      exact other payload declares carried
    have found : Option.Rel Unmoved (fabric.findQueue request.queue)
      (({ fabric with stats, queues } : Fabric J).findQueue request.queue) :=
      related.find request.queue
    have memo' : ∀ queue queue', fabric.findQueue request.queue = some queue →
        ({ fabric with stats, queues } : Fabric J).findQueue request.queue = some queue' →
        queue'.findAttempt request.attempt = queue.findAttempt request.attempt := memo kind
    generalize fabric.findQueue request.queue = existing at found memo' ⊢
    generalize ({ fabric with stats, queues } : Fabric J).findQueue request.queue = existing'
      at found memo' ⊢
    cases found with
    | none => exact rejectUnbound_agrees fabric stats related _
    | some unmoved =>
        exact applyExistingLocked_agrees fabric stats related request.queue unmoved request now
          (memo' _ _ rfl rfl)

end Requests

/-! What a denied request leaves behind. -/

end Fabric

namespace QueueRecord

theorem replaceMemo_of_unseen {entry : AttemptMemo} {memo : List AttemptMemo}
    (unseen : memo.find? (fun other => other.attempt = entry.attempt) = none) :
    replaceMemo entry memo = none := by
  induction memo with
  | nil => rfl
  | cons existing rest ih =>
      rw [List.find?_cons] at unseen
      split at unseen
      · cases unseen
      · rename_i different
        rw [replaceMemo, if_neg (of_decide_eq_false different), ih unseen]
        rfl

/-- A new entry answers its own attempt; of the others it can only evict the oldest. -/
theorem findAttempt_remember {queue : QueueRecord} {entry : AttemptMemo} {capacity : UInt64}
    {attempt : AttemptId} (unseen : queue.findAttempt entry.attempt = none)
    (other : capacity ≠ 0 → attempt ≠ entry.attempt)
    (kept : capacity ≠ 0 → capacity.toNat ≤ queue.memo.length →
      ∀ oldest, queue.memo.head? = some oldest → oldest.attempt ≠ attempt) :
    (queue.remember entry capacity).findAttempt attempt = queue.findAttempt attempt := by
  rw [findAttempt] at unseen
  simp only [findAttempt, remember, rememberIn, replaceMemo_of_unseen unseen]
  split
  · rfl
  rename_i nonzero
  have apart : ([entry].find? fun old => old.attempt = attempt) = none := by
    rw [List.find?_singleton, if_neg]
    simpa using (other nonzero).symm
  rw [List.find?_append, apart, Option.or_none]
  split
  · rename_i full
    cases memo : queue.memo with
    | nil => rfl
    | cons oldest rest =>
        have different := kept nonzero full oldest (by rw [memo]; rfl)
        rw [List.find?_cons_of_neg (by simpa using different)]
        rfl
  · rfl

end QueueRecord

namespace Fabric

/-- The rejection of `denied` is recorded where the memo answered `request`: the attempt is taken,
or its entry was the oldest of a full memo. -/
def Displaces {J : Type} (fabric : Fabric J) (denied request : MutationRequest) : Prop :=
  denied.kind ≠ .declareQueue ∧ request.kind ≠ .declareQueue ∧ request.queue = denied.queue ∧
    ∃ queue, fabric.findQueue denied.queue = some queue ∧
      queue.findAttempt denied.attempt = none ∧ fabric.config.limits.maxAttemptMemo ≠ 0 ∧
      (request.attempt = denied.attempt ∨
        fabric.config.limits.maxAttemptMemo.toNat ≤ queue.memo.length ∧
          ∃ oldest, queue.memo.head? = some oldest ∧ oldest.attempt = request.attempt)

/-- What a denied request does to the queues. -/
inductive Marks {J : Type} (fabric : Fabric J) (request : MutationRequest) :
    Table QueueId QueueRecord → Prop
  | none : Marks fabric request fabric.queues
  | answered (queue updated : QueueRecord) (found : fabric.findQueue request.queue = some queue)
      (unmoved : Unmoved queue updated) (memo : updated.memo = queue.memo) :
      Marks fabric request (fabric.queues.insert request.queue updated)
  | recorded (queue : QueueRecord) (refusal : Refusal) (kind : request.kind ≠ .declareQueue)
      (found : fabric.findQueue request.queue = some queue)
      (unseen : queue.findAttempt request.attempt = none) :
      Marks fabric request
        (fabric.queues.insert request.queue (rejectQueue fabric.config queue request refusal))

section Marks

variable {J : Type} {fabric : Fabric J} {denied : MutationRequest}
  {queues : Table QueueId QueueRecord}

theorem Marks.related (marks : Marks fabric denied queues) :
    Table.Related Unmoved fabric.queues queues := by
  cases marks with
  | none => exact Table.related_refl Unmoved.refl _
  | answered queue updated found unmoved memo =>
      exact Table.related_insert Unmoved.refl found unmoved
  | recorded queue refusal kind found unseen =>
      exact Table.related_insert Unmoved.refl found (unmoved_rejectQueue ..)

/-- A denied request that displaces nothing leaves the answers of the memos alone. -/
theorem Marks.findAttempt (marks : Marks fabric denied queues) {request : MutationRequest}
    (apart : ¬ Displaces fabric denied request) (kind : request.kind ≠ .declareQueue)
    {queue queue' : QueueRecord} (known : fabric.findQueue request.queue = some queue)
    (known' : queues.get? request.queue = some queue') :
    queue'.findAttempt request.attempt = queue.findAttempt request.attempt := by
  have same : fabric.queues.get? request.queue = some queue := known
  cases marks with
  | none =>
      rw [same, Option.some.injEq] at known'
      rw [known']
  | answered old updated found unmoved memo =>
      rw [Table.get?_insert] at known'
      split at known'
      · rename_i here
        rw [here, known, Option.some.injEq] at found
        rw [Option.some.injEq] at known'
        rw [QueueRecord.findAttempt, QueueRecord.findAttempt, ← known', memo, found]
      · rw [same, Option.some.injEq] at known'
        rw [known']
  | recorded old refusal recorded found unseen =>
      rw [Table.get?_insert] at known'
      split at known'
      · rename_i here
        rw [here, known, Option.some.injEq] at found
        subst found
        rw [Option.some.injEq] at known'
        rw [← known']
        refine findAttempt_remember unseen (fun nonzero taken => ?_)
          fun nonzero full oldest first evicted => ?_
        · exact apart ⟨recorded, kind, here.symm, queue, here ▸ known, unseen, nonzero, .inl taken⟩
        · exact apart ⟨recorded, kind, here.symm, queue, here ▸ known, unseen, nonzero,
            .inr ⟨full, oldest, first, evicted⟩⟩
      · rw [same, Option.some.injEq] at known'
        rw [known']

end Marks

/-! Only the gate denies authority. -/

theorem commitRecords_code (store : StableStore) (encoded : Bytes) :
    (commitRecords store encoded).1.code ≠ .authorityDenied := by
  have append (store : StableStore) (type : JournalRecordType) :
      (IJournal.append store type encoded).1.code ≠ .authorityDenied := by
    change (store.append type encoded).1.code ≠ _
    rw [StableStore.append]
    split
    · exact Code.noConfusion
    split <;> exact Code.noConfusion
  simp only [commitRecords]
  split
  · exact append _ _
  split
  · exact append _ _
  split <;> exact Code.noConfusion

theorem commitDurably_code {fabric after : Fabric StableStore} {request : MutationRequest}
    {refusal : Refusal} (failed : fabric.commitDurably request = (some refusal, after)) :
    refusal.status.code ≠ .authorityDenied := by
  rw [commitDurably] at failed
  split at failed
  · rw [Prod.mk.injEq] at failed
    obtain ⟨refused, _⟩ := failed
    split at refused
    · cases refused
      simp only [journalCommitLocked]
      split
      · exact Code.noConfusion
      · exact commitRecords_code _ _
    · cases refused
  · split at failed
    · cases failed
      exact Code.noConfusion
    · cases failed

theorem observe_code (tracker : ProvenanceTracker) (provenance : Provenance) :
    (tracker.observe provenance).1.code ≠ .authorityDenied := by
  simp only [ProvenanceTracker.observe]
  split <;> exact Code.noConfusion

/-- If the reply denies authority, the fabric is as before but for counters and marks. -/
def Denies (fabric : Fabric StableStore) (request : MutationRequest)
    (reply : Reply StableStore MutationOutcome) : Prop :=
  ∀ status, reply.result = .error status → status.code = .authorityDenied →
    ∃ stats queues, reply.fabric = { fabric with stats, queues } ∧ Marks fabric request queues

variable {fabric : Fabric StableStore} {request : MutationRequest}

theorem denies_of_code {reply : Reply StableStore MutationOutcome}
    (other : ∀ status, reply.result = .error status → status.code ≠ .authorityDenied) :
    Denies fabric request reply :=
  fun status failed denied => absurd denied (other status failed)

theorem denies_reject {fabric' : Fabric StableStore} {key : QueueId} {queue : QueueRecord}
    {refusal : Refusal} {events : List Event} (other : refusal.status.code ≠ .authorityDenied) :
    Denies fabric request (fabric'.reject key queue request refusal events) := by
  refine denies_of_code fun status failed => ?_
  cases failed
  exact other

theorem denies_rejectUnbound (refusal : Refusal) :
    Denies fabric request (fabric.rejectUnbound refusal) :=
  fun _ _ _ => ⟨_, fabric.queues, rfl, .none⟩

theorem answerFromMemo_denies {queue : QueueRecord} (now : Nanos) (memo : AttemptMemo)
    (found : fabric.findQueue request.queue = some queue) :
    Denies fabric request (fabric.answerFromMemo request.queue queue request now memo) := by
  rw [answerFromMemo]
  split
  · exact denies_reject Code.noConfusion
  split
  · refine fun _ _ _ => ⟨_, _, rfl, .answered queue _ found ?_ rfl⟩
    exact ⟨rfl, rfl, rfl, rfl, rfl, rfl, rfl, rfl⟩
  · refine denies_of_code fun status failed => ?_
    cases failed

theorem applyAdmitted_denies (fabric' : Fabric StableStore) (queue : QueueRecord) (now : Nanos) :
    Denies fabric request (fabric'.applyAdmitted request.queue queue request now) := by
  have published (fabric' : Fabric StableStore) (applied : KindApplied) :
      Denies fabric request (fabric'.publish request.queue queue request now applied) := by
    refine denies_of_code fun status failed => ?_
    cases failed
  rw [applyAdmitted]
  split
  · rename_i refusal refused
    exact denies_reject (applyKindLocked_plain refusal refused).2
  dsimp only
  split
  · split
    · rename_i failed
      exact denies_reject (commitDurably_code failed)
    · exact published _ _
  · exact published _ _

theorem applyFresh_denies {queue : QueueRecord} (now : Nanos)
    (found : fabric.findQueue request.queue = some queue) (kind : request.kind ≠ .declareQueue)
    (unseen : queue.findAttempt request.attempt = none) :
    Denies fabric request (fabric.applyFresh request.queue queue request now) := by
  rw [applyFresh]
  split
  · exact denies_reject Code.noConfusion
  dsimp only
  split
  · exact fun _ _ _ => ⟨_, _, rfl, .recorded queue _ kind found unseen⟩
  split
  · rename_i refusal refused
    exact denies_reject (admitProvenance_plain refusal refused).2
  split
  · rename_i refused
    exact denies_reject (checkExpected_plain refused).2
  · exact applyAdmitted_denies _ _ _

theorem applyDeclareLocked_denies (payload : DeclareQueuePayload) (now : Nanos) :
    Denies fabric request (fabric.applyDeclareLocked request payload now) := by
  have ended := applyDeclareLocked_cases fabric request payload now
  generalize fabric.applyDeclareLocked request payload now = reply at ended
  cases ended with
  | refused refusal => exact denies_rejectUnbound refusal
  | answered id taken =>
      rw [answerDeclared]
      split
      · exact denies_rejectUnbound _
      split
      · exact fun _ _ _ => ⟨_, fabric.queues, rfl, .none⟩
      · exact denies_rejectUnbound _
  | undurable resource refusal after declarable failed =>
      refine denies_of_code fun status refused => ?_
      cases refused
      exact commitDurably_code failed
  | committed resource after declarable written =>
      refine denies_of_code fun status refused => ?_
      rw [admitDeclared] at refused
      split at refused
      · cases refused
      dsimp only at refused
      split at refused
      · cases refused
        exact observe_code _ _
      · cases refused

/-- A request that is denied authority changes counters and marks the queue it names. -/
theorem applyAt_denies (fabric : Fabric StableStore) (request : MutationRequest) (now : Nanos) :
    Denies fabric request (fabric.applyAt request now) := by
  rw [applyAt]
  split
  · refine denies_of_code fun status refused => ?_
    cases refused
    exact Code.noConfusion
  dsimp only
  split
  · exact denies_rejectUnbound _
  rename_i valid
  split
  · exact applyDeclareLocked_denies _ _
  rename_i other
  have kind : request.kind ≠ .declareQueue := by
    intro declares
    obtain ⟨payload, carried⟩ := declare_payload_of_valid (by simpa using valid) declares
    exact other payload declares carried
  split
  · exact denies_rejectUnbound _
  rename_i queue found
  rw [applyExistingLocked]
  split
  · exact answerFromMemo_denies now _ found
  · rename_i unseen
    exact applyFresh_denies now found kind unseen

/-- The code a caller is returned. -/
def codeOf {α : Type} : Except Status α → Code
  | .ok _ => .ok
  | .error status => status.code

/-- A request that is denied authority and displaces no memo entry of another request does not
interfere with it: the answer and all decisions about queues are as if it had not been made. -/
theorem denied_request_apart (fabric : Fabric StableStore) (denied request : MutationRequest)
    (refused : codeOf (fabric.apply denied).result = .authorityDenied)
    (apart : ¬ Displaces fabric denied request) :
    ((fabric.apply denied).fabric.apply request).result =
        (fabric.monotonicNow.2.apply request).result ∧
      ∀ id, Option.Rel Unmoved
        ((fabric.monotonicNow.2.apply request).fabric.findQueue id)
        (((fabric.apply denied).fabric.apply request).fabric.findQueue id) := by
  obtain ⟨stats, queues, same, marks⟩ : ∃ stats queues,
      (fabric.applyLocked denied).fabric = { fabric.monotonicNow.2 with stats, queues } ∧
        Marks fabric.monotonicNow.2 denied queues := by
    change codeOf (fabric.applyLocked denied).result = _ at refused
    cases result : (fabric.applyLocked denied).result with
    | ok outcome =>
        rw [result] at refused
        cases refused
    | error status =>
        rw [result] at refused
        exact applyAt_denies fabric.monotonicNow.2 denied fabric.monotonicNow.1 status result refused
  have agrees := applyAt_agrees fabric.monotonicNow.2.monotonicNow.2
    (({ fabric.monotonicNow.2 with stats, queues } : Fabric StableStore).emitted
      (fabric.applyLocked denied).events).stats marks.related request
    fabric.monotonicNow.2.monotonicNow.1
    fun kind queue queue' known known' => marks.findAttempt apart kind known known'
  have second : (fabric.apply denied).fabric =
      ({ fabric.monotonicNow.2 with stats, queues } : Fabric StableStore).emitted
        (fabric.applyLocked denied).events := congrArg (emitted · _) same
  rw [second]
  refine ⟨agrees.result, fun id => ?_⟩
  exact agrees.fabric.findQueue id

instance {J : Type} (fabric : Fabric J) (denied request : MutationRequest) :
    Decidable (Displaces fabric denied request) :=
  inferInstanceAs (Decidable (_ ∧ _ ∧ _ ∧ ∃ queue ∈ fabric.findQueue denied.queue, _ ∧ _ ∧
    (_ ∨ _ ∧ ∃ oldest ∈ queue.memo.head?, oldest.attempt = request.attempt)))

/-- A principal without any grant validates the sample queue. -/
def strangerRequest (sequence : UInt64) : MutationRequest :=
  { System.sampleRequest sequence .validateQueue .monostate with principal := ⟨6⟩ }

/-- Another attempt of the owner is not held up. -/
theorem denied_request_apart_sample :
    ((System.sampleSystem.fabric.apply (strangerRequest 2)).fabric.apply
        (System.sampleRequest 3 .validateQueue .monostate)).result =
        (System.sampleSystem.fabric.monotonicNow.2.apply
          (System.sampleRequest 3 .validateQueue .monostate)).result ∧
      ∀ id, Option.Rel Unmoved
        ((System.sampleSystem.fabric.monotonicNow.2.apply
          (System.sampleRequest 3 .validateQueue .monostate)).fabric.findQueue id)
        (((System.sampleSystem.fabric.apply (strangerRequest 2)).fabric.apply
          (System.sampleRequest 3 .validateQueue .monostate)).fabric.findQueue id) :=
  denied_request_apart System.sampleSystem.fabric (strangerRequest 2)
    (System.sampleRequest 3 .validateQueue .monostate) (by decide +kernel) (by decide +kernel)

/-- The denied request took the attempt identity that the owner presents next. -/
theorem attempt_reserved : ¬ ∀ (steps : List Step) (denied request : MutationRequest),
    codeOf ((System.sampleStart.run steps).fabric.apply denied).result = .authorityDenied →
    request.principal ≠ denied.principal →
    codeOf (((System.sampleStart.run steps).fabric.apply denied).fabric.apply request).result =
      codeOf ((System.sampleStart.run steps).fabric.monotonicNow.2.apply request).result := by
  intro all
  have same := all System.sampleSteps (strangerRequest 2)
    (System.sampleRequest 2 .validateQueue .monostate) (by decide +kernel) (by decide)
  revert same
  decide +kernel

end Fabric

end QueueFabric
