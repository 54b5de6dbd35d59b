import QueueFabric.QueueCases

/-!
How one call moves one queue. A life of the fabric begins with a recovery, which
mints its boot identity, and consists of the calls after it. Within a life a
queue is tended, unbound from a superseded class, mutated by a request the
fabric accepted, or declared.
-/

namespace QueueFabric

/-- An observation without the verdict on its freshness. -/
def OccupancyState.reading (occupancy : OccupancyState) : OccupancyState :=
  { occupancy with freshness := .unknown, age := 0 }

namespace OccupancyState

theorem reading_invalidate (occupancy : OccupancyState) (reason : Freshness) :
    (invalidateOccupancy occupancy reason).reading = occupancy.reading := by
  rw [invalidateOccupancy]
  split <;> rfl

theorem values_of_reading {before after : OccupancyState} (same : after.reading = before.reading) :
    after.present = before.present ∧ after.bytes = before.bytes ∧
      after.packets = before.packets ∧ after.observedAt = before.observedAt ∧
      after.sequence = before.sequence ∧ after.queueGeneration = before.queueGeneration := by
  simp only [reading, OccupancyState.mk.injEq] at same
  exact ⟨same.1, same.2.1, same.2.2.1, same.2.2.2.1, same.2.2.2.2.1, same.2.2.2.2.2.2.2.1⟩

end OccupancyState

namespace QueueRecord

/-- Everything an application decides about a queue; counters and memo are left out. -/
structure Unmoved (before after : QueueRecord) : Prop where
  definition : after.definition = before.definition
  lifecycle : after.lifecycle = before.lifecycle
  applicability : after.applicability = before.applicability
  occupancy : after.occupancy = before.occupancy
  fence : after.fence = before.fence
  drain : after.drain = before.drain
  applied : after.applied = before.applied
  failureReason : after.failureReason = before.failureReason

theorem Unmoved.refl (queue : QueueRecord) : Unmoved queue queue :=
  ⟨rfl, rfl, rfl, rfl, rfl, rfl, rfl, rfl⟩

theorem Unmoved.trans {first second third : QueueRecord} (one : Unmoved first second)
    (two : Unmoved second third) : Unmoved first third :=
  ⟨two.definition.trans one.definition, two.lifecycle.trans one.lifecycle,
    two.applicability.trans one.applicability, two.occupancy.trans one.occupancy,
    two.fence.trans one.fence, two.drain.trans one.drain, two.applied.trans one.applied,
    two.failureReason.trans one.failureReason⟩

/-- What upkeep leaves alone: all but the verdict on the evidence. -/
structure Still (before after : QueueRecord) : Prop where
  definition : after.definition = before.definition
  lifecycle : after.lifecycle = before.lifecycle
  fence : after.fence = before.fence
  fenced : after.applicability.hasFlag .fenced = before.applicability.hasFlag .fenced
  reading : after.occupancy.reading = before.occupancy.reading
  drain : after.drain = before.drain
  applied : after.applied = before.applied
  failureReason : after.failureReason = before.failureReason

theorem Unmoved.still {before after : QueueRecord} (unmoved : Unmoved before after) :
    Still before after :=
  ⟨unmoved.definition, unmoved.lifecycle, unmoved.fence, by rw [unmoved.applicability],
    by rw [unmoved.occupancy], unmoved.drain, unmoved.applied, unmoved.failureReason⟩

theorem Still.trans {first second third : QueueRecord} (one : Still first second)
    (two : Still second third) : Still first third :=
  ⟨two.definition.trans one.definition, two.lifecycle.trans one.lifecycle,
    two.fence.trans one.fence, two.fenced.trans one.fenced, two.reading.trans one.reading,
    two.drain.trans one.drain, two.applied.trans one.applied,
    two.failureReason.trans one.failureReason⟩

/-- The memo is as it was, or one attempt was written into it. -/
def Remembers (config : FabricConfig) (before after : QueueRecord) : Prop :=
  after.memo = before.memo ∨
    ∃ entry, after.memo = rememberIn before.memo entry config.limits.maxAttemptMemo

/-- How upkeep changes the verdict on an observation. -/
inductive Tended (config : FabricConfig) (queue : QueueRecord) : OccupancyState → Prop
  | kept : Tended config queue queue.occupancy
  | withdrawn (reason : Freshness) (sticky : isSticky reason = true) :
      Tended config queue (invalidateOccupancy queue.occupancy reason)
  | refreshed (now : Nanos) :
      Tended config queue { queue.occupancy with
        age := occupancyAge now queue.occupancy.observedAt
        freshness := Fabric.refreshedFreshness config queue now }

end QueueRecord

open QueueRecord

namespace Fabric

variable {J : Type}

/-! Upkeep. -/

theorem still_supersedeBinding (queue : QueueRecord) : Still queue (supersedeBinding queue) :=
  ⟨rfl, rfl, rfl, Applicability.fenced_union_stale _, OccupancyState.reading_invalidate _ _, rfl,
    rfl, rfl⟩

theorem still_of_same {before after : QueueRecord} (same : Same before after)
    (reading : after.occupancy.reading = before.occupancy.reading)
    (drain : after.drain = before.drain) (applied : after.applied = before.applied)
    (failureReason : after.failureReason = before.failureReason) : Still before after :=
  ⟨same.definition, same.lifecycle, same.fence, same.fenced, reading, drain, applied,
    failureReason⟩

theorem tended_supersedeEpoch (config : FabricConfig) (queue : QueueRecord) :
    Still queue (supersedeEpoch queue) ∧ Tended config queue (supersedeEpoch queue).occupancy := by
  by_cases present : queue.occupancy.present = true
  · have occupancy : (supersedeEpoch queue).occupancy =
        invalidateOccupancy queue.occupancy .staleEpoch := by
      simp only [supersedeEpoch, present, ↓reduceIte]
      split <;> rfl
    rw [occupancy]
    refine ⟨still_of_same (same_supersedeEpoch queue) ?_ ?_ ?_ ?_, .withdrawn _ rfl⟩
    · rw [occupancy, OccupancyState.reading_invalidate]
    all_goals
      simp only [supersedeEpoch]
      split <;> split <;> rfl
  · have occupancy : (supersedeEpoch queue).occupancy = queue.occupancy := by
      simp only [supersedeEpoch, present, Bool.false_eq_true, ↓reduceIte]
      split <;> rfl
    rw [occupancy]
    refine ⟨still_of_same (same_supersedeEpoch queue) (by rw [occupancy]) ?_ ?_ ?_, .kept⟩
    all_goals
      simp only [supersedeEpoch]
      split <;> split <;> rfl

theorem tended_invalidateQueue (config : FabricConfig) (queue : QueueRecord) :
    Still queue (invalidateQueue queue) ∧
      Tended config queue (invalidateQueue queue).occupancy := by
  by_cases present : queue.occupancy.present = true
  · have occupancy : (invalidateQueue queue).occupancy =
        invalidateOccupancy queue.occupancy .staleBackend := by
      simp only [invalidateQueue, present, ↓reduceIte]
    rw [occupancy]
    refine ⟨still_of_same (same_invalidateQueue queue) ?_ rfl rfl rfl, .withdrawn _ rfl⟩
    rw [occupancy, OccupancyState.reading_invalidate]
  · have occupancy : (invalidateQueue queue).occupancy = queue.occupancy := by
      simp only [invalidateQueue, present, Bool.false_eq_true, ↓reduceIte]
    rw [occupancy]
    exact ⟨still_of_same (same_invalidateQueue queue) (by rw [occupancy]) rfl rfl rfl, .kept⟩

theorem tended_refreshQueueLocked (config : FabricConfig) (queue : QueueRecord) (now : Nanos) :
    Still queue (refreshQueueLocked config queue now) ∧
      Tended config queue (refreshQueueLocked config queue now).occupancy := by
  have occupancy : (refreshQueueLocked config queue now).occupancy = { queue.occupancy with
      age := occupancyAge now queue.occupancy.observedAt
      freshness := refreshedFreshness config queue now } := by
    simp only [refreshQueueLocked]
    split <;> rfl
  rw [occupancy]
  refine ⟨still_of_same (same_refreshQueueLocked config queue now) ?_ ?_ ?_ ?_, .refreshed now⟩
  · rw [occupancy]
    rfl
  all_goals
    simp only [refreshQueueLocked]
    split <;> rfl

/-! Applications. -/

/-- A first execution, not the answer of an earlier one. -/
def Executed (result : Except Status MutationOutcome) : Prop :=
  ∃ outcome, result = .ok outcome ∧ outcome.replayed = false

/-- The queue an accepted request publishes. -/
inductive Mutated (fabric : Fabric J) (request : MutationRequest) (now : Nanos)
    (before : QueueRecord) : QueueRecord → Prop
  | intro (middle after : Fabric J) (tracker : ProvenanceTracker) (applied : KindApplied)
      (durable : Bool) (touch : Touch fabric middle) (config : after.config = fabric.config)
      (admitted : Admitted middle before request now tracker applied) :
      Mutated fabric request now before (publishQueue after before request applied durable)

/-- The queue a committed declaration publishes. -/
inductive Declared (fabric : Fabric J) (request : MutationRequest) (now : Nanos) (id : QueueId) :
    QueueRecord → Prop
  | intro (after : Fabric J) (payload : DeclareQueuePayload) (resource : ResourceRecord)
      (durable : Bool) (config : after.config = fabric.config)
      (numbered : after.nextQueueId = fabric.nextQueueId) (next : id = ⟨fabric.nextQueueId⟩)
      (kind : request.kind = .declareQueue) (carried : request.payload = .declareQueue payload)
      (declarable : Declarable fabric request payload resource) :
      Declared fabric request now id (declaredRecord after request payload now durable)

/-- The result is no first execution on the queue stored under `id`. -/
def Idle (request : MutationRequest) (result : Except Status MutationOutcome) (id : QueueId) :
    Prop := Executed result → request.queue = id → request.kind = .declareQueue

theorem idle_of_error {request : MutationRequest} {status : Status} {id : QueueId} :
    Idle request (.error status) id := by
  rintro ⟨outcome, impossible, _⟩
  cases impossible

/-- What an application does to the queue stored under `id`. -/
inductive Moves (fabric : Fabric J) (request : MutationRequest) (now : Nanos)
    (result : Except Status MutationOutcome) (id : QueueId) :
    Option QueueRecord → Option QueueRecord → Prop
  | absent : Moves fabric request now result id none none
  | unmoved {before after : QueueRecord} (unmoved : Unmoved before after)
      (idle : Idle request result id) (remembers : Remembers fabric.config before after) :
      Moves fabric request now result id (some before) (some after)
  | mutated {before after : QueueRecord} (named : request.queue = id)
      (kind : request.kind ≠ .declareQueue) (executed : Executed result)
      (mutated : Mutated fabric request now before after) :
      Moves fabric request now result id (some before) (some after)
  | declared {after : QueueRecord} (executed : Executed result)
      (declared : Declared fabric request now id after) :
      Moves fabric request now result id none (some after)

theorem moves_refl (fabric : Fabric J) (now : Nanos) (queue : Option QueueRecord)
    {request : MutationRequest} {result : Except Status MutationOutcome} {id : QueueId}
    (idle : Idle request result id) : Moves fabric request now result id queue queue := by
  cases queue with
  | none => exact .absent
  | some queue => exact .unmoved (.refl queue) idle (.inl rfl)

theorem moves_insert {fabric : Fabric J} {request : MutationRequest} {now : Nanos}
    {result : Except Status MutationOutcome} {key id : QueueId} {queue updated : QueueRecord}
    (found : fabric.findQueue key = some queue) (unmoved : Unmoved queue updated)
    (idle : Idle request result id) (remembers : Remembers fabric.config queue updated) :
    Moves fabric request now result id (fabric.queues.get? id)
      ((fabric.queues.insert key updated).get? id) := by
  rw [Table.get?_insert]
  split
  · rename_i here
    subst here
    rw [show fabric.queues.get? key = some queue from found]
    exact .unmoved unmoved idle remembers
  · exact moves_refl _ _ _ idle

theorem remembers_rejectQueue (config : FabricConfig) (queue : QueueRecord)
    (request : MutationRequest) (refusal : Refusal) :
    Remembers config queue (rejectQueue config queue request refusal) := .inr ⟨_, rfl⟩

theorem unmoved_rejectQueue (config : FabricConfig) (queue : QueueRecord)
    (request : MutationRequest) (refusal : Refusal) :
    Unmoved queue (rejectQueue config queue request refusal) :=
  ⟨rfl, rfl, rfl, rfl, rfl, rfl, rfl, rfl⟩

theorem unmoved_publishQueue (fabric : Fabric J) (queue : QueueRecord) (request : MutationRequest)
    (applied : KindApplied) (durable : Bool) :
    Unmoved applied.target (publishQueue fabric queue request applied durable) := by
  rw [publishQueue]
  split <;> exact ⟨rfl, rfl, rfl, rfl, rfl, rfl, rfl, rfl⟩

theorem Declared.blank {fabric : Fabric J} {request : MutationRequest} {now : Nanos} {id : QueueId}
    {after : QueueRecord} (declared : Declared fabric request now id after) :
    after.lifecycle = .declared ∧ after.applicability = .none ∧ after.occupancy = {} ∧
      after.fence = {} ∧ after.drain = {} ∧ after.applied = {} := by
  cases declared with
  | intro after payload resource durable config numbered next kind carried declarable =>
      exact ⟨rfl, rfl, rfl, rfl, rfl, rfl⟩

variable [IJournal J]

omit [IJournal J] in
theorem Mutated.kindCase {fabric : Fabric J} {request : MutationRequest} {now : Nanos}
    {before after : QueueRecord} (mutated : Mutated fabric request now before after) :
    ∃ middle applied, Touch fabric middle ∧ KindCase middle before request now applied ∧
      Unmoved applied.target after := by
  cases mutated with
  | intro middle after tracker applied durable touch config admitted =>
      exact ⟨middle, applied, touch, applyKindLocked_cases admitted.kind,
        unmoved_publishQueue ..⟩

omit [IJournal J] in
theorem answerFromMemo_unmoved (fabric : Fabric J) (key : QueueId) (queue : QueueRecord)
    (request : MutationRequest) (now : Nanos) (memo : AttemptMemo) :
    ∃ updated, Unmoved queue updated ∧ Remembers fabric.config queue updated ∧
      (fabric.answerFromMemo key queue request now memo).fabric.queues =
        fabric.queues.insert key updated ∧
      ¬ Executed (fabric.answerFromMemo key queue request now memo).result := by
  rw [answerFromMemo]
  split
  · refine ⟨_, unmoved_rejectQueue fabric.config queue request _, remembers_rejectQueue .., rfl, ?_⟩
    rintro ⟨outcome, impossible, _⟩
    cases impossible
  split
  · refine ⟨_, ?_, ?_, rfl, ?_⟩
    · exact ⟨rfl, rfl, rfl, rfl, rfl, rfl, rfl, rfl⟩
    · exact .inl rfl
    · rintro ⟨outcome, impossible, _⟩
      cases impossible
  · refine ⟨_, ?_, ?_, rfl, ?_⟩
    · exact ⟨rfl, rfl, rfl, rfl, rfl, rfl, rfl, rfl⟩
    · exact .inl rfl
    · rintro ⟨outcome, answered, new⟩
      cases answered
      cases new

theorem ExistingCase.moves {fabric middle : Fabric J} {key : QueueId} {queue : QueueRecord}
    {request : MutationRequest} {now : Nanos} {reply : Reply J MutationOutcome}
    (ended : ExistingCase middle key queue request now reply) (touch : Touch fabric middle)
    (named : request.queue = key) (kind : request.kind ≠ .declareQueue)
    (found : fabric.findQueue key = some queue) (id : QueueId) :
    Moves fabric request now reply.result id (fabric.findQueue id)
      (reply.fabric.findQueue id) := by
  simp only [findQueue]
  cases ended with
  | answered memo recorded =>
      obtain ⟨updated, unmoved, remembers, queues, again⟩ :=
        answerFromMemo_unmoved middle key queue request now memo
      rw [queues, touch.queues]
      exact moves_insert found unmoved (fun executed => absurd executed again)
        (touch.config ▸ remembers)
  | refused tracker refusal unseen gate real =>
      simp only [reject, touch.queues, touch.config]
      exact moves_insert found (unmoved_rejectQueue ..) idle_of_error (remembers_rejectQueue ..)
  | undurable tracker applied refusal after admitted durable failed real =>
      have kept := commitDurably_touch failed
      have queues : after.queues = fabric.queues := kept.queues.trans touch.queues
      have config : after.config = fabric.config := kept.config.trans touch.config
      simp only [reject, queues, config]
      exact moves_insert found (unmoved_rejectQueue ..) idle_of_error (remembers_rejectQueue ..)
  | published tracker applied after admitted committed =>
      have kept := published_touch committed
      have queues : after.queues = fabric.queues := kept.queues.trans touch.queues
      have config : after.config = fabric.config := kept.config.trans touch.config
      simp only [publish, queues, Table.get?_insert]
      split
      · rename_i here
        subst here
        rw [show fabric.queues.get? key = some queue from found]
        exact .mutated named kind ⟨_, rfl, rfl⟩ (.intro middle after tracker applied _ touch config
          admitted)
      · rename_i elsewhere
        exact moves_refl _ _ _ fun _ here => absurd (named.symm.trans here) elsewhere

theorem DeclareCase.moves {fabric : Fabric J} {request : MutationRequest}
    {payload : DeclareQueuePayload} {now : Nanos} {reply : Reply J MutationOutcome}
    (ended : DeclareCase fabric request payload now reply) (kind : request.kind = .declareQueue)
    (carried : request.payload = .declareQueue payload) (id : QueueId) :
    Moves fabric request now reply.result id (fabric.findQueue id)
      (reply.fabric.findQueue id) := by
  have idle : ∀ result, Idle request result id := fun _ _ _ => kind
  simp only [findQueue]
  cases ended with
  | refused refusal => exact moves_refl _ _ _ (idle _)
  | answered taken found =>
      rw [answerDeclared]
      split
      · exact moves_refl _ _ _ (idle _)
      · split <;> exact moves_refl _ _ _ (idle _)
  | undurable resource refusal after declarable failed =>
      have queues := (commitDurably_touch failed).queues
      simp only [rejectUnbound, countRejection, queues]
      exact moves_refl _ _ _ (idle _)
  | committed resource after declarable written =>
      have touch := commitDurably_touch written
      -- the record is published under a number nobody holds, or nothing is published
      have published : ∀ next : Fabric J, next.config = after.config →
          next.nextQueueId = after.nextQueueId → next.queues = after.queues →
          Moves fabric request now (next.publishDeclared request payload now resource).result id
            (fabric.queues.get? id)
            ((next.publishDeclared request payload now resource).fabric.queues.get? id) := by
        intro next config numbered queues
        have listed : next.queues = fabric.queues := queues.trans touch.queues
        have number : next.nextQueueId = fabric.nextQueueId := numbered.trans touch.nextQueueId
        simp only [publishDeclared, listed, Table.get?_emplace]
        cases stored : fabric.queues.get? id with
        | some queue => exact moves_refl _ _ _ (idle _)
        | none =>
            rw [Option.none_or]
            split
            · rename_i here
              refine .declared ⟨_, rfl, rfl⟩ (.intro next payload resource _
                (config.trans touch.config) number ?_ kind carried declarable)
              rw [← here, number]
            · exact .absent
      rw [admitDeclared]
      split
      · exact published after rfl rfl rfl
      · simp only []
        split
        · simp only [rejectUnbound, countRejection, touch.queues]
          exact moves_refl _ _ _ (idle _)
        · exact published { after with
            provenance := (after.provenance.observe request.provenance).2 } rfl rfl rfl

theorem ApplyCase.moves {fabric : Fabric J} {request : MutationRequest} {now : Nanos}
    {reply : Reply J MutationOutcome} (ended : ApplyCase fabric request now reply) (id : QueueId) :
    Moves fabric request now reply.result id (fabric.findQueue id)
      (reply.fabric.findQueue id) := by
  cases ended with
  | stopped stopping => exact moves_refl _ _ _ idle_of_error
  | unbound refusal => exact moves_refl _ _ _ idle_of_error
  | declare payload reply valid kind carried ended => exact ended.moves kind carried id
  | existing queue reply valid kind found ended =>
      exact ended.moves (.refl fabric) rfl kind found id

theorem apply_moves (fabric : Fabric J) (request : MutationRequest) (id : QueueId) :
    Moves fabric.monotonicNow.2 request fabric.monotonicNow.1 (fabric.apply request).result id
      (fabric.findQueue id) ((fabric.apply request).fabric.findQueue id) :=
  (applyAt_cases fabric.monotonicNow.2 request fabric.monotonicNow.1).moves id

/-! Calls. -/

/-- The request a call presents to the queue it names. -/
inductive Presenting (fabric : Fabric J) (request : MutationRequest) : Call → Prop
  | applied : Presenting fabric request (.apply request)
  | committed (plan : BackendPlan) (applied : BackendApplied) (provenance : Provenance)
      (same : request = fabric.planRequest plan applied provenance) :
      Presenting fabric request (.commitBackendApply plan applied provenance)

omit [IJournal J] in
theorem Presenting.unique {fabric : Fabric J} {first second : MutationRequest} {call : Call}
    (one : Presenting fabric first call) (two : Presenting fabric second call) :
    first = second := by
  cases one with
  | applied =>
      cases two with
      | applied => rfl
  | committed plan applied provenance same =>
      cases two with
      | committed _ _ _ again => rw [same, again]

/-- An answer that reports a first execution. -/
def Executes (result : Except Status Answer) : Prop :=
  ∃ outcome, result = .ok (.outcome outcome) ∧ outcome.replayed = false

instance (result : Except Status MutationOutcome) : Decidable (Executed result) :=
  match result with
  | .ok outcome => decidable_of_iff (outcome.replayed = false) (by simp [Executed])
  | .error _ => isFalse (by simp [Executed])

instance (result : Except Status Answer) : Decidable (Executes result) :=
  match result with
  | .ok (.outcome outcome) => decidable_of_iff (outcome.replayed = false) (by simp [Executes])
  | .error _ | .ok .done | .ok (.identity _) | .ok (.plan _) | .ok (.explanation _) =>
      isFalse (by simp [Executes])

/-- The call declares the class the queue is bound to anew. -/
inductive Unbinds (fabric : Fabric J) (queue : QueueRecord) : Call → Prop
  | intro (resource : ResourceId) (name : Text) (priority : UInt32) (qos : QosRef)
      (principal : OwnerId) (epoch : Epoch) (provenance : Provenance) (record : ResourceRecord)
      (cls : ClassId) (classes : List SchedulingClassDef) (nextClassId : UInt64)
      (found : fabric.findResource resource = some record)
      (declared : fabric.declareClassIn record resource name priority qos provenance =
        .ok (cls, classes, nextClassId))
      (home : queue.definition.resource = resource) (bound : queue.definition.cls.id = cls) :
      Unbinds fabric queue (.declareClass resource name priority qos principal epoch provenance)

/-- The call executes no request on the queue stored under `id`. -/
def Quiet (fabric : Fabric J) (call : Call) (result : Except Status Answer) (id : QueueId) : Prop :=
  ∀ request, Presenting fabric request call → request.queue = id → Executes result →
    request.kind = .declareQueue

omit [IJournal J] in
theorem quiet_of_error {fabric : Fabric J} {call : Call} {result : Except Status Answer}
    {id : QueueId} (failed : ∃ status, result = .error status) : Quiet fabric call result id := by
  rintro request presented named ⟨outcome, succeeded, _⟩
  obtain ⟨status, impossible⟩ := failed
  rw [succeeded] at impossible
  cases impossible

/-- What a call of a life does to the queue stored under `id`. -/
inductive QueueStep (fabric : Fabric J) (call : Call) (result : Except Status Answer)
    (id : QueueId) : Option QueueRecord → Option QueueRecord → Prop
  | absent : QueueStep fabric call result id none none
  | tended {before after : QueueRecord} (still : Still before after)
      (tended : Tended fabric.config before after.occupancy)
      (quiet : Quiet fabric call result id) (remembers : Remembers fabric.config before after) :
      QueueStep fabric call result id (some before) (some after)
  | unbound {before : QueueRecord} (unbinds : Unbinds fabric before call) :
      QueueStep fabric call result id (some before) (some (supersedeBinding before))
  | mutated {before after : QueueRecord} (start : Fabric J) (request : MutationRequest)
      (now : Nanos) (presented : Presenting fabric request call) (named : request.queue = id)
      (executed : Executes result) (touch : Touch fabric start)
      (mutated : Mutated start request now before after)
      (read : call = .apply request → now = fabric.monotonicNow.1) :
      QueueStep fabric call result id (some before) (some after)
  | declared {after : QueueRecord} (start : Fabric J) (request : MutationRequest) (now : Nanos)
      (presented : call = .apply request) (executed : Executes result)
      (touch : Touch fabric start) (declared : Declared start request now id after) :
      QueueStep fabric call result id none (some after)

omit [IJournal J] in
theorem queueStep_of_eq {fabric after : Fabric J} (queues : after.queues = fabric.queues)
    {call : Call} {result : Except Status Answer} {id : QueueId}
    (quiet : Quiet fabric call result id) :
    QueueStep fabric call result id (fabric.findQueue id) (after.findQueue id) := by
  simp only [findQueue, queues]
  cases fabric.queues.get? id with
  | none => exact .absent
  | some queue => exact .tended (Unmoved.refl queue).still .kept quiet (.inl rfl)

omit [IJournal J] in
theorem queueStep_of_mapValues {fabric after : Fabric J} {update : QueueRecord → QueueRecord}
    (queues : after.queues = fabric.queues.mapValues fun _ queue => update queue)
    (tended : ∀ queue, Still queue (update queue) ∧
      Tended fabric.config queue (update queue).occupancy)
    (same : ∀ queue, Same queue (update queue))
    {call : Call} {result : Except Status Answer} {id : QueueId}
    (quiet : Quiet fabric call result id) :
    QueueStep fabric call result id (fabric.findQueue id) (after.findQueue id) := by
  simp only [findQueue, queues, Table.get?_mapValues]
  cases fabric.queues.get? id with
  | none => exact .absent
  | some queue => exact .tended (tended queue).1 (tended queue).2 quiet (.inl (same queue).memo)

omit [IJournal J] in
theorem Moves.queueStep {fabric start : Fabric J} {request : MutationRequest} {now : Nanos}
    {result : Except Status MutationOutcome} {id : QueueId} {before after : Option QueueRecord}
    (moves : Moves start request now result id before after) (touch : Touch fabric start)
    (read : now = fabric.monotonicNow.1) :
    QueueStep fabric (.apply request) (result.map .outcome) id before after := by
  have executes : Executed result → Executes (result.map .outcome) := by
    rintro ⟨outcome, rfl, new⟩
    exact ⟨outcome, rfl, new⟩
  have unexecutes : Executes (result.map .outcome) → Executed result := by
    rintro ⟨outcome, answered, new⟩
    cases result with
    | error status => cases answered
    | ok value =>
        cases answered
        exact ⟨outcome, rfl, new⟩
  cases moves with
  | absent => exact .absent
  | unmoved unmoved idle remembers =>
      refine .tended unmoved.still ?_ ?_ (touch.config ▸ remembers)
      · rw [unmoved.occupancy]
        exact .kept
      · intro other presented named executed
        cases presented with
        | applied => exact idle (unexecutes executed) named
  | mutated named kind executed mutated =>
      exact .mutated start request now .applied named (executes executed) touch mutated fun _ => read
  | declared executed declared =>
      exact .declared start request now rfl (executes executed) touch declared

theorem CommitCase.queueStep {fabric : Fabric J} {plan : BackendPlan} {queue : QueueRecord}
    {applied : BackendApplied} {provenance : Provenance} {reply : Reply J MutationOutcome}
    (ended : CommitCase fabric plan queue (fabric.planRequest plan applied provenance) reply)
    (found : fabric.findQueue plan.queue = some queue) (id : QueueId) :
    QueueStep fabric (.commitBackendApply plan applied provenance)
      (reply.result.map .outcome) id (fabric.findQueue id) (reply.fabric.findQueue id) := by
  cases ended with
  | refused refused =>
      obtain ⟨status, failed⟩ := refused.failed
      exact queueStep_of_eq refused.queues (quiet_of_error ⟨status, by rw [failed]; rfl⟩)
  | lost status events after touch written =>
      exact queueStep_of_eq touch.queues (quiet_of_error ⟨status, rfl⟩)
  | served middle now inner events after touch written ended final journal =>
      have moves := ended.moves touch rfl (by simp [planRequest]) found id
      simp only [findQueue, final.queues] at moves ⊢
      generalize inner.fabric.queues.get? id = updated at moves
      generalize fabric.queues.get? id = stored at moves
      cases moves with
      | absent => exact .absent
      | unmoved unmoved idle remembers =>
          refine .tended unmoved.still ?_ ?_ remembers
          · rw [unmoved.occupancy]
            exact .kept
          · rintro request presented here ⟨outcome, answered, new⟩
            cases presented with
            | committed _ _ _ same =>
                rw [same] at here ⊢
                refine idle ⟨outcome, ?_, new⟩ here
                cases inner with
                | mk result _ _ =>
                    cases result with
                    | error status => cases answered
                    | ok value =>
                        cases answered
                        rfl
      | mutated named kind executed mutated =>
          obtain ⟨outcome, same, new⟩ := executed
          refine .mutated fabric _ now (.committed plan applied provenance rfl) named
            ⟨outcome, ?_, new⟩ (.refl fabric) mutated (fun impossible => by cases impossible)
          rw [same]
          rfl
      | declared executed declared =>
          cases declared with
          | intro after payload resource durable config numbered next kind carried declarable =>
              simp [planRequest] at kind

theorem Recorded.queueStep {fabric lost kept : Fabric J} {type : JournalRecordType}
    {payload : Bytes} {value : Answer} {reply : Reply J Answer}
    (recorded : Recorded fabric type payload lost kept value reply)
    (onLost : lost.queues = fabric.queues) {call : Call} {id : QueueId}
    (onKept : QueueStep fabric call (.ok value) id (fabric.findQueue id) (kept.findQueue id)) :
    QueueStep fabric call reply.result id (fabric.findQueue id) (reply.fabric.findQueue id) := by
  cases recorded with
  | lost status events after touch written =>
      exact queueStep_of_eq (touch.queues.trans onLost) (quiet_of_error ⟨status, rfl⟩)
  | kept events after touch written =>
      simp only [findQueue, touch.queues]
      exact onKept

theorem ServeCase.queueStep {fabric : Fabric J} {call : Call} {reply : Reply J Answer}
    (ended : ServeCase fabric call reply) (living : call ≠ .recover) (id : QueueId) :
    QueueStep fabric call reply.result id (fabric.findQueue id) (reply.fabric.findQueue id) := by
  cases ended with
  | refused refused => exact queueStep_of_eq refused.queues (quiet_of_error refused.failed)
  | recovered => exact absurd rfl living
  | stopped touch journal => exact queueStep_of_eq touch.queues (by rintro _ ⟨⟩)
  | edited lost kept updated value spent issued edit recorded =>
      refine recorded.queueStep rfl (queueStep_of_eq rfl ?_)
      cases edit <;> rintro _ ⟨⟩
  | classed resource name priority qos principal epoch provenance record cls classes nextClassId
      generation found declared recorded =>
      refine recorded.queueStep rfl ?_
      simp only [findQueue, invalidateBound, Table.get?_mapValues]
      cases fabric.queues.get? id with
      | none => exact .absent
      | some queue =>
          simp only [Option.map_some]
          split
          · rename_i loses
            simp only [losesBinding, Bool.and_eq_true, decide_eq_true_eq] at loses
            exact .unbound (.intro resource name priority qos principal epoch provenance record cls
              classes nextClassId found declared loses.1.1 loses.1.2)
          · exact .tended (Unmoved.refl queue).still .kept (by rintro _ ⟨⟩) (.inl rfl)
  | advanced principal provenance epoch payload minted recorded =>
      exact recorded.queueStep rfl (queueStep_of_mapValues rfl (tended_supersedeEpoch _)
        same_supersedeEpoch (by rintro _ ⟨⟩))
  | invalidated target principal epoch reason queue events after found touch journal =>
      simp only [findQueue, touch.queues, Table.get?_insert]
      split
      · rename_i here
        subst here
        rw [show fabric.queues.get? target = some queue from found]
        obtain ⟨still, tended⟩ := tended_invalidateQueue fabric.config queue
        exact .tended still tended (by rintro _ ⟨⟩) (.inl rfl)
      · exact queueStep_of_eq rfl (by rintro _ ⟨⟩)
  | applied request now inner events after ended touch journal read =>
      have moves := ended.moves id
      simp only [findQueue, touch.queues] at moves ⊢
      exact moves.queueStep (monotonicNow_touch fabric) read
  | gated target expected principal provenance accepted refused =>
      have queues : reply.fabric.queues = fabric.queues := refused.queues
      exact queueStep_of_eq queues (by rintro _ ⟨⟩)
  | planned target expected principal provenance plan accepted recorded =>
      have queues : reply.fabric.queues = fabric.queues := by
        cases recorded with
        | lost status events after touch written => exact touch.queues
        | kept events after touch written => exact touch.queues
      exact queueStep_of_eq queues (by rintro _ ⟨⟩)
  | committed plan applied provenance queue inner found ended =>
      exact ended.queueStep found id
  | aborted plan reason recorded =>
      exact recorded.queueStep rfl (queueStep_of_eq rfl (by rintro _ ⟨⟩))
  | explained target principal touch journal =>
      exact queueStep_of_eq touch.queues (by rintro _ ⟨⟩)
  | refreshed now touch journal =>
      exact queueStep_of_mapValues touch.queues
        (fun queue => tended_refreshQueueLocked fabric.config queue now)
        (fun queue => same_refreshQueueLocked fabric.config queue now) (by rintro _ ⟨⟩)
  | compacted journal present touch rewritten =>
      exact queueStep_of_eq touch.queues (by rintro _ ⟨⟩)

theorem serve_queueStep (fabric : Fabric J) {call : Call} (living : call ≠ .recover)
    (id : QueueId) :
    QueueStep fabric call (fabric.serve call).result id (fabric.findQueue id)
      ((fabric.serve call).fabric.findQueue id) :=
  (serve_cases fabric call).queueStep living id

/-! Lives. -/

theorem serveAll_append (fabric : Fabric J) (first second : List Call) :
    fabric.serveAll (first ++ second) = (fabric.serveAll first).serveAll second :=
  List.foldl_append

theorem serveAll_concat (fabric : Fabric J) (calls : List Call) (call : Call) :
    fabric.serveAll (calls ++ [call]) = ((fabric.serveAll calls).serve call).fabric := by
  rw [serveAll_append]
  rfl

theorem serve_keeps (fabric : Fabric J) {call : Call} (living : call ≠ .recover) {id : QueueId}
    {queue : QueueRecord} (found : fabric.findQueue id = some queue) :
    ∃ next, (fabric.serve call).fabric.findQueue id = some next ∧
      QueueStep fabric call (fabric.serve call).result id (some queue) (some next) := by
  have moved := serve_queueStep fabric living id
  rw [found] at moved
  cases kept : (fabric.serve call).fabric.findQueue id with
  | none =>
      rw [kept] at moved
      cases moved
  | some next =>
      rw [kept] at moved
      exact ⟨next, rfl, moved⟩

/-- What relates a queue to its successor in every call relates it along a whole life. -/
theorem serveAll_related (related : QueueRecord → QueueRecord → Prop)
    (refl : ∀ queue, related queue queue)
    (trans : ∀ first second third, related first second → related second third →
      related first third) {id : QueueId}
    (step : ∀ (fabric : Fabric J) call before after, QueueStep fabric call
      (fabric.serve call).result id (some before) (some after) → related before after)
    (fabric : Fabric J) (calls : List Call) (living : ∀ call ∈ calls, call ≠ .recover)
    {queue : QueueRecord} (found : fabric.findQueue id = some queue) :
    ∃ next, (fabric.serveAll calls).findQueue id = some next ∧ related queue next := by
  induction calls generalizing fabric queue with
  | nil => exact ⟨queue, found, refl queue⟩
  | cons call rest ih =>
      obtain ⟨next, kept, moved⟩ := serve_keeps fabric (living call List.mem_cons_self) found
      obtain ⟨last, final, later⟩ := ih (fabric.serve call).fabric
        (fun other listed => living other (List.mem_cons_of_mem call listed)) kept
      exact ⟨last, final, trans queue next last (step fabric call queue next moved) later⟩

end Fabric

/-! A small system: one resource, one class, one pool and one declared queue. -/

namespace System

def sampleProvenance (sequence : UInt64) : Provenance :=
  { publisher := ⟨9⟩, node := ⟨1⟩, incarnation := ⟨1⟩, epoch := ⟨1⟩, sequence := ⟨sequence⟩,
    boot := ⟨1, 1⟩ }

def sampleRequest (sequence : UInt64) (kind : MutationKind) (payload : MutationPayload) :
    MutationRequest :=
  { attempt := ⟨⟨9⟩, sequence⟩, kind, queue := ⟨1⟩, expectedGeneration := ⟨1⟩,
    expectedEpoch := ⟨1⟩, principal := ⟨5⟩, provenance := sampleProvenance sequence, payload }

def sampleDeclaration : MutationRequest :=
  { sampleRequest 1 .declareQueue (.declareQueue
      { resource := ⟨1⟩, name := text "q", cls := ⟨⟨1⟩, ⟨1⟩⟩, pool := ⟨⟨1⟩, ⟨1⟩, 0⟩,
        thresholds := ⟨10, 50, 100, 0, 0⟩ }) with
    queue := default
    expectedGeneration := default }

def sampleStart : System := boot {} (some {}) ⟨fun _ => 1000, 0⟩ 7 []

def sampleSteps : List Step := [
  .call (.declareResource (text "r") ⟨5⟩ (sampleProvenance 1)) [],
  .call (.declareClass ⟨1⟩ (text "c") 0 {} ⟨5⟩ ⟨1⟩ (sampleProvenance 1)) [],
  .call (.declarePool ⟨1⟩ (text "p") 0 ⟨5⟩ ⟨1⟩ (sampleProvenance 1)) [],
  .call (.apply sampleDeclaration) []]

def sampleSystem : System := sampleStart.run sampleSteps

theorem first_queue {fabric : Fabric StableStore} {property : QueueRecord → Prop}
    [DecidablePred property]
    (holds : (fabric.findQueue ⟨1⟩).any (fun queue => property queue) = true) :
    ∃ queue, fabric.findQueue ⟨1⟩ = some queue ∧ property queue := by
  obtain ⟨queue, found, holds⟩ := (Option.any_eq_true _ _).mp holds
  exact ⟨queue, found, by simpa using holds⟩

end System

end QueueFabric
