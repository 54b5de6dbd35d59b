import QueueFabric.Decodability
import QueueFabric.Draining
import QueueFabric.TableCases

/-!
The bounds every stored record keeps. Under limits no higher than the codec's,
each call and each recovery leaves every queue and every resource under its own
identity and within what the reader of a snapshot accepts.
-/

namespace QueueFabric

open QueueRecord Wire

/-- The configured limits are not above the compile-time limits. -/
structure FabricConfig.WithinLimits (config : FabricConfig) : Prop where
  resources : config.limits.maxResources.toNat ≤ Limits.maxResources
  grants : config.limits.maxGrantsPerResource.toNat ≤ Limits.maxGrantsPerResource
  classes : config.limits.maxClassesPerResource.toNat ≤ Limits.maxClassesPerResource
  pools : config.limits.maxPoolsPerResource.toNat ≤ Limits.maxPoolsPerResource
  memo : config.limits.maxAttemptMemo.toNat ≤ Limits.maxAttemptMemoPerQueue
  evidence : config.policy.maxDrainEvidenceRecords.toNat ≤ Limits.maxDrainEvidenceRecords

/-! Queues. -/

namespace QueueRecord

/-- A queue stored under `id`, within the bounds of its encoding. -/
structure Limited (id : QueueId) (queue : QueueRecord) : Prop where
  keyed : queue.definition.id = id
  name : queue.definition.name.length ≤ Limits.maxNameChars
  failure : queue.failureReason.length ≤ Limits.maxReasonChars
  reason : queue.fence.reason.length ≤ Limits.maxReasonChars
  memo : queue.memo.length ≤ Limits.maxAttemptMemoPerQueue
  evidence : queue.drain.evidence.records.toNat ≤ Limits.maxDrainEvidenceRecords

theorem length_rememberIn {memo : List AttemptMemo} {entry : AttemptMemo} {capacity : UInt64}
    {bound : Nat} (few : memo.length ≤ bound) (within : capacity.toNat ≤ bound) :
    (rememberIn memo entry capacity).length ≤ bound := by
  rw [rememberIn]
  split
  · exact few
  rename_i nonzero
  have positive : 0 < capacity.toNat := by
    rw [Nat.pos_iff_ne_zero]
    exact fun zero => nonzero (UInt64.toNat_inj.mp zero)
  split
  · rename_i replaced found
    have length := congrArg List.length (replaceMemo_attempts found)
    rw [List.length_map, List.length_map] at length
    omega
  · rw [List.length_append, List.length_singleton]
    split
    · rw [List.length_tail]
      omega
    · omega

theorem Remembers.length {config : FabricConfig} {before after : QueueRecord}
    (remembers : Remembers config before after) (within : config.WithinLimits)
    (few : before.memo.length ≤ Limits.maxAttemptMemoPerQueue) :
    after.memo.length ≤ Limits.maxAttemptMemoPerQueue := by
  rcases remembers with same | ⟨entry, written⟩
  · exact same ▸ few
  · exact written ▸ length_rememberIn few within.memo

theorem Limited.still {id : QueueId} {before after : QueueRecord} (bounded : before.Limited id)
    (still : Still before after)
    (few : after.memo.length ≤ Limits.maxAttemptMemoPerQueue) : after.Limited id where
  keyed := by rw [still.definition]; exact bounded.keyed
  name := by rw [still.definition]; exact bounded.name
  failure := by rw [still.failureReason]; exact bounded.failure
  reason := by rw [still.fence]; exact bounded.reason
  memo := few
  evidence := by rw [still.drain]; exact bounded.evidence

/-- What a record keeps on its way through a snapshot. -/
structure Carried (before after : QueueRecord) : Prop where
  definition : after.definition = before.definition
  lifecycle : after.lifecycle = before.lifecycle
  failureReason : after.failureReason = before.failureReason
  fence : after.fence = before.fence
  applied : after.applied = before.applied
  memo : after.memo = before.memo
  lastAttempt : after.lastAttempt = before.lastAttempt
  mutationCount : after.mutationCount = before.mutationCount
  replayedCount : after.replayedCount = before.replayedCount
  rejectedCount : after.rejectedCount = before.rejectedCount
  overflowEvents : after.overflowEvents = before.overflowEvents
  reading : after.occupancy.reading = before.occupancy.reading

theorem Carried.trans {first second third : QueueRecord} (one : Carried first second)
    (two : Carried second third) : Carried first third where
  definition := two.definition.trans one.definition
  lifecycle := two.lifecycle.trans one.lifecycle
  failureReason := two.failureReason.trans one.failureReason
  fence := two.fence.trans one.fence
  applied := two.applied.trans one.applied
  memo := two.memo.trans one.memo
  lastAttempt := two.lastAttempt.trans one.lastAttempt
  mutationCount := two.mutationCount.trans one.mutationCount
  replayedCount := two.replayedCount.trans one.replayedCount
  rejectedCount := two.rejectedCount.trans one.rejectedCount
  overflowEvents := two.overflowEvents.trans one.overflowEvents
  reading := two.reading.trans one.reading

theorem carried_stored (queue : QueueRecord) : Carried queue queue.stored :=
  ⟨rfl, rfl, rfl, rfl, rfl, rfl, rfl, rfl, rfl, rfl, rfl, rfl⟩

theorem carried_restoreQueue (queue : QueueRecord) :
    Carried queue (Scan.restoreQueue queue) := by
  by_cases present : queue.occupancy.present = true
  all_goals by_cases draining : (queue.drain.inProgress || queue.drain.phase = .completed) = true
  all_goals by_cases known : queue.applied.known = true
  all_goals
    simp only [Scan.restoreQueue, present, draining, known, Bool.false_eq_true, ↓reduceIte]
    constructor
  all_goals first | rfl | exact OccupancyState.reading_invalidate _ _

theorem carried_revalidateQueue (queue : QueueRecord) :
    Carried queue (Fabric.revalidateQueue queue) := by
  by_cases present : queue.occupancy.present = true
  all_goals
    simp only [Fabric.revalidateQueue, present, Bool.false_eq_true, ↓reduceIte]
    constructor
  all_goals first | rfl | exact OccupancyState.reading_invalidate _ _

theorem carried_markUnfinished (queue : QueueRecord) :
    Carried queue (Fabric.markUnfinished queue) :=
  ⟨rfl, rfl, rfl, rfl, rfl, rfl, rfl, rfl, rfl, rfl, rfl, OccupancyState.reading_invalidate _ _⟩

theorem Limited.carried {id : QueueId} {before after : QueueRecord} (bounded : before.Limited id)
    (carried : Carried before after)
    (records : after.drain.evidence.records = before.drain.evidence.records) :
    after.Limited id where
  keyed := by rw [carried.definition]; exact bounded.keyed
  name := by rw [carried.definition]; exact bounded.name
  failure := by rw [carried.failureReason]; exact bounded.failure
  reason := by rw [carried.fence]; exact bounded.reason
  memo := by rw [carried.memo]; exact bounded.memo
  evidence := by rw [records]; exact bounded.evidence

theorem Limited.restored {id : QueueId} {queue : QueueRecord} (bounded : queue.Limited id) :
    (Scan.restoreQueue queue).Limited id := by
  refine bounded.carried (carried_restoreQueue queue) ?_
  rw [Fabric.restoreQueue_drain]
  split <;> rfl

theorem Limited.encodes {id : QueueId} {queue : QueueRecord} (bounded : queue.Limited id) :
    encodeQueueState queue ≠ [] := by
  have name := bounded.name
  have failure := bounded.failure
  have reason := bounded.reason
  have memo := bounded.memo
  rw [encodeQueueState_ne_nil_iff, encodedSize]
  simp only [Limits.maxNameChars, Limits.maxReasonChars, Limits.maxAttemptMemoPerQueue,
    Limits.maxJournalRecordBytes] at name failure reason memo ⊢
  omega

theorem Limited.decodes {id : QueueId} {queue : QueueRecord} (bounded : queue.Limited id) :
    decodeQueueState (encodeQueueState queue) = .ok queue.stored :=
  (decodeWhole_finish (feeds_queueState queue bounded.evidence) _ bounded.encodes).1
    ⟨⟨⟨trivial, bounded.failure⟩, bounded.reason⟩, bounded.memo⟩

theorem Limited.stored {id : QueueId} {queue : QueueRecord} (bounded : queue.Limited id) :
    queue.stored.Limited id :=
  ⟨bounded.keyed, bounded.name, bounded.failure, bounded.reason, bounded.memo, bounded.evidence⟩

end QueueRecord

namespace Fabric

variable {J : Type}

theorem length_bounded (value : Text) (limit : Nat) : (bounded value limit).length ≤ limit :=
  List.length_take_le limit value

theorem applyKindLocked_fence {fabric : Fabric J} {target : QueueRecord}
    {request : MutationRequest} {now : Nanos} {applied : KindApplied}
    (kind : request.kind = .fenceQueue)
    (ok : applyKindLocked fabric target request now = .ok applied) :
    applied.target = target ∨ applied.target.fence.reason.length ≤ Limits.maxReasonChars := by
  rw [applyKindLocked, kind] at ok
  cases carried : request.payload with
  | fence payload =>
      simp only [carried, applyFence, unchanged] at ok
      split at ok
      · cases ok
        exact .inl rfl
      · cases ok
        exact .inr (length_bounded _ _)
  | _ =>
      simp only [carried] at ok
      cases ok

theorem applyKindLocked_fail {fabric : Fabric J} {target : QueueRecord}
    {request : MutationRequest} {now : Nanos} {applied : KindApplied}
    (kind : request.kind = .failQueue)
    (ok : applyKindLocked fabric target request now = .ok applied) :
    applied.target = target ∨ applied.target.failureReason.length ≤ Limits.maxReasonChars := by
  rw [applyKindLocked, kind] at ok
  cases carried : request.payload with
  | fence payload =>
      simp only [carried, applyFail, unchanged] at ok
      split at ok
      · cases ok
        exact .inl rfl
      · obtain ⟨rule, allowed, ok⟩ := bind_ok ok
        cases ok
        exact .inr (length_bounded _ _)
  | _ =>
      simp only [carried] at ok
      cases ok

theorem applyKindLocked_bounded {fabric : Fabric J} {target : QueueRecord}
    {request : MutationRequest} {now : Nanos} {applied : KindApplied} {id : QueueId}
    (ok : applyKindLocked fabric target request now = .ok applied)
    (within : fabric.config.WithinLimits) (bounded : target.Limited id) :
    applied.target.Limited id := by
  obtain ⟨keyed, name, failure, reason, memo, evidence⟩ := bounded
  have ended := applyKindLocked_cases ok
  cases ended with
  | unchanged rule repeats => exact ⟨keyed, name, failure, reason, memo, evidence⟩
  | moved goal rule events kind moves allowed =>
      exact ⟨keyed, name, failure, reason, memo, evidence⟩
  | redefined cls thresholds owner generation rule events minted kind changed bound ladder =>
      exact ⟨keyed, name, failure, reason, memo, evidence⟩
  | ingested sample overflows rule events stats kind payload generation epoch =>
      refine ⟨keyed, name, failure, reason, memo, ?_⟩
      have records : (noteZero target.drain sample).evidence.records =
          target.drain.evidence.records := by
        simp only [noteZero]
        split_ifs <;> rfl
      rw [ingestTarget, records]
      exact evidence
  | drainRequested rule events kind moves allowed =>
      exact ⟨keyed, name, failure, reason, memo, Nat.zero_le _⟩
  | drainCancelled rule events kind draining =>
      exact ⟨keyed, name, failure, reason, memo, Nat.zero_le _⟩
  | evidenceRecorded submitted rule events kind payload progress some few backed =>
      exact ⟨keyed, name, failure, reason, memo, Nat.le_trans few within.evidence⟩
  | quiesced rule events kind draining complete acknowledged =>
      exact ⟨keyed, name, failure, reason, memo, evidence⟩
  | fenced fence rule events kind raised =>
      refine ⟨keyed, name, failure, ?_, memo, evidence⟩
      rcases applyKindLocked_fence kind ok with same | short
      · rw [same]
        exact reason
      · exact short
  | unfenced rule events kind => exact ⟨keyed, name, failure, Nat.zero_le _, memo, evidence⟩
  | failed text rule events kind moves allowed =>
      refine ⟨keyed, name, ?_, reason, memo, evidence⟩
      rcases applyKindLocked_fail kind ok with same | short
      · rw [same]
        exact failure
      · exact short
  | retired rule events kind moves allowed =>
      exact ⟨keyed, name, failure, reason, memo, Nat.zero_le _⟩
  | acknowledged acknowledged rule events kind generation =>
      exact ⟨keyed, name, failure, reason, memo, evidence⟩

theorem Mutated.bounded {fabric : Fabric J} {request : MutationRequest} {now : Nanos}
    {before after : QueueRecord} {id : QueueId} (mutated : Mutated fabric request now before after)
    (within : fabric.config.WithinLimits) (bounded : before.Limited id) : after.Limited id := by
  cases mutated with
  | intro middle after tracker applied durable touch config admitted =>
      have kept : applied.target.Limited id :=
        applyKindLocked_bounded admitted.kind (touch.config ▸ within) bounded
      refine kept.still (unmoved_publishQueue after before request applied durable).still ?_
      have written : ∃ entry, (publishQueue after before request applied durable).memo =
          rememberIn applied.target.memo entry fabric.config.limits.maxAttemptMemo := by
        rw [publishQueue, config]
        split <;> exact ⟨_, rfl⟩
      obtain ⟨entry, written⟩ := written
      exact written ▸ length_rememberIn kept.memo within.memo

end Fabric

theorem short_of_validate {request : MutationRequest} {payload : DeclareQueuePayload}
    (valid : request.validate.isOk = true) (kind : request.kind = .declareQueue)
    (carried : request.payload = .declareQueue payload) :
    payload.name.length ≤ Limits.maxNameChars := by
  have target := Fabric.target_of_valid valid
  by_contra long
  rw [MutationRequest.validateTarget, kind, carried] at target
  simp only [] at target
  split at target
  · cases target
  split at target
  · cases target
  · rw [if_pos (by simp only [Bool.or_eq_true, decide_eq_true_eq]; omega)] at target
    cases target

namespace Fabric

variable {J : Type}

theorem Declared.bounded {fabric : Fabric J} {request : MutationRequest} {now : Nanos}
    {id : QueueId} {after : QueueRecord} (declared : Declared fabric request now id after)
    (valid : request.validate.isOk = true) (within : fabric.config.WithinLimits) :
    after.Limited id := by
  cases declared with
  | intro after payload resource durable config numbered next kind carried declarable =>
      refine ⟨?_, short_of_validate valid kind carried, Nat.zero_le _, Nat.zero_le _, ?_,
        Nat.zero_le _⟩
      · rw [next, ← numbered]
        rfl
      · simp only [declaredRecord, remember, config]
        exact length_rememberIn (Nat.zero_le _) within.memo

variable [IJournal J]

theorem ApplyCase.valid {fabric : Fabric J} {request : MutationRequest} {now : Nanos}
    {reply : Reply J MutationOutcome} (ended : ApplyCase fabric request now reply)
    (executed : Executed reply.result) : request.validate.isOk = true := by
  obtain ⟨outcome, ok, _⟩ := executed
  cases ended with
  | stopped stopping => cases ok
  | unbound refusal => cases ok
  | declare payload reply valid kind carried ended => exact valid
  | existing queue reply valid kind found ended => exact valid

theorem valid_of_executes {fabric : Fabric J} {request : MutationRequest}
    (executes : Executes (fabric.serve (.apply request)).result) :
    request.validate.isOk = true := by
  obtain ⟨outcome, ok, fresh⟩ := executes
  have ended := applyAt_cases fabric.monotonicNow.2 request fabric.monotonicNow.1
  refine ended.valid ⟨outcome, ?_, fresh⟩
  change (fabric.monotonicNow.2.applyAt request fabric.monotonicNow.1).result.map Answer.outcome =
    .ok (.outcome outcome) at ok
  cases result : (fabric.monotonicNow.2.applyAt request fabric.monotonicNow.1).result with
  | error status =>
      rw [result] at ok
      cases ok
  | ok value =>
      rw [result] at ok
      cases ok
      rfl

theorem serve_bounded_queue {fabric : Fabric J} {call : Call} (living : call ≠ .recover)
    (within : fabric.config.WithinLimits) {id : QueueId}
    (bounded : ∀ queue, fabric.findQueue id = some queue → queue.Limited id) {after : QueueRecord}
    (found : (fabric.serve call).fabric.findQueue id = some after) : after.Limited id := by
  have step := serve_queueStep fabric living id
  rw [found] at step
  generalize fabric.findQueue id = before at step bounded
  cases step with
  | tended still tended quiet remembers =>
      have kept := bounded _ rfl
      exact kept.still still (remembers.length within kept.memo)
  | unbound unbinds =>
      have kept := bounded _ rfl
      exact kept.still (still_supersedeBinding _) kept.memo
  | mutated start request now presented named executed touch mutated read =>
      exact mutated.bounded (touch.config ▸ within) (bounded _ rfl)
  | declared start request now presented executed touch declared =>
      subst presented
      exact declared.bounded (valid_of_executes executed) (touch.config ▸ within)

omit [IJournal J] in
theorem Moves.bounded {fabric : Fabric J} {request : MutationRequest} {now : Nanos}
    {result : Except Status MutationOutcome} {id : QueueId} {before : Option QueueRecord}
    {after : QueueRecord} (moves : Moves fabric request now result id before (some after))
    (valid : Executed result → request.validate.isOk = true)
    (within : fabric.config.WithinLimits)
    (bounded : ∀ queue, before = some queue → queue.Limited id) : after.Limited id := by
  cases moves with
  | unmoved unmoved idle remembers =>
      have kept := bounded _ rfl
      exact kept.still unmoved.still (remembers.length within kept.memo)
  | mutated named kind executed mutated => exact mutated.bounded within (bounded _ rfl)
  | declared executed declared => exact declared.bounded (valid executed) within

theorem applyReplayLocked_valid {fabric : Fabric J} {request : MutationRequest}
    (executed : Executed (fabric.applyReplayLocked request).result) :
    request.validate.isOk = true := by
  obtain ⟨now, reply, ended, same, _⟩ := replayOne_reply fabric request
  exact ended.valid (same ▸ executed)

/-- The queues are bounded, and so was every queue written to the store. -/
structure LimitedQueues (fabric : Fabric StableStore) : Prop where
  held : ∀ id queue, fabric.findQueue id = some queue → queue.Limited id
  stored : ∀ payload, ⟨.queueState, payload⟩ ∈ fabric.store.contents →
    ∃ id queue, payload = encodeQueueState queue ∧ queue.Limited id

theorem LimitedQueues.serve {fabric : Fabric StableStore} (bounded : LimitedQueues fabric)
    (within : fabric.config.WithinLimits) {call : Call} (living : call ≠ .recover) :
    LimitedQueues (fabric.serve call).fabric := by
  refine ⟨fun id queue found => ?_, fun payload listed => ?_⟩
  · exact serve_bounded_queue living within (bounded.held id) found
  · rcases (serve_cases fabric call).mem_queueState living listed with
      early | ⟨_, id, queue, found, same⟩
    · exact bounded.stored payload early
    · exact ⟨id, queue, same, bounded.held id queue found⟩

theorem LimitedQueues.recover {fabric : Fabric StableStore} (bounded : LimitedQueues fabric)
    (within : fabric.config.WithinLimits) : LimitedQueues fabric.recover.fabric := by
  have ended := recover_cases fabric
  refine ⟨?_, fun payload listed => bounded.stored payload (ended.mem_queueState listed)⟩
  refine @RecoverCase.carries_marked (fun _ id queue => queue.Limited id) fabric bounded.held
    ?_ ?_ _ ended ?_ ?_
  · intro payload queue listed decoded
    obtain ⟨id, saved, rfl, fits⟩ := bounded.stored payload listed
    have same := eq_of_decodeQueueState fits.evidence decoded
    rw [same]
    have restored := fits.stored.restored
    rwa [show saved.stored.definition.id = id from fits.keyed]
  · intro base early request late started now id after moves earlier
    refine moves.bounded applyReplayLocked_valid ?_ earlier
    obtain ⟨store, scan, epoch, present, rfl, minted, rfl, _⟩ := replayStart_cases started
    have config := replayAll_config ((fabric.beginRecovery.adoptScan store.openStore.2
      (fabric.beginRecovery.scanJournal store.openStore.2)).installScan
      (fabric.beginRecovery.scanJournal store.openStore.2) epoch) early
    change (Fabric.replayAll _ early).config.WithinLimits
    rw [config]
    exact within
  · exact fun _ id queue kept => kept.carried (carried_revalidateQueue queue) rfl
  · exact fun _ id queue kept => kept.carried (carried_markUnfinished queue) rfl

end Fabric

/-! Resources. -/

/-- A registration but for its liveness. -/
def BackendIncarnation.identity (backend : BackendIncarnation) : BackendIncarnation :=
  { backend with alive := false }

namespace ResourceRecord

/-- A resource stored under `id`, within the bounds of its encoding but for the whole record and
the groups of its classes. -/
structure Limited (id : ResourceId) (resource : ResourceRecord) : Prop where
  keyed : resource.id = id
  name : resource.name.length ≤ Limits.maxNameChars
  classes : ∀ name ∈ resource.classes.map (·.name), name.length ≤ Limits.maxNameChars
  pools : ∀ name ∈ resource.pools.map (·.name), name.length ≤ Limits.maxNameChars
  readable : resource.Readable

/-- What a resource keeps on its way through a snapshot. -/
structure Carried (before after : ResourceRecord) : Prop where
  id : after.id = before.id
  name : after.name = before.name
  owner : after.owner = before.owner
  generation : after.generation = before.generation
  grants : after.authority.grants = before.authority.grants
  classes : after.classes = before.classes
  pools : after.pools = before.pools
  backends : after.backends.map BackendIncarnation.identity =
    before.backends.map BackendIncarnation.identity

theorem Carried.trans (first second third : ResourceRecord) (one : Carried first second)
    (two : Carried second third) : Carried first third where
  id := two.id.trans one.id
  name := two.name.trans one.name
  owner := two.owner.trans one.owner
  generation := two.generation.trans one.generation
  grants := two.grants.trans one.grants
  classes := two.classes.trans one.classes
  pools := two.pools.trans one.pools
  backends := two.backends.trans one.backends

theorem Carried.refl (resource : ResourceRecord) : Carried resource resource :=
  ⟨rfl, rfl, rfl, rfl, rfl, rfl, rfl, rfl⟩

theorem carried_stored (resource : ResourceRecord) : Carried resource resource.stored :=
  ⟨rfl, rfl, rfl, rfl, rfl, rfl, rfl, rfl⟩

theorem carried_withEpoch (epoch : Epoch) (resource : ResourceRecord) :
    Carried resource (Fabric.withEpoch epoch resource) := ⟨rfl, rfl, rfl, rfl, rfl, rfl, rfl, rfl⟩

theorem carried_killBackends (resource : ResourceRecord) :
    Carried resource (Fabric.killBackends resource) := by
  refine ⟨rfl, rfl, rfl, rfl, rfl, rfl, rfl, ?_⟩
  rw [Fabric.killBackends, List.map_map]
  rfl

theorem Limited.carried {id : ResourceId} {before after : ResourceRecord}
    (bounded : before.Limited id) (carried : Carried before after) : after.Limited id where
  keyed := carried.id.trans bounded.keyed
  name := by rw [carried.name]; exact bounded.name
  classes := by rw [carried.classes]; exact bounded.classes
  pools := by rw [carried.pools]; exact bounded.pools
  readable := by
    have count := congrArg List.length carried.backends
    rw [List.length_map, List.length_map] at count
    rw [Readable, carried.grants, carried.classes, carried.pools, count]
    exact bounded.readable

/-- With short groups and a small record, a bounded resource has a readable encoding. -/
theorem Limited.decodes {id : ResourceId} {resource : ResourceRecord}
    (bounded : resource.Limited id)
    (groups : ∀ entry ∈ resource.classes, entry.qos.group.length ≤ Limits.maxNameChars)
    (size : resource.encodedSize ≤ Limits.maxJournalRecordBytes) :
    decodeResourceState (encodeResourceState resource) = .ok resource.stored := by
  have encodable : resource.Encodable :=
    { name := bounded.name
      classes := fun entry listed =>
        ⟨bounded.classes _ (List.mem_map_of_mem listed), groups entry listed⟩
      pools := fun pool listed => bounded.pools _ (List.mem_map_of_mem listed)
      size }
  obtain ⟨result, decoded⟩ :=
    (decodeResourceState_ok_iff resource).mpr ⟨encodable, bounded.readable⟩
  rw [decoded, eq_of_decodeResourceState decoded]

end ResourceRecord

open ResourceRecord

theorem gives_getClassDef :
    Gives (fun entry => entry.name.length ≤ Limits.maxNameChars) getClassDef := by
  refine Gives.after fun _ => Gives.after fun _ => (gives_getString _).bind fun name short => ?_
  refine Gives.after fun _ => Gives.after fun _ => Gives.after fun _ => Gives.after fun _ => ?_
  exact Gives.after fun _ => Gives.after fun _ => gives_pure short

theorem gives_getPoolDef :
    Gives (fun pool => pool.name.length ≤ Limits.maxNameChars) getPoolDef := by
  refine Gives.after fun _ => Gives.after fun _ => (gives_getString _).bind fun name short => ?_
  exact Gives.after fun _ => Gives.after fun _ => Gives.after fun _ => gives_pure short

theorem bounded_of_decodeResourceState {payload : Bytes} {resource : ResourceRecord}
    (decoded : decodeResourceState payload = .ok resource) : resource.Limited resource.id := by
  suffices fits : Yields (fun resource : ResourceRecord => resource.Limited resource.id)
      getResourceState from decodeWhole_yields fits decoded
  refine Yields.bind fun id => Yields.given (gives_getString _) fun name named => ?_
  refine Yields.bind fun _ => Yields.bind fun _ => Yields.bind fun _ => Yields.bind fun _ => ?_
  refine Yields.bind fun _ => yields_getSection (gives_any _) fun grants granted _ => ?_
  refine yields_getSection gives_getClassDef fun classes classed short => ?_
  refine yields_getSection gives_getPoolDef fun pools pooled shallow => ?_
  refine yields_getSection (gives_any _) fun backends backed _ => ?_
  refine Yields.bind fun _ => Yields.bind fun _ => Yields.bind fun _ => Yields.bind fun _ => ?_
  refine yields_pure ⟨rfl, named, ?_, ?_, ⟨⟨⟨⟨trivial, granted⟩, classed⟩, pooled⟩, backed⟩⟩
  · exact List.forall_mem_map.mpr short
  · exact List.forall_mem_map.mpr shallow

/-- No name is added to the list, or one is while there is room. -/
def Named (before after : List Text) (name : Text) (limit : UInt64) : Prop :=
  after = before ∨ after = before ++ [name] ∧ before.length < limit.toNat

theorem Named.bounded {before after : List Text} {name : Text} {limit : UInt64} {bound : Nat}
    (named : Named before after name limit) (within : limit.toNat ≤ bound)
    (short : name.length ≤ Limits.maxNameChars)
    (earlier : ∀ name ∈ before, name.length ≤ Limits.maxNameChars)
    (few : before.length ≤ bound) :
    (∀ name ∈ after, name.length ≤ Limits.maxNameChars) ∧ after.length ≤ bound := by
  rcases named with rfl | ⟨rfl, room⟩
  · exact ⟨earlier, few⟩
  · refine ⟨fun other listed => ?_, ?_⟩
    · rcases List.mem_append.mp listed with old | new
      · exact earlier other old
      · rw [List.mem_singleton.mp new]
        exact short
    · rw [List.length_append, List.length_singleton]
      omega

def LimitedResources (resources : Table ResourceId ResourceRecord) : Prop :=
  ∀ id resource, resources.get? id = some resource → resource.Limited id

namespace LimitedResources

variable {resources : Table ResourceId ResourceRecord}

theorem insert (bounded : LimitedResources resources) {key : ResourceId} {record : ResourceRecord}
    (fits : record.Limited key) : LimitedResources (resources.insert key record) := by
  intro id resource found
  rw [Table.get?_insert] at found
  split at found
  · rename_i here
    cases found
    exact here ▸ fits
  · exact bounded id resource found

theorem emplace (bounded : LimitedResources resources) {key : ResourceId}
    {record : ResourceRecord} (fits : record.Limited key) :
    LimitedResources (resources.emplace key record) := by
  intro id resource found
  rw [Table.get?_emplace, Option.or_eq_some_iff] at found
  rcases found with old | ⟨_, new⟩
  · exact bounded id resource old
  · split at new
    · rename_i here
      cases new
      exact here ▸ fits
    · cases new

theorem related (bounded : LimitedResources resources) {after : Table ResourceId ResourceRecord}
    (carried : Table.Related ResourceRecord.Carried resources after) : LimitedResources after := by
  intro id resource found
  obtain ⟨old, stored, kept⟩ := carried.get? found
  exact (bounded id old stored).carried kept

end LimitedResources

namespace Fabric

theorem length_replaceGrant {grantee : OwnerId} {capabilities : UInt32}
    {grants replaced : List AuthorityGrant}
    (found : replaceGrant grantee capabilities grants = some replaced) :
    replaced.length = grants.length := by
  induction grants generalizing replaced with
  | nil => cases found
  | cons grant rest ih =>
      rw [replaceGrant] at found
      split at found
      · cases found
        rfl
      · obtain ⟨updated, later, rfl⟩ := Option.map_eq_some_iff.mp found
        rw [List.length_cons, List.length_cons, ih later]

variable {J : Type}

theorem declareClassIn_named {fabric : Fabric J} {record : ResourceRecord} {resource : ResourceId}
    {name : Text} {priority : UInt32} {qos : QosRef} {provenance : Provenance} {cls : ClassId}
    {classes : List SchedulingClassDef} {nextClassId : UInt64}
    (declared : fabric.declareClassIn record resource name priority qos provenance =
      .ok (cls, classes, nextClassId)) :
    Named (record.classes.map (·.name)) (classes.map (·.name)) name
      fabric.config.limits.maxClassesPerResource := by
  rw [declareClassIn] at declared
  split at declared
  · cases declared
  · rename_i again
    cases declared
    exact .inl (redeclareClass_map (fun _ _ => rfl) again)
  · split at declared
    · cases declared
    rename_i room
    cases declared
    refine .inr ⟨List.map_append, ?_⟩
    rw [List.length_map]
    omega

theorem declarePoolIn_named {fabric : Fabric J} {record : ResourceRecord} {resource : ResourceId}
    {name : Text} {capacityBytes : UInt64} {provenance : Provenance} {pool : PoolId}
    {pools : List BufferPoolDef} {nextPoolId : UInt64}
    (declared : fabric.declarePoolIn record resource name capacityBytes provenance =
      .ok (pool, pools, nextPoolId)) :
    Named (record.pools.map (·.name)) (pools.map (·.name)) name
      fabric.config.limits.maxPoolsPerResource := by
  rw [declarePoolIn] at declared
  split at declared
  · cases declared
  · rename_i again
    cases declared
    exact .inl (redeclarePool_map (fun _ _ => rfl) again)
  · split at declared
    · cases declared
    rename_i room
    cases declared
    refine .inr ⟨List.map_append, ?_⟩
    rw [List.length_map]
    omega

variable [IJournal J]

/-! What a topology call checked before it edited. -/

theorem declareClass_short (fabric : Fabric J) (resource : ResourceId) (name : Text)
    (priority : UInt32) (qos : QosRef) (principal : OwnerId) (epoch : Epoch)
    (provenance : Provenance) :
    Refused fabric (fabric.declareClass resource name priority qos principal epoch provenance) ∨
      name.length ≤ Limits.maxNameChars := by
  rw [declareClass]
  split
  · exact .inl (refused_refuse _ _)
  split
  · exact .inl (refused_refuse _ _)
  split
  · exact .inl (refused_refuse _ _)
  rename_i inRange
  simp only [Bool.or_eq_true, decide_eq_true_eq, not_or, not_lt] at inRange
  exact .inr inRange.2

theorem declarePool_short (fabric : Fabric J) (resource : ResourceId) (name : Text)
    (capacityBytes : UInt64) (principal : OwnerId) (epoch : Epoch) (provenance : Provenance) :
    Refused fabric (fabric.declarePool resource name capacityBytes principal epoch provenance) ∨
      name.length ≤ Limits.maxNameChars := by
  rw [declarePool]
  split
  · exact .inl (refused_refuse _ _)
  split
  · exact .inl (refused_refuse _ _)
  split
  · exact .inl (refused_refuse _ _)
  rename_i inRange
  simp only [Bool.or_eq_true, decide_eq_true_eq, not_or, not_lt] at inRange
  exact .inr inRange.2

theorem grantCapabilities_room (fabric : Fabric J) (resource : ResourceId) (grantee : OwnerId)
    (capabilities : UInt32) (principal : OwnerId) (epoch : Epoch) (provenance : Provenance) :
    Refused fabric (fabric.grantCapabilities resource grantee capabilities principal epoch
      provenance) ∨
      ∀ record, fabric.findResource resource = some record →
        replaceGrant grantee capabilities record.authority.grants = none →
        record.authority.grants.length < fabric.config.limits.maxGrantsPerResource.toNat := by
  rw [grantCapabilities]
  split
  · exact .inl (refused_refuse _ _)
  split
  · exact .inl (refused_refuse _ _)
  split
  · exact .inl (refused_refuse _ _)
  rename_i record found
  split
  · exact .inl (refused_refuse _ _)
  split
  · exact .inl (refused_refuse _ _)
  simp only []
  split
  · rename_i grants replaced
    refine .inr fun other same absent => ?_
    cases found.symm.trans same
    rw [replaced] at absent
    cases absent
  · split
    · exact .inl (refused_refuse _ _)
    · rename_i room
      refine .inr fun other same _ => ?_
      cases found.symm.trans same
      omega

omit [IJournal J] in
theorem bounded_declaredResource (fabric : Fabric J) {name : Text} (owner : OwnerId)
    (provenance : Provenance) (now : Nanos) (short : name.length ≤ Limits.maxNameChars) :
    (fabric.declaredResource name owner provenance now).Limited ⟨fabric.nextResourceId⟩ := by
  refine ⟨rfl, short, fun other listed => ?_, fun other listed => ?_, ?_⟩
  · cases listed
  · cases listed
  · refine ⟨⟨⟨⟨trivial, ?_⟩, Nat.zero_le _⟩, Nat.zero_le _⟩, Nat.zero_le _⟩
    change 1 ≤ 256
    omega

theorem ResourceEdit.bounded {fabric : Fabric J} {call : Call}
    {lost kept : Table ResourceId ResourceRecord} {spent issued : Identities}
    {updated : ResourceRecord} (edit : ResourceEdit fabric call lost spent kept issued updated)
    (accepted : ¬ Refused fabric (fabric.serve call)) (within : fabric.config.WithinLimits)
    (bounded : LimitedResources fabric.resources) :
    LimitedResources lost ∧ LimitedResources kept := by
  cases edit with
  | declared name owner provenance now short record made room =>
      refine ⟨bounded, ?_⟩
      rw [made, show (fabric.declaredResource name owner provenance now).id =
        ⟨fabric.nextResourceId⟩ from rfl]
      exact bounded.emplace (bounded_declaredResource fabric owner provenance now short)
  | granted resource grantee capabilities principal epoch provenance record grants found shape =>
      refine ⟨bounded, bounded.insert ?_⟩
      have fits := bounded resource record found
      have count : grants.length ≤ Limits.maxGrantsPerResource := by
        have few := fits.readable.1.1.1.2
        rcases shape with replaced | ⟨absent, rfl⟩
        · rw [length_replaceGrant replaced]
          exact few
        · rcases grantCapabilities_room fabric resource grantee capabilities principal epoch
            provenance with refused | room
          · exact absurd (refused.answered _) accepted
          · have limit := within.grants
            have free := room record found absent
            rw [List.length_append, List.length_singleton]
            omega
      obtain ⟨⟨⟨⟨_, _⟩, classed⟩, pooled⟩, backed⟩ := fits.readable
      exact ⟨fits.keyed, fits.name, fits.classes, fits.pools,
        ⟨⟨⟨⟨trivial, count⟩, classed⟩, pooled⟩, backed⟩⟩
  | pooled resource name capacityBytes principal epoch provenance record pool pools nextPoolId
      found declared =>
      refine ⟨bounded, bounded.insert ?_⟩
      have fits := bounded resource record found
      obtain ⟨⟨⟨granted, classed⟩, few⟩, backed⟩ := fits.readable
      rcases declarePool_short fabric resource name capacityBytes principal epoch provenance with
        refused | short
      · exact absurd (refused.answered _) accepted
      · obtain ⟨names, count⟩ := (declarePoolIn_named declared).bounded within.pools short
          fits.pools (by rw [List.length_map]; exact few)
        rw [List.length_map] at count
        exact ⟨fits.keyed, fits.name, fits.classes, names, ⟨⟨⟨granted, classed⟩, count⟩, backed⟩⟩
  | registered resource incarnation principal epoch provenance record backends found added =>
      have fits := bounded resource record found
      obtain ⟨⟨⟨granted, classed⟩, pooled⟩, _⟩ := fits.readable
      have count : backends.length ≤ Limits.maxResources := by
        rcases registerBackend_split fabric resource incarnation principal epoch provenance with
          ⟨refused, _⟩ | ⟨other, passed, _⟩
        · exact absurd (refused.answered _) accepted
        · cases passed.found.symm.trans found
          have limit := within.resources
          have room := passed.room
          rw [added, List.length_append, List.length_singleton]
          omega
      have updated : ({ record with backends } : ResourceRecord).Limited resource :=
        ⟨fits.keyed, fits.name, fits.classes, fits.pools, ⟨⟨⟨granted, classed⟩, pooled⟩, count⟩⟩
      exact ⟨bounded.insert updated, bounded.insert updated⟩
  | buried backend incarnation principal epoch key record backends found killed =>
      refine ⟨bounded, bounded.insert ?_⟩
      have fits := bounded key record found
      have count := congrArg List.length (killBackend_ids backend record.backends)
      rw [List.length_map, List.length_map, ← killed] at count
      obtain ⟨⟨⟨granted, classed⟩, pooled⟩, backed⟩ := fits.readable
      refine ⟨fits.keyed, fits.name, fits.classes, fits.pools,
        ⟨⟨⟨granted, classed⟩, pooled⟩, ?_⟩⟩
      rw [count]
      exact backed

/-! Every other call leaves the resources as they are, but for a count or an epoch. -/

theorem related_carried {before after : Table ResourceId ResourceRecord}
    (same : after = before) : Table.Related ResourceRecord.Carried before after :=
  same ▸ Table.related_refl Carried.refl before

theorem DeclareCase.carried {fabric : Fabric J} {request : MutationRequest}
    {payload : DeclareQueuePayload} {now : Nanos} {reply : Reply J MutationOutcome}
    (ended : DeclareCase fabric request payload now reply) :
    Table.Related ResourceRecord.Carried fabric.resources reply.fabric.resources := by
  cases ended with
  | refused refusal => exact related_carried rfl
  | answered id taken =>
      rw [answerDeclared]
      split
      · exact related_carried rfl
      · split <;> exact related_carried rfl
  | undurable resource refusal after declarable failed =>
      exact related_carried (commitDurably_touch failed).resources
  | committed resource after declarable written =>
      have same := (commitDurably_touch written).resources
      have counted : Table.Related ResourceRecord.Carried fabric.resources
          (fabric.resources.insert payload.resource
            { resource with queueCount := resource.queueCount + 1 }) :=
        Table.related_insert Carried.refl declarable.found ⟨rfl, rfl, rfl, rfl, rfl, rfl, rfl, rfl⟩
      rw [← same] at counted ⊢
      rw [admitDeclared]
      split
      · exact counted
      · simp only []
        split
        · exact related_carried rfl
        · exact counted

theorem ApplyCase.carried {fabric : Fabric J} {request : MutationRequest} {now : Nanos}
    {reply : Reply J MutationOutcome} (ended : ApplyCase fabric request now reply) :
    Table.Related ResourceRecord.Carried fabric.resources reply.fabric.resources := by
  cases ended with
  | stopped stopping => exact related_carried rfl
  | unbound refusal => exact related_carried rfl
  | declare payload reply valid kind carried ended => exact ended.carried
  | existing queue reply valid kind found ended => exact related_carried ended.resources

theorem CommitCase.carried {fabric : Fabric J} {plan : BackendPlan} {queue : QueueRecord}
    {request : MutationRequest} {reply : Reply J MutationOutcome}
    (ended : CommitCase fabric plan queue request reply) :
    Table.Related ResourceRecord.Carried fabric.resources reply.fabric.resources := by
  cases ended with
  | refused refused => exact related_carried refused.touch.resources
  | lost status events after touch written => exact related_carried touch.resources
  | served middle now served events after touch written ended final journal =>
      exact related_carried (final.resources.trans (ended.resources.trans touch.resources))

theorem Recorded.resources {α : Type} {before lost kept : Fabric J} {type : JournalRecordType}
    {payload : Bytes} {value : α} {reply : Reply J α}
    (recorded : Recorded before type payload lost kept value reply)
    (onLost : LimitedResources lost.resources) (onKept : LimitedResources kept.resources) :
    LimitedResources reply.fabric.resources := by
  cases recorded with
  | lost status events after touch written => exact touch.resources ▸ onLost
  | kept events after touch written => exact touch.resources ▸ onKept

theorem serve_bounded_resources {fabric : Fabric J} {call : Call} (living : call ≠ .recover)
    (within : fabric.config.WithinLimits) (bounded : LimitedResources fabric.resources) :
    LimitedResources (fabric.serve call).fabric.resources := by
  by_cases failed : Refused fabric (fabric.serve call)
  · rw [failed.touch.resources]
    exact bounded
  have ended := serve_cases fabric call
  generalize same : fabric.serve call = reply at ended ⊢
  cases ended with
  | refused refused => exact absurd (same ▸ refused) failed
  | recovered => exact absurd rfl living
  | stopped touch journal => exact touch.resources ▸ bounded
  | edited lost kept updated value spent issued edit recorded =>
      obtain ⟨onLost, onKept⟩ := edit.bounded failed within bounded
      exact recorded.resources onLost onKept
  | classed resource name priority qos principal epoch provenance record cls classes nextClassId
      generation found declared recorded =>
      refine recorded.resources bounded (bounded.insert ?_)
      have fits := bounded resource record found
      obtain ⟨⟨⟨granted, few⟩, pooled⟩, backed⟩ := fits.readable
      rcases declareClass_short fabric resource name priority qos principal epoch provenance with
        refused | short
      · exact absurd (refused.answered _) failed
      · obtain ⟨names, count⟩ := (declareClassIn_named declared).bounded within.classes short
          fits.classes (by rw [List.length_map]; exact few)
        rw [List.length_map] at count
        exact ⟨fits.keyed, fits.name, names, fits.pools, ⟨⟨⟨granted, count⟩, pooled⟩, backed⟩⟩
  | advanced principal provenance epoch payload minted recorded =>
      refine recorded.resources bounded (bounded.related ?_)
      exact Table.related_mapValues _ fun _ record => carried_withEpoch epoch record
  | invalidated id principal epoch reason queue events after found touch journal =>
      exact touch.resources ▸ bounded
  | applied request now inner events after ended touch journal =>
      rw [touch.resources]
      exact bounded.related ended.carried
  | gated id expected principal provenance accepted refused =>
      exact refused.touch.resources ▸ bounded
  | planned id expected principal provenance plan accepted recorded =>
      exact recorded.resources bounded bounded
  | committed plan applied provenance queue inner found ended =>
      exact bounded.related ended.carried
  | aborted plan reason recorded => exact recorded.resources bounded bounded
  | explained id principal touch journal => exact touch.resources ▸ bounded
  | refreshed now touch journal => exact touch.resources ▸ bounded
  | compacted journal present touch rewritten => exact touch.resources ▸ bounded

end Fabric

/-! Recoveries. -/

theorem Scan.get?_resources_addRecords {scan : Scan} {records : List JournalRecord}
    {id : ResourceId} {resource : ResourceRecord}
    (found : (scan.addRecords records).resources.get? id = some resource) :
    scan.resources.get? id = some resource ∨
      ∃ payload, decodeResourceState payload = .ok resource ∧ id = resource.id := by
  induction records generalizing scan with
  | nil => exact .inl found
  | cons record rest ih =>
      rcases ih found with early | read
      · have added := addRecord_cases scan record
        generalize scan.addRecord record = next at added early
        cases added with
        | resource stored type decoded =>
            by_cases same : stored.id = id
            · rw [← same, Table.get?_insert_self, Option.some.injEq] at early
              exact .inr ⟨record.payload, early ▸ decoded, early ▸ same.symm⟩
            · rw [Table.get?_insert_ne _ _ same] at early
              exact .inl early
        | _ => exact .inl early
      · exact .inr read

theorem LimitedResources.scanned {fabric : Fabric StableStore}
    (bounded : LimitedResources fabric.resources) (store : StableStore) :
    LimitedResources (fabric.beginRecovery.scanJournal store).resources := by
  intro id resource found
  rcases Scan.get?_resources_addRecords found with early | ⟨payload, decoded, rfl⟩
  · exact bounded id resource early
  · exact bounded_of_decodeResourceState decoded

namespace Fabric

theorem rebuildIndexesLocked_carried {J : Type} {resources : Table ResourceId ResourceRecord}
    (fabric : Fabric J) (same : fabric.resources = resources) :
    Table.Related ResourceRecord.Carried resources fabric.rebuildIndexesLocked.resources :=
  same ▸ Table.related_mapValues _ fun _ _ => ⟨rfl, rfl, rfl, rfl, rfl, rfl, rfl, rfl⟩

theorem installScan_carried {J : Type} (fabric : Fabric J) (scan : Scan) (epoch : Epoch) :
    Table.Related ResourceRecord.Carried scan.resources
      (fabric.installScan scan epoch).resources := by
  have installed : Table.Related ResourceRecord.Carried scan.resources
      (scan.resources.mapValues fun _ record => withEpoch epoch (killBackends record)) :=
    Table.related_mapValues _ fun _ record =>
      (carried_killBackends record).trans _ _ _ (carried_withEpoch epoch _)
  rw [installScan]
  exact installed.trans Carried.trans (rebuildIndexesLocked_carried _ rfl)

theorem replayAll_carried {J : Type} [IJournal J] (fabric : Fabric J)
    (requests : List MutationRequest) :
    Table.Related ResourceRecord.Carried fabric.resources
      (fabric.replayAll requests).resources := by
  induction requests generalizing fabric with
  | nil => exact related_carried rfl
  | cons request rest ih =>
      obtain ⟨now, reply, ended, touch, _⟩ := replayOne_cases fabric request
      have one : Table.Related ResourceRecord.Carried fabric.resources
          (fabric.replayOne request).resources := by
        rw [touch.resources]
        exact ended.carried
      exact one.trans Carried.trans (ih (fabric.replayOne request))

theorem revalidateAll_carried {J : Type} (fabric : Fabric J)
    (outstanding : List MutationRequest) :
    Table.Related ResourceRecord.Carried fabric.resources
      (fabric.revalidateAll outstanding).resources := by
  have noted : ∀ start : Fabric J,
      (outstanding.foldl noteUnfinished start).resources = start.resources := by
    induction outstanding with
    | nil => exact fun _ => rfl
    | cons request rest ih => exact fun start => ih (start.noteUnfinished request)
  simp only [revalidateAll]
  refine Table.Related.trans Carried.trans ?_ (rebuildIndexesLocked_carried _ rfl)
  exact related_carried (noted _)

theorem RecoverCase.carried {fabric : Fabric StableStore} {reply : Reply StableStore Unit}
    (ended : RecoverCase fabric reply) {store : StableStore}
    (present : fabric.journal = some store) (opened : store.openStore.1.isOk = true) :
    Table.Related ResourceRecord.Carried
      (fabric.beginRecovery.scanJournal store.openStore.2).resources reply.fabric.resources := by
  cases ended with
  | unjournaled absent result touch journal =>
      rw [absent] at present
      cases present
  | unopened other stored failed result touch journal =>
      cases stored.symm.trans present
      rw [opened] at failed
      cases failed
  | exhausted other scan status stored opened scanned minted result touch journal =>
      cases stored.symm.trans present
      rw [touch.resources, ← scanned]
      exact Table.related_mapValues _ fun _ record => carried_killBackends record
  | replayed other last scan epoch replayed payload stored opened scanned minted installed kept
      touch written =>
      cases stored.symm.trans present
      rw [touch.resources, ← scanned]
      refine Table.Related.trans Carried.trans ?_ (revalidateAll_carried replayed _)
      rw [installed]
      exact (installScan_carried _ scan epoch).trans Carried.trans (replayAll_carried _ _)

theorem recover_bounded_resources {fabric : Fabric StableStore}
    (bounded : LimitedResources fabric.resources) :
    LimitedResources fabric.recover.fabric.resources := by
  have ended := recover_cases fabric
  cases present : fabric.journal with
  | none =>
      generalize fabric.recover = reply at ended ⊢
      cases ended with
      | unjournaled absent result touch journal => exact touch.resources ▸ bounded
      | unopened store stored => simp [present] at stored
      | exhausted store scan status stored => simp [present] at stored
      | replayed store last scan epoch replayed payload stored => simp [present] at stored
  | some store =>
      cases opened : store.openStore.1.isOk with
      | true => exact (bounded.scanned store.openStore.2).related (ended.carried present opened)
      | false =>
          generalize fabric.recover = reply at ended ⊢
          cases ended with
          | unjournaled absent result touch journal => exact touch.resources ▸ bounded
          | unopened other stored failed result touch journal => exact touch.resources ▸ bounded
          | exhausted other scan status stored ok =>
              cases stored.symm.trans present
              simp [opened] at ok
          | replayed other last scan epoch replayed payload stored ok =>
              cases stored.symm.trans present
              simp [opened] at ok

end Fabric

/-! Runs. -/

/-- Every record of the fabric is within the bounds of its encoding. -/
structure Fabric.Limited (fabric : Fabric StableStore) : Prop where
  queues : fabric.LimitedQueues
  resources : LimitedResources fabric.resources

namespace System

theorem bounded_withScript {fabric : Fabric StableStore} (bounded : fabric.Limited)
    (script : List Bool) : (withScript fabric script).Limited := by
  refine ⟨⟨bounded.queues.held, fun payload listed => ?_⟩, bounded.resources⟩
  rw [contents_withScript] at listed
  exact bounded.queues.stored payload listed

theorem bounded_boot {config : FabricConfig} (within : config.WithinLimits)
    (journal : Option StableStore) (clock : Clock) (seed : UInt64) (script : List Bool)
    (stored : ∀ payload, ⟨.queueState, payload⟩ ∈ (journal.getD {}).contents →
      ∃ id queue, payload = encodeQueueState queue ∧ queue.Limited id) :
    (boot config journal clock seed script).fabric.Limited := by
  have start : (Fabric.create config clock journal seed).Limited := by
    refine ⟨⟨fun id queue found => ?_, stored⟩, fun id resource found => ?_⟩
    · cases found
    · cases found
  have begun := bounded_withScript start script
  exact ⟨begun.queues.recover within, Fabric.recover_bounded_resources begun.resources⟩

theorem bounded_step {system : System} (bounded : system.fabric.Limited)
    (within : system.fabric.config.WithinLimits) (input : Step) :
    (system.step input).fabric.Limited := by
  cases input with
  | restart survivors clock seed script =>
      refine bounded_boot within _ clock seed script fun payload listed => ?_
      exact bounded.queues.stored payload (mem_contents_crashed listed)
  | call call script =>
      have start := bounded_withScript bounded script
      by_cases living : call = .recover
      · subst living
        exact ⟨start.queues.recover within, Fabric.recover_bounded_resources start.resources⟩
      · exact ⟨start.queues.serve within living,
          Fabric.serve_bounded_resources living within start.resources⟩

theorem bounded_run {config : FabricConfig} (within : config.WithinLimits) (journaled : Bool)
    (clock : Clock) (seed : UInt64) (script : List Bool) (steps : List Step) :
    ((boot config (if journaled then some {} else none) clock seed script).run
      steps).fabric.Limited := by
  induction steps using List.reverseRecOn with
  | nil =>
      refine bounded_boot within _ clock seed script fun payload listed => ?_
      cases journaled <;> cases listed
  | append_singleton earlier input ih =>
      rw [run_concat]
      refine bounded_step ih ?_ input
      rw [config_run, config_boot]
      exact within

end System

end QueueFabric
