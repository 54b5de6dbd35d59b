import QueueFabric.StoreCases

/-!
What a recovery reads and writes: where the scanned queues and commits come
from, how the engine moves through its phases, and which records it can add.
-/

namespace QueueFabric

namespace Scan

/-- What one record can do to a scan. -/
inductive Added (scan : Scan) (record : JournalRecord) : Scan → Prop
  | skipped : Added scan record scan
  | corrupted (line : String) : Added scan record (scan.corrupt line)
  | epoch (state : EpochState) (type : record.type = .epochState)
      (decoded : decodeEpochState record.payload = .ok state) :
      Added scan record (scan.addEpoch state)
  | resource (resource : ResourceRecord) (type : record.type = .resourceState)
      (decoded : decodeResourceState record.payload = .ok resource) :
      Added scan record { scan with resources := scan.resources.insert resource.id resource }
  | queue (queue : QueueRecord) (type : record.type = .queueState)
      (decoded : decodeQueueState record.payload = .ok queue) :
      Added scan record (scan.addQueue queue)
  | begun (request : MutationRequest) (type : record.type = .beginAttempt)
      (decoded : decodeMutation record.payload = .ok request) :
      Added scan record
        { scan with outstanding := scan.outstanding.insert request.attempt request }
  | committed (request : MutationRequest) (type : record.type = .commitMutation)
      (decoded : decodeMutation record.payload = .ok request) :
      Added scan record { scan with
        outstanding := scan.outstanding.erase request.attempt
        replayOrder := scan.replayOrder ++ [request] }

theorem addRecord_cases (scan : Scan) (record : JournalRecord) :
    Added scan record (scan.addRecord record) := by
  rw [addRecord]
  cases type : record.type with
  | epochState =>
      cases decoded : decodeEpochState record.payload with
      | error status => exact .corrupted _
      | ok state => exact .epoch state type decoded
  | resourceState =>
      cases decoded : decodeResourceState record.payload with
      | error status => exact .corrupted _
      | ok resource => exact .resource resource type decoded
  | queueState =>
      cases decoded : decodeQueueState record.payload with
      | error status => exact .corrupted _
      | ok queue => exact .queue queue type decoded
  | beginAttempt =>
      cases decoded : decodeMutation record.payload with
      | error status => exact .corrupted _
      | ok request => exact .begun request type decoded
  | commitMutation =>
      cases decoded : decodeMutation record.payload with
      | error status => exact .corrupted _
      | ok request => exact .committed request type decoded
  | noop => exact .skipped
  | unlisted raw => exact .skipped

theorem mem_of_type {record : JournalRecord} {type : JournalRecordType} (same : record.type = type)
    (rest : List JournalRecord) : ⟨type, record.payload⟩ ∈ record :: rest := by
  rw [← same]
  exact List.mem_cons_self

theorem mem_replayOrder_addRecords {scan : Scan} {records : List JournalRecord}
    {request : MutationRequest} (member : request ∈ (scan.addRecords records).replayOrder) :
    request ∈ scan.replayOrder ∨
      ∃ payload, ⟨.commitMutation, payload⟩ ∈ records ∧ decodeMutation payload = .ok request := by
  induction records generalizing scan with
  | nil => exact .inl member
  | cons record rest ih =>
      rcases ih member with early | ⟨payload, later, decoded⟩
      · have added := addRecord_cases scan record
        generalize scan.addRecord record = next at added early
        cases added with
        | committed committed type decoded =>
            rcases List.mem_append.mp early with earlier | last
            · exact .inl earlier
            · rw [List.mem_singleton] at last
              exact .inr ⟨record.payload, mem_of_type type rest, last ▸ decoded⟩
        | _ => exact .inl early
      · exact .inr ⟨payload, List.mem_cons_of_mem record later, decoded⟩

theorem get?_queues_addRecords {scan : Scan} {records : List JournalRecord} {id : QueueId}
    {queue : QueueRecord} (found : (scan.addRecords records).queues.get? id = some queue) :
    scan.queues.get? id = some queue ∨
      ∃ payload stored, ⟨.queueState, payload⟩ ∈ records ∧
        decodeQueueState payload = .ok stored ∧ queue = restoreQueue stored ∧
        id = stored.definition.id := by
  induction records generalizing scan with
  | nil => exact .inl found
  | cons record rest ih =>
      rcases ih found with early | ⟨payload, stored, later, decoded⟩
      · have added := addRecord_cases scan record
        generalize scan.addRecord record = next at added early
        cases added with
        | queue stored type decoded =>
            by_cases same : stored.definition.id = id
            · rw [addQueue, ← same, Table.get?_insert_self, Option.some.injEq] at early
              exact .inr ⟨record.payload, stored, mem_of_type type rest, decoded, early.symm,
                same.symm⟩
            · rw [addQueue, Table.get?_insert_ne _ _ same] at early
              exact .inl early
        | _ => exact .inl early
      · exact .inr ⟨payload, stored, List.mem_cons_of_mem record later, decoded⟩

end Scan

namespace Fabric

variable {J : Type} [IJournal J]

/-! The mutation path and the store. -/

theorem ExistingCase.mem_contents {fabric : Fabric StableStore} {key : QueueId}
    {queue : QueueRecord} {request : MutationRequest} {now : Nanos}
    {reply : Reply StableStore MutationOutcome}
    (ended : ExistingCase fabric key queue request now reply) {record : JournalRecord}
    (member : record ∈ reply.fabric.store.contents) :
    record ∈ fabric.store.contents ∨ record = ⟨.beginAttempt, encodeMutation request⟩ ∨
      record = ⟨.commitMutation, encodeMutation request⟩ := by
  cases ended with
  | answered memo recorded =>
      rw [answerFromMemo] at member
      split at member
      · exact .inl member
      split at member <;> exact .inl member
  | refused tracker refusal unseen gate real => exact .inl member
  | undurable tracker applied refusal after admitted durable failed real =>
      have committed := commitDurably_committed failed
      exact committed.mem_contents member
  | published tracker applied after admitted committed =>
      split at committed
      · exact (commitDurably_committed committed).mem_contents member
      · subst committed
        exact .inl member

theorem DeclareCase.mem_contents {fabric : Fabric StableStore} {request : MutationRequest}
    {payload : DeclareQueuePayload} {now : Nanos} {reply : Reply StableStore MutationOutcome}
    (ended : DeclareCase fabric request payload now reply) {record : JournalRecord}
    (member : record ∈ reply.fabric.store.contents) :
    record ∈ fabric.store.contents ∨ record = ⟨.beginAttempt, encodeMutation request⟩ ∨
      record = ⟨.commitMutation, encodeMutation request⟩ := by
  cases ended with
  | refused refusal => exact .inl member
  | answered id taken =>
      rw [answerDeclared] at member
      split at member
      · exact .inl member
      split at member <;> exact .inl member
  | undurable resource refusal after declarable failed =>
      have committed := commitDurably_committed failed
      exact committed.mem_contents member
  | committed resource after declarable written =>
      have committed := commitDurably_committed written
      rw [admitDeclared] at member
      split at member
      · exact committed.mem_contents member
      simp only [] at member
      split at member <;> exact committed.mem_contents member

theorem ApplyCase.mem_contents {fabric : Fabric StableStore} {request : MutationRequest}
    {now : Nanos} {reply : Reply StableStore MutationOutcome}
    (ended : ApplyCase fabric request now reply) {record : JournalRecord}
    (member : record ∈ reply.fabric.store.contents) :
    record ∈ fabric.store.contents ∨ record = ⟨.beginAttempt, encodeMutation request⟩ ∨
      record = ⟨.commitMutation, encodeMutation request⟩ := by
  cases ended with
  | stopped stopping => exact .inl member
  | unbound refusal => exact .inl member
  | declare payload _ valid kind carried ended => exact ended.mem_contents member
  | existing queue _ valid kind found ended => exact ended.mem_contents member

/-- The records a call can add to the store. -/
inductive Offered (fabric : Fabric StableStore) : Call → JournalRecord → Prop
  | resource {call : Call} (payload : Bytes) : Offered fabric call ⟨.resourceState, payload⟩
  | epoch {call : Call} (payload : Bytes) : Offered fabric call ⟨.epochState, payload⟩
  | begun (request : MutationRequest) :
      Offered fabric (.apply request) ⟨.beginAttempt, encodeMutation request⟩
  | applied (request : MutationRequest) :
      Offered fabric (.apply request) ⟨.commitMutation, encodeMutation request⟩
  | planned (id : QueueId) (expected : Generation) (principal : OwnerId) (provenance : Provenance)
      (plan : BackendPlan) :
      Offered fabric (.planBackendApply id expected principal provenance)
        ⟨.beginAttempt, encodeMutation (planMarker plan provenance .acknowledgeBackend)⟩
  | reopened (plan : BackendPlan) (applied : BackendApplied) (provenance : Provenance) :
      Offered fabric (.commitBackendApply plan applied provenance)
        ⟨.beginAttempt, encodeMutation (fabric.planRequest plan applied provenance)⟩
  | committed (plan : BackendPlan) (applied : BackendApplied) (provenance : Provenance) :
      Offered fabric (.commitBackendApply plan applied provenance)
        ⟨.commitMutation, encodeMutation (fabric.planRequest plan applied provenance)⟩
  | aborted (plan : BackendPlan) (reason : Text) :
      Offered fabric (.abortBackendApply plan reason)
        ⟨.commitMutation, encodeMutation (planMarker plan (markerProvenance plan) .noOp)⟩
  | snapshot (record : JournalRecord) (listed : record ∈ fabric.buildSnapshotLocked) :
      Offered fabric .compact record

theorem Recorded.mem_contents {α : Type} {before lost kept : Fabric StableStore}
    {type : JournalRecordType} {payload : Bytes} {value : α} {reply : Reply StableStore α}
    (recorded : Recorded before type payload lost kept value reply) {record : JournalRecord}
    (member : record ∈ reply.fabric.store.contents) :
    record ∈ before.store.contents ∨ record = ⟨type, payload⟩ := by
  cases recorded with
  | lost status events after touch written => exact written.mem_contents member
  | kept events after touch written => exact written.mem_contents member

theorem CommitCase.mem_contents {fabric : Fabric StableStore} {plan : BackendPlan}
    {queue : QueueRecord} {request : MutationRequest} {reply : Reply StableStore MutationOutcome}
    (ended : CommitCase fabric plan queue request reply) {record : JournalRecord}
    (member : record ∈ reply.fabric.store.contents) :
    record ∈ fabric.store.contents ∨ record = ⟨.beginAttempt, encodeMutation request⟩ ∨
      record = ⟨.commitMutation, encodeMutation request⟩ := by
  cases ended with
  | refused refused =>
      rw [store, refused.journal] at member
      exact .inl member
  | lost status events after touch written =>
      exact (written.mem_contents member).imp_right .inr
  | served middle now inner events after touch written ended final journal =>
      change record ∈ after.store.contents at member
      rw [store, journal] at member
      rcases ended.mem_contents member with early | new
      · exact (written.mem_contents early).imp_right .inr
      · exact .inr new

theorem ServeCase.mem_contents {fabric : Fabric StableStore} {call : Call}
    {reply : Reply StableStore Answer} (ended : ServeCase fabric call reply)
    (living : call ≠ .recover) {record : JournalRecord}
    (member : record ∈ reply.fabric.store.contents) :
    record ∈ fabric.store.contents ∨ Offered fabric call record := by
  cases ended with
  | refused refused =>
      rw [store, refused.journal] at member
      exact .inl member
  | recovered => exact absurd rfl living
  | stopped touch journal =>
      rw [store] at member
      rcases journal with same | synced
      · rw [same] at member
        exact .inl member
      · rw [synced] at member
        rw [store]
        cases present : fabric.journal with
        | none =>
            rw [present] at member
            exact .inl member
        | some journal =>
            rw [present] at member
            exact .inl (StableStore.contents_sync journal ▸ member)
  | edited lost kept updated value spent issued edit recorded =>
      rcases recorded.mem_contents member with early | new
      · exact .inl early
      · exact .inr (new ▸ .resource _)
  | classed resource name priority qos principal epoch provenance record cls classes nextClassId
      generation found declared recorded =>
      rcases recorded.mem_contents member with early | new
      · exact .inl early
      · exact .inr (new ▸ .resource _)
  | advanced principal provenance epoch payload minted recorded =>
      rcases recorded.mem_contents member with early | new
      · exact .inl early
      · exact .inr (new ▸ .epoch _)
  | invalidated id principal epoch reason queue events after found touch journal =>
      change record ∈ after.store.contents at member
      rw [store, journal] at member
      exact .inl member
  | applied request now inner events after ended touch journal =>
      change record ∈ after.store.contents at member
      rw [store, journal] at member
      rcases ended.mem_contents member with early | new | new
      · exact .inl early
      · exact .inr (new ▸ .begun request)
      · exact .inr (new ▸ .applied request)
  | gated id expected principal provenance accepted refused =>
      rw [store, refused.journal] at member
      exact .inl member
  | planned id expected principal provenance plan accepted recorded =>
      rcases recorded.mem_contents member with early | new
      · exact .inl early
      · exact .inr (new ▸ .planned id expected principal provenance plan)
  | committed plan applied provenance queue inner found ended =>
      rcases ended.mem_contents member with early | new | new
      · exact .inl early
      · exact .inr (new ▸ .reopened plan applied provenance)
      · exact .inr (new ▸ .committed plan applied provenance)
  | aborted plan reason recorded =>
      rcases recorded.mem_contents member with early | new
      · exact .inl early
      · exact .inr (new ▸ .aborted plan reason)
  | explained id principal touch journal =>
      rw [store, journal] at member
      exact .inl member
  | refreshed now touch journal =>
      rw [store, journal] at member
      exact .inl member
  | compacted journal present touch rewritten =>
      rw [store, rewritten] at member
      rcases StableStore.contents_rewrite journal fabric.buildSnapshotLocked with same | snapshot
      · refine .inl ?_
        rw [store, present]
        exact same ▸ member
      · refine .inr (.snapshot record ?_)
        exact snapshot ▸ member

/-! Replay. -/

theorem replayOne_reply (fabric : Fabric J) (request : MutationRequest) :
    ∃ now reply, ApplyCase { fabric.monotonicNow.2 with replaying := true } request now reply ∧
      (fabric.applyReplayLocked request).result = reply.result ∧
      Touch { reply.fabric with replaying := false } (fabric.replayOne request) ∧
      (fabric.replayOne request).journal = reply.fabric.journal := by
  refine ⟨_, { fabric with replaying := true }.applyLocked request, applyAt_cases _ request _,
    rfl, ?_⟩
  rw [replayOne]
  simp only []
  split
  · exact ⟨⟨rfl, rfl, rfl, rfl, rfl, rfl, rfl, rfl, rfl, rfl, id⟩, rfl⟩
  · exact ⟨⟨rfl, rfl, rfl, rfl, rfl, rfl, rfl, rfl, rfl, rfl, id⟩, rfl⟩

theorem replayOne_cases (fabric : Fabric J) (request : MutationRequest) :
    ∃ now reply, ApplyCase { fabric.monotonicNow.2 with replaying := true } request now reply ∧
      Touch { reply.fabric with replaying := false } (fabric.replayOne request) ∧
      (fabric.replayOne request).journal = reply.fabric.journal := by
  obtain ⟨now, reply, ended, _, moved⟩ := replayOne_reply fabric request
  exact ⟨now, reply, ended, moved⟩

theorem replayAll_concat (fabric : Fabric J) (requests : List MutationRequest)
    (request : MutationRequest) :
    fabric.replayAll (requests ++ [request]) = (fabric.replayAll requests).replayOne request := by
  simp [replayAll]

theorem mem_contents_replayOne {fabric : Fabric StableStore} {request : MutationRequest}
    {record : JournalRecord} (member : record ∈ (fabric.replayOne request).store.contents) :
    record ∈ fabric.store.contents ∨ record = ⟨.beginAttempt, encodeMutation request⟩ ∨
      record = ⟨.commitMutation, encodeMutation request⟩ := by
  obtain ⟨now, reply, ended, touch, journal⟩ := replayOne_cases fabric request
  rw [store, journal] at member
  exact ended.mem_contents member

theorem mem_contents_replayAll {fabric : Fabric StableStore} {requests : List MutationRequest}
    {record : JournalRecord} (member : record ∈ (fabric.replayAll requests).store.contents) :
    record ∈ fabric.store.contents ∨ ∃ request ∈ requests,
      record = ⟨.beginAttempt, encodeMutation request⟩ ∨
        record = ⟨.commitMutation, encodeMutation request⟩ := by
  induction requests generalizing fabric with
  | nil => exact .inl member
  | cons request rest ih =>
      rcases ih member with early | ⟨later, listed, written⟩
      · rcases mem_contents_replayOne early with before | written
        · exact .inl before
        · exact .inr ⟨request, List.mem_cons_self, written⟩
      · exact .inr ⟨later, List.mem_cons_of_mem request listed, written⟩

/-! The phases of a recovery over a stable store. -/

theorem encodeEpochState_ne_nil (state : EpochState) : encodeEpochState state ≠ [] := by
  simp [encodeEpochState, ByteWriter.putU64, Wire.Writer.putUInt, Wire.Writer.putRaw,
    Wire.Writer.fresh, Wire.leBytes]

/-- The epoch record of a fabric. -/
def epochPayload (fabric : Fabric J) : Bytes :=
  encodeEpochState ⟨fabric.boot, fabric.epoch, fabric.coordinatorIncarnation⟩

theorem appendEpochStateLocked_written (fabric : Fabric J) (journal : J) :
    Written .epochState fabric.epochPayload (some journal)
      (fabric.appendEpochStateLocked journal).1.isOk
      (fabric.appendEpochStateLocked journal).2.journal := by
  simp only [appendEpochStateLocked, epochPayload]
  have nonempty := encodeEpochState_ne_nil
    ⟨fabric.boot, fabric.epoch, fabric.coordinatorIncarnation⟩
  generalize encodeEpochState ⟨fabric.boot, fabric.epoch, fabric.coordinatorIncarnation⟩ =
    encoded at nonempty
  rw [if_neg (by simpa using nonempty)]
  cases appended : (IJournal.append journal .epochState encoded).1.isOk with
  | false =>
      simp only [Bool.not_false, ↓reduceIte, appended]
      exact .appendFailed journal appended
  | true =>
      cases flushed : (IJournal.sync (IJournal.append journal .epochState encoded).2).1.isOk with
      | false =>
          simp only [Bool.not_true, Bool.not_false, Bool.false_eq_true, ↓reduceIte]
          exact .syncFailed journal appended flushed
      | true =>
          simp only [Bool.not_true, Bool.false_eq_true, ↓reduceIte]
          exact .synced journal appended flushed

theorem sealRecovery_written (fabric : Fabric J) (journal : J) :
    Written .epochState fabric.epochPayload (some journal)
      (fabric.sealRecovery journal).result.isOk (fabric.sealRecovery journal).fabric.journal := by
  have written := appendEpochStateLocked_written fabric journal
  simp only [sealRecovery]
  generalize fabric.appendEpochStateLocked journal = recorded at written
  cases ok : recorded.1.isOk with
  | false =>
      rw [ok] at written
      exact written
  | true =>
      rw [ok] at written
      exact written

/-- A stable store needs no header and has no torn tail: closing a recovery is one record. -/
theorem finishRecovery_written (fabric : Fabric StableStore) (store : StableStore) :
    Written .epochState fabric.epochPayload (some store)
      (fabric.finishRecovery store).result.isOk (fabric.finishRecovery store).fabric.journal := by
  have dropped : ({ fabric with journal := some store }.dropTornTail store).2 = store := by
    rw [dropTornTail]
    split <;> rfl
  have named : ({ fabric with journal := some store }.dropTornTail store).1.epochPayload =
      fabric.epochPayload := by
    rw [dropTornTail]
    split <;> rfl
  have finished : fabric.finishRecovery store =
      Fabric.sealRecovery ({ fabric with journal := some store }.dropTornTail store).1
        ({ fabric with journal := some store }.dropTornTail store).2 := by
    have header : IJournal.writeHeader store fabric.boot fabric.epoch = (.success, store) := rfl
    simp only [finishRecovery, header]
    rw [if_neg (by decide)]
  rw [finished, dropped, ← named]
  exact sealRecovery_written _ store

theorem Committed.present {encoded : Bytes} {before after : Option J} {ok : Bool}
    (committed : Committed encoded before ok after) (present : before.isSome) : after.isSome := by
  cases committed with
  | unjournaled => exact present
  | required => exact present
  | unencoded journal empty => rfl
  | offered journal ok nonempty status => rfl

theorem commitDurably_present (fabric : Fabric J) (request : MutationRequest)
    (present : fabric.journal.isSome) : (fabric.commitDurably request).2.journal.isSome :=
  (commitDurably_cases fabric request).2.present present

theorem ApplyCase.present {fabric : Fabric J} {request : MutationRequest} {now : Nanos}
    {reply : Reply J MutationOutcome} (ended : ApplyCase fabric request now reply)
    (present : fabric.journal.isSome) : reply.fabric.journal.isSome := by
  cases ended with
  | stopped stopping => exact present
  | unbound refusal => exact present
  | declare payload _ valid kind carried ended =>
      cases ended with
      | refused refusal => exact present
      | answered id taken =>
          rw [answerDeclared]
          split
          · exact present
          split <;> exact present
      | undurable resource refusal after declarable failed =>
          have kept := commitDurably_present fabric request present
          rwa [failed] at kept
      | committed resource after declarable written =>
          have kept := commitDurably_present fabric request present
          rw [written] at kept
          rw [admitDeclared]
          split
          · exact kept
          simp only []
          split <;> exact kept
  | existing queue _ valid kind found ended =>
      cases ended with
      | answered memo recorded =>
          rw [answerFromMemo]
          split
          · exact present
          split <;> exact present
      | refused tracker refusal unseen gate real => exact present
      | undurable tracker applied refusal after admitted durable failed real =>
          have kept := commitDurably_present (fabric.accepted tracker applied) request present
          rwa [failed] at kept
      | published tracker applied after admitted committed =>
          split at committed
          · have kept := commitDurably_present (fabric.accepted tracker applied) request present
            rwa [committed] at kept
          · subst committed
            exact present

theorem replayOne_present (fabric : Fabric J) (request : MutationRequest)
    (present : fabric.journal.isSome) : (fabric.replayOne request).journal.isSome := by
  obtain ⟨now, reply, ended, touch, journal⟩ := replayOne_cases fabric request
  rw [journal]
  exact ended.present present

theorem replayAll_present (fabric : Fabric J) (requests : List MutationRequest)
    (present : fabric.journal.isSome) : (fabric.replayAll requests).journal.isSome := by
  induction requests generalizing fabric with
  | nil => exact present
  | cons request rest ih => exact ih _ (replayOne_present fabric request present)

omit [IJournal J] in
theorem noteUnfinished_journal (fabric : Fabric J) (outstanding : List MutationRequest) :
    (outstanding.foldl noteUnfinished fabric).journal = fabric.journal := by
  induction outstanding generalizing fabric with
  | nil => rfl
  | cons request rest ih => exact ih (fabric.noteUnfinished request)

omit [IJournal J] in
theorem revalidateAll_journal (fabric : Fabric J) (outstanding : List MutationRequest) :
    (fabric.revalidateAll outstanding).journal = fabric.journal :=
  noteUnfinished_journal _ outstanding

omit [IJournal J] in
/-- What holds of every revalidated queue and survives the mark of an unfinished attempt holds of
every queue at the end. -/
theorem revalidateAll_holds {holds : QueueId → QueueRecord → Prop} {fabric : Fabric J}
    {outstanding : List MutationRequest}
    (revalidated : ∀ id queue, fabric.findQueue id = some queue → holds id (revalidateQueue queue))
    (marked : ∀ id queue, holds id queue → holds id (markUnfinished queue)) :
    ∀ id queue, (fabric.revalidateAll outstanding).findQueue id = some queue →
      holds id queue := by
  have all : ∀ start : Fabric J,
      (∀ id queue, start.findQueue id = some queue → holds id queue) →
      ∀ id queue, (outstanding.foldl noteUnfinished start).findQueue id = some queue →
        holds id queue := by
    induction outstanding with
    | nil => exact fun _ held => held
    | cons request rest ih =>
        intro start held
        refine ih (start.noteUnfinished request) fun id queue found => ?_
        rw [noteUnfinished, findQueue] at found
        cases stored : start.findQueue request.queue with
        | none =>
            simp only [stored] at found
            exact held id queue found
        | some target =>
            simp only [stored, Table.get?_insert] at found
            split at found
            · rename_i here
              rw [Option.some.injEq] at found
              subst here found
              exact marked _ target (held _ target stored)
            · exact held id queue found
  refine all { fabric with
    queues := fabric.queues.mapValues fun _ queue => revalidateQueue queue
    recovery := { fabric.recovery with
      queuesRevalidated := fabric.recovery.queuesRevalidated + fabric.queues.size } } ?_
  intro id queue found
  simp only [findQueue, Table.get?_mapValues, Option.map_eq_some_iff] at found
  obtain ⟨earlier, known, rfl⟩ := found
  exact revalidated id earlier known

/-- How a recovery over a stable store ends. -/
inductive RecoverCase (fabric : Fabric StableStore) : Reply StableStore Unit → Prop
  | unjournaled {reply : Reply StableStore Unit} (absent : fabric.journal = none)
      (result : reply.result = .ok ())
      (touch : Touch { fabric.beginRecovery with healthy := true } reply.fabric)
      (journal : reply.fabric.journal = none) : RecoverCase fabric reply
  | unopened {reply : Reply StableStore Unit} (store : StableStore)
      (present : fabric.journal = some store) (failed : store.openStore.1.isOk = false)
      (result : reply.result = .error store.openStore.1)
      (touch : Touch { fabric.beginRecovery with healthy := true } reply.fabric)
      (journal : reply.fabric.journal = some store.openStore.2)
      (failing : reply.fabric.healthy = false) : RecoverCase fabric reply
  | exhausted {reply : Reply StableStore Unit} (store : StableStore) (scan : Scan) (status : Status)
      (present : fabric.journal = some store) (opened : store.openStore.1.isOk = true)
      (scanned : scan = fabric.beginRecovery.scanJournal store.openStore.2)
      (minted : scan.mintEpoch = .error status) (result : reply.result = .error status)
      (touch : Touch { fabric.beginRecovery with
        resources := scan.resources.mapValues fun _ record => killBackends record
        queues := scan.queues
        healthy := true } reply.fabric)
      (journal : reply.fabric.journal = some store.openStore.2)
      (failing : reply.fabric.healthy = false) : RecoverCase fabric reply
  | replayed {reply : Reply StableStore Unit} (store last : StableStore) (scan : Scan)
      (epoch : Epoch) (replayed : Fabric StableStore) (payload : Bytes)
      (present : fabric.journal = some store) (opened : store.openStore.1.isOk = true)
      (scanned : scan = fabric.beginRecovery.scanJournal store.openStore.2)
      (minted : scan.mintEpoch = .ok epoch)
      (installed : replayed = ((fabric.beginRecovery.adoptScan store.openStore.2 scan).installScan
        scan epoch).replayAll scan.replayOrder)
      (kept : replayed.journal = some last)
      (touch : Touch { replayed.revalidateAll scan.outstanding.values with healthy := true }
        reply.fabric)
      (written : Written .epochState payload (some last) reply.result.isOk reply.fabric.journal)
      (named : payload = (replayed.revalidateAll scan.outstanding.values).epochPayload) :
      RecoverCase fabric reply

theorem recover_cases (fabric : Fabric StableStore) : RecoverCase fabric fabric.recover := by
  rw [recover, recoverLocked]
  simp only []
  cases present : fabric.journal with
  | none =>
      have absent : fabric.beginRecovery.journal = none := present
      simp only [absent]
      exact .unjournaled present rfl
        ⟨rfl, rfl, rfl, rfl, rfl, rfl, rfl, rfl, rfl, rfl, fun _ => rfl⟩ rfl
  | some store =>
      have found : fabric.beginRecovery.journal = some store := present
      simp only [found]
      have opening : IJournal.openJournal store = store.openStore := rfl
      rw [opening]
      cases opened : store.openStore.1.isOk with
      | false =>
          simp only [Bool.not_false, ↓reduceIte]
          exact .unopened store present opened rfl
            ⟨rfl, rfl, rfl, rfl, rfl, rfl, rfl, rfl, rfl, rfl, fun _ => rfl⟩ rfl rfl
      | true =>
          simp only [Bool.not_true, Bool.false_eq_true, ↓reduceIte, recoverOpened]
          cases minted : (fabric.beginRecovery.scanJournal store.openStore.2).mintEpoch with
          | error status =>
              exact .exhausted store _ status present opened rfl minted rfl
                ⟨rfl, rfl, rfl, rfl, rfl, rfl, rfl, rfl, rfl, rfl, fun _ => rfl⟩ rfl rfl
          | ok epoch =>
              simp only []
              generalize scanned : fabric.beginRecovery.scanJournal store.openStore.2 = scan
              have still := replayAll_present
                ((fabric.beginRecovery.adoptScan store.openStore.2 scan).installScan scan epoch)
                scan.replayOrder rfl
              rw [replayScan]
              generalize installed : ((fabric.beginRecovery.adoptScan store.openStore.2
                scan).installScan scan epoch).replayAll scan.replayOrder = replayed at still
              obtain ⟨last, kept⟩ := Option.isSome_iff_exists.mp still
              have final := (revalidateAll_journal replayed scan.outstanding.values).trans kept
              have written := finishRecovery_written
                (replayed.revalidateAll scan.outstanding.values) last
              have touch := finishRecovery_touch
                (replayed.revalidateAll scan.outstanding.values) last
              rw [closeRecovery, final]
              simp only []
              generalize (replayed.revalidateAll scan.outstanding.values).finishRecovery last =
                closed at touch written
              exact .replayed store last scan epoch replayed _ present opened scanned.symm
                (scanned ▸ minted) installed.symm kept (touch.trans (emitted_touch _ _)) written
                rfl

theorem RecoverCase.mem_contents {fabric : Fabric StableStore} {reply : Reply StableStore Unit}
    (ended : RecoverCase fabric reply) {record : JournalRecord}
    (member : record ∈ reply.fabric.store.contents) :
    record ∈ fabric.store.contents ∨ record.type = .epochState ∨
      ∃ payload request, ⟨.commitMutation, payload⟩ ∈ fabric.store.contents ∧
        decodeMutation payload = .ok request ∧
        (record = ⟨.beginAttempt, encodeMutation request⟩ ∨
          record = ⟨.commitMutation, encodeMutation request⟩) := by
  cases ended with
  | unjournaled absent result touch journal =>
      rw [store, journal] at member
      rw [store, absent]
      exact .inl member
  | unopened store present failed result touch journal =>
      rw [Fabric.store, journal] at member
      rw [Fabric.store, present]
      exact .inl (StableStore.contents_openStore store ▸ member)
  | exhausted store scan status present opened scanned minted result touch journal =>
      rw [Fabric.store, journal] at member
      rw [Fabric.store, present]
      exact .inl (StableStore.contents_openStore store ▸ member)
  | replayed store last scan epoch replayed payload present opened scanned minted installed kept
      touch written =>
      have known : ∀ record, record ∈ store.openStore.2.contents →
          record ∈ fabric.store.contents := by
        intro record member
        rw [Fabric.store, present]
        exact StableStore.contents_openStore store ▸ member
      rcases written.mem_contents member with early | new
      · have earlier : record ∈ replayed.store.contents := by
          rw [Fabric.store, kept]
          exact early
        rw [installed] at earlier
        rcases mem_contents_replayAll earlier with before | ⟨request, listed, rewritten⟩
        · exact .inl (known record before)
        · refine .inr (.inr ?_)
          rw [scanned] at listed
          rcases Scan.mem_replayOrder_addRecords listed with nothing | ⟨payload, read, decoded⟩
          · simp at nothing
          · exact ⟨payload, request, known _ read, decoded, rewritten⟩
      · exact .inr (.inl (new ▸ rfl))

/-- The fabric a recovery replays its commits on, and the commits it replays. -/
def replayStart (fabric : Fabric StableStore) :
    Option (Fabric StableStore × List MutationRequest) :=
  match fabric.journal with
  | none => none
  | some store =>
      if store.openStore.1.isOk then
        let scan := fabric.beginRecovery.scanJournal store.openStore.2
        match scan.mintEpoch with
        | .error _ => none
        | .ok epoch =>
            some ((fabric.beginRecovery.adoptScan store.openStore.2 scan).installScan scan epoch,
              scan.replayOrder)
      else none

theorem replayStart_cases {fabric base : Fabric StableStore} {order : List MutationRequest}
    (started : fabric.replayStart = some (base, order)) :
    ∃ store scan epoch, fabric.journal = some store ∧
      scan = fabric.beginRecovery.scanJournal store.openStore.2 ∧ scan.mintEpoch = .ok epoch ∧
      base = (fabric.beginRecovery.adoptScan store.openStore.2 scan).installScan scan epoch ∧
      order = scan.replayOrder := by
  rw [replayStart] at started
  split at started
  · cases started
  rename_i store present
  split at started
  · simp only [] at started
    split at started
    · cases started
    · rename_i epoch minted
      rw [Option.some.injEq, Prod.mk.injEq] at started
      exact ⟨store, _, epoch, present, rfl, minted, started.1.symm, started.2.symm⟩
  · cases started

theorem replayStart_listed {fabric base : Fabric StableStore} {order : List MutationRequest}
    {request : MutationRequest} (started : fabric.replayStart = some (base, order))
    (listed : request ∈ order) :
    ∃ payload, ⟨.commitMutation, payload⟩ ∈ fabric.store.contents ∧
      decodeMutation payload = .ok request := by
  obtain ⟨store, scan, epoch, present, rfl, minted, _, rfl⟩ := replayStart_cases started
  rcases Scan.mem_replayOrder_addRecords listed with nothing | ⟨payload, read, decoded⟩
  · simp at nothing
  · refine ⟨payload, ?_, decoded⟩
    rw [Fabric.store, present]
    exact StableStore.contents_openStore store ▸ read

theorem replayStart_of_opened {fabric : Fabric StableStore} {store : StableStore} {scan : Scan}
    {epoch : Epoch} (present : fabric.journal = some store) (opened : store.openStore.1.isOk = true)
    (scanned : scan = fabric.beginRecovery.scanJournal store.openStore.2)
    (minted : scan.mintEpoch = .ok epoch) :
    fabric.replayStart = some
      ((fabric.beginRecovery.adoptScan store.openStore.2 scan).installScan scan epoch,
        scan.replayOrder) := by
  simp only [replayStart, present, opened, ↓reduceIte]
  rw [← scanned, minted]

/-! Snapshot records. -/

omit [IJournal J] in
theorem mem_snapshot {fabric : Fabric J} {payload : Bytes}
    (listed : ⟨.queueState, payload⟩ ∈ fabric.buildSnapshotLocked) :
    ∃ id queue, fabric.findQueue id = some queue ∧ payload = encodeQueueState queue := by
  simp only [buildSnapshotLocked, List.cons_append, List.mem_cons, List.mem_append,
    List.mem_map] at listed
  rcases listed with impossible | ⟨resource, _, impossible⟩ | ⟨queue, member, same⟩
  · cases impossible
  · cases impossible
  · simp only [sortedValues, List.mem_map, List.mem_mergeSort] at member
    obtain ⟨⟨id, stored⟩, entry, rfl⟩ := member
    refine ⟨id, stored, (Table.mem_entries_iff _ _ _).mp entry, ?_⟩
    cases same
    rfl

/-- Only a compaction writes queue records, and it writes the queues as they are. -/
theorem ServeCase.mem_queueState {fabric : Fabric StableStore} {call : Call}
    {reply : Reply StableStore Answer} (ended : ServeCase fabric call reply)
    (living : call ≠ .recover) {payload : Bytes}
    (listed : ⟨.queueState, payload⟩ ∈ reply.fabric.store.contents) :
    ⟨.queueState, payload⟩ ∈ fabric.store.contents ∨
      call = .compact ∧ ∃ id queue, fabric.findQueue id = some queue ∧
        payload = encodeQueueState queue := by
  rcases ended.mem_contents living listed with early | offered
  · exact .inl early
  · generalize shape : (⟨.queueState, payload⟩ : JournalRecord) = record at offered
    cases offered with
    | snapshot record listed =>
        subst shape
        exact .inr ⟨rfl, mem_snapshot listed⟩
    | _ => cases shape

theorem RecoverCase.mem_queueState {fabric : Fabric StableStore} {reply : Reply StableStore Unit}
    (ended : RecoverCase fabric reply) {payload : Bytes}
    (listed : ⟨.queueState, payload⟩ ∈ reply.fabric.store.contents) :
    ⟨.queueState, payload⟩ ∈ fabric.store.contents := by
  rcases ended.mem_contents listed with early | impossible | ⟨_, _, _, _, impossible | impossible⟩
  · exact early
  · cases impossible
  · cases impossible
  · cases impossible

theorem ExistingCase.resources {fabric : Fabric J} {key : QueueId} {queue : QueueRecord}
    {request : MutationRequest} {now : Nanos} {reply : Reply J MutationOutcome}
    (ended : ExistingCase fabric key queue request now reply) :
    reply.fabric.resources = fabric.resources := by
  cases ended with
  | answered memo recorded =>
      rw [answerFromMemo]
      split
      · rfl
      split <;> rfl
  | refused tracker refusal unseen gate real => rfl
  | undurable tracker applied refusal after admitted durable failed real =>
      exact (commitDurably_touch failed).resources
  | published tracker applied after admitted committed =>
      exact (published_touch committed).resources

/-! The configuration never changes. -/

theorem ExistingCase.config {fabric : Fabric J} {key : QueueId} {queue : QueueRecord}
    {request : MutationRequest} {now : Nanos} {reply : Reply J MutationOutcome}
    (ended : ExistingCase fabric key queue request now reply) :
    reply.fabric.config = fabric.config := by
  cases ended with
  | answered memo recorded =>
      rw [answerFromMemo]
      split
      · rfl
      split <;> rfl
  | refused tracker refusal unseen gate real => rfl
  | undurable tracker applied refusal after admitted durable failed real =>
      exact (commitDurably_touch failed).config
  | published tracker applied after admitted committed => exact (published_touch committed).config

theorem DeclareCase.config {fabric : Fabric J} {request : MutationRequest}
    {payload : DeclareQueuePayload} {now : Nanos} {reply : Reply J MutationOutcome}
    (ended : DeclareCase fabric request payload now reply) :
    reply.fabric.config = fabric.config := by
  cases ended with
  | refused refusal => rfl
  | answered id taken =>
      rw [answerDeclared]
      split
      · rfl
      split <;> rfl
  | undurable resource refusal after declarable failed => exact (commitDurably_touch failed).config
  | committed resource after declarable written =>
      have touch := commitDurably_touch written
      rw [admitDeclared]
      split
      · exact touch.config
      simp only []
      split <;> exact touch.config

theorem ApplyCase.config {fabric : Fabric J} {request : MutationRequest} {now : Nanos}
    {reply : Reply J MutationOutcome} (ended : ApplyCase fabric request now reply) :
    reply.fabric.config = fabric.config := by
  cases ended with
  | stopped stopping => rfl
  | unbound refusal => rfl
  | declare payload _ valid kind carried ended => exact ended.config
  | existing queue _ valid kind found ended => exact ended.config

theorem replayAll_config (fabric : Fabric J) (requests : List MutationRequest) :
    (fabric.replayAll requests).config = fabric.config := by
  induction requests generalizing fabric with
  | nil => rfl
  | cons request rest ih =>
      obtain ⟨now, reply, ended, touch, _⟩ := replayOne_cases fabric request
      exact (ih (fabric.replayOne request)).trans (touch.config.trans ended.config)

omit [IJournal J] in
theorem revalidateAll_config (fabric : Fabric J) (outstanding : List MutationRequest) :
    (fabric.revalidateAll outstanding).config = fabric.config := by
  have noted : ∀ fabric : Fabric J,
      (outstanding.foldl noteUnfinished fabric).config = fabric.config := by
    induction outstanding with
    | nil => exact fun _ => rfl
    | cons request rest ih => exact fun fabric => ih (fabric.noteUnfinished request)
  exact noted _

theorem RecoverCase.config {fabric : Fabric StableStore} {reply : Reply StableStore Unit}
    (ended : RecoverCase fabric reply) : reply.fabric.config = fabric.config := by
  cases ended with
  | unjournaled absent result touch journal => exact touch.config
  | unopened store present failed result touch journal => exact touch.config
  | exhausted store scan status present opened scanned minted result touch journal =>
      exact touch.config
  | replayed store last scan epoch replayed payload present opened scanned minted installed kept
      touch written =>
      rw [touch.config, revalidateAll_config, installed, replayAll_config]
      rfl

theorem Recorded.config {α : Type} {before lost kept : Fabric J} {type : JournalRecordType}
    {payload : Bytes} {value : α} {reply : Reply J α}
    (recorded : Recorded before type payload lost kept value reply)
    (onLost : lost.config = before.config) (onKept : kept.config = before.config) :
    reply.fabric.config = before.config := by
  cases recorded with
  | lost status events after touch written => exact touch.config.trans onLost
  | kept events after touch written => exact touch.config.trans onKept

theorem serve_config (fabric : Fabric StableStore) (call : Call) :
    (fabric.serve call).fabric.config = fabric.config := by
  have ended := serve_cases fabric call
  generalize fabric.serve call = reply at ended
  cases ended with
  | refused refused => exact refused.touch.config
  | recovered => exact (recover_cases fabric).config
  | stopped touch journal => exact touch.config
  | edited lost kept updated value spent issued edit recorded => exact recorded.config rfl rfl
  | classed resource name priority qos principal epoch provenance record cls classes nextClassId
      generation found declared recorded => exact recorded.config rfl rfl
  | advanced principal provenance epoch payload minted recorded => exact recorded.config rfl rfl
  | invalidated id principal epoch reason queue events after found touch journal =>
      exact touch.config
  | applied request now inner events after ended touch journal =>
      exact touch.config.trans ended.config
  | gated id expected principal provenance accepted refused => exact refused.touch.config
  | planned id expected principal provenance plan accepted recorded =>
      exact recorded.config rfl rfl
  | committed plan applied provenance queue inner found ended =>
      cases ended with
      | refused refused => exact refused.touch.config
      | lost status events after touch written => exact touch.config
      | served middle now served events after touch written ended final journal =>
          exact (final.config.trans ended.config).trans touch.config
  | aborted plan reason recorded => exact recorded.config rfl rfl
  | explained id principal touch journal => exact touch.config
  | refreshed now touch journal => exact touch.config
  | compacted journal present touch rewritten => exact touch.config

end Fabric

namespace System

/-- The fabric on which a step runs a recovery. -/
def recovering (system : System) : Step → Option (Fabric StableStore)
  | .call .recover script => some (withScript system.fabric script)
  | .restart survivors clock seed script =>
      some (withScript (Fabric.create system.fabric.config clock
        (system.fabric.journal.map (·.crash survivors)) seed) script)
  | _ => none

theorem not_recovering {system : System} {call : Call} {script : List Bool}
    {fabric : Fabric StableStore} (plain : call ≠ .recover) :
    system.recovering (.call call script) ≠ some fabric := by
  intro started
  cases call with
  | recover => exact plain rfl
  | _ => cases started

theorem answered_isOk {J α : Type} (reply : Reply J α) (render : α → Answer) :
    (reply.answered render).result.isOk = reply.result.isOk := by
  rw [Reply.answered]
  cases reply.result <;> rfl

theorem run_concat (system : System) (steps : List Step) (input : Step) :
    system.run (steps ++ [input]) = (system.run steps).step input := by
  simp [run]

@[simp] theorem contents_withScript (fabric : Fabric StableStore) (script : List Bool) :
    (withScript fabric script).store.contents = fabric.store.contents := by
  simp only [Fabric.store, withScript]
  cases fabric.journal <;> rfl

theorem mem_contents_crashed {fabric : Fabric StableStore} {survivors : Nat}
    {record : JournalRecord}
    (kept : record ∈ ((fabric.journal.map fun store : StableStore => store.crash survivors).getD
      {}).contents) :
    record ∈ fabric.store.contents := by
  rw [Fabric.store]
  cases present : fabric.journal with
  | none =>
      rw [present] at kept
      exact kept
  | some store =>
      rw [present] at kept
      exact StableStore.mem_contents_crash kept

theorem config_boot (config : FabricConfig) (journal : Option StableStore) (clock : Clock)
    (seed : UInt64) (script : List Bool) :
    (boot config journal clock seed script).fabric.config = config :=
  Fabric.serve_config (withScript (Fabric.create config clock journal seed) script) .recover

theorem config_step (system : System) (input : Step) :
    (system.step input).fabric.config = system.fabric.config := by
  cases input with
  | call call script => exact Fabric.serve_config (withScript system.fabric script) call
  | restart survivors clock seed script => exact config_boot _ _ clock seed script

theorem config_run (system : System) (steps : List Step) :
    (system.run steps).fabric.config = system.fabric.config := by
  induction steps generalizing system with
  | nil => rfl
  | cons input rest ih => exact (ih (system.step input)).trans (config_step system input)

end System

end QueueFabric
