import QueueFabric.Lib.Runs
import QueueFabric.SerializeRoundTrip
import QueueFabric.QueueCases
import QueueFabric.RecoveryCases

/-!
Where idempotent answers come from. Every entry of a queue's memo was left by a
request presented to that queue, an entry that reports success by a request that
was applied to it, and its declaration by the request that declared it. This
holds over every run, through crashes, replays and compactions.
-/

namespace QueueFabric

namespace QueueRecord

/-- Requests the memo and the declaration of a queue can be traced to. -/
structure Traced (presented applied : QueueId → MutationRequest → Prop) (queue : QueueRecord) :
    Prop where
  memo : ∀ entry ∈ queue.memo, ∃ request, presented queue.definition.id request ∧
    request.attempt = entry.attempt ∧ request.fingerprint = entry.fingerprint ∧
    (entry.outcome = .ok → applied queue.definition.id request)
  declared : ∃ request payload, applied queue.definition.id request ∧
    request.payload = .declareQueue payload ∧ request.provenance = queue.definition.declaredBy

variable {presented applied : QueueId → MutationRequest → Prop} {before after : QueueRecord}

theorem Traced.of_identical (traced : before.Traced presented applied)
    (identical : Identical before after)
    (memo : ∀ entry ∈ after.memo, entry ∈ before.memo ∨ ∃ request,
      presented before.definition.id request ∧ request.attempt = entry.attempt ∧
        request.fingerprint = entry.fingerprint ∧
        (entry.outcome = .ok → applied before.definition.id request)) :
    after.Traced presented applied where
  memo entry listed := by
    rw [identical.id]
    rcases memo entry listed with old | new
    · exact traced.memo entry old
    · exact new
  declared := by
    rw [identical.id, identical.declaredBy]
    exact traced.declared

theorem Traced.of_same (traced : before.Traced presented applied) (same : Same before after) :
    after.Traced presented applied :=
  traced.of_identical same.identical fun _ listed => .inl (same.memo ▸ listed)

theorem Traced.mono {presented' applied' : QueueId → MutationRequest → Prop}
    (traced : before.Traced presented applied)
    (shown : ∀ id request, presented id request → presented' id request)
    (done : ∀ id request, applied id request → applied' id request) :
    before.Traced presented' applied' where
  memo entry listed := by
    obtain ⟨request, known, same, print, ok⟩ := traced.memo entry listed
    exact ⟨request, shown _ _ known, same, print, fun succeeded => done _ _ (ok succeeded)⟩
  declared := by
    obtain ⟨request, payload, known, rest⟩ := traced.declared
    exact ⟨request, payload, done _ _ known, rest⟩

end QueueRecord

open QueueRecord

namespace Fabric

variable {J : Type} {presented applied : QueueId → MutationRequest → Prop}

/-- Every queue is stored under its own identity and can be traced. -/
def TracedAll (presented applied : QueueId → MutationRequest → Prop)
    (queues : Table QueueId QueueRecord) : Prop :=
  ∀ id queue, queues.get? id = some queue →
    queue.definition.id = id ∧ queue.Traced presented applied

theorem TracedAll.same {before after : Table QueueId QueueRecord}
    (traced : TracedAll presented applied before) (related : Table.Related Same before after) :
    TracedAll presented applied after := by
  intro id queue found
  obtain ⟨old, known, same⟩ := related.get? found
  obtain ⟨own, kept⟩ := traced id old known
  exact ⟨(congrArg QueueDefinition.id same.definition).trans own, kept.of_same same⟩

theorem TracedAll.insert {queues : Table QueueId QueueRecord} {key : QueueId}
    {queue updated : QueueRecord} (traced : TracedAll presented applied queues)
    (found : queues.get? key = some queue) (identical : Identical queue updated)
    (memo : ∀ entry ∈ updated.memo, entry ∈ queue.memo ∨ ∃ request, presented key request ∧
      request.attempt = entry.attempt ∧ request.fingerprint = entry.fingerprint ∧
        (entry.outcome = .ok → applied key request)) :
    TracedAll presented applied (queues.insert key updated) := by
  intro id current stored
  rw [Table.get?_insert] at stored
  split at stored
  · rename_i here
    rw [Option.some.injEq] at stored
    subst here stored
    obtain ⟨own, kept⟩ := traced key queue found
    refine ⟨identical.id.trans own, kept.of_identical identical ?_⟩
    rw [own]
    exact memo
  · exact traced id current stored

variable [IJournal J]

theorem ExistingCase.traced {fabric : Fabric J} {key : QueueId} {queue : QueueRecord}
    {request : MutationRequest} {now : Nanos} {reply : Reply J MutationOutcome}
    (ended : ExistingCase fabric key queue request now reply)
    (found : fabric.findQueue key = some queue)
    (traced : TracedAll presented applied fabric.queues) (shown : presented key request)
    (done : ∀ outcome, reply.result = .ok outcome → outcome.replayed = false →
      applied outcome.queue request) :
    TracedAll presented applied reply.fabric.queues := by
  have own := (traced key queue found).1
  -- a refusal leaves an entry that does not report success
  have rejected : ∀ config refusal, refusal.status.isOk = false →
      TracedAll presented applied
        (fabric.queues.insert key (rejectQueue config queue request refusal)) := by
    intro config refusal real
    refine traced.insert found (identical_rejectQueue ..) fun entry listed => ?_
    rcases mem_rememberIn listed with old | new
    · exact .inl old
    · refine .inr ⟨request, shown, by rw [new], by rw [new], fun succeeded => ?_⟩
      rw [new] at succeeded
      exact absurd succeeded (of_decide_eq_false real)
  cases ended with
  | answered memo recorded =>
      rw [answerFromMemo]
      split
      · exact rejected _ _ rfl
      split
      · exact traced.insert found ⟨rfl, rfl, rfl, rfl⟩ fun _ listed => .inl listed
      · exact traced.insert found ⟨rfl, rfl, rfl, rfl⟩ fun _ listed => .inl listed
  | refused tracker refusal unseen gate real => exact rejected _ refusal real
  | undurable tracker accepted refusal after admitted durable failed real =>
      have touch := commitDurably_touch failed
      simp only [reject, touch.queues, touch.config]
      exact rejected _ refusal real
  | published tracker accepted after admitted committed =>
      have touch := published_touch committed
      obtain ⟨identical, memo⟩ := (applyKindLocked_cases admitted.kind).identical
      have here : applied key request := by
        have known := done _ rfl rfl
        rwa [identical.id, own] at known
      simp only [publish, touch.queues]
      refine traced.insert found (identical.trans (identical_publishQueue ..)) fun entry listed => ?_
      have listed : entry ∈ rememberIn accepted.target.memo
          ⟨request.attempt, request.fingerprint, request.kind, .ok,
            accepted.target.definition.generation, isDurable request.kind && after.journal.isSome⟩
          after.config.limits.maxAttemptMemo := by
        rw [publishQueue] at listed
        split at listed <;> exact listed
      rw [memo] at listed
      rcases mem_rememberIn listed with old | new
      · exact .inl old
      · exact .inr ⟨request, shown, by rw [new], by rw [new], fun _ => here⟩

theorem DeclareCase.traced {fabric : Fabric J} {request : MutationRequest}
    {payload : DeclareQueuePayload} {now : Nanos} {reply : Reply J MutationOutcome}
    (ended : DeclareCase fabric request payload now reply)
    (carried : request.payload = .declareQueue payload)
    (traced : TracedAll presented applied fabric.queues)
    (shown : ∀ id, applied id request → presented id request)
    (done : ∀ outcome, reply.result = .ok outcome → outcome.replayed = false →
      applied outcome.queue request) :
    TracedAll presented applied reply.fabric.queues := by
  cases ended with
  | refused refusal => exact traced
  | answered id taken =>
      rw [answerDeclared]
      split
      · exact traced
      split <;> exact traced
  | undurable resource refusal after declarable failed =>
      have touch := commitDurably_touch failed
      simp only [rejectUnbound, countRejection, touch.queues]
      exact traced
  | committed resource after declarable written =>
      have touch := commitDurably_touch written
      -- the new record is traced to this very request
      have fresh : ∀ (fabric : Fabric J) (durable : Bool), applied ⟨fabric.nextQueueId⟩ request →
          TracedAll presented applied (after.queues.emplace ⟨fabric.nextQueueId⟩
            (declaredRecord fabric request payload now durable)) := by
        intro fabric durable known id current stored
        rw [touch.queues, Table.emplace] at stored
        split at stored
        · exact traced id current stored
        rw [Table.get?_insert] at stored
        split at stored
        · rename_i here
          rw [Option.some.injEq] at stored
          subst here stored
          refine ⟨rfl, fun entry listed => ?_, request, payload, known, carried, rfl⟩
          simp only [declaredRecord, remember] at listed
          rcases mem_rememberIn listed with nothing | new
          · simp at nothing
          · exact ⟨request, shown _ known, by rw [new], by rw [new], fun _ => known⟩
        · exact traced id current stored
      rw [admitDeclared] at done ⊢
      split at done
      · rename_i replaying
        rw [if_pos replaying]
        exact fresh after _ (done _ rfl rfl)
      · rename_i living
        rw [if_neg living]
        simp only [] at done ⊢
        split at done
        · rename_i failed
          rw [if_pos failed]
          simp only [rejectUnbound, countRejection, touch.queues]
          exact traced
        · rename_i passed
          rw [if_neg passed]
          exact fresh _ _ (done _ rfl rfl)

theorem ApplyCase.traced {fabric : Fabric J} {request : MutationRequest} {now : Nanos}
    {reply : Reply J MutationOutcome} (ended : ApplyCase fabric request now reply)
    (traced : TracedAll presented applied fabric.queues) (shown : presented request.queue request)
    (listed : ∀ id, applied id request → presented id request)
    (done : ∀ outcome, reply.result = .ok outcome → outcome.replayed = false →
      applied outcome.queue request) :
    TracedAll presented applied reply.fabric.queues := by
  cases ended with
  | stopped stopping => exact traced
  | unbound refusal => exact traced
  | declare payload _ valid kind carried ended => exact ended.traced carried traced listed done
  | existing queue _ valid kind found ended => exact ended.traced found traced shown done

/-- What an idempotent success rests on. -/
inductive AnsweredFrom (fabric : Fabric J) (request : MutationRequest) (id : QueueId) : Prop
  | memo (queue : QueueRecord) (entry : AttemptMemo) (kind : request.kind ≠ .declareQueue)
      (found : fabric.findQueue request.queue = some queue) (own : id = queue.definition.id)
      (recorded : queue.findAttempt request.attempt = some entry) (ok : entry.outcome = .ok)
  | declaration (payload : DeclareQueuePayload) (key : QueueId) (queue : QueueRecord)
      (kind : request.kind = .declareQueue) (carried : request.payload = .declareQueue payload)
      (named : fabric.queueNames.get? (nameKey payload.resource payload.name) = some key)
      (found : fabric.findQueue key = some queue) (own : id = queue.definition.id)
      (publisher : queue.definition.declaredBy.publisher = request.provenance.publisher)
      (sequence : queue.definition.declaredBy.sequence = request.provenance.sequence)

theorem ApplyCase.answeredFrom {fabric : Fabric J} {request : MutationRequest} {now : Nanos}
    {reply : Reply J MutationOutcome} {outcome : MutationOutcome}
    (ended : ApplyCase fabric request now reply) (ok : reply.result = .ok outcome)
    (again : outcome.replayed = true) : AnsweredFrom fabric request outcome.queue := by
  cases ended with
  | stopped stopping => cases ok
  | unbound refusal => cases ok
  | declare payload _ valid kind carried ended =>
      cases ended with
      | refused refusal => cases ok
      | answered key taken =>
          rw [answerDeclared] at ok
          split at ok
          · cases ok
          rename_i queue found
          split at ok
          · rename_i matching
            cases ok
            exact .declaration payload key queue kind carried taken found rfl matching.1 matching.2
          · cases ok
      | undurable resource refusal after declarable failed => cases ok
      | committed resource after declarable written =>
          rw [admitDeclared] at ok
          split at ok
          · cases ok
            cases again
          simp only [] at ok
          split at ok
          · cases ok
          · cases ok
            cases again
  | existing queue _ valid kind found ended =>
      cases ended with
      | answered entry recorded =>
          rw [answerFromMemo] at ok
          split at ok
          · cases ok
          split at ok
          · cases ok
          · rename_i succeeded
            cases ok
            exact .memo queue entry kind found rfl recorded (by simpa using succeeded)
      | refused tracker refusal unseen gate real => cases ok
      | undurable tracker accepted refusal after admitted durable failed real => cases ok
      | published tracker accepted after admitted committed =>
          cases ok
          cases again

/-! Recoveries. -/

/-- The queue records of a store can be traced. -/
def StoredTraced (presented applied : QueueId → MutationRequest → Prop)
    (records : List JournalRecord) : Prop :=
  ∀ payload queue, ⟨.queueState, payload⟩ ∈ records → decodeQueueState payload = .ok queue →
    queue.Traced presented applied

theorem replayAll_traced {base : Fabric J} (before after : List MutationRequest)
    (traced : TracedAll presented applied (base.replayAll before).queues)
    (included : ∀ id request, applied id request → presented id request)
    (replayed : ∀ early request late, before ++ after = early ++ request :: late →
      presented request.queue request ∧ ∀ outcome,
        ((base.replayAll early).applyReplayLocked request).result = .ok outcome →
        outcome.replayed = false → applied outcome.queue request) :
    TracedAll presented applied (base.replayAll (before ++ after)).queues := by
  induction after generalizing before with
  | nil => simpa using traced
  | cons request rest ih =>
      obtain ⟨shown, done⟩ := replayed before request rest rfl
      obtain ⟨now, reply, ended, same, touch, _⟩ := replayOne_reply (base.replayAll before) request
      have next : TracedAll presented applied (base.replayAll (before ++ [request])).queues := by
        have moved : TracedAll presented applied reply.fabric.queues :=
          ended.traced traced shown (fun id => included id request) fun outcome ok =>
            done outcome (same.trans ok)
        rw [replayAll_concat, touch.queues]
        exact moved
      have shift : before ++ request :: rest = (before ++ [request]) ++ rest := by simp
      rw [shift] at replayed ⊢
      exact ih (before ++ [request]) next replayed

theorem RecoverCase.traced {fabric : Fabric StableStore} {reply : Reply StableStore Unit}
    (ended : RecoverCase fabric reply) (traced : TracedAll presented applied fabric.queues)
    (stored : StoredTraced presented applied fabric.store.contents)
    (included : ∀ id request, applied id request → presented id request)
    (replayed : ∀ base early request late,
      fabric.replayStart = some (base, early ++ request :: late) →
      presented request.queue request ∧ ∀ outcome,
        ((base.replayAll early).applyReplayLocked request).result = .ok outcome →
        outcome.replayed = false → applied outcome.queue request) :
    TracedAll presented applied reply.fabric.queues := by
  -- what the scan restores was traced when it was written
  have scanned : ∀ store, fabric.journal = some store → TracedAll presented applied
      (fabric.beginRecovery.scanJournal store.openStore.2).queues := by
    intro store present id queue found
    rcases Scan.get?_queues_addRecords found with
      early | ⟨payload, saved, listed, decoded, rfl, own⟩
    · exact traced id queue early
    · have known : ⟨.queueState, payload⟩ ∈ fabric.store.contents := by
        rw [Fabric.store, present]
        exact StableStore.contents_openStore store ▸ listed
      have same := same_restoreQueue saved
      exact ⟨(congrArg QueueDefinition.id same.definition).trans own.symm,
        (stored payload saved known decoded).of_same same⟩
  cases ended with
  | unjournaled absent result touch journal => exact touch.queues ▸ traced
  | unopened store present failed result touch journal => exact touch.queues ▸ traced
  | exhausted store scan status present opened scan_eq minted result touch journal =>
      rw [touch.queues]
      exact scan_eq ▸ scanned store present
  | replayed store last scan epoch final payload present opened scan_eq minted installed kept
      touch written =>
      have started := replayStart_of_opened present opened scan_eq minted
      rw [touch.queues]
      refine TracedAll.same ?_ (revalidateAll_same final scan.outstanding.values)
      rw [installed]
      refine replayAll_traced [] scan.replayOrder ?_ included fun early request late split => ?_
      · exact scan_eq ▸ scanned store present
      · rw [List.nil_append] at split
        exact replayed _ early request late (split ▸ started)

end Fabric

/-! Runs. -/

namespace System

/-- A step hands a request to the queue `id`: a caller applies it, a reservation commits it, or a
recovery replays it. -/
inductive Presents (id : QueueId) (request : MutationRequest) (system : System) : Step → Prop
  | served (script : List Bool) (named : request.queue = id) :
      Presents id request system (.call (.apply request) script)
  | committed (plan : BackendPlan) (applied : BackendApplied) (provenance : Provenance)
      (script : List Bool) (named : request.queue = id)
      (made : request = system.fabric.planRequest plan applied provenance) :
      Presents id request system (.call (.commitBackendApply plan applied provenance) script)
  | replayed (input : Step) (fabric base : Fabric StableStore) (early late : List MutationRequest)
      (named : request.queue = id) (started : system.recovering input = some fabric)
      (order : fabric.replayStart = some (base, early ++ request :: late)) :
      Presents id request system input

/-- A step applies a request to the queue `id`: it answers with success and does not call it a
replay. -/
inductive Applies (id : QueueId) (request : MutationRequest) (system : System) : Step → Prop
  | served (script : List Bool) (outcome : MutationOutcome)
      (answered : (system.step (.call (.apply request) script)).result = .ok (.outcome outcome))
      (fresh : outcome.replayed = false) (named : outcome.queue = id) :
      Applies id request system (.call (.apply request) script)
  | committed (plan : BackendPlan) (applied : BackendApplied) (provenance : Provenance)
      (script : List Bool) (outcome : MutationOutcome)
      (made : request = system.fabric.planRequest plan applied provenance)
      (answered : (system.step (.call (.commitBackendApply plan applied provenance)
        script)).result = .ok (.outcome outcome))
      (fresh : outcome.replayed = false) (named : outcome.queue = id) :
      Applies id request system (.call (.commitBackendApply plan applied provenance) script)
  | replayed (input : Step) (fabric base : Fabric StableStore) (early late : List MutationRequest)
      (outcome : MutationOutcome) (started : system.recovering input = some fabric)
      (order : fabric.replayStart = some (base, early ++ request :: late))
      (answered : ((base.replayAll early).applyReplayLocked request).result = .ok outcome)
      (fresh : outcome.replayed = false) (named : outcome.queue = id) :
      Applies id request system input

/-- The request was applied to the queue in the run so far. -/
def WasApplied (start : System) (done : List Step) (id : QueueId) (request : MutationRequest) :
    Prop := Runs.Happened step (Applies id request) start done

/-- The request was handed to the queue in the run so far. -/
def WasPresented (start : System) (done : List Step) (id : QueueId) (request : MutationRequest) :
    Prop :=
  Runs.Happened step (fun system input => Presents id request system input ∨
    Applies id request system input) start done

/-- Both requests come from one life of their publisher. -/
def SameLife (earlier request : MutationRequest) : Prop :=
  earlier.provenance.incarnation = request.provenance.incarnation ∧
    earlier.provenance.boot = request.provenance.boot

/-- An attempt still in the memo of its queue is reused within one publisher life only; a name is
declared again under the same publisher and sequence only by the same attempt of the same life;
compaction meets no evidence its own reader would misread. -/
def ReusesWithinLife (start : System) (done : List Step) : Step → Prop
  | .call (.apply request) _ =>
      match request.kind, request.payload with
      | .declareQueue, .declareQueue payload =>
          ∀ id queue, (start.run done).fabric.queueNames.get?
              (Fabric.nameKey payload.resource payload.name) = some id →
            (start.run done).fabric.findQueue id = some queue →
            ∀ earlier, WasApplied start done queue.definition.id earlier →
              (∃ declared, earlier.payload = .declareQueue declared) →
              earlier.provenance.publisher = request.provenance.publisher →
              earlier.provenance.sequence = request.provenance.sequence →
              earlier.attempt = request.attempt ∧ SameLife earlier request
      | _, _ =>
          ∀ queue, (start.run done).fabric.findQueue request.queue = some queue →
            (queue.findAttempt request.attempt).isSome →
            ∀ earlier, WasPresented start done request.queue earlier →
              earlier.attempt = request.attempt → SameLife earlier request
  | .call .compact _ =>
      ∀ id queue, (start.run done).fabric.findQueue id = some queue →
        queue.drain.evidence.records.toNat ≤ Limits.maxDrainEvidenceRecords
  | _ => True

/-- A compaction meets no evidence its own reader would misread. -/
def ReadablyCompacts (system : System) : Step → Prop
  | .call .compact _ => ∀ id queue, system.fabric.findQueue id = some queue →
      queue.drain.evidence.records.toNat ≤ Limits.maxDrainEvidenceRecords
  | _ => True

theorem ReusesWithinLife.readable {start : System} {done : List Step} {input : Step}
    (allowed : ReusesWithinLife start done input) : ReadablyCompacts (start.run done) input := by
  cases input with
  | restart => trivial
  | call call script =>
      cases call with
      | compact => exact allowed
      | _ => trivial

/-- The queues and the stored queue records can be traced to the run so far. -/
structure MemoHolds (start : System) (done : List Step) : Prop where
  queues : Fabric.TracedAll (WasPresented start done) (WasApplied start done)
    (start.run done).fabric.queues
  stored : Fabric.StoredTraced (WasPresented start done) (WasApplied start done)
    (start.run done).fabric.store.contents

theorem WasApplied.presented {start : System} {done : List Step} {id : QueueId}
    {request : MutationRequest} (known : WasApplied start done id request) :
    WasPresented start done id request := by
  obtain ⟨before, input, after, split, applies⟩ := known
  exact ⟨before, input, after, split, .inr applies⟩

theorem MemoHolds.stored_later {start : System} {done : List Step} (holds : MemoHolds start done)
    (input : Step) : Fabric.StoredTraced (WasPresented start (done ++ [input]))
      (WasApplied start (done ++ [input])) (start.run done).fabric.store.contents :=
  fun payload queue listed decoded => (holds.stored payload queue listed decoded).mono
    (fun _ _ known => known.later input) (fun _ _ known => known.later input)

theorem MemoHolds.queues_later {start : System} {done : List Step} (holds : MemoHolds start done)
    (input : Step) : Fabric.TracedAll (WasPresented start (done ++ [input]))
      (WasApplied start (done ++ [input])) (start.run done).fabric.queues := by
  intro id queue found
  obtain ⟨own, traced⟩ := holds.queues id queue found
  exact ⟨own, traced.mono (fun _ _ known => known.later input) fun _ _ known => known.later input⟩

theorem traced_recovery {start : System} {done : List Step} {input : Step}
    {fabric : Fabric StableStore} {reply : Reply StableStore Unit}
    (ended : Fabric.RecoverCase fabric reply)
    (started : (start.run done).recovering input = some fabric)
    (queues : Fabric.TracedAll (WasPresented start (done ++ [input]))
      (WasApplied start (done ++ [input])) fabric.queues)
    (stored : Fabric.StoredTraced (WasPresented start (done ++ [input]))
      (WasApplied start (done ++ [input])) fabric.store.contents) :
    Fabric.TracedAll (WasPresented start (done ++ [input])) (WasApplied start (done ++ [input]))
      reply.fabric.queues := by
  refine ended.traced queues stored (fun _ _ known => known.presented)
    fun base early request late order => ⟨?_, fun outcome answered fresh => ?_⟩
  · exact Runs.Happened.now (.inl (.replayed input fabric base early late rfl started order))
  · exact Runs.Happened.now (.replayed input fabric base early late outcome started order answered
      fresh rfl)

theorem MemoHolds.call {start : System} {done : List Step} (holds : MemoHolds start done)
    (call : Call) (script : List Bool)
    (allowed : ReadablyCompacts (start.run done) (.call call script)) :
    MemoHolds start (done ++ [.call call script]) := by
  have queues := holds.queues_later (.call call script)
  have stored := holds.stored_later (.call call script)
  rw [← contents_withScript _ script] at stored
  have ended := Fabric.serve_cases (withScript (start.run done).fabric script) call
  have there : start.run (done ++ [.call call script]) =
      ⟨((withScript (start.run done).fabric script).serve call).fabric,
        ((withScript (start.run done).fabric script).serve call).result⟩ :=
    run_concat start done _
  have applies : ∀ (request : MutationRequest) (outcome : MutationOutcome),
      call = .apply request →
      ((withScript (start.run done).fabric script).serve call).result = .ok (.outcome outcome) →
      outcome.replayed = false →
      WasApplied start (done ++ [.call call script]) outcome.queue request := by
    rintro request outcome rfl answered fresh
    exact Runs.Happened.now (.served script outcome answered fresh rfl)
  have commits : ∀ (plan : BackendPlan) (acknowledged : BackendApplied) (provenance : Provenance)
      (outcome : MutationOutcome), call = .commitBackendApply plan acknowledged provenance →
      ((withScript (start.run done).fabric script).serve call).result = .ok (.outcome outcome) →
      outcome.replayed = false → WasApplied start (done ++ [.call call script]) outcome.queue
        ((withScript (start.run done).fabric script).planRequest plan acknowledged provenance) := by
    rintro plan acknowledged provenance outcome rfl answered fresh
    exact Runs.Happened.now (.committed plan acknowledged provenance script outcome rfl answered
      fresh rfl)
  by_cases living : call = .recover
  · subst living
    have recovered := Fabric.recover_cases (withScript (start.run done).fabric script)
    refine ⟨?_, fun payload queue listed decoded => ?_⟩
    · rw [there]
      exact traced_recovery recovered rfl queues stored
    · rw [there] at listed
      exact stored payload queue (recovered.mem_queueState listed) decoded
  · generalize (withScript (start.run done).fabric script).serve call = reply
      at ended there applies commits
    refine ⟨?_, fun payload queue listed decoded => ?_⟩
    · rw [there]
      by_cases quiet : ∀ request, call ≠ .apply request
      · by_cases idle : ∀ plan applied provenance, call ≠ .commitBackendApply plan applied provenance
        · exact Fabric.TracedAll.same queues (ended.same living quiet idle)
        · push Not at idle
          obtain ⟨plan, acknowledged, provenance, rfl⟩ := idle
          cases ended with
          | refused refused => exact refused.queues ▸ queues
          | edited lost kept updated value spent issued edit recorded => cases edit
          | committed _ _ _ queue inner found ended =>
              cases ended with
              | refused refused => exact refused.queues ▸ queues
              | lost status events after touch written => exact touch.queues ▸ queues
              | served middle now served events after touch written ended final journal =>
                  have here : middle.findQueue plan.queue = some queue := by
                    rw [Fabric.findQueue, touch.queues]
                    exact found
                  refine final.queues ▸ ended.traced here (touch.queues ▸ queues) ?_
                    fun outcome ok fresh => ?_
                  · exact Runs.Happened.now (.inl (.committed plan acknowledged provenance script
                      rfl rfl))
                  · exact commits plan acknowledged provenance outcome rfl
                      (by simp only [Reply.answered, ok]; rfl) fresh
      · push Not at quiet
        obtain ⟨request, rfl⟩ := quiet
        cases ended with
        | refused refused => exact refused.queues ▸ queues
        | edited lost kept updated value spent issued edit recorded => cases edit
        | applied _ now inner events after ended touch journal =>
            refine touch.queues ▸ ended.traced queues ?_ (fun _ known => known.presented)
              fun outcome ok fresh => ?_
            · exact Runs.Happened.now (.inl (.served script rfl))
            · exact applies request outcome rfl (by simp only [ok]; rfl) fresh
    · rw [there] at listed
      rcases ended.mem_queueState living listed with early | ⟨rfl, id, saved, found, rfl⟩
      · exact stored payload queue early decoded
      · rw [eq_of_decodeQueueState (allowed id saved found) decoded]
        exact (queues id saved found).2.of_same ⟨rfl, rfl, rfl, rfl, rfl⟩

theorem MemoHolds.step {start : System} {done : List Step} (input : Step)
    (holds : MemoHolds start done) (allowed : ReadablyCompacts (start.run done) input) :
    MemoHolds start (done ++ [input]) := by
  cases input with
  | call call script => exact holds.call call script allowed
  | restart survivors clock seed script =>
      have stored := holds.stored_later (.restart survivors clock seed script)
      have there : start.run (done ++ [.restart survivors clock seed script]) =
          boot (start.run done).fabric.config ((start.run done).fabric.journal.map
            (·.crash survivors)) clock seed script := run_concat start done _
      have ended := Fabric.recover_cases (withScript (Fabric.create (start.run done).fabric.config
        clock ((start.run done).fabric.journal.map (·.crash survivors)) seed) script)
      have kept : Fabric.StoredTraced
          (WasPresented start (done ++ [.restart survivors clock seed script]))
          (WasApplied start (done ++ [.restart survivors clock seed script]))
          (withScript (Fabric.create (start.run done).fabric.config clock
            ((start.run done).fabric.journal.map (·.crash survivors)) seed)
            script).store.contents := by
        intro payload queue listed decoded
        rw [contents_withScript] at listed
        exact stored payload queue (mem_contents_crashed listed) decoded
      refine ⟨?_, fun payload queue listed decoded => ?_⟩
      · rw [there]
        refine traced_recovery ended rfl (fun id queue found => ?_) kept
        cases found
      · rw [there] at listed
        exact kept payload queue (ended.mem_queueState listed) decoded

theorem MemoHolds.boot (config : FabricConfig) (journaled : Bool) (clock : Clock) (seed : UInt64)
    (script : List Bool) :
    MemoHolds (boot config (if journaled then some {} else none) clock seed script) [] := by
  have ended := Fabric.recover_cases (withScript (Fabric.create config clock
    (if journaled then some {} else none) seed) script)
  have blank : (withScript (Fabric.create config clock (if journaled then some {} else none) seed)
      script).store.contents = [] := by
    rw [contents_withScript]
    cases journaled <;> rfl
  refine ⟨?_, fun payload queue listed decoded => ?_⟩
  · refine ended.traced (fun id queue found => by cases found) (fun payload queue listed => ?_)
      (fun _ _ known => known.presented) fun base early request late order => ?_
    · simp [blank] at listed
    · -- an empty store has no commits to replay
      exfalso
      obtain ⟨payload, listed, _⟩ := Fabric.replayStart_listed order
        (List.mem_append_right early List.mem_cons_self)
      simp [blank] at listed
  · have early := ended.mem_queueState listed
    simp [blank] at early

theorem MemoHolds.run (config : FabricConfig) (journaled : Bool) (clock : Clock) (seed : UInt64)
    (script : List Bool) {steps : List Step}
    (readable : Runs.Along System.step ReadablyCompacts
      (System.boot config (if journaled then some {} else none) clock seed script) steps) :
    MemoHolds (System.boot config (if journaled then some {} else none) clock seed script)
      steps := by
  induction steps using List.reverseRecOn with
  | nil => exact .boot config journaled clock seed script
  | append_singleton done input ih =>
      obtain ⟨early, last, _⟩ := (Runs.along_append _ _ _).mp readable
      exact (ih early).step input last

/-- An idempotent success answers a request that was applied to that queue by the same attempt in
the same publisher life, and no memo entry answers for another life. -/
theorem replayed_answer_truthful (config : FabricConfig) (journaled : Bool) (clock : Clock)
    (seed : UInt64) (script : List Bool) (steps : List Step) (request : MutationRequest)
    (writes : List Bool)
    (reuses : Runs.Throughout
      (ReusesWithinLife (boot config (if journaled then some {} else none) clock seed script))
      (steps ++ [.call (.apply request) writes])) :
    let start := boot config (if journaled then some {} else none) clock seed script
    (∀ outcome, ((start.run steps).step (.call (.apply request) writes)).result =
        .ok (.outcome outcome) → outcome.replayed = true →
      ∃ earlier, WasApplied start steps outcome.queue earlier ∧
        earlier.attempt = request.attempt ∧ SameLife earlier request) ∧
    (∀ queue entry, request.kind ≠ .declareQueue →
      (start.run steps).fabric.findQueue request.queue = some queue →
      queue.findAttempt request.attempt = some entry →
      ∃ earlier, WasPresented start steps request.queue earlier ∧
        earlier.attempt = request.attempt ∧ SameLife earlier request) := by
  intro start
  obtain ⟨along, allowed⟩ := Runs.throughout_concat.mp reuses
  have holds : MemoHolds start steps :=
    Runs.throughout_invariant (.boot config journaled clock seed script)
      (fun done input holds allowed => holds.step input allowed.readable) along
  -- the entry found for an attempt carries that attempt
  have traced : ∀ queue entry, (start.run steps).fabric.findQueue request.queue = some queue →
      queue.findAttempt request.attempt = some entry → ∃ earlier,
        WasPresented start steps request.queue earlier ∧ earlier.attempt = request.attempt ∧
        (entry.outcome = .ok → WasApplied start steps request.queue earlier) := by
    intro queue entry found recorded
    obtain ⟨own, traced⟩ := holds.queues request.queue queue found
    obtain ⟨earlier, shown, same, _, ok⟩ := traced.memo entry (List.mem_of_find?_eq_some recorded)
    have attempt := List.find?_some recorded
    rw [own] at shown ok
    exact ⟨earlier, shown, same.trans (by simpa using attempt), ok⟩
  have sameLife : request.kind ≠ .declareQueue → ∀ queue entry,
      (start.run steps).fabric.findQueue request.queue = some queue →
      queue.findAttempt request.attempt = some entry →
      ∀ earlier, WasPresented start steps request.queue earlier →
        earlier.attempt = request.attempt → SameLife earlier request := by
    intro kind queue entry found recorded
    simp only [ReusesWithinLife] at allowed
    split at allowed
    · rename_i declares _
      exact absurd declares kind
    · exact allowed queue found (by simp [recorded])
  refine ⟨fun outcome answered again => ?_, fun queue entry kind found recorded => ?_⟩
  · have ended := Fabric.applyAt_cases (withScript (start.run steps).fabric writes).monotonicNow.2
      request (withScript (start.run steps).fabric writes).monotonicNow.1
    have ok : ((withScript (start.run steps).fabric writes).monotonicNow.2.applyAt request
        (withScript (start.run steps).fabric writes).monotonicNow.1).result = .ok outcome := by
      change Except.map Answer.outcome ((withScript (start.run steps).fabric writes).apply
        request).result = _ at answered
      change ((withScript (start.run steps).fabric writes).apply request).result = _
      cases result : ((withScript (start.run steps).fabric writes).apply request).result with
      | error status => simp [result, Except.map] at answered
      | ok value =>
          rw [result, Except.map, Except.ok.injEq, Answer.outcome.injEq] at answered
          rw [answered]
    cases ended.answeredFrom ok again with
    | memo queue entry kind found own recorded succeeded =>
        obtain ⟨earlier, shown, attempt, applied⟩ := traced queue entry found recorded
        refine ⟨earlier, ?_, attempt, sameLife kind queue entry found recorded earlier shown
          attempt⟩
        rw [own, (holds.queues request.queue queue found).1]
        exact applied succeeded
    | declaration payload key queue kind carried named found own publisher sequence =>
        obtain ⟨earlier, declared, applied, declares, provenance⟩ :=
          (holds.queues key queue found).2.declared
        simp only [ReusesWithinLife, kind, carried] at allowed
        obtain ⟨attempt, life⟩ := allowed key queue named found earlier applied
          ⟨declared, declares⟩ (provenance ▸ publisher) (provenance ▸ sequence)
        exact ⟨earlier, own ▸ applied, attempt, life⟩
  · obtain ⟨earlier, shown, attempt, _⟩ := traced queue entry found recorded
    exact ⟨earlier, shown, attempt, sameLife kind queue entry found recorded earlier shown attempt⟩

/-! A publisher that restarts: incarnation 2 reuses the attempt of incarnation 1. -/

def memoStart : System := boot {} none ⟨fun _ => 1000, 0⟩ 7 []

def memoProvenance (incarnation sequence : UInt64) : Provenance :=
  { publisher := ⟨9⟩, node := ⟨1⟩, incarnation := ⟨incarnation⟩, epoch := ⟨1⟩,
    sequence := ⟨sequence⟩, boot := ⟨incarnation, 1⟩ }

def memoDeclare : MutationRequest :=
  { attempt := ⟨⟨9⟩, 1⟩, kind := .declareQueue, expectedEpoch := ⟨1⟩, principal := ⟨5⟩,
    provenance := memoProvenance 1 1,
    payload := .declareQueue { resource := ⟨1⟩, name := text "q", cls := ⟨⟨1⟩, ⟨1⟩⟩,
                               pool := ⟨⟨1⟩, ⟨1⟩, 0⟩, thresholds := ⟨10, 50, 100, 0, 0⟩ } }

def memoValidate (incarnation : UInt64) : MutationRequest :=
  { attempt := ⟨⟨9⟩, 2⟩, kind := .validateQueue, queue := ⟨1⟩, expectedGeneration := ⟨1⟩,
    expectedEpoch := ⟨1⟩, principal := ⟨5⟩, provenance := memoProvenance incarnation 2 }

def memoSteps : List Step := [
  .call (.declareResource (text "r") ⟨5⟩ (memoProvenance 1 1)) [],
  .call (.declareClass ⟨1⟩ (text "c") 0 {} ⟨5⟩ ⟨1⟩ (memoProvenance 1 1)) [],
  .call (.declarePool ⟨1⟩ (text "p") 0 ⟨5⟩ ⟨1⟩ (memoProvenance 1 1)) [],
  .call (.apply memoDeclare) [],
  .call (.apply (memoValidate 1)) []]

/-- The identity under which a system answered with an idempotent success. -/
def replayedQueue (system : System) : Option QueueId :=
  match system.result with
  | .ok (.outcome outcome) => if outcome.replayed then some outcome.queue else none
  | _ => none

theorem outcome_of_replayedQueue {system : System} {id : QueueId}
    (replayed : replayedQueue system = some id) :
    ∃ outcome, system.result = .ok (.outcome outcome) ∧ outcome.replayed = true ∧
      outcome.queue = id := by
  rw [replayedQueue] at replayed
  split at replayed
  · rename_i outcome answered
    split at replayed
    · rename_i again
      cases replayed
      exact ⟨outcome, answered, again, rfl⟩
    · cases replayed
  · cases replayed

/-- A call that neither recovers nor commits a reservation presents only what it applies. -/
theorem request_of_shown {system : System} {id : QueueId} {earlier : MutationRequest} {call : Call}
    {script : List Bool} (plain : call ≠ .recover)
    (idle : ∀ plan applied provenance, call ≠ .commitBackendApply plan applied provenance)
    (shown : Presents id earlier system (.call call script) ∨
      Applies id earlier system (.call call script)) : call = .apply earlier := by
  rcases shown with shown | applies
  · cases shown with
    | served script named => rfl
    | committed plan applied provenance script named made => exact absurd rfl (idle _ _ _)
    | replayed _ fabric base early late named started order =>
        exact absurd started (not_recovering plain)
  · cases applies with
    | served script outcome answered fresh named => rfl
    | committed plan applied provenance script outcome made answered fresh named =>
        exact absurd rfl (idle _ _ _)
    | replayed _ fabric base early late outcome started order answered fresh named =>
        exact absurd started (not_recovering plain)

theorem memoSteps_life {done : List Step} {id : QueueId} {earlier : MutationRequest}
    (within : ∀ input ∈ done, input ∈ memoSteps)
    (known : WasPresented memoStart done id earlier) :
    earlier = memoDeclare ∨ earlier = memoValidate 1 := by
  obtain ⟨before, input, after, rfl, shown⟩ := known
  have member := within input (by simp)
  simp only [memoSteps, List.mem_cons, List.not_mem_nil, or_false] at member
  rcases member with rfl | rfl | rfl | rfl | rfl
  all_goals
    have call := request_of_shown (by simp) (by simp) shown
    cases call
    try simp

theorem memoSteps_reuse : Runs.Throughout (ReusesWithinLife memoStart)
    (memoSteps ++ [.call (.apply (memoValidate 1)) []]) := by
  refine Runs.throughout_concat.mpr ⟨?_, ?_⟩
  · change Runs.Throughout _ ((((([] ++ [_]) ++ [_]) ++ [_]) ++ [_]) ++ [_])
    simp only [Runs.throughout_concat]
    refine ⟨⟨⟨⟨⟨Runs.throughout_nil _, trivial⟩, trivial⟩, trivial⟩, ?_⟩, ?_⟩
    · intro id queue named
      have free : (memoStart.run (memoSteps.take 3)).fabric.queueNames.get?
          (Fabric.nameKey ⟨1⟩ (text "q")) = none := by decide +kernel
      cases free.symm.trans named
    · intro queue found recorded
      have unseen : ((memoStart.run (memoSteps.take 4)).fabric.findQueue ⟨1⟩).all
          (fun queue => (queue.findAttempt ⟨⟨9⟩, 2⟩).isNone) = true := by decide +kernel
      change (memoStart.run (memoSteps.take 4)).fabric.findQueue ⟨1⟩ = some queue at found
      rw [found, Option.all_some, Option.isNone_iff_eq_none] at unseen
      change (queue.findAttempt ⟨⟨9⟩, 2⟩).isSome = true at recorded
      simp [unseen] at recorded
  · intro queue found recorded earlier shown attempt
    rcases memoSteps_life (fun _ member => member) shown with rfl | rfl
    · exact ⟨rfl, rfl⟩
    · exact ⟨rfl, rfl⟩

theorem replayed_answer_truthful_once :
    ∃ earlier, WasApplied memoStart memoSteps ⟨1⟩ earlier ∧
      earlier.attempt = (memoValidate 1).attempt ∧ SameLife earlier (memoValidate 1) := by
  have replayed : replayedQueue ((memoStart.run memoSteps).step
      (.call (.apply (memoValidate 1)) [])) = some ⟨1⟩ := by decide +kernel
  obtain ⟨outcome, answered, again, named⟩ := outcome_of_replayedQueue replayed
  exact named ▸ (replayed_answer_truthful {} false ⟨fun _ => 1000, 0⟩ 7 [] memoSteps
    (memoValidate 1) [] memoSteps_reuse).1 outcome answered again

/-- Incarnation 2 is told that its request was applied; only incarnation 1 had sent it. -/
theorem restarted_publisher_answered :
    ∃ outcome, ((memoStart.run memoSteps).step (.call (.apply (memoValidate 2)) [])).result =
        .ok (.outcome outcome) ∧ outcome.replayed = true ∧
      ¬ ∃ earlier, WasApplied memoStart memoSteps outcome.queue earlier ∧
        earlier.attempt = (memoValidate 2).attempt ∧ SameLife earlier (memoValidate 2) := by
  have replayed : replayedQueue ((memoStart.run memoSteps).step
      (.call (.apply (memoValidate 2)) [])) = some ⟨1⟩ := by decide +kernel
  obtain ⟨outcome, answered, again, _⟩ := outcome_of_replayedQueue replayed
  refine ⟨outcome, answered, again, ?_⟩
  rintro ⟨earlier, applied, _, incarnation, _⟩
  rcases memoSteps_life (fun _ member => member) applied.presented with rfl | rfl
  · revert incarnation
    decide
  · revert incarnation
    decide

end System

end QueueFabric
