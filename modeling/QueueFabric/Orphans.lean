import Mathlib.Data.Finset.Card
import QueueFabric.Lib.Runs
import QueueFabric.Conflicts
import QueueFabric.Decodability
import QueueFabric.Reservations

/-!
Attempts that were begun and never finished. A reservation and its release each leave
a marker in the journal, and a recovery counts the begun attempts it finds without an
end. The count is the number of reservations never released as long as every end marker
belongs to a release.
-/

namespace QueueFabric

/-- What one record does to the attempts that are begun and not ended. -/
def markAttempt (begun : Finset AttemptId) (record : JournalRecord) : Finset AttemptId :=
  match record.type, decodeMutation record.payload with
  | .beginAttempt, .ok request => insert request.attempt begun
  | .commitMutation, .ok request => begun.erase request.attempt
  | _, _ => begun

def unfinished (records : List JournalRecord) : Finset AttemptId := records.foldl markAttempt ∅

namespace Scan

/-- The attempts a scan holds for unfinished. -/
def begun (scan : Scan) : Finset AttemptId := scan.outstanding.keys.toFinset

theorem begun_corrupt (scan : Scan) (line : String) : (scan.corrupt line).begun = scan.begun := rfl

theorem begun_addRecord (scan : Scan) (record : JournalRecord) :
    (scan.addRecord record).begun = markAttempt scan.begun record := by
  rw [addRecord, markAttempt]
  cases type : record.type with
  | beginAttempt =>
      cases decoded : decodeMutation record.payload with
      | error status => exact begun_corrupt scan _
      | ok request =>
          ext attempt
          simp only [begun, List.mem_toFinset, Table.mem_keys_iff, Table.contains,
            Table.get?_insert, Finset.mem_insert]
          by_cases same : request.attempt = attempt
          · simp [same]
          · simp [same, Ne.symm same]
  | commitMutation =>
      cases decoded : decodeMutation record.payload with
      | error status => exact begun_corrupt scan _
      | ok request =>
          ext attempt
          simp only [begun, List.mem_toFinset, Table.mem_keys_iff, Table.contains,
            Table.get?_erase, Finset.mem_erase]
          by_cases same : request.attempt = attempt
          · simp [same]
          · simp [same, Ne.symm same]
  | epochState =>
      cases decodeEpochState record.payload with
      | error status => exact begun_corrupt scan _
      | ok state => rfl
  | resourceState =>
      cases decodeResourceState record.payload with
      | error status => exact begun_corrupt scan _
      | ok resource => rfl
  | queueState =>
      cases decodeQueueState record.payload with
      | error status => exact begun_corrupt scan _
      | ok queue => rfl
  | noop => rfl
  | unlisted raw => rfl

theorem begun_addRecords (scan : Scan) (records : List JournalRecord) :
    (scan.addRecords records).begun = records.foldl markAttempt scan.begun := by
  induction records generalizing scan with
  | nil => rfl
  | cons record rest ih =>
      rw [List.foldl_cons, ← begun_addRecord]
      exact ih (scan.addRecord record)

theorem card_begun (scan : Scan) : scan.begun.card = scan.outstanding.values.length := by
  rw [begun, List.toFinset_card_of_nodup scan.outstanding.nodup_keys, Table.length_keys,
    Table.values, List.length_map]
  rfl

end Scan

namespace StableStore

/-- Every call to the store succeeds. -/
structure Willing (store : StableStore) : Prop where
  opened : store.opened = true
  faultless : ∀ outcome ∈ store.script, outcome = true

theorem outcome_of_faultless {store : StableStore}
    (faultless : ∀ outcome ∈ store.script, outcome = true) : store.outcome = true := by
  rw [outcome]
  cases listed : store.script with
  | nil => rfl
  | cons first rest => exact faultless first (listed ▸ List.mem_cons_self)

theorem faultless_tail {script : List Bool} (faultless : ∀ outcome ∈ script, outcome = true) :
    ∀ outcome ∈ script.tail, outcome = true :=
  fun outcome listed => faultless outcome (List.mem_of_mem_tail listed)

theorem Willing.append {store : StableStore} (willing : store.Willing) (type : JournalRecordType)
    (payload : Bytes) : ∃ last, store.append type payload = (.success, last) ∧ last.Willing ∧
      last.synced = store.synced ∧ last.pending = store.pending ++ [⟨type, payload⟩] := by
  rw [StableStore.append, willing.opened, outcome_of_faultless willing.faultless]
  exact ⟨_, rfl, ⟨willing.opened, faultless_tail willing.faultless⟩, rfl, rfl⟩

theorem Willing.sync {store : StableStore} (willing : store.Willing) :
    ∃ last, store.sync = (.success, last) ∧ last.Willing ∧
      last.synced = store.synced ++ store.pending ∧ last.pending = [] := by
  rw [StableStore.sync, willing.opened, outcome_of_faultless willing.faultless]
  exact ⟨_, rfl, ⟨willing.opened, faultless_tail willing.faultless⟩, rfl, rfl⟩

/-- A willing store with nothing left to flush. -/
structure Settled (store : StableStore) : Prop extends store.Willing where
  flushed : store.pending = []

theorem Settled.write {store : StableStore} (settled : store.Settled) (type : JournalRecordType)
    (payload : Bytes) :
    (store.append type payload).1.isOk = true ∧ (store.append type payload).2.sync.1.isOk = true ∧
      (store.append type payload).2.sync.2.Settled ∧
      (store.append type payload).2.sync.2.synced = store.synced ++ [⟨type, payload⟩] := by
  obtain ⟨middle, appended, willing, synced, pending⟩ := settled.toWilling.append type payload
  obtain ⟨last, flushed, still, whole, empty⟩ := willing.sync
  rw [appended, flushed]
  refine ⟨rfl, rfl, ⟨still, empty⟩, ?_⟩
  rw [whole, synced, pending, settled.flushed]
  rfl

theorem Settled.commit {store : StableStore} (settled : store.Settled) (encoded : Bytes) :
    ∃ last, Fabric.commitRecords store encoded = (.success, last) ∧ last.Settled ∧
      last.synced = store.synced ++ [⟨.beginAttempt, encoded⟩, ⟨.commitMutation, encoded⟩] := by
  obtain ⟨first, begun, willing, synced, pending⟩ :=
    settled.toWilling.append .beginAttempt encoded
  obtain ⟨second, committed, willing', synced', pending'⟩ :=
    willing.append .commitMutation encoded
  obtain ⟨last, flushed, still, whole, empty⟩ := willing'.sync
  have one : IJournal.append store .beginAttempt encoded = (.success, first) := begun
  have two : IJournal.append first .commitMutation encoded = (.success, second) := committed
  have three : IJournal.sync second = (.success, last) := flushed
  refine ⟨last, ?_, ⟨still, empty⟩, ?_⟩
  · simp only [Fabric.commitRecords, one, two, three]
    rfl
  · rw [whole, synced', synced, pending', pending, settled.flushed]
    rfl

theorem Settled.synced_sync {store : StableStore} (settled : store.Settled) :
    store.sync.2.Settled ∧ store.sync.2.synced = store.synced := by
  obtain ⟨last, flushed, still, whole, empty⟩ := settled.toWilling.sync
  rw [flushed]
  refine ⟨⟨still, empty⟩, ?_⟩
  rw [whole, settled.flushed, List.append_nil]

end StableStore

/-- A willing journal whose records leave `begun` without an end. -/
def Tallies (journal : Option StableStore) (begun : Finset AttemptId) : Prop :=
  ∃ store : StableStore, journal = some store ∧ store.Settled ∧ unfinished store.synced = begun

theorem unfinished_concat (records : List JournalRecord) (record : JournalRecord) :
    unfinished (records ++ [record]) = markAttempt (unfinished records) record := by
  rw [unfinished, List.foldl_append]
  rfl

theorem unfinished_pair {records : List JournalRecord} {request : MutationRequest}
    (spared : request.attempt ∉ unfinished records) :
    unfinished (records ++ [⟨.beginAttempt, encodeMutation request⟩,
      ⟨.commitMutation, encodeMutation request⟩]) = unfinished records := by
  rw [unfinished, List.foldl_append]
  change markAttempt (markAttempt (unfinished records) _) _ = _
  cases decoded : decodeMutation (encodeMutation request) with
  | error status => simp only [markAttempt, decoded]
  | ok result =>
      obtain ⟨_, rfl⟩ := eq_of_decodeMutation decoded
      simp only [markAttempt, decoded]
      exact Finset.erase_insert spared

namespace Fabric

theorem Written.tallies {type : JournalRecordType} {payload : Bytes}
    {before after : Option StableStore} {ok : Bool} {begun : Finset AttemptId}
    (written : Written type payload before ok after) (tallies : Tallies before begun) :
    ok = true ∧ Tallies after (markAttempt begun ⟨type, payload⟩) := by
  obtain ⟨store, present, settled, rfl⟩ := tallies
  obtain ⟨appended, flushed, still, synced⟩ := settled.write type payload
  cases written with
  | unjournaled => cases present
  | required => cases present
  | appendFailed journal failed =>
      cases present
      exact absurd (failed.symm.trans appended) Bool.false_ne_true
  | syncFailed journal _ failed =>
      cases present
      exact absurd (failed.symm.trans flushed) Bool.false_ne_true
  | synced journal _ _ =>
      cases present
      exact ⟨rfl, _, rfl, still, (congrArg unfinished synced).trans (unfinished_concat _ _)⟩

theorem Written.tallies_of_plain {type : JournalRecordType} {payload : Bytes}
    {before after : Option StableStore} {ok : Bool} {begun : Finset AttemptId}
    (written : Written type payload before ok after) (tallies : Tallies before begun)
    (starts : type ≠ .beginAttempt) (ends : type ≠ .commitMutation) : Tallies after begun := by
  have plain : markAttempt begun ⟨type, payload⟩ = begun := by
    rw [markAttempt]
    split
    · rename_i begins _
      exact absurd begins starts
    · rename_i commits _
      exact absurd commits ends
    · rfl
  exact plain ▸ (written.tallies tallies).2

/-- A mutation committed under an attempt that is not begun leaves the attempts as they were. -/
theorem Committed.tallies {request : MutationRequest} {before after : Option StableStore}
    {ok : Bool} {begun : Finset AttemptId}
    (committed : Committed (encodeMutation request) before ok after) (tallies : Tallies before begun)
    (spared : request.attempt ∉ begun) : Tallies after begun := by
  obtain ⟨store, present, settled, rfl⟩ := tallies
  cases committed with
  | unjournaled => cases present
  | required => cases present
  | unencoded journal empty => exact ⟨store, present, settled, rfl⟩
  | offered journal ok nonempty status =>
      cases present
      obtain ⟨last, written, still, synced⟩ := settled.commit (encodeMutation request)
      refine ⟨last, by rw [written], still, ?_⟩
      rw [synced]
      exact unfinished_pair spared

/-! Applications. -/

/-- A request that gets as far as its journal write. -/
inductive Journals {J : Type} (fabric : Fabric J) (request : MutationRequest) (now : Nanos) : Prop
  | mutation (queue : QueueRecord) (tracker : ProvenanceTracker) (applied : KindApplied)
      (valid : request.validate.isOk = true) (kind : request.kind ≠ .declareQueue)
      (found : fabric.findQueue request.queue = some queue)
      (admitted : Admitted fabric queue request now tracker applied)
      (durable : isDurable request.kind = true)
  | declaration (payload : DeclareQueuePayload) (resource : ResourceRecord)
      (valid : request.validate.isOk = true) (kind : request.kind = .declareQueue)
      (carried : request.payload = .declareQueue payload)
      (declarable : Declarable fabric request payload resource)

theorem Journals.durable {J : Type} {fabric : Fabric J} {request : MutationRequest} {now : Nanos}
    (journals : Journals fabric request now) : isDurable request.kind = true := by
  cases journals with
  | mutation queue tracker applied valid kind found admitted durable => exact durable
  | declaration payload resource valid kind carried declarable =>
      rw [kind]
      rfl

theorem ExistingCase.tallies {fabric : Fabric StableStore} {key : QueueId} {queue : QueueRecord}
    {request : MutationRequest} {now : Nanos} {reply : Reply StableStore MutationOutcome}
    {begun : Finset AttemptId} (ended : ExistingCase fabric key queue request now reply)
    (tallies : Tallies fabric.journal begun)
    (spared : ∀ tracker applied, Admitted fabric queue request now tracker applied →
      isDurable request.kind = true → request.attempt ∉ begun) :
    Tallies reply.fabric.journal begun := by
  cases ended with
  | answered memo recorded =>
      rw [answerFromMemo]
      split
      · exact tallies
      simp only []
      split
      · exact tallies
      · exact tallies
  | refused tracker refusal unseen gate real => exact tallies
  | undurable tracker applied refusal after admitted durable failed real =>
      exact (commitDurably_committed failed).tallies tallies
        (spared tracker applied admitted durable)
  | published tracker applied after admitted committed =>
      split at committed
      · rename_i durable
        exact (commitDurably_committed committed).tallies tallies
          (spared tracker applied admitted durable)
      · subst committed
        exact tallies

theorem DeclareCase.tallies {fabric : Fabric StableStore} {request : MutationRequest}
    {payload : DeclareQueuePayload} {now : Nanos} {reply : Reply StableStore MutationOutcome}
    {begun : Finset AttemptId} (ended : DeclareCase fabric request payload now reply)
    (tallies : Tallies fabric.journal begun)
    (spared : ∀ resource, Declarable fabric request payload resource → request.attempt ∉ begun) :
    Tallies reply.fabric.journal begun := by
  cases ended with
  | refused refusal => exact tallies
  | answered id taken =>
      rw [answerDeclared]
      split
      · exact tallies
      split
      · exact tallies
      · exact tallies
  | undurable resource refusal after declarable failed =>
      exact (commitDurably_committed failed).tallies tallies (spared resource declarable)
  | committed resource after declarable written =>
      have kept := (commitDurably_committed written).tallies tallies (spared resource declarable)
      rw [admitDeclared]
      split
      · exact kept
      simp only []
      split
      · exact kept
      · exact kept

/-- An application marks no attempt but its own, and ends what it begins. -/
theorem ApplyCase.tallies {fabric : Fabric StableStore} {request : MutationRequest} {now : Nanos}
    {reply : Reply StableStore MutationOutcome} {begun : Finset AttemptId}
    (ended : ApplyCase fabric request now reply) (tallies : Tallies fabric.journal begun)
    (spared : Journals fabric request now → request.attempt ∉ begun) :
    Tallies reply.fabric.journal begun := by
  cases ended with
  | stopped stopping => exact tallies
  | unbound refusal => exact tallies
  | declare payload reply valid kind carried ended =>
      exact ended.tallies tallies fun resource declarable =>
        spared (.declaration payload resource valid kind carried declarable)
  | existing queue reply valid kind found ended =>
      exact ended.tallies tallies fun tracker applied admitted durable =>
        spared (.mutation queue tracker applied valid kind found admitted durable)

/-! Markers. -/

theorem decode_marker {request : MutationRequest} (readable : request.Readable)
    (short : request.Short) : decodeMutation (encodeMutation request) = .ok request :=
  decodeMutation_encodeMutation request readable ((encodeMutation_ne_nil_iff request).mpr short)

theorem decode_planMarker (plan : BackendPlan) (provenance : Provenance) :
    decodeMutation (encodeMutation (planMarker plan provenance .acknowledgeBackend)) =
      .ok (planMarker plan provenance .acknowledgeBackend) :=
  decode_marker trivial trivial

theorem decode_abortMarker (plan : BackendPlan) (provenance : Provenance) :
    decodeMutation (encodeMutation (planMarker plan provenance .noOp)) =
      .ok (planMarker plan provenance .noOp) :=
  decode_marker trivial trivial

theorem decode_planRequest {J : Type} (fabric : Fabric J) (plan : BackendPlan)
    (applied : BackendApplied) (provenance : Provenance) :
    decodeMutation (encodeMutation (fabric.planRequest plan applied provenance)) =
      .ok (fabric.planRequest plan applied provenance) :=
  decode_marker trivial trivial

/-! Commits of a reservation. -/

/-- The acknowledgement of a commit is accepted: it is remembered as accepted, or it is new,
authorized and current, and the backend it names has applied it. -/
inductive Acknowledged {J : Type} (fabric : Fabric J) (queue : QueueRecord)
    (request : MutationRequest) (applied : BackendApplied) : Prop
  | remembered (memo : AttemptMemo) (seen : queue.findAttempt request.attempt = some memo)
      (same : memo.fingerprint = request.fingerprint) (accepted : memo.outcome = .ok)
  | fresh (resource : ResourceRecord) (tracker : ProvenanceTracker) (live : BackendIncarnation)
      (unseen : queue.findAttempt request.attempt = none)
      (home : fabric.findResource queue.definition.resource = some resource)
      (allowed : authorize resource.authority request.principal .acknowledgeBackend
        (if fabric.replaying then resource.authority.epoch else request.expectedEpoch)
        queue.applicability queue.lifecycle = none)
      (gate : fabric.admitProvenance request.provenance = .ok tracker)
      (expected : fabric.checkExpected queue request = none)
      (named : (!applied.known || !applied.backend.valid) = false)
      (alive : fabric.findLiveBackend queue.definition.resource applied.backend = some live)
      (verified : verifyBackendApplied applied live fabric.epoch queue.definition.generation
        queue.definition.cls = none)

theorem Acknowledged.of_touch {J : Type} {before after : Fabric J} {queue : QueueRecord}
    {request : MutationRequest} {applied : BackendApplied}
    (acknowledged : Acknowledged before queue request applied) (touch : Touch before after) :
    Acknowledged after queue request applied := by
  cases acknowledged with
  | remembered memo seen same accepted => exact .remembered memo seen same accepted
  | fresh resource tracker live unseen home allowed gate expected named alive verified =>
      refine .fresh resource tracker live unseen ?_ ?_ ?_ ?_ named ?_ ?_
      · rw [findResource, touch.resources]
        exact home
      · rw [touch.replaying]
        exact allowed
      · rw [admitProvenance, touch.replaying, touch.provenance]
        exact gate
      · rw [checkExpected, touch.replaying, touch.epoch]
        exact expected
      · rw [findLiveBackend, findResource, touch.resources]
        exact alive
      · rw [touch.epoch]
        exact verified

theorem Acknowledged.ok {J : Type} [IJournal J] {fabric : Fabric J} {queue : QueueRecord}
    {request : MutationRequest} {applied : BackendApplied}
    (acknowledged : Acknowledged fabric queue request applied)
    (kind : request.kind = .acknowledgeBackend) (carried : request.payload = .backendAck applied)
    (key : QueueId) (now : Nanos) :
    ∃ outcome, (fabric.applyExistingLocked key queue request now).result = .ok outcome := by
  cases acknowledged with
  | remembered memo seen same accepted =>
      rw [applyExistingLocked, seen]
      exact answerFromMemo_ok.mpr ⟨same, accepted⟩
  | fresh resource tracker live unseen home allowed gate expected named alive verified =>
      have accepts : ∃ result, applyKindLocked fabric queue request now = .ok result := by
        simp only [applyKindLocked, kind, carried, applyAcknowledge, named, alive, verified]
        exact ⟨_, rfl⟩
      obtain ⟨result, accepts⟩ := accepts
      have admitted : Admitted fabric queue request now tracker result :=
        ⟨unseen, ⟨resource, home, by rw [kind]; exact allowed⟩, gate, expected, accepts⟩
      refine applyFresh_ok admitted fun durable => ?_
      rw [kind] at durable
      cases durable

/-- A commit that gets as far as its marker. -/
structure Presents {J : Type} (fabric : Fabric J) (plan : BackendPlan) (provenance : Provenance)
    (queue : QueueRecord) : Prop where
  running : fabric.shuttingDown = false
  held : fabric.plans.contains plan.attempt = true
  found : fabric.findQueue plan.queue = some queue
  current : queue.definition.generation = plan.expectedGeneration
  complete : provenance.valid = true

theorem applyExistingLocked_tallies (fabric : Fabric StableStore) {queue : QueueRecord}
    {request : MutationRequest} {begun : Finset AttemptId}
    (kind : request.kind = .acknowledgeBackend) (tallies : Tallies fabric.journal begun)
    (key : QueueId) (now : Nanos) :
    Tallies (fabric.applyExistingLocked key queue request now).fabric.journal begun := by
  refine (applyExistingLocked_cases fabric key queue request now).tallies tallies ?_
  intro tracker applied admitted durable
  rw [kind] at durable
  cases durable

/-- The attempts that are reserved and not released, after one more call. -/
def tally (begun : Finset AttemptId) : Call → Except Status Answer → Finset AttemptId
  | .planBackendApply .., .ok (.plan plan) => insert plan.attempt begun
  | .commitBackendApply plan .., .ok _ => begun.erase plan.attempt
  | .abortBackendApply plan _, .ok _ => begun.erase plan.attempt
  | _, _ => begun

theorem tally_error {begun : Finset AttemptId} {call : Call} {status : Status} :
    tally begun call (.error status) = begun := by
  cases call <;> rfl

theorem acknowledgePlan_tallies {fabric : Fabric StableStore} (plan : BackendPlan)
    {queue : QueueRecord} {request : MutationRequest} {applied : BackendApplied}
    {begun : Finset AttemptId} (tallies : Tallies fabric.journal begun)
    (acknowledged : Acknowledged fabric queue request applied)
    (kind : request.kind = .acknowledgeBackend) (carried : request.payload = .backendAck applied) :
    ∃ outcome, (fabric.acknowledgePlan plan queue request).result = .ok outcome ∧
      Tallies (fabric.acknowledgePlan plan queue request).fabric.journal begun := by
  have kept : Tallies (fabric.monotonicNow.2.applyExistingLocked plan.queue queue request
      fabric.monotonicNow.1).fabric.journal begun :=
    applyExistingLocked_tallies fabric.monotonicNow.2 kind tallies plan.queue
      fabric.monotonicNow.1
  obtain ⟨outcome, ok⟩ := (acknowledged.of_touch (monotonicNow_touch fabric)).ok kind carried
    plan.queue fabric.monotonicNow.1
  simp only [acknowledgePlan, atNow, ok]
  exact ⟨outcome, rfl, kept⟩

theorem commitBackendApply_tallies {fabric : Fabric StableStore} {plan : BackendPlan}
    {applied : BackendApplied} {provenance : Provenance} {begun : Finset AttemptId}
    (tallies : Tallies fabric.journal begun)
    (acknowledged : ∀ queue, Presents fabric plan provenance queue →
      Acknowledged fabric queue (fabric.planRequest plan applied provenance) applied) :
    Tallies (fabric.serve (.commitBackendApply plan applied provenance)).fabric.journal
      (tally begun (.commitBackendApply plan applied provenance)
        (fabric.serve (.commitBackendApply plan applied provenance)).result) := by
  have refused : ∀ status, Tallies (fabric.refuse status : Reply StableStore Answer).fabric.journal
      (tally begun (.commitBackendApply plan applied provenance)
        (fabric.refuse status : Reply StableStore Answer).result) := fun _ => tallies
  rw [serve, commitBackendApply]
  split
  · exact refused _
  rename_i running
  split
  · exact refused _
  rename_i held
  split
  · exact refused _
  rename_i queue found
  split
  · exact refused _
  rename_i current
  split
  · exact refused _
  rename_i complete
  have accepted := acknowledged queue ⟨by simpa using running, by simpa using held, found,
    by simpa using current, by simpa using complete⟩
  rw [commitPlan]
  split
  · exact refused _
  have persisted := persist_persisted fabric .commitMutation
    (encodeMutation (fabric.planRequest plan applied provenance))
    "commit marker did not reach stable storage"
  generalize fabric.persist .commitMutation
    (encodeMutation (fabric.planRequest plan applied provenance))
    "commit marker did not reach stable storage" = written at persisted
  obtain ⟨ok, marked⟩ := persisted.written.tallies tallies
  simp only [markAttempt, decode_planRequest] at marked
  obtain ⟨outcome, succeeded, kept⟩ := acknowledgePlan_tallies plan marked
    (accepted.of_touch persisted.touch) rfl rfl
  rw [orRefuse, ok]
  simp only [Bool.not_true, Bool.false_eq_true, ↓reduceIte, Reply.answered, succeeded]
  exact kept

/-! Every call. -/

theorem Recorded.tallies {α : Type} {before lost kept : Fabric StableStore}
    {type : JournalRecordType} {payload : Bytes} {value : α} {reply : Reply StableStore α}
    {begun : Finset AttemptId}
    (recorded : Recorded before type payload lost kept value reply)
    (tallies : Tallies before.journal begun) :
    reply.result = .ok value ∧ Tallies reply.fabric.journal (markAttempt begun ⟨type, payload⟩) := by
  cases recorded with
  | lost status events after touch written => cases (written.tallies tallies).1
  | kept events after touch written => exact ⟨rfl, (written.tallies tallies).2⟩

theorem Recorded.tallies_of_plain {α : Type} {before lost kept : Fabric StableStore}
    {type : JournalRecordType} {payload : Bytes} {value : α} {reply : Reply StableStore α}
    {begun : Finset AttemptId}
    (recorded : Recorded before type payload lost kept value reply)
    (tallies : Tallies before.journal begun) (starts : type ≠ .beginAttempt)
    (ends : type ≠ .commitMutation) : Tallies reply.fabric.journal begun := by
  cases recorded with
  | lost status events after touch written => exact written.tallies_of_plain tallies starts ends
  | kept events after touch written => exact written.tallies_of_plain tallies starts ends

/-- The calls that write markers, or rewrite the journal. -/
def marks : Call → Bool
  | .recover => true
  | .apply _ => true
  | .planBackendApply .. => true
  | .commitBackendApply .. => true
  | .abortBackendApply .. => true
  | .compact => true
  | _ => false

/-- The replayed commits of a journal spare the attempts that are begun. -/
def SparedByReplay (records : List JournalRecord) (begun : Finset AttemptId) : Prop :=
  ∀ payload request, ⟨.commitMutation, payload⟩ ∈ records → decodeMutation payload = .ok request →
    isDurable request.kind = true → request.attempt ∉ begun

/-- A call that ends no attempt it does not release: a mutation is written under another attempt
than the reserved ones, now and when it is replayed, and a commit that is marked is accepted. -/
def Spares (fabric : Fabric StableStore) (begun : Finset AttemptId) : Call → Prop
  | .apply request => fabric.shuttingDown = false →
      Journals fabric request fabric.monotonicNow.1 → request.attempt ∉ begun
  | .commitBackendApply plan applied provenance => ∀ queue, Presents fabric plan provenance queue →
      Acknowledged fabric queue (fabric.planRequest plan applied provenance) applied
  | .recover => SparedByReplay fabric.store.contents begun
  | _ => True

theorem applyAt_tallies {fabric : Fabric StableStore} {request : MutationRequest}
    {begun : Finset AttemptId} (tallies : Tallies fabric.journal begun)
    (spares : Spares fabric begun (.apply request)) :
    Tallies (fabric.monotonicNow.2.applyAt request fabric.monotonicNow.1).fabric.journal begun := by
  by_cases stopping : fabric.shuttingDown = true
  · have stopped : fabric.monotonicNow.2.applyAt request fabric.monotonicNow.1 =
        ⟨.error ⟨.shuttingDown, "fabric is shutting down"⟩, [], fabric.monotonicNow.2⟩ :=
      if_pos stopping
    rw [stopped]
    exact tallies
  · rw [Bool.not_eq_true] at stopping
    refine (applyAt_cases _ request _).tallies tallies fun journals => spares stopping ?_
    cases journals with
    | mutation queue tracker applied valid kind found admitted durable =>
        exact .mutation queue tracker applied valid kind found (admitted_of_now.mp admitted) durable
    | declaration payload resource valid kind carried declarable =>
        exact .declaration payload resource valid kind carried
          ⟨declarable.found, declarable.authorized, declarable.free, declarable.checked,
            declarable.gate⟩

theorem ServeCase.tallies_of_plain {fabric : Fabric StableStore} {call : Call}
    {reply : Reply StableStore Answer} {begun : Finset AttemptId}
    (ended : ServeCase fabric call reply) (tallies : Tallies fabric.journal begun)
    (plain : marks call = false) : Tallies reply.fabric.journal begun := by
  cases ended with
  | refused refused => exact refused.journal ▸ tallies
  | recovered => cases plain
  | stopped touch journal =>
      rcases journal with same | synced
      · exact same ▸ tallies
      · obtain ⟨store, present, settled, counted⟩ := tallies
        obtain ⟨still, whole⟩ := settled.synced_sync
        refine ⟨store.sync.2, ?_, still, ?_⟩
        · rw [synced, present]
          rfl
        · rw [whole]
          exact counted
  | edited lost kept updated value spent issued edit recorded =>
      exact recorded.tallies_of_plain tallies (by decide) (by decide)
  | classed resource name priority qos principal epoch provenance record cls classes nextClassId
      generation found declared recorded =>
      exact recorded.tallies_of_plain tallies (by decide) (by decide)
  | advanced principal provenance epoch payload minted recorded healthy named =>
      exact recorded.tallies_of_plain tallies (by decide) (by decide)
  | invalidated id principal epoch reason queue events after found touch journal =>
      exact journal ▸ tallies
  | applied request now reply events after ended touch journal read => cases plain
  | gated id expected principal provenance accepted refused => cases plain
  | planned id expected principal provenance plan accepted recorded => cases plain
  | committed plan applied provenance queue reply found ended => cases plain
  | aborted plan reason recorded => cases plain
  | explained id principal touch journal => exact journal ▸ tallies
  | refreshed now touch journal => exact journal ▸ tallies
  | compacted journal present touch rewritten => cases plain

theorem serve_tallies {fabric : Fabric StableStore} {begun : Finset AttemptId}
    (tallies : Tallies fabric.journal begun) {call : Call} (living : call ≠ .recover)
    (whole : call ≠ .compact) (spares : Spares fabric begun call) :
    Tallies (fabric.serve call).fabric.journal (tally begun call (fabric.serve call).result) := by
  have ended := serve_cases fabric call
  cases call with
  | recover => exact absurd rfl living
  | compact => exact absurd rfl whole
  | apply request => exact applyAt_tallies tallies spares
  | commitBackendApply plan applied provenance => exact commitBackendApply_tallies tallies spares
  | planBackendApply id expected principal provenance =>
      generalize fabric.serve (.planBackendApply id expected principal provenance) = reply at ended ⊢
      cases ended with
      | refused refused =>
          obtain ⟨status, failed⟩ := refused.failed
          rw [refused.journal, failed]
          exact tallies
      | gated _ _ _ _ accepted refused =>
          obtain ⟨status, failed⟩ := refused.failed
          rw [refused.journal, failed]
          exact tallies
      | edited lost kept updated value spent issued edit recorded => cases edit
      | planned _ _ _ _ plan accepted recorded =>
          obtain ⟨ok, marked⟩ := recorded.tallies tallies
          simp only [markAttempt, decode_planMarker] at marked
          rw [ok]
          exact marked
  | abortBackendApply plan reason =>
      generalize fabric.serve (.abortBackendApply plan reason) = reply at ended ⊢
      cases ended with
      | refused refused =>
          obtain ⟨status, failed⟩ := refused.failed
          rw [refused.journal, failed]
          exact tallies
      | edited lost kept updated value spent issued edit recorded => cases edit
      | aborted _ _ recorded =>
          obtain ⟨ok, marked⟩ := recorded.tallies tallies
          simp only [markAttempt, decode_abortMarker] at marked
          rw [ok]
          exact marked
  | _ => exact ended.tallies_of_plain tallies rfl

/-! Recovery. -/

theorem replayAll_tallies {fabric : Fabric StableStore} {requests : List MutationRequest}
    {begun : Finset AttemptId} (tallies : Tallies fabric.journal begun)
    (spared : ∀ request ∈ requests, isDurable request.kind = true → request.attempt ∉ begun) :
    Tallies (fabric.replayAll requests).journal begun := by
  induction requests generalizing fabric with
  | nil => exact tallies
  | cons request rest ih =>
      obtain ⟨now, reply, ended, touch, journal⟩ := replayOne_cases fabric request
      have first : Tallies (fabric.replayOne request).journal begun := by
        rw [journal]
        exact ended.tallies tallies fun journals =>
          spared request List.mem_cons_self journals.durable
      exact ih first fun other listed => spared other (List.mem_cons_of_mem request listed)

/-- A journal that a recovery can open: every call to it succeeds and nothing is left to flush. -/
def Opens (journal : Option StableStore) (begun : Finset AttemptId) : Prop :=
  ∃ store : StableStore, journal = some store ∧ store.pending = [] ∧
    (∀ outcome ∈ store.script, outcome = true) ∧ unfinished store.synced = begun

theorem opens_of_tallies {journal : Option StableStore} {begun : Finset AttemptId}
    (tallies : Tallies journal begun) : Opens journal begun := by
  obtain ⟨store, present, settled, counted⟩ := tallies
  exact ⟨store, present, settled.flushed, settled.faultless, counted⟩

theorem opened_store {store : StableStore} (flushed : store.pending = [])
    (faultless : ∀ outcome ∈ store.script, outcome = true) :
    store.openStore.1.isOk = true ∧ store.openStore.2.Settled ∧
      store.openStore.2.synced = store.synced := by
  rw [StableStore.openStore, StableStore.outcome_of_faultless faultless]
  refine ⟨rfl, ⟨⟨rfl, StableStore.faultless_tail faultless⟩, rfl⟩, ?_⟩
  simp [flushed]

theorem recover_tallies {fabric : Fabric StableStore} {begun : Finset AttemptId}
    (opens : Opens fabric.journal begun) (spared : SparedByReplay fabric.store.contents begun) :
    Tallies fabric.recover.fabric.journal begun := by
  obtain ⟨store, present, flushed, faultless, counted⟩ := opens
  obtain ⟨opened, settled, synced⟩ := opened_store flushed faultless
  have start : Tallies (some store.openStore.2) begun :=
    ⟨store.openStore.2, rfl, settled, by rw [synced, counted]⟩
  have ended := recover_cases fabric
  generalize fabric.recover = reply at ended ⊢
  cases ended with
  | unjournaled absent result touch journal => cases present.symm.trans absent
  | unopened other present' failed result touch journal failing =>
      cases present.symm.trans present'
      cases failed.symm.trans opened
  | exhausted other scan status present' _ scanned minted result touch journal failing =>
      cases present.symm.trans present'
      exact journal ▸ start
  | replayed other last scan epoch replayed payload present' _ scanned minted installed kept touch
      written named =>
      cases present.symm.trans present'
      refine written.tallies_of_plain ?_ (by decide) (by decide)
      rw [← kept, installed]
      refine replayAll_tallies start fun request listed durable => ?_
      rw [scanned] at listed
      rcases Scan.mem_replayOrder_addRecords listed with nothing | ⟨payload, read, decoded⟩
      · cases nothing
      · refine spared payload request ?_ decoded durable
        rw [Fabric.store, present]
        exact StableStore.contents_openStore store ▸ read

/-! The count. -/

/-- The begun attempts without an end that a recovery has counted. -/
def orphaned {J : Type} (fabric : Fabric J) : Nat := fabric.recovery.orphanedBegins

theorem orphaned_note (report : RecoveryReport) (line : String) :
    (report.note line).orphanedBegins = report.orphanedBegins := by
  rw [RecoveryReport.note]
  split
  · rfl
  · rfl

theorem orphaned_addRecords (scan : Scan) (records : List JournalRecord) :
    (scan.addRecords records).recovery.orphanedBegins = scan.recovery.orphanedBegins := by
  induction records generalizing scan with
  | nil => rfl
  | cons record rest ih =>
      refine (ih (scan.addRecord record)).trans ?_
      have added := Scan.addRecord_cases scan record
      generalize scan.addRecord record = next at added
      cases added with
      | corrupted line => exact orphaned_note _ line
      | _ => rfl

theorem orphaned_noteDeadBackends (report : RecoveryReport) (resources : List ResourceRecord) :
    (noteDeadBackends report resources).orphanedBegins = report.orphanedBegins := by
  rw [noteDeadBackends]
  generalize resources.flatMap (·.backends) = backends
  induction backends generalizing report with
  | nil => rfl
  | cons backend rest ih =>
      rw [List.foldl_cons, ih]
      split
      · exact orphaned_note report _
      · rfl

theorem commitDurably_orphaned {fabric after : Fabric StableStore} {request : MutationRequest}
    {failure : Option Refusal} (ended : fabric.commitDurably request = (failure, after)) :
    after.orphaned = fabric.orphaned := by
  have same : (fabric.commitDurably request).2.orphaned = fabric.orphaned := by
    rw [commitDurably]
    split
    · rw [journalCommitLocked]
      split
      · rfl
      · rfl
    split
    · rfl
    · rfl
  rwa [ended] at same

theorem ExistingCase.orphaned {fabric : Fabric StableStore} {key : QueueId} {queue : QueueRecord}
    {request : MutationRequest} {now : Nanos} {reply : Reply StableStore MutationOutcome}
    (ended : ExistingCase fabric key queue request now reply) :
    reply.fabric.orphaned = fabric.orphaned := by
  cases ended with
  | answered memo recorded =>
      rw [answerFromMemo]
      split
      · rfl
      simp only []
      split
      · rfl
      · rfl
  | refused tracker refusal unseen gate real => rfl
  | undurable tracker applied refusal after admitted durable failed real =>
      have kept : after.orphaned = (fabric.accepted tracker applied).orphaned :=
        commitDurably_orphaned failed
      exact kept
  | published tracker applied after admitted committed =>
      have kept : after.orphaned = (fabric.accepted tracker applied).orphaned := by
        split at committed
        · exact commitDurably_orphaned committed
        · exact committed ▸ rfl
      exact kept

theorem DeclareCase.orphaned {fabric : Fabric StableStore} {request : MutationRequest}
    {payload : DeclareQueuePayload} {now : Nanos} {reply : Reply StableStore MutationOutcome}
    (ended : DeclareCase fabric request payload now reply) :
    reply.fabric.orphaned = fabric.orphaned := by
  cases ended with
  | refused refusal => rfl
  | answered id taken =>
      rw [answerDeclared]
      split
      · rfl
      split
      · rfl
      · rfl
  | undurable resource refusal after declarable failed =>
      have kept : after.orphaned = fabric.orphaned := commitDurably_orphaned failed
      exact kept
  | committed resource after declarable written =>
      refine Eq.trans ?_ (commitDurably_orphaned written)
      rw [admitDeclared]
      split
      · rfl
      simp only []
      split
      · rfl
      · rfl

theorem ApplyCase.orphaned {fabric : Fabric StableStore} {request : MutationRequest} {now : Nanos}
    {reply : Reply StableStore MutationOutcome} (ended : ApplyCase fabric request now reply) :
    reply.fabric.orphaned = fabric.orphaned := by
  cases ended with
  | stopped stopping => rfl
  | unbound refusal => rfl
  | declare payload reply valid kind carried ended => exact ended.orphaned
  | existing queue reply valid kind found ended => exact ended.orphaned

theorem replayAll_orphaned (fabric : Fabric StableStore) (requests : List MutationRequest) :
    (fabric.replayAll requests).orphaned = fabric.orphaned := by
  induction requests generalizing fabric with
  | nil => rfl
  | cons request rest ih =>
      refine (ih (fabric.replayOne request)).trans ?_
      have served : ({ fabric with replaying := true }.applyLocked request).fabric.orphaned =
          fabric.orphaned := (applyAt_cases _ request _).orphaned
      rw [replayOne]
      simp only []
      split
      · exact (orphaned_note _ _).trans served
      · exact served

theorem revalidateAll_orphaned (fabric : Fabric StableStore) (outstanding : List MutationRequest) :
    (fabric.revalidateAll outstanding).orphaned = fabric.orphaned + outstanding.length := by
  have counted : ∀ marked : Fabric StableStore, (outstanding.foldl noteUnfinished marked).orphaned =
      marked.orphaned + outstanding.length := by
    induction outstanding with
    | nil => exact fun marked => rfl
    | cons request rest ih =>
        intro marked
        have one : (marked.noteUnfinished request).orphaned = marked.orphaned + 1 :=
          orphaned_note _ _
        rw [List.foldl_cons, ih, one, List.length_cons]
        omega
  exact counted _

theorem finishRecovery_orphaned (fabric : Fabric StableStore) (store : StableStore) :
    (fabric.finishRecovery store).fabric.orphaned = fabric.orphaned := by
  have sealed : ∀ (start : Fabric StableStore) (store : StableStore),
      (start.sealRecovery store).fabric.orphaned = start.orphaned := by
    intro start store
    have recorded : (start.appendEpochStateLocked store).2.orphaned = start.orphaned := by
      simp only [appendEpochStateLocked]
      split
      · rfl
      split
      · rfl
      split
      · rfl
      · rfl
    simp only [sealRecovery]
    generalize start.appendEpochStateLocked store = written at recorded ⊢
    split
    · exact recorded
    · exact recorded
  simp only [finishRecovery]
  split
  · rfl
  · refine (sealed _ _).trans ?_
    rw [dropTornTail]
    split
    · simp only []
      split
      · exact orphaned_note _ _
      · rfl
    · rfl

theorem closeRecovery_orphaned (fabric : Fabric StableStore) :
    fabric.closeRecovery.fabric.orphaned = fabric.orphaned := by
  rw [closeRecovery]
  cases fabric.journal with
  | none => rfl
  | some store => exact finishRecovery_orphaned fabric store

theorem replayScan_orphaned (fabric : Fabric StableStore) (scan : Scan) (epoch : Epoch) :
    (fabric.replayScan scan epoch).orphaned =
      scan.recovery.orphanedBegins + scan.outstanding.values.length := by
  have installed : (fabric.installScan scan epoch).orphaned = scan.recovery.orphanedBegins :=
    orphaned_noteDeadBackends _ _
  rw [replayScan, revalidateAll_orphaned, replayAll_orphaned, installed]

/-- A recovery that succeeds has counted the attempts its journal leaves without an end. -/
theorem recover_orphaned {fabric : Fabric StableStore} {begun : Finset AttemptId}
    (opens : Opens fabric.journal begun) (recovered : fabric.recover.result.isOk = true) :
    fabric.recover.fabric.orphaned = begun.card := by
  obtain ⟨store, present, flushed, faultless, counted⟩ := opens
  obtain ⟨opened, settled, synced⟩ := opened_store flushed faultless
  have found : fabric.beginRecovery.journal = some store := present
  have opening : IJournal.openJournal store = store.openStore := rfl
  have begins : (fabric.beginRecovery.scanJournal store.openStore.2).begun = begun := by
    refine (Scan.begun_addRecords _ _).trans ?_
    rw [← counted, ← synced]
    have whole : (IJournal.records store.openStore.2 : List JournalRecord) =
        store.openStore.2.synced := by
      change store.openStore.2.synced ++ store.openStore.2.pending = _
      rw [settled.flushed, List.append_nil]
    rw [whole]
    rfl
  have fresh : (fabric.beginRecovery.scanJournal
      store.openStore.2).recovery.orphanedBegins = 0 := orphaned_addRecords _ _
  rw [recover, recoverLocked] at recovered ⊢
  simp only [found, opening, opened, Bool.not_true, Bool.false_eq_true, ↓reduceIte, recoverOpened]
    at recovered ⊢
  generalize fabric.beginRecovery.scanJournal store.openStore.2 = scan at begins fresh recovered ⊢
  cases minted : scan.mintEpoch with
  | error status =>
      simp only [minted] at recovered
      cases recovered
  | ok epoch =>
      simp only []
      have counted := replayScan_orphaned (fabric.beginRecovery.adoptScan store.openStore.2 scan)
        scan epoch
      generalize (fabric.beginRecovery.adoptScan store.openStore.2 scan).replayScan scan epoch =
        replayed at counted ⊢
      rw [fresh, Nat.zero_add, ← Scan.card_begun, begins] at counted
      exact (closeRecovery_orphaned replayed).trans counted

end Fabric

/-! Runs over several lives. -/

namespace System

/-- A system beside the attempts that were reserved and have not been released. -/
structure Watched where
  system : System
  begun : Finset AttemptId

def Watched.step (watched : Watched) (input : Step) : Watched :=
  let after := watched.system.step input
  match input with
  | .call call _ => ⟨after, Fabric.tally watched.begun call after.result⟩
  | .restart .. => ⟨after, watched.begun⟩

/-- Every append and sync of the step succeeds, and it compacts nothing. -/
def Faultless : Step → Prop
  | .call call script => (∀ outcome ∈ script, outcome = true) ∧ call ≠ .compact
  | .restart _ _ _ script => ∀ outcome ∈ script, outcome = true

/-- The step ends no attempt it does not release. -/
def Watched.Spares (watched : Watched) : Step → Prop
  | .call call script =>
      (withScript watched.system.fabric script).Spares watched.begun call
  | .restart .. => Fabric.SparedByReplay watched.system.fabric.store.contents watched.begun

theorem tallies_withScript {fabric : Fabric StableStore} {begun : Finset AttemptId}
    (tallies : Tallies fabric.journal begun) {script : List Bool}
    (faultless : ∀ outcome ∈ script, outcome = true) :
    Tallies (withScript fabric script).journal begun := by
  obtain ⟨store, present, settled, counted⟩ := tallies
  refine ⟨{ store with script }, ?_, ⟨⟨settled.opened, faultless⟩, settled.flushed⟩, counted⟩
  simp only [withScript, present, Option.map_some]

/-- A crash between two calls loses nothing: the next life opens what the last one wrote. -/
theorem opens_crashed {fabric : Fabric StableStore} {begun : Finset AttemptId}
    (tallies : Tallies fabric.journal begun) (survivors : Nat) (config : FabricConfig)
    (clock : Clock) (seed : UInt64) {script : List Bool}
    (faultless : ∀ outcome ∈ script, outcome = true) :
    Fabric.Opens (withScript (Fabric.create config clock
      (fabric.journal.map (·.crash survivors)) seed) script).journal begun := by
  obtain ⟨store, present, settled, counted⟩ := tallies
  refine ⟨{ store.crash survivors with script }, ?_, rfl, faultless, ?_⟩
  · simp only [withScript, Fabric.create, present, Option.map_some]
  · simp only [StableStore.crash, settled.flushed, List.take_nil, List.append_nil]
    exact counted

theorem contents_crashed {fabric : Fabric StableStore} {begun : Finset AttemptId}
    (tallies : Tallies fabric.journal begun) (survivors : Nat) (config : FabricConfig)
    (clock : Clock) (seed : UInt64) (script : List Bool) :
    (withScript (Fabric.create config clock
      (fabric.journal.map (·.crash survivors)) seed) script).store.contents =
        fabric.store.contents := by
  obtain ⟨store, present, settled, counted⟩ := tallies
  rw [contents_withScript]
  simp only [Fabric.create, Fabric.store, present, Option.map_some, Option.getD_some,
    StableStore.contents, StableStore.crash, settled.flushed, List.take_nil, List.append_nil]

theorem Watched.step_tallies {watched : Watched} {input : Step}
    (tallies : Tallies watched.system.fabric.journal watched.begun)
    (allowed : Faultless input ∧ watched.Spares input) :
    Tallies (watched.step input).system.fabric.journal (watched.step input).begun := by
  obtain ⟨faultless, spares⟩ := allowed
  cases input with
  | call call script =>
      have ready := tallies_withScript tallies faultless.1
      by_cases again : call = .recover
      · subst again
        exact Fabric.recover_tallies (Fabric.opens_of_tallies ready) spares
      · exact Fabric.serve_tallies ready again faultless.2 spares
  | restart survivors clock seed script =>
      refine Fabric.recover_tallies (opens_crashed tallies survivors _ clock seed faultless) ?_
      rw [contents_crashed tallies]
      exact spares

/-- The first process, on an empty journal. -/
def Watched.start (config : FabricConfig) (clock : Clock) (seed : UInt64) (script : List Bool) :
    Watched := ⟨boot config (some {}) clock seed script, ∅⟩

theorem Watched.start_tallies (config : FabricConfig) (clock : Clock) (seed : UInt64)
    {script : List Bool} (faultless : ∀ outcome ∈ script, outcome = true) :
    Tallies (start config clock seed script).system.fabric.journal
      (start config clock seed script).begun := by
  have opens : Fabric.Opens (withScript (Fabric.create config clock (some {}) seed) script).journal
      ∅ := ⟨{ script }, rfl, rfl, faultless, rfl⟩
  refine Fabric.recover_tallies opens fun payload request listed => ?_
  cases listed

/-- Whatever a run over an empty journal does, if every write succeeds and no step ends an attempt
it does not release, a recovery after a crash reports exactly the attempts that were reserved and
never released. -/
theorem orphans_reported (config : FabricConfig) (clock : Clock) (seed : UInt64)
    {script : List Bool} (faultless : ∀ outcome ∈ script, outcome = true) {steps : List Step}
    (held : Runs.Along Watched.step (fun watched input => Faultless input ∧ watched.Spares input)
      (Watched.start config clock seed script) steps)
    (survivors : Nat) (restarted : Clock) (reseed : UInt64) {outcomes : List Bool}
    (willing : ∀ outcome ∈ outcomes, outcome = true)
    (recovered : ((steps.foldl Watched.step (Watched.start config clock seed script)).system.step
      (.restart survivors restarted reseed outcomes)).result.isOk = true) :
    ((steps.foldl Watched.step (Watched.start config clock seed script)).system.step
        (.restart survivors restarted reseed outcomes)).fabric.recovery.orphanedBegins =
      (steps.foldl Watched.step (Watched.start config clock seed script)).begun.card := by
  have tallies := @Runs.invariant _ _ Watched.step _
    (fun watched : Watched => Tallies watched.system.fabric.journal watched.begun)
    (fun _ _ tallies allowed => Watched.step_tallies tallies allowed)
    _ (Watched.start_tallies config clock seed faultless) _ held
  generalize steps.foldl Watched.step (Watched.start config clock seed script) = watched
    at tallies recovered ⊢
  refine Fabric.recover_orphaned
    (opens_crashed tallies survivors watched.system.fabric.config restarted reseed willing) ?_
  exact (answered_isOk _ _).symm.trans recovered

/-- One attempt is reserved for the first of two queues. -/
def reservingSteps : List Step := Fabric.reservingCalls.tail.map (Step.call · [])

def reserving : Watched := reservingSteps.foldl Watched.step (.start {} ⟨fun _ => 1000, 0⟩ 7 [])

theorem orphans_reported_sample :
    (reserving.system.step (.restart 0 ⟨fun _ => 2000, 0⟩ 8 [])).fabric.recovery.orphanedBegins =
      reserving.begun.card := by
  have spared : ∀ input ∈ ([] : List Bool), input = true := by simp
  refine orphans_reported {} ⟨fun _ => 1000, 0⟩ 7 spared ?_ 0 ⟨fun _ => 2000, 0⟩ 8 spared
    (by decide +kernel)
  refine ⟨⟨⟨spared, by simp⟩, trivial⟩, ⟨⟨spared, by simp⟩, trivial⟩, ⟨⟨spared, by simp⟩, trivial⟩,
    ⟨⟨spared, by simp⟩, trivial⟩, ⟨⟨spared, by simp⟩, ?_⟩, ⟨⟨spared, by simp⟩, ?_⟩,
    ⟨⟨spared, by simp⟩, trivial⟩, trivial⟩
  · exact fun _ _ => Finset.notMem_empty _
  · exact fun _ _ => Finset.notMem_empty _

/-- A commit whose backend has moved on: refused after its marker was written. -/
def refusedCommit : Step :=
  .call (.commitBackendApply Fabric.samplePlan
    { Fabric.sampleApplied with backendIncarnation := ⟨2⟩ } (sampleProvenance 4)) []

/-- The attempt is still reserved, and the recovery reports nothing unfinished. -/
theorem orphan_unreported :
    (∀ input ∈ reservingSteps ++ [refusedCommit], Faultless input) ∧
      ((reserving.step refusedCommit).system.step
        (.restart 0 ⟨fun _ => 2000, 0⟩ 8 [])).result.isOk = true ∧
      ((reserving.step refusedCommit).system.step
        (.restart 0 ⟨fun _ => 2000, 0⟩ 8 [])).fabric.recovery.orphanedBegins ≠
          (reserving.step refusedCommit).begun.card := by
  refine ⟨?_, ?_, ?_⟩
  · simp [reservingSteps, Fabric.reservingCalls, refusedCommit, Faultless]
  · decide +kernel
  · decide +kernel

end System

end QueueFabric
