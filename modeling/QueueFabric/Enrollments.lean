import QueueFabric.Conflicts
import QueueFabric.Growth
import QueueFabric.Ledgers

/-!
The tables of a fabric and the ledger of its journal, call by call: a declaration is
entered in both or in neither, and no other call touches either.
-/

namespace QueueFabric

open QueueRecord Fabric

namespace Fabric

section Serving

variable {J : Type} [IJournal J]

/-- The tables once a declaration is published. -/
def declaredTables (tables : Tables) (payload : DeclareQueuePayload) (resource : ResourceRecord)
    (record : QueueRecord) : Tables :=
  { tables with
    queues := tables.queues.emplace ⟨tables.nextQueueId⟩ record
    queueNames := tables.queueNames.emplace (nameKey payload.resource payload.name)
      ⟨tables.nextQueueId⟩
    nextQueueId := tables.nextQueueId + 1
    resources := tables.resources.insert payload.resource
      { resource with queueCount := resource.queueCount + 1 } }

omit [IJournal J] in
theorem publishDeclared_tables (next : Fabric J) (request : MutationRequest)
    (payload : DeclareQueuePayload) (now : Nanos) (resource : ResourceRecord) :
    ∃ record, DeclaredFrom payload ⟨next.tables.nextQueueId⟩ record ∧
      (next.publishDeclared request payload now resource).fabric.tables =
        declaredTables next.tables payload resource record :=
  ⟨_, declaredFrom_declaredRecord next request payload now next.journal.isSome, rfl⟩

/-- What one request does to the labels and what it writes. -/
inductive LabelCase (fabric : Fabric J) (request : MutationRequest) (after : Fabric J) : Prop
  | moved (queues : Table.Related Identical fabric.queues after.queues)
      (rest : after.tables = { fabric.tables with queues := after.queues })
      (journal : after.journal = fabric.journal ∨ request.declaration = none ∧
        ∃ ok, Committed (encodeMutation request) fabric.journal ok after.journal) :
      LabelCase fabric request after
  | lost (payload : DeclareQueuePayload) (resource : ResourceRecord)
      (declared : request.declaration = some payload) (valid : request.validate.isOk = true)
      (declarable : Declarable fabric request payload resource)
      (tables : after.tables = fabric.tables)
      (journal : Committed (encodeMutation request) fabric.journal false after.journal) :
      LabelCase fabric request after
  | declared (payload : DeclareQueuePayload) (resource : ResourceRecord) (record : QueueRecord)
      (declared : request.declaration = some payload) (valid : request.validate.isOk = true)
      (declarable : Declarable fabric request payload resource)
      (origin : DeclaredFrom payload ⟨fabric.nextQueueId⟩ record)
      (tables : after.tables = declaredTables fabric.tables payload resource record)
      (journal : Committed (encodeMutation request) fabric.journal true after.journal) :
      LabelCase fabric request after

theorem LabelCase.kept {fabric after : Fabric J} {request : MutationRequest}
    (tables : after.tables = fabric.tables) (journal : after.journal = fabric.journal) :
    LabelCase fabric request after := by
  have queues : after.queues = fabric.queues := congrArg Tables.queues tables
  refine .moved ?_ ?_ (.inl journal)
  · rw [queues]
    exact Table.related_refl Identical.refl _
  · rw [tables, queues]
    rfl

theorem ExistingCase.journal {fabric : Fabric J} {key : QueueId} {queue : QueueRecord}
    {request : MutationRequest} {now : Nanos} {reply : Reply J MutationOutcome}
    (ended : ExistingCase fabric key queue request now reply) :
    reply.fabric.journal = fabric.journal ∨
      ∃ ok, Committed (encodeMutation request) fabric.journal ok reply.fabric.journal := by
  cases ended with
  | answered memo recorded =>
      rw [answerFromMemo]
      split
      · exact .inl rfl
      · split <;> exact .inl rfl
  | refused tracker refusal unseen gate real => exact .inl rfl
  | undurable tracker applied refusal after admitted durable failed real =>
      exact .inr ⟨false, commitDurably_committed failed⟩
  | published tracker applied after admitted committed =>
      split at committed
      · exact .inr ⟨true, commitDurably_committed committed⟩
      · rw [committed]
        exact .inl rfl

omit [IJournal J] in
/-- A declaration that was written is published: the provenance gate was passed before. -/
theorem admitDeclared_published {fabric after : Fabric J} {request : MutationRequest}
    {payload : DeclareQueuePayload} {resource : ResourceRecord}
    (declarable : Declarable fabric request payload resource) (touch : Touch fabric after)
    (now : Nanos) :
    ∃ next : Fabric J, next.tables = fabric.tables ∧ next.journal = after.journal ∧
      after.admitDeclared request payload now resource =
        next.publishDeclared request payload now resource := by
  rw [admitDeclared]
  by_cases replaying : after.replaying = true
  · exact ⟨after, touch.tables, rfl, if_pos replaying⟩
  · have passed : (after.provenance.observe request.provenance).1.isOk = true := by
      rw [touch.provenance]
      exact observe_ok_of_gate (touch.replaying ▸ replaying) declarable.gate
    refine ⟨{ after with provenance := (after.provenance.observe request.provenance).2 },
      touch.tables, rfl, ?_⟩
    simp only [replaying, passed, Bool.not_true, Bool.false_eq_true, ↓reduceIte]

theorem DeclareCase.labelCase {fabric : Fabric J} {request : MutationRequest}
    {payload : DeclareQueuePayload} {now : Nanos} {reply : Reply J MutationOutcome}
    (ended : DeclareCase fabric request payload now reply)
    (declared : request.declaration = some payload) (valid : request.validate.isOk = true) :
    LabelCase fabric request reply.fabric := by
  cases ended with
  | refused refusal => exact .kept rfl rfl
  | answered id taken =>
      rw [answerDeclared]
      split
      · exact .kept rfl rfl
      · split <;> exact .kept rfl rfl
  | undurable resource refusal after declarable failed =>
      exact .lost payload resource declared valid declarable (commitDurably_touch failed).tables
        (commitDurably_committed failed)
  | committed resource after declarable written =>
      obtain ⟨next, tables, journal, published⟩ :=
        admitDeclared_published declarable (commitDurably_touch written) now
      obtain ⟨record, origin, added⟩ :=
        publishDeclared_tables next request payload now resource
      rw [tables] at origin added
      rw [published]
      refine .declared payload resource record declared valid declarable origin added ?_
      rw [show (next.publishDeclared request payload now resource).fabric.journal = next.journal
        from rfl, journal]
      exact commitDurably_committed written

theorem ApplyCase.labelCase {fabric : Fabric J} {request : MutationRequest} {now : Nanos}
    {reply : Reply J MutationOutcome} (ended : ApplyCase fabric request now reply) :
    LabelCase fabric request reply.fabric := by
  cases ended with
  | stopped stopping => exact .kept rfl rfl
  | unbound refusal => exact .kept rfl rfl
  | declare payload reply valid kind carried ended =>
      exact ended.labelCase (declaration_eq_some.mpr ⟨kind, carried⟩) valid
  | existing queue reply valid kind found ended =>
      obtain ⟨queues, rest⟩ := ended.moved found
      have undeclared : request.declaration = none := by
        rw [Option.eq_none_iff_forall_ne_some]
        exact fun payload declared => kind (declaration_eq_some.mp declared).1
      exact .moved queues rest (ended.journal.imp_right fun committed => ⟨undeclared, committed⟩)

end Serving

/-! The journal of a call. -/

/-- A journal that keeps the ledger of the labels still does, and is open if it was. -/
def Preserves (config : FabricConfig) (labels : List Label) (before after : Option StableStore) :
    Prop :=
  ∀ store, before = some store → Keeps config labels store →
    ∃ last, after = some last ∧ Keeps config labels last ∧ last.opened = store.opened

section Preserves

variable {config : FabricConfig} {labels : List Label}

theorem Preserves.refl (journal : Option StableStore) : Preserves config labels journal journal :=
  fun store present keeps => ⟨store, present, keeps, rfl⟩

theorem Preserves.of_eq {before after : Option StableStore} (same : after = before) :
    Preserves config labels before after := by
  rw [same]
  exact .refl before

theorem Preserves.trans {first second third : Option StableStore}
    (one : Preserves config labels first second) (two : Preserves config labels second third) :
    Preserves config labels first third := by
  intro store present keeps
  obtain ⟨middle, held, kept, opened⟩ := one store present keeps
  obtain ⟨last, ended, lastKept, lastOpened⟩ := two middle held kept
  exact ⟨last, ended, lastKept, lastOpened.trans opened⟩

theorem Written.preserves {type : JournalRecordType} {payload : Bytes}
    {before after : Option StableStore} {ok : Bool}
    (written : Written type payload before ok after) (familiar : Familiar labels ⟨type, payload⟩) :
    Preserves config labels before after := by
  intro store present keeps
  cases written with
  | unjournaled => cases present
  | required => cases present
  | appendFailed journal failed =>
      cases present
      exact ⟨_, rfl, keeps.append familiar, (StableStore.grows_append store type payload).opened⟩
  | syncFailed journal appended failed =>
      cases present
      exact ⟨_, rfl, (keeps.append familiar).sync, (StableStore.grows_sync _).opened.trans
        (StableStore.grows_append store type payload).opened⟩
  | synced journal appended flushed =>
      cases present
      exact ⟨_, rfl, (keeps.append familiar).sync, (StableStore.grows_sync _).opened.trans
        (StableStore.grows_append store type payload).opened⟩

theorem Committed.preserves {encoded : Bytes} {before after : Option StableStore} {ok : Bool}
    (committed : Committed encoded before ok after)
    (familiar : Familiar labels ⟨.commitMutation, encoded⟩) :
    Preserves config labels before after := by
  intro store present keeps
  cases committed with
  | unjournaled => cases present
  | required => cases present
  | unencoded journal empty => exact ⟨store, present, keeps, rfl⟩
  | offered journal ok nonempty status =>
      cases present
      exact ⟨_, rfl, keeps.recommitted familiar,
        (StableStore.grows_commitRecords store encoded).opened⟩

theorem Recorded.preserves {α : Type} {before lost kept : Fabric StableStore}
    {type : JournalRecordType} {payload : Bytes} {value : α} {reply : Reply StableStore α}
    (recorded : Recorded before type payload lost kept value reply)
    (familiar : Familiar labels ⟨type, payload⟩) :
    Preserves config labels before.journal reply.fabric.journal := by
  cases recorded with
  | lost status events after touch written => exact written.preserves familiar
  | kept events after touch written => exact written.preserves familiar

theorem familiar_undeclared {request : MutationRequest} (undeclared : request.declaration = none) :
    Familiar labels ⟨.commitMutation, encodeMutation request⟩ :=
  familiar_commit fun payload declared => by
    rw [undeclared] at declared
    cases declared

theorem ExistingCase.preserves {fabric : Fabric StableStore} {key : QueueId} {queue : QueueRecord}
    {request : MutationRequest} {now : Nanos} {reply : Reply StableStore MutationOutcome}
    (ended : ExistingCase fabric key queue request now reply)
    (undeclared : request.declaration = none) :
    Preserves config labels fabric.journal reply.fabric.journal := by
  rcases ended.journal with same | ⟨ok, committed⟩
  · exact .of_eq same
  · exact committed.preserves (familiar_undeclared undeclared)

theorem CommitCase.preserves {fabric : Fabric StableStore} {plan : BackendPlan}
    {queue : QueueRecord} {request : MutationRequest} {reply : Reply StableStore MutationOutcome}
    (ended : CommitCase fabric plan queue request reply)
    (undeclared : request.declaration = none) :
    Preserves config labels fabric.journal reply.fabric.journal := by
  cases ended with
  | refused refused => exact .of_eq refused.journal
  | lost status events after touch written =>
      exact written.preserves (familiar_undeclared undeclared)
  | served middle now inner events after touch written ended final journal =>
      refine (written.preserves (familiar_undeclared undeclared)).trans ?_
      refine (ended.preserves undeclared).trans ?_
      exact .of_eq journal

/-- No call but a request, a recovery and a compaction writes anything the ledger can see. -/
theorem ServeCase.preserves {fabric : Fabric StableStore} {call : Call}
    {reply : Reply StableStore Answer} (ended : ServeCase fabric call reply)
    (living : call ≠ .recover) (unrequested : ∀ request, call ≠ .apply request)
    (whole : call ≠ .compact) :
    Preserves config labels fabric.journal reply.fabric.journal := by
  cases ended with
  | refused refused => exact .of_eq refused.journal
  | recovered => exact absurd rfl living
  | stopped touch journal =>
      rcases journal with same | synced
      · exact .of_eq same
      · intro store present keeps
        rw [synced, present]
        exact ⟨_, rfl, keeps.sync, (StableStore.grows_sync store).opened⟩
  | edited lost kept updated value spent issued edit recorded =>
      exact recorded.preserves (familiar_of_type (by simp) (by simp))
  | classed resource name priority qos principal epoch provenance record cls classes nextClassId
      generation found declared recorded =>
      exact recorded.preserves (familiar_of_type (by simp) (by simp))
  | advanced principal provenance epoch payload minted recorded =>
      exact recorded.preserves (familiar_of_type (by simp) (by simp))
  | invalidated id principal epoch reason queue events after found touch journal =>
      exact .of_eq journal
  | applied request now inner events after ended touch journal read =>
      exact absurd rfl (unrequested request)
  | gated id expected principal provenance accepted refused => exact .of_eq refused.journal
  | planned id expected principal provenance plan accepted recorded =>
      exact recorded.preserves (familiar_of_type (by simp) (by simp))
  | committed plan applied provenance queue inner found ended => exact ended.preserves rfl
  | aborted plan reason recorded => exact recorded.preserves (familiar_undeclared rfl)
  | explained id principal touch journal => exact .of_eq journal
  | refreshed now touch journal => exact .of_eq journal
  | compacted journal present touch rewritten => exact absurd rfl whole

end Preserves

/-! The tables of a call. -/

section Tables

variable {J : Type} [IJournal J]

theorem Recorded.nextQueueId {α : Type} {before lost kept : Fabric J} {type : JournalRecordType}
    {payload : Bytes} {value : α} {reply : Reply J α}
    (recorded : Recorded before type payload lost kept value reply)
    (onLost : lost.nextQueueId = before.nextQueueId)
    (onKept : kept.nextQueueId = before.nextQueueId) :
    reply.fabric.nextQueueId = before.nextQueueId := by
  cases recorded with
  | lost status events after touch written => exact touch.nextQueueId.trans onLost
  | kept events after touch written => exact touch.nextQueueId.trans onKept

theorem ServeCase.nextQueueId {fabric : Fabric J} {call : Call} {reply : Reply J Answer}
    (ended : ServeCase fabric call reply) (living : call ≠ .recover)
    (unrequested : ∀ request, call ≠ .apply request) :
    reply.fabric.nextQueueId = fabric.nextQueueId := by
  cases ended with
  | refused refused => exact refused.touch.nextQueueId
  | recovered => exact absurd rfl living
  | stopped touch journal => exact touch.nextQueueId
  | edited lost kept updated value spent issued edit recorded => exact recorded.nextQueueId rfl rfl
  | classed resource name priority qos principal epoch provenance record cls classes nextClassId
      generation found declared recorded => exact recorded.nextQueueId rfl rfl
  | advanced principal provenance epoch payload minted recorded =>
      exact recorded.nextQueueId rfl rfl
  | invalidated id principal epoch reason queue events after found touch journal =>
      exact touch.nextQueueId
  | applied request now inner events after ended touch journal read =>
      exact absurd rfl (unrequested request)
  | gated id expected principal provenance accepted refused => exact refused.touch.nextQueueId
  | planned id expected principal provenance plan accepted recorded =>
      exact recorded.nextQueueId rfl rfl
  | committed plan applied provenance queue inner found ended =>
      cases ended with
      | refused refused => exact refused.touch.nextQueueId
      | lost status events after touch written => exact touch.nextQueueId
      | served middle now reply events after touch written ended final journal =>
          have stored : middle.queues.get? plan.queue = some queue := by
            rw [touch.queues]
            exact found
          have kept := congrArg Tables.nextQueueId (ended.moved stored).2
          exact final.nextQueueId.trans (Eq.trans kept touch.nextQueueId)
  | aborted plan reason recorded => exact recorded.nextQueueId rfl rfl
  | explained id principal touch journal => exact touch.nextQueueId
  | refreshed now touch journal => exact touch.nextQueueId
  | compacted journal present touch rewritten => exact touch.nextQueueId

end Tables

end Fabric

/-- A step that issues no queue identity moves no label. -/
theorem TableStep.registered {labels : List Label} {before after : Tables}
    (step : TableStep before after) (next : after.nextQueueId = before.nextQueueId)
    (registered : Registered labels before) : Registered labels after := by
  cases step with
  | moved queues rest =>
      rw [rest]
      exact registered.moved queues rfl rfl rfl
  | declared payload resource record found free admissible origin rest =>
      rw [rest] at next
      exact absurd next (by simp)
  | tended queues names next config topology =>
      exact registered.moved (queues.imp fun _ _ same => same.identical) names next config

/-! The ledger beside the tables. -/

/-- The tables hold the labels `live`, the journal enrolls `labels`; the two are the same
whenever the journal is open. -/
structure Enrolled (live labels : List Label) (fabric : Fabric StableStore) : Prop where
  registered : Registered live fabric.tables
  held : live <+: labels
  journal : ∃ store, fabric.journal = some store ∧ Keeps fabric.config labels store ∧
    (store.opened = true → live = labels)

/-- What was entered in the tables was entered in the journal as well. -/
def Enrolls (live labels : List Label) (after : Fabric StableStore) : Prop :=
  ∃ more, Enrolled (live ++ more) (labels ++ more) after

namespace Enrolled

variable {live labels : List Label} {fabric after : Fabric StableStore}

theorem moved (enrolled : Enrolled live labels fabric) (registered : Registered live after.tables)
    (config : after.config = fabric.config)
    (journal : Preserves fabric.config labels fabric.journal after.journal) :
    Enrolled live labels after where
  registered := registered
  held := enrolled.held
  journal := by
    obtain ⟨store, present, keeps, current⟩ := enrolled.journal
    obtain ⟨last, held, kept, opened⟩ := journal store present keeps
    exact ⟨last, held, config ▸ kept, fun still => current (opened ▸ still)⟩

theorem enrolls (enrolled : Enrolled live labels fabric) : Enrolls live labels fabric :=
  ⟨[], by rw [List.append_nil, List.append_nil]; exact enrolled⟩

end Enrolled

theorem Fabric.LabelCase.enrolls {live labels : List Label} {fabric after : Fabric StableStore}
    {request : MutationRequest} (ended : LabelCase fabric request after)
    (enrolled : Enrolled live labels fabric)
    (flushed : ∀ payload resource, request.declaration = some payload →
      Declarable fabric request payload resource → fabric.store.losesSync = false) :
    Enrolls live labels after := by
  cases ended with
  | moved queues rest journal =>
      refine (enrolled.moved ?_ (congrArg Tables.config rest) ?_).enrolls
      · rw [rest]
        exact enrolled.registered.moved queues rfl rfl rfl
      · rcases journal with same | ⟨undeclared, ok, committed⟩
        · exact .of_eq same
        · exact committed.preserves (familiar_undeclared undeclared)
  | lost payload resource declared valid declarable tables journal =>
      refine (enrolled.moved (tables ▸ enrolled.registered) (congrArg Tables.config tables)
        ?_).enrolls
      intro store present keeps
      have kept := flushed payload resource declared declarable
      rw [Fabric.store, present, Option.getD_some] at kept
      rw [present] at journal
      generalize last : after.journal = written at journal
      cases journal with
      | unencoded journal empty => exact ⟨store, rfl, keeps, rfl⟩
      | offered journal ok nonempty status =>
          exact ⟨_, rfl, keeps.uncommitted status kept,
            (StableStore.grows_commitRecords store _).opened⟩
  | declared payload resource record declared valid declarable origin tables journal =>
      obtain ⟨store, present, keeps, current⟩ := enrolled.journal
      rw [present] at journal
      generalize last : after.journal = written at journal
      cases journal with
      | offered journal ok nonempty status =>
          have opened : store.opened = true := by
            have ended := store.commitRecords_cases (encodeMutation request)
            generalize commitRecords store (encodeMutation request) = result at ended status
            cases ended with
            | refused _ _ failed => exact absurd (failed.symm.trans status) (by simp)
            | unsynced _ _ failed => exact absurd (failed.symm.trans status) (by simp)
            | synced _ opened => exact opened
          have same := current opened
          subst same
          have registered : Registered (live ++ [payload.label]) after.tables := by
            rw [tables]
            exact enrolled.registered.declared declarable.free
              (admissible_of_checked declarable.checked) origin rfl rfl rfl rfl
          have config : after.config = fabric.config := congrArg Tables.config tables
          have permitted : Permitted fabric.config (live ++ [payload.label]) :=
            config ▸ registered.permitted
          have fresh : payload.label ∉ live :=
            (enrolled.registered.free_iff payload.label).mp declarable.free
          refine ⟨[payload.label], registered, List.prefix_refl _, _, last, ?_, fun _ => rfl⟩
          rw [config]
          exact keeps.committed declared valid fresh permitted status

/-! Snapshots. -/

namespace Scan

def restoredOr (queue : QueueRecord) : Except Status QueueRecord → QueueRecord
  | .ok stored => restoreQueue stored
  | .error _ => queue

/-- A queue as a scan of its own snapshot record leaves it. -/
def reread (queue : QueueRecord) : QueueRecord :=
  restoredOr queue (decodeQueueState (encodeQueueState queue))

theorem reread_of_decoded {queue stored : QueueRecord}
    (decoded : decodeQueueState (encodeQueueState queue) = .ok stored) :
    reread queue = restoreQueue stored := by
  unfold reread
  rw [decoded, restoredOr]

theorem identical_reread (queue : QueueRecord) : Identical queue (reread queue) := by
  cases decoded : decodeQueueState (encodeQueueState queue) with
  | error status =>
      have same : reread queue = queue := by
        unfold reread
        rw [decoded, restoredOr]
      rw [same]
      exact .refl queue
  | ok stored =>
      have kept : stored.definition = queue.definition :=
        (identity_of_decodeQueueState decoded).1
      have read : Identical queue stored := by
        constructor
        all_goals rw [kept]
      rw [reread_of_decoded decoded]
      exact read.trans (same_restoreQueue stored).identical

/-- The snapshot record of the queue can be read back. -/
def Readable (queue : QueueRecord) : Prop :=
  ∃ stored, decodeQueueState (encodeQueueState queue) = .ok stored

theorem addRecord_readable {queue : QueueRecord} (readable : Readable queue) (scan : Scan) :
    (scan.addRecord ⟨.queueState, encodeQueueState queue⟩).queues =
      scan.queues.insert queue.definition.id (reread queue) := by
  obtain ⟨stored, decoded⟩ := readable
  have kept : stored.definition = queue.definition := (identity_of_decodeQueueState decoded).1
  have one : scan.addRecord ⟨.queueState, encodeQueueState queue⟩ = scan.addQueue stored := by
    simp only [addRecord, decoded]
  rw [one, reread_of_decoded decoded, addQueue, kept]

theorem addRecords_cons (scan : Scan) (record : JournalRecord) (rest : List JournalRecord) :
    scan.addRecords (record :: rest) = (scan.addRecord record).addRecords rest := rfl

theorem addRecords_readable {entries : List (QueueId × QueueRecord)}
    (readable : ∀ entry ∈ entries, entry.2.definition.id = entry.1 ∧ Readable entry.2)
    (scan : Scan) :
    (scan.addRecords (entries.map fun entry => ⟨.queueState, encodeQueueState entry.2⟩)).queues =
      scan.queues.insertAll (entries.map fun entry => (entry.1, reread entry.2)) := by
  induction entries generalizing scan with
  | nil => rfl
  | cons entry rest ih =>
      obtain ⟨keyed, decodes⟩ := readable entry List.mem_cons_self
      have one := addRecord_readable decodes scan
      rw [List.map_cons, List.map_cons, addRecords_cons, Table.insertAll_cons,
        ih fun other listed => readable other (List.mem_cons_of_mem entry listed), one, keyed]

theorem replayOrder_addRecords {records : List JournalRecord}
    (quiet : ∀ record ∈ records, record.type ≠ .commitMutation) (scan : Scan) :
    (scan.addRecords records).replayOrder = scan.replayOrder := by
  induction records generalizing scan with
  | nil => rfl
  | cons record rest ih =>
      rw [addRecords_cons, ih fun other listed => quiet other (List.mem_cons_of_mem record listed),
        replayOrder_addRecord, commits_of_type (quiet record List.mem_cons_self), List.append_nil]

end Scan

/-- Every queue of the snapshot can be read back. -/
def Fabric.SnapshotReads (fabric : Fabric StableStore) : Prop :=
  ∀ id queue, fabric.findQueue id = some queue → Scan.Readable queue

theorem buildSnapshotLocked_split (fabric : Fabric StableStore) :
    ∃ head : List JournalRecord,
      (∀ record ∈ head, record.type ≠ .queueState ∧ record.type ≠ .commitMutation) ∧
      fabric.buildSnapshotLocked = head ++
        (fabric.queues.entries.mergeSort fun left right => left.1.value ≤ right.1.value).map
          fun entry => ⟨.queueState, encodeQueueState entry.2⟩ := by
  refine ⟨⟨.epochState,
    encodeEpochState ⟨fabric.boot, fabric.epoch, fabric.coordinatorIncarnation⟩⟩ ::
      (sortedValues fabric.resources).map fun resource =>
        ⟨.resourceState, encodeResourceState resource⟩, ?_, ?_⟩
  · intro record member
    rcases List.mem_cons.mp member with rfl | later
    · exact ⟨by simp, by simp⟩
    · obtain ⟨resource, _, rfl⟩ := List.mem_map.mp later
      exact ⟨by simp, by simp⟩
  · rw [buildSnapshotLocked, sortedValues_map fabric.queues]

theorem ledger_snapshot {fabric : Fabric StableStore} {labels : List Label}
    (registered : Registered labels fabric.tables) (reads : fabric.SnapshotReads) :
    Ledger fabric.config labels fabric.buildSnapshotLocked := by
  obtain ⟨head, plain, listed⟩ := buildSnapshotLocked_split fabric
  have found : ∀ entry ∈ fabric.queues.entries.mergeSort
      (fun left right => left.1.value ≤ right.1.value), fabric.findQueue entry.1 = some entry.2 :=
    fun entry member => (Table.mem_entries_iff _ _ _).mp ((sorted_perm _).mem_iff.mp member)
  have quiet : ∀ record ∈ fabric.buildSnapshotLocked, record.type ≠ .commitMutation := by
    intro record member
    rw [listed, List.mem_append] at member
    rcases member with early | late
    · exact (plain record early).2
    · obtain ⟨entry, _, rfl⟩ := List.mem_map.mp late
      simp
  have order : (Scan.reading fabric.buildSnapshotLocked).replayOrder = [] := by
    rw [Scan.reading, Scan.replayOrder_addRecords quiet]
  have queues : ∀ id, (Scan.reading fabric.buildSnapshotLocked).queues.get? id =
      (fabric.queues.get? id).map Scan.reread := by
    intro id
    rw [listed, Scan.reading, Scan.addRecords_append, Scan.addRecords_readable fun entry member =>
      ⟨registered.catalog.keyed entry.1 entry.2 (found entry member),
        reads entry.1 entry.2 (found entry member)⟩, (Scan.addRecords_plain plain _).1,
      Table.get?_rebuilt fabric.queues (sorted_perm _) Scan.reread id]
  have named : ∀ queue, (Scan.reread queue).label = queue.label :=
    fun queue => (Scan.identical_reread queue).label
  refine ⟨⟨labels, ⟨fun id => ?_, fun id queue held => ?_⟩, ?_⟩, ?_, registered.permitted⟩
  · rw [queues, Option.map_map, ← registered.catalog.listed]
    simp only [Function.comp_def, named]
    rfl
  · rw [queues] at held
    obtain ⟨old, stored, rfl⟩ := Option.map_eq_some_iff.mp held
    exact (Scan.identical_reread old).id.trans (registered.catalog.keyed id old stored)
  · rw [order]
    rfl
  · intro request member
    rw [order] at member
    cases member

namespace Fabric

/-- The call leaves the journal neither a declaration the tables do not have, nor a queue
that cannot be read back. -/
def Upholds (fabric : Fabric StableStore) : Call → Prop
  | .apply request => fabric.store.losesSync = true → ∀ payload resource,
      request.declaration = some payload → ¬ Declarable fabric request payload resource
  | .compact => fabric.SnapshotReads
  | _ => True

theorem compact_enrolls {live labels : List Label} {fabric after : Fabric StableStore}
    (enrolled : Enrolled live labels fabric) (reads : fabric.SnapshotReads) {store : StableStore}
    (present : fabric.journal = some store) (touch : Touch fabric after)
    (rewritten : after.journal = some (store.rewrite fabric.buildSnapshotLocked).2) :
    Enrolled live labels after := by
  refine enrolled.moved (touch.tables ▸ enrolled.registered) touch.config ?_
  intro other same keeps
  obtain ⟨_, held, _, current⟩ := enrolled.journal
  rw [present] at same held
  cases same
  cases held
  refine ⟨_, rewritten, ?_⟩
  rw [StableStore.rewrite]
  split
  · exact ⟨keeps, rfl⟩
  · rename_i opened
    split
    · refine ⟨.of_synced ?_ rfl, rfl⟩
      rw [← current (by simpa using opened)]
      exact ledger_snapshot enrolled.registered reads
    · exact ⟨keeps.same rfl rfl, rfl⟩

theorem apply_enrolls {live labels : List Label} {fabric : Fabric StableStore}
    (enrolled : Enrolled live labels fabric) {request : MutationRequest}
    (upholds : fabric.Upholds (.apply request)) {reply : Reply StableStore Answer}
    (ended : ServeCase fabric (.apply request) reply) : Enrolls live labels reply.fabric := by
  cases ended with
  | refused refused =>
      have touch := refused.touch
      have queues : Table.Related Identical fabric.queues reply.fabric.queues := by
        rw [refused.queues]
        exact Table.related_refl Identical.refl _
      refine (enrolled.moved ?_ touch.config (.of_eq refused.journal)).enrolls
      exact enrolled.registered.moved queues touch.queueNames touch.nextQueueId touch.config
  | edited lost kept updated value spent issued edit recorded => cases edit
  | applied request now inner events after ended touch journal read =>
      have start : Enrolled live labels fabric.monotonicNow.2 :=
        ⟨enrolled.registered, enrolled.held, enrolled.journal⟩
      obtain ⟨more, entered⟩ := ended.labelCase.enrolls start
        fun payload resource declared declarable => by
          by_contra lost
          rw [Bool.not_eq_false] at lost
          exact upholds lost payload resource declared ⟨declarable.found,
            declarable.authorized, declarable.free, declarable.checked, declarable.gate⟩
      exact ⟨more, entered.moved (touch.tables ▸ entered.registered) touch.config
        (.of_eq journal)⟩

theorem serve_enrolls {live labels : List Label} {fabric : Fabric StableStore}
    (enrolled : Enrolled live labels fabric) {call : Call} (living : call ≠ .recover)
    (upholds : fabric.Upholds call) : Enrolls live labels (fabric.serve call).fabric := by
  have ended := serve_cases fabric call
  have config := serve_config fabric call
  by_cases requested : ∃ request, call = .apply request
  · obtain ⟨request, rfl⟩ := requested
    exact apply_enrolls enrolled upholds ended
  · have unrequested : ∀ request, call ≠ .apply request := fun request same =>
      requested ⟨request, same⟩
    have registered := (ended.tableStep living).registered (ended.nextQueueId living unrequested)
      enrolled.registered
    by_cases whole : call = .compact
    · subst whole
      generalize fabric.serve .compact = reply at ended registered config
      cases ended with
      | refused refused =>
          exact (enrolled.moved registered config (.of_eq refused.journal)).enrolls
      | edited lost kept updated value spent issued edit recorded => cases edit
      | compacted store present touch rewritten =>
          exact (compact_enrolls enrolled upholds present touch rewritten).enrolls
    · exact (enrolled.moved registered config
        (ended.preserves living unrequested whole)).enrolls

end Fabric

end QueueFabric
