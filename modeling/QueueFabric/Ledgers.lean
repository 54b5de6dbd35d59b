import QueueFabric.Labels
import QueueFabric.Compaction
import QueueFabric.Decodability

/-!
The labels a journal enrolls: those of its snapshot, then those of the declarations
committed after it, in the order of the records. A record that declares nothing new
leaves the ledger as it is, and so does every crash of the store that holds it.
-/

namespace QueueFabric

open QueueRecord Fabric Enrollment

/-! Reading records. -/

namespace Scan

/-- What the records say on their own, over no tables at all. -/
def reading (records : List JournalRecord) : Scan :=
  Scan.addRecords
    { recovery := {}, resources := .empty, queues := .empty, previousEpoch := default } records

theorem reading_concat (records : List JournalRecord) (record : JournalRecord) :
    reading (records ++ [record]) = (reading records).addRecord record := by
  rw [reading, reading, addRecords_append]
  rfl

/-- The commit a record carries, where it can be decoded. -/
def commits (record : JournalRecord) : List MutationRequest :=
  match record.type with
  | .commitMutation => (decodeMutation record.payload).toOption.toList
  | _ => []

theorem replayOrder_addRecord (scan : Scan) (record : JournalRecord) :
    (scan.addRecord record).replayOrder = scan.replayOrder ++ commits record := by
  rw [commits]
  unfold addRecord
  split
  all_goals
    rename_i type
    rw [type]
    simp only [List.append_nil]
  · split <;> rfl
  · split <;> rfl
  · split <;> rfl
  · split <;> rfl
  · split
    · rename_i status failed
      rw [failed]
      exact (List.append_nil _).symm
    · rename_i request decoded
      rw [decoded]
      rfl

theorem queues_addRecord {record : JournalRecord} (plain : record.type ≠ .queueState)
    (scan : Scan) : (scan.addRecord record).queues = scan.queues := by
  have ended := addRecord_cases scan record
  generalize scan.addRecord record = after at ended
  cases ended with
  | queue queue type decoded => exact absurd type plain
  | _ => rfl

theorem commits_of_type {record : JournalRecord} (plain : record.type ≠ .commitMutation) :
    commits record = [] := by
  rw [commits]
  split
  · exact absurd ‹_› plain
  · rfl

/-- Records that carry neither a queue nor a commit. -/
theorem addRecords_plain {records : List JournalRecord}
    (plain : ∀ record ∈ records, record.type ≠ .queueState ∧ record.type ≠ .commitMutation)
    (scan : Scan) : (scan.addRecords records).queues = scan.queues ∧
      (scan.addRecords records).replayOrder = scan.replayOrder := by
  induction records generalizing scan with
  | nil => exact ⟨rfl, rfl⟩
  | cons record rest ih =>
      obtain ⟨noQueue, noCommit⟩ := plain record List.mem_cons_self
      obtain ⟨queues, order⟩ := ih (fun other listed => plain other (List.mem_cons_of_mem _ listed))
        (scan.addRecord record)
      refine ⟨queues.trans (queues_addRecord noQueue scan), order.trans ?_⟩
      rw [replayOrder_addRecord, commits_of_type noCommit, List.append_nil]

/-- Records scanned over a base: the commits follow, and the queues read cover those held. -/
structure Above (base scan after : Scan) : Prop where
  order : after.replayOrder = base.replayOrder ++ scan.replayOrder
  queues : ∀ id, after.queues.get? id = (scan.queues.get? id).or (base.queues.get? id)

theorem Above.addRecord {base scan after : Scan} (above : Above base scan after)
    (record : JournalRecord) : Above base (scan.addRecord record) (after.addRecord record) where
  order := by
    rw [replayOrder_addRecord, replayOrder_addRecord, above.order, List.append_assoc]
  queues id := by
    by_cases plain : record.type = .queueState
    · rw [Scan.addRecord, Scan.addRecord, plain]
      simp only []
      split
      · exact above.queues id
      · rename_i queue decoded
        simp only [addQueue, Table.get?_insert]
        by_cases here : queue.definition.id = id
        · rw [if_pos here, if_pos here]
          rfl
        · rw [if_neg here, if_neg here]
          exact above.queues id
    · rw [queues_addRecord plain, queues_addRecord plain]
      exact above.queues id

theorem Above.addRecords {base scan after : Scan} (above : Above base scan after)
    (records : List JournalRecord) :
    Above base (scan.addRecords records) (after.addRecords records) := by
  induction records generalizing scan after with
  | nil => exact above
  | cons record rest ih => exact ih (above.addRecord record)

theorem above_addRecords (base : Scan) (records : List JournalRecord) :
    Above base (reading records) (base.addRecords records) := by
  refine Above.addRecords ⟨(List.append_nil _).symm, fun id => ?_⟩ records
  rw [Table.get?_empty, Option.none_or]

end Scan

/-! Ledgers. -/

def declarations (order : List MutationRequest) : List Label :=
  order.filterMap fun request => request.declaration.map DeclareQueuePayload.label

theorem declarations_append (first second : List MutationRequest) :
    declarations (first ++ second) = declarations first ++ declarations second :=
  List.filterMap_append

theorem mem_declarations {order : List MutationRequest} {label : Label} :
    label ∈ declarations order ↔ ∃ request ∈ order, ∃ payload,
      request.declaration = some payload ∧ payload.label = label := by
  simp only [declarations, List.mem_filterMap, Option.map_eq_some_iff]

/-- The records enroll these labels, by valid requests and within the limits. -/
structure Ledger (config : FabricConfig) (labels : List Label) (records : List JournalRecord) :
    Prop where
  enrolled : ∃ first, Catalog first (Scan.reading records).queues ∧
    enrollAll first (declarations (Scan.reading records).replayOrder) = labels
  valid : ∀ request ∈ (Scan.reading records).replayOrder, ∀ payload,
    request.declaration = some payload → request.validate.isOk = true
  permitted : Permitted config labels

theorem Ledger.concat {config : FabricConfig} {labels : List Label} {records : List JournalRecord}
    (ledger : Ledger config labels records) {record : JournalRecord}
    (plain : record.type ≠ .queueState)
    (valid : ∀ request ∈ Scan.commits record, ∀ payload, request.declaration = some payload →
      request.validate.isOk = true)
    (permitted : Permitted config (enrollAll labels (declarations (Scan.commits record)))) :
    Ledger config (enrollAll labels (declarations (Scan.commits record)))
      (records ++ [record]) where
  enrolled := by
    obtain ⟨first, catalog, enrolled⟩ := ledger.enrolled
    refine ⟨first, ?_, ?_⟩
    · rw [Scan.reading_concat, Scan.queues_addRecord plain]
      exact catalog
    · rw [Scan.reading_concat, Scan.replayOrder_addRecord, declarations_append, enrollAll_append,
        enrolled]
  valid request listed payload declared := by
    rw [Scan.reading_concat, Scan.replayOrder_addRecord, List.mem_append] at listed
    rcases listed with earlier | last
    · exact ledger.valid request earlier payload declared
    · exact valid request last payload declared
  permitted := permitted

/-- A record that declares nothing beyond the labels. -/
structure Familiar (labels : List Label) (record : JournalRecord) : Prop where
  plain : record.type ≠ .queueState
  known : ∀ request ∈ Scan.commits record, ∀ payload, request.declaration = some payload →
    request.validate.isOk = true ∧ payload.label ∈ labels

theorem Ledger.repeated {config : FabricConfig} {labels : List Label}
    {records : List JournalRecord} (ledger : Ledger config labels records)
    {record : JournalRecord} (familiar : Familiar labels record) :
    Ledger config labels (records ++ [record]) := by
  have same : enrollAll labels (declarations (Scan.commits record)) = labels := by
    refine enrollAll_of_subset fun label listed => ?_
    obtain ⟨request, committed, payload, declared, rfl⟩ := mem_declarations.mp listed
    exact (familiar.known request committed payload declared).2
  have grown := ledger.concat familiar.plain
    (fun request committed payload declared =>
      (familiar.known request committed payload declared).1) (by rw [same]; exact ledger.permitted)
  rwa [same] at grown

theorem familiar_of_type {labels : List Label} {record : JournalRecord}
    (plain : record.type ≠ .queueState) (quiet : record.type ≠ .commitMutation) :
    Familiar labels record where
  plain := plain
  known request committed := by
    rw [Scan.commits_of_type quiet] at committed
    cases committed

theorem eq_of_commits {request result : MutationRequest}
    (committed : result ∈ Scan.commits ⟨.commitMutation, encodeMutation request⟩) :
    result = request := by
  rw [Scan.commits] at committed
  cases decoded : decodeMutation (encodeMutation request) with
  | error status =>
      rw [decoded] at committed
      cases committed
  | ok stored =>
      rw [decoded] at committed
      rw [(eq_of_decodeMutation decoded).2] at committed
      exact List.mem_singleton.mp committed

/-- A commit familiar what the request declares, if it declares anything. -/
theorem familiar_commit {labels : List Label} {request : MutationRequest}
    (known : ∀ payload, request.declaration = some payload →
      request.validate.isOk = true ∧ payload.label ∈ labels) :
    Familiar labels ⟨.commitMutation, encodeMutation request⟩ where
  plain := by simp
  known result committed := by
    rw [eq_of_commits committed]
    exact known

theorem declaration_eq_some {request : MutationRequest} {payload : DeclareQueuePayload} :
    request.declaration = some payload ↔
      request.kind = .declareQueue ∧ request.payload = .declareQueue payload := by
  rw [MutationRequest.declaration]
  constructor
  · intro declared
    split at declared
    · rename_i kind carried
      rw [Option.some.injEq] at declared
      exact ⟨kind, declared ▸ carried⟩
    · cases declared
  · rintro ⟨kind, carried⟩
    rw [kind, carried]

theorem encoded_of_declaration {request : MutationRequest} {payload : DeclareQueuePayload}
    (declared : request.declaration = some payload) (valid : request.validate.isOk = true) :
    encodeMutation request ≠ [] ∧ decodeMutation (encodeMutation request) = .ok request := by
  obtain ⟨kind, carried⟩ := declaration_eq_some.mp declared
  have short : request.Short := by
    rw [MutationRequest.Short, carried]
    exact short_of_validate valid kind carried
  have readable : request.Readable := by
    rw [MutationRequest.Readable, carried]
    trivial
  have written := (encodeMutation_ne_nil_iff request).mpr short
  exact ⟨written, decodeMutation_encodeMutation request readable written⟩

/-- The commit of a declaration enrolls its label. -/
theorem Ledger.declared {config : FabricConfig} {labels : List Label}
    {records : List JournalRecord} (ledger : Ledger config labels records)
    {request : MutationRequest} {payload : DeclareQueuePayload}
    (declared : request.declaration = some payload) (valid : request.validate.isOk = true)
    (fresh : payload.label ∉ labels) (permitted : Permitted config (labels ++ [payload.label])) :
    Ledger config (labels ++ [payload.label])
      (records ++ [⟨.commitMutation, encodeMutation request⟩]) := by
  have same : enrollAll labels
      (declarations (Scan.commits ⟨.commitMutation, encodeMutation request⟩)) =
        labels ++ [payload.label] := by
    have committed : Scan.commits ⟨.commitMutation, encodeMutation request⟩ = [request] := by
      rw [Scan.commits, (encoded_of_declaration declared valid).2]
      rfl
    rw [committed, declarations, List.filterMap_cons, declared]
    exact enroll_of_fresh fresh
  have plain : (⟨.commitMutation, encodeMutation request⟩ : JournalRecord).type ≠ .queueState := by
    simp
  have grown := ledger.concat plain
    (fun result committed _ _ => by rw [eq_of_commits committed]; exact valid)
    (by rw [same]; exact permitted)
  rwa [same] at grown

/-! Stores that keep a ledger. -/

/-- Whatever a crash leaves of the store enrolls the labels. -/
def Keeps (config : FabricConfig) (labels : List Label) (store : StableStore) : Prop :=
  ∀ survivors, Ledger config labels (store.synced ++ store.pending.take survivors)

namespace StableStore

/-- The next three calls append a begin and a commit record and then lose the sync. -/
def losesSync (store : StableStore) : Bool :=
  store.opened && store.script.take 3 = [true, true, false]

theorem append_cases (store : StableStore) (type : JournalRecordType) (payload : Bytes) :
    (store.opened = true ∧ store.outcome = true ∧
      store.append type payload = (.success,
        { store.advance with pending := store.pending ++ [⟨type, payload⟩] })) ∨
    (¬ (store.opened = true ∧ store.outcome = true) ∧
      (store.append type payload).1.isOk = false ∧
      (store.append type payload).2.synced = store.synced ∧
      (store.append type payload).2.pending = store.pending ∧
      (store.append type payload).2.opened = store.opened) := by
  rw [append]
  by_cases closed : store.opened = true
  · by_cases taken : store.outcome = true
    · exact .inl ⟨closed, taken, by simp [closed, taken]⟩
    · exact .inr ⟨fun both => taken both.2, by simp [closed, taken, Status.isOk, advance]⟩
  · exact .inr ⟨fun both => closed both.1, by simp [closed, notOpen, Status.isOk]⟩

theorem sync_cases (store : StableStore) :
    (store.opened = true ∧ store.outcome = true ∧
      store.sync = (.success, { store.advance with
        synced := store.synced ++ store.pending
        pending := [] })) ∨
    (¬ (store.opened = true ∧ store.outcome = true) ∧ store.sync.1.isOk = false ∧
      store.sync.2.synced = store.synced ∧ store.sync.2.pending = store.pending ∧
      store.sync.2.opened = store.opened) := by
  rw [sync]
  by_cases closed : store.opened = true
  · by_cases taken : store.outcome = true
    · exact .inl ⟨closed, taken, by simp [closed, taken]⟩
    · exact .inr ⟨fun both => taken both.2, by simp [closed, taken, Status.isOk, advance]⟩
  · exact .inr ⟨fun both => closed both.1, by simp [closed, notOpen, Status.isOk]⟩

/-- How far the three calls of a commit get, and what the store holds then. -/
inductive CommitEnd (store : StableStore) (encoded : Bytes) : Status × StableStore → Prop
  | refused (status : Status) (last : StableStore) (failed : status.isOk = false)
      (balked : store.opened = false ∨ false ∈ store.script.take 3)
      (synced : last.synced = store.synced) (still : last.opened = store.opened)
      (pending : last.pending = store.pending ∨
        last.pending = store.pending ++ [⟨.beginAttempt, encoded⟩]) :
      CommitEnd store encoded (status, last)
  | unsynced (status : Status) (last : StableStore) (failed : status.isOk = false)
      (lost : store.losesSync = true) (still : last.opened = store.opened)
      (synced : last.synced = store.synced)
      (pending : last.pending =
        store.pending ++ [⟨.beginAttempt, encoded⟩, ⟨.commitMutation, encoded⟩]) :
      CommitEnd store encoded (status, last)
  | synced (last : StableStore) (opened : store.opened = true)
      (synced : last.synced =
        store.contents ++ [⟨.beginAttempt, encoded⟩, ⟨.commitMutation, encoded⟩])
      (pending : last.pending = []) (still : last.opened = true)
      (script : last.script = store.script.drop 3) : CommitEnd store encoded (.success, last)

theorem mem_take_of_refused {script : List Bool} {count : Nat}
    (refused : ¬ (script.drop count).headD true = true) (below : count < 3) :
    false ∈ script.take 3 := by
  have failed : script[count]? = some false := by
    rw [← List.head?_drop]
    rw [List.headD_eq_head?_getD] at refused
    cases next : (script.drop count).head? with
    | none => simp [next] at refused
    | some outcome => simpa [next] using refused
  rw [List.mem_iff_getElem?]
  exact ⟨count, by rw [List.getElem?_take_of_lt below]; exact failed⟩

theorem headD_tail_of_third {script : List Bool} (first : script.headD true = true)
    (second : script.tail.headD true = true) (third : ¬ script.tail.tail.headD true = true) :
    script.take 3 = [true, true, false] := by
  match script with
  | [] => simp at third
  | [_] => simp at third
  | [_, _] => simp at third
  | one :: two :: three :: _ =>
      simp only [List.tail_cons, List.headD_cons, Bool.not_eq_true] at first second third
      rw [first, second, third]
      rfl

theorem commitRecords_cases (store : StableStore) (encoded : Bytes) :
    CommitEnd store encoded (Fabric.commitRecords store encoded) := by
  rw [Fabric.commitRecords]
  rcases append_cases store .beginAttempt encoded with
    ⟨opened, first, begun⟩ | ⟨balked, failed, synced, pending, still⟩
  · simp only [show IJournal.append store .beginAttempt encoded =
      store.append .beginAttempt encoded from rfl, begun]
    generalize middle : ({ store.advance with
      pending := store.pending ++ [⟨.beginAttempt, encoded⟩] } : StableStore) = begunStore
    have middleOpened : begunStore.opened = true := by
      rw [← middle]
      exact opened
    have middleScript : begunStore.script = store.script.tail := by
      rw [← middle]
      rfl
    have middleSynced : begunStore.synced = store.synced := by
      rw [← middle]
      rfl
    have middlePending : begunStore.pending = store.pending ++ [⟨.beginAttempt, encoded⟩] := by
      rw [← middle]
    rcases append_cases begunStore .commitMutation encoded with
      ⟨_, second, committed⟩ | ⟨balked, failed, synced, pending, still⟩
    · simp only [show IJournal.append begunStore .commitMutation encoded =
        begunStore.append .commitMutation encoded from rfl, committed]
      generalize last : ({ begunStore.advance with
        pending := begunStore.pending ++ [⟨.commitMutation, encoded⟩] } : StableStore) =
          committedStore
      have lastOpened : committedStore.opened = true := by
        rw [← last]
        exact middleOpened
      have lastScript : committedStore.script = store.script.tail.tail := by
        rw [← last, ← middleScript]
        rfl
      have lastSynced : committedStore.synced = store.synced := by
        rw [← last, ← middleSynced]
        rfl
      have lastPending : committedStore.pending =
          store.pending ++ [⟨.beginAttempt, encoded⟩, ⟨.commitMutation, encoded⟩] := by
        rw [← last]
        simp only [middlePending, List.append_assoc, List.singleton_append]
      rcases sync_cases committedStore with
        ⟨_, third, flushed⟩ | ⟨refused, failed, synced, pending, still⟩
      · simp only [show IJournal.sync committedStore = committedStore.sync from rfl, flushed]
        refine .synced _ opened ?_ rfl lastOpened ?_
        · simp only [lastSynced, lastPending, contents, List.append_assoc]
        · simp only [advance, lastScript, ← List.drop_one, List.drop_drop]
      · simp only [show IJournal.sync committedStore = committedStore.sync from rfl, failed]
        refine .unsynced _ _ rfl ?_ (still.trans (lastOpened.trans opened.symm))
          (synced.trans lastSynced) (pending.trans lastPending)
        have third : ¬ store.script.tail.tail.headD true = true := fun taken =>
          refused ⟨lastOpened, by rw [outcome, lastScript]; exact taken⟩
        rw [outcome, middleScript] at second
        simp [losesSync, opened, headD_tail_of_third first second third]
    · simp only [show IJournal.append begunStore .commitMutation encoded =
        begunStore.append .commitMutation encoded from rfl, failed]
      have second : ¬ (store.script.drop 1).headD true = true := fun taken =>
        balked ⟨middleOpened, by rw [outcome, middleScript, ← List.drop_one]; exact taken⟩
      exact .refused _ _ failed (.inr (mem_take_of_refused second (by omega)))
        (synced.trans middleSynced) (still.trans (middleOpened.trans opened.symm))
        (.inr (pending.trans middlePending))
  · simp only [show IJournal.append store .beginAttempt encoded =
      store.append .beginAttempt encoded from rfl, failed]
    refine .refused _ _ failed ?_ synced still (.inl pending)
    by_cases opened : store.opened = true
    · have first : ¬ (store.script.drop 0).headD true = true := fun taken =>
        balked ⟨opened, taken⟩
      exact .inr (mem_take_of_refused first (by omega))
    · exact .inl (by simpa using opened)

end StableStore

section Keeps

variable {config : FabricConfig} {labels : List Label} {store : StableStore}

theorem Keeps.contents (keeps : Keeps config labels store) :
    Ledger config labels store.contents := by
  have whole := keeps store.pending.length
  rwa [List.take_length] at whole

theorem Keeps.of_synced {last : StableStore} (ledger : Ledger config labels last.synced)
    (empty : last.pending = []) : Keeps config labels last := by
  intro survivors
  rw [empty, List.take_nil, List.append_nil]
  exact ledger

theorem Keeps.same {last : StableStore} (keeps : Keeps config labels store)
    (synced : last.synced = store.synced) (pending : last.pending = store.pending) :
    Keeps config labels last := by
  intro survivors
  rw [synced, pending]
  exact keeps survivors

theorem Keeps.extended {last : StableStore} (keeps : Keeps config labels store)
    {record : JournalRecord} (familiar : Familiar labels record)
    (synced : last.synced = store.synced) (pending : last.pending = store.pending ++ [record]) :
    Keeps config labels last := by
  intro survivors
  rw [synced, pending]
  by_cases inside : survivors ≤ store.pending.length
  · rw [List.take_append_of_le_length inside]
    exact keeps survivors
  · rw [List.take_of_length_le (by rw [List.length_append, List.length_singleton]; omega),
      ← List.append_assoc]
    exact keeps.contents.repeated familiar

theorem Keeps.append (keeps : Keeps config labels store) {type : JournalRecordType}
    {payload : Bytes} (familiar : Familiar labels ⟨type, payload⟩) :
    Keeps config labels (store.append type payload).2 := by
  rcases store.append_cases type payload with ⟨_, _, taken⟩ | ⟨_, _, synced, pending, _⟩
  · rw [taken]
    exact keeps.extended familiar rfl rfl
  · exact keeps.same synced pending

theorem Keeps.sync (keeps : Keeps config labels store) : Keeps config labels store.sync.2 := by
  rcases store.sync_cases with ⟨_, _, taken⟩ | ⟨_, _, synced, pending, _⟩
  · rw [taken]
    exact .of_synced keeps.contents rfl
  · exact keeps.same synced pending

theorem Keeps.openStore (keeps : Keeps config labels store) :
    Keeps config labels store.openStore.2 := by
  rw [StableStore.openStore]
  split
  · exact .of_synced keeps.contents rfl
  · exact keeps.same rfl rfl

theorem Keeps.crash (keeps : Keeps config labels store) (survivors : Nat) :
    Keeps config labels (store.crash survivors) := .of_synced (keeps survivors) rfl

/-- A commit that declares nothing new keeps the ledger however far it gets. -/
theorem Keeps.recommitted (keeps : Keeps config labels store) {encoded : Bytes}
    (familiar : Familiar labels ⟨.commitMutation, encoded⟩) :
    Keeps config labels (Fabric.commitRecords store encoded).2 := by
  have begun : Familiar labels ⟨.beginAttempt, encoded⟩ := familiar_of_type (by simp) (by simp)
  have whole : Ledger config labels
      (store.contents ++ [⟨.beginAttempt, encoded⟩, ⟨.commitMutation, encoded⟩]) := by
    have both := (keeps.contents.repeated begun).repeated familiar
    rwa [List.append_assoc] at both
  have ended := store.commitRecords_cases encoded
  generalize Fabric.commitRecords store encoded = result at ended
  cases ended with
  | refused status last failed balked synced still pending =>
      rcases pending with same | one
      · exact keeps.same synced same
      · exact keeps.extended begun synced one
  | unsynced status last failed lost still synced pending =>
      have first : Keeps config labels
          { store with pending := store.pending ++ [⟨.beginAttempt, encoded⟩] } :=
        keeps.extended begun rfl rfl
      refine first.extended familiar synced ?_
      rw [pending, List.append_assoc]
      rfl
  | synced last opened synced pending still script =>
      exact .of_synced (synced ▸ whole) pending

/-- The commit of a declaration that is refused leaves nothing of it, unless its sync is lost. -/
theorem Keeps.uncommitted (keeps : Keeps config labels store) {encoded : Bytes}
    (refused : (Fabric.commitRecords store encoded).1.isOk = false)
    (flushed : store.losesSync = false) :
    Keeps config labels (Fabric.commitRecords store encoded).2 := by
  have begun : Familiar labels ⟨.beginAttempt, encoded⟩ := familiar_of_type (by simp) (by simp)
  have ended := store.commitRecords_cases encoded
  generalize Fabric.commitRecords store encoded = result at ended refused
  cases ended with
  | refused status last failed balked synced still pending =>
      rcases pending with same | one
      · exact keeps.same synced same
      · exact keeps.extended begun synced one
  | unsynced status last failed lost still synced pending =>
      rw [flushed] at lost
      cases lost
  | synced last opened synced pending still script => cases refused

/-- The commit of a declaration that is taken enrolls its label. -/
theorem Keeps.committed (keeps : Keeps config labels store) {request : MutationRequest}
    {payload : DeclareQueuePayload} (declared : request.declaration = some payload)
    (valid : request.validate.isOk = true) (fresh : payload.label ∉ labels)
    (permitted : Permitted config (labels ++ [payload.label]))
    (taken : (Fabric.commitRecords store (encodeMutation request)).1.isOk = true) :
    Keeps config (labels ++ [payload.label])
      (Fabric.commitRecords store (encodeMutation request)).2 := by
  have ended := store.commitRecords_cases (encodeMutation request)
  generalize Fabric.commitRecords store (encodeMutation request) = result at ended taken
  cases ended with
  | refused status last failed balked synced still pending =>
      rw [failed] at taken
      cases taken
  | unsynced status last failed lost still synced pending =>
      rw [failed] at taken
      cases taken
  | synced last opened synced pending still script =>
      refine .of_synced ?_ pending
      have begun : Familiar labels ⟨.beginAttempt, encodeMutation request⟩ :=
        familiar_of_type (by simp) (by simp)
      have both := (keeps.contents.repeated begun).declared declared valid fresh permitted
      rw [List.append_assoc] at both
      rw [synced]
      exact both

end Keeps

end QueueFabric
