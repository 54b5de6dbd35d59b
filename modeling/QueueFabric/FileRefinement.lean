import QueueFabric.Corruption
import QueueFabric.Lib.Simulation
import QueueFabric.StoreCases

/-!
The journal file refines the durable store. Whatever a writer does to a file, and
wherever crashes cut it, some run of the store gives the same answers: what was
synced is read back, and nothing is read back that was not appended.
-/

namespace QueueFabric

open Simulation

/-- What is done to a journal. A crash keeps at least the bytes that were synced; the next process
opens what is left and drops a torn tail. -/
inductive StoreCall
  | append (type : JournalRecordType) (payload : Bytes)
  | sync (flushes : Bool)
  | rewrite (records : List JournalRecord)
  | writeHeader (boot : BootId) (epoch : Epoch)
  | crash (size : Nat)

/-- A journal file with the number of its bytes that are on stable storage. -/
structure DurableFile where
  journal : FileJournal
  floor : Nat

/-- Whether a call succeeded, and the records the journal returns after it. -/
structure StoreAnswer where
  ok : Bool
  records : List JournalRecord

namespace DurableFile

def answered (floor : Nat) (result : Status × FileJournal) : StoreAnswer × DurableFile :=
  (⟨result.1.isOk, result.2.records⟩, ⟨result.2, floor⟩)

def step (file : DurableFile) : StoreCall → StoreAnswer × DurableFile
  | .append type payload => answered file.floor (file.journal.append type payload)
  | .sync true =>
      let synced := file.journal.sync
      answered (if synced.1.isOk then file.journal.file.length else file.floor) synced
  | .sync false => (⟨false, file.journal.records⟩, file)
  | .rewrite records =>
      let rewritten := file.journal.rewrite records
      answered (if rewritten.1.isOk then rewritten.2.file.length else file.floor) rewritten
  | .writeHeader boot epoch => answered file.floor (file.journal.writeHeader boot epoch)
  | .crash size =>
      let opened := FileJournal.openFile
        { file.journal with file := file.journal.file.take (max file.floor size) }
      let dropped := opened.2.truncateToValidPrefix.2
      (⟨opened.1.isOk, dropped.records⟩, ⟨dropped, dropped.file.length⟩)

end DurableFile

namespace StableStore

def answer (result : Status × StableStore) : StoreAnswer := ⟨result.1.isOk, result.2.contents⟩

theorem answer_settled {store : StableStore} (settled : store.pending = []) :
    answer (.success, store) = ⟨true, store.synced⟩ := by
  rw [answer, contents, settled, List.append_nil]
  rfl

/-- The store answers a call. Appends and rewrites may fail, a sync fails when the file does not
flush, and after a crash the store opens on what survived. -/
inductive Moves (store : StableStore) : StoreCall → StoreAnswer → StableStore → Prop
  | append (type : JournalRecordType) (payload : Bytes) (script : List Bool) :
      Moves store (.append type payload) (answer (append { store with script } type payload))
        (append { store with script } type payload).2
  | sync (flushes : Bool) :
      Moves store (.sync flushes) (answer (sync { store with script := [flushes] }))
        (sync { store with script := [flushes] }).2
  | rewrite (records : List JournalRecord) (script : List Bool) :
      Moves store (.rewrite records) (answer (rewrite { store with script } records))
        (rewrite { store with script } records).2
  | writeHeader (boot : BootId) (epoch : Epoch) :
      Moves store (.writeHeader boot epoch) (answer (IJournal.writeHeader store boot epoch))
        (IJournal.writeHeader store boot epoch).2
  | crash (size survivors : Nat) :
      Moves store (.crash size) (answer (openStore { store.crash survivors with script := [] }))
        (openStore { store.crash survivors with script := [] }).2

variable {store next : StableStore} {call : StoreCall} {given : StoreAnswer}

theorem Moves.synced_of_sync (opened : store.opened = true)
    (moves : Moves store (.sync true) given next) :
    next.synced = store.contents ∧ next.contents = store.contents := by
  cases moves
  simp [StableStore.sync, opened, outcome, contents, advance]

/-- Only a rewrite gives up what was synced. -/
theorem Moves.keeps_synced (moves : Moves store call given next)
    (kept : ∀ records, call ≠ .rewrite records) : store.synced <+: next.synced := by
  cases moves with
  | append type payload script =>
      rw [StableStore.append]
      split
      · exact List.prefix_refl _
      split <;> exact List.prefix_refl _
  | sync flushes =>
      rw [StableStore.sync]
      split
      · exact List.prefix_refl _
      split
      · exact List.prefix_append _ _
      · exact List.prefix_refl _
  | rewrite records script => exact absurd rfl (kept records)
  | writeHeader boot epoch => exact List.prefix_refl _
  | crash size survivors =>
      simp only [openStore, StableStore.crash, outcome, List.headD_nil, ↓reduceIte,
        List.append_nil]
      exact List.prefix_append _ _

/-- A record is there because it was appended or rewritten. -/
theorem Moves.mem_contents (moves : Moves store call given next)
    (kept : ∀ records, call ≠ .rewrite records) {record : JournalRecord}
    (member : record ∈ next.contents) :
    record ∈ store.contents ∨ call = .append record.type record.payload := by
  cases moves with
  | append type payload script =>
      rcases mem_contents_append member with earlier | rfl
      · exact .inl earlier
      · exact .inr rfl
  | sync flushes => exact .inl (contents_sync { store with script := [flushes] } ▸ member)
  | rewrite records script => exact absurd rfl (kept records)
  | writeHeader boot epoch => exact .inl member
  | crash size survivors =>
      rw [contents_openStore] at member
      exact .inl (@mem_contents_crash store survivors record member)

/-- What a store keeps of records synced before some calls. -/
structure KeepsSince (records : List JournalRecord) (calls : List StoreCall)
    (store : StableStore) : Prop where
  durable : records <+: store.synced
  appended : ∀ record ∈ store.contents,
    record ∈ records ∨ .append record.type record.payload ∈ calls

theorem KeepsSince.move {records : List JournalRecord} {calls : List StoreCall}
    (keeps : KeepsSince records calls store) (listed : call ∈ calls)
    (unrewritten : ∀ records, .rewrite records ∉ calls) (moves : Moves store call given next) :
    KeepsSince records calls next := by
  have kept : ∀ records, call ≠ .rewrite records :=
    fun records same => unrewritten records (same ▸ listed)
  refine ⟨keeps.durable.trans (moves.keeps_synced kept), fun record member => ?_⟩
  rcases moves.mem_contents kept member with earlier | appended
  · exact keeps.appended record earlier
  · exact .inr (appended ▸ listed)

end StableStore

namespace FileJournal

/-- The file holds the records of the store, and the synced ones are on stable storage. -/
structure Mirrors (config : JournalConfig) (file : DurableFile) (store : StableStore) : Prop where
  whole : file.journal.Whole config
  records : file.journal.records = store.contents
  floor : file.floor = boundary store.synced
  opened : store.opened = true

variable {config : JournalConfig}

theorem Whole.length {journal : FileJournal} (whole : journal.Whole config) :
    journal.file.length = boundary journal.records := by
  obtain ⟨boot, epoch, holds⟩ := whole.holds
  exact holds.length

theorem Whole.isOpen {journal : FileJournal} (whole : journal.Whole config) :
    journal.isOpen = true := by
  obtain ⟨boot, epoch, holds⟩ := whole.holds
  exact holds.isOpen

/-- An append adds the record, or changes nothing. -/
theorem Whole.append_cases {journal : FileJournal} (whole : journal.Whole config)
    (type : JournalRecordType) (payload : Bytes) :
    (journal.append type payload).1.isOk = true ∧
        (journal.append type payload).2.records = journal.records ++ [⟨type, payload⟩] ∨
      (journal.append type payload).1.isOk = false ∧
        (journal.append type payload).2.records = journal.records := by
  rw [FileJournal.append, if_neg (by simp [whole.isOpen])]
  split
  · exact .inr ⟨rfl, rfl⟩
  split
  · exact .inr ⟨rfl, rfl⟩
  · exact .inl ⟨rfl, rfl⟩

theorem Whole.rewrite_cases {journal : FileJournal} (whole : journal.Whole config)
    (records : List JournalRecord) :
    (journal.rewrite records).1.isOk = true ∧ (journal.rewrite records).2.records = records ∨
      (journal.rewrite records).1.isOk = false ∧
        (journal.rewrite records).2.records = journal.records := by
  rw [FileJournal.rewrite, if_neg (by simp [whole.isOpen])]
  split
  · exact .inr ⟨rfl, rfl⟩
  · exact .inl ⟨rfl, rfl⟩

theorem records_truncate (journal : FileJournal) :
    journal.truncateToValidPrefix.2.records = journal.records := by
  rw [truncateToValidPrefix]
  split
  · rfl
  split <;> rfl

/-- What a crash leaves is opened, and the records wholly inside it are read back. -/
theorem Whole.crash {journal : FileJournal} (whole : journal.Whole config)
    (room : journalHeaderBytes ≤ config.maxFileBytes.toNat) {size : Nat}
    (header : journalHeaderBytes ≤ size) :
    let opened := openFile { journal with file := journal.file.take size }
    opened.1.isOk = true ∧ opened.2.truncateToValidPrefix.2.Whole config ∧
      Survives journal.records size opened.2.truncateToValidPrefix.2.records := by
  have ⟨bounded, ⟨boot, epoch, holds⟩, allowed, small⟩ := whole
  have length := whole.length
  have settings := holds.config
  obtain ⟨within, same⟩ : min size journal.file.length ≤ journal.file.length ∧
      journal.file.take size = journal.file.take (min size journal.file.length) :=
    ⟨Nat.min_le_right _ _, by rw [List.take_eq_take_iff]; simp⟩
  have least : journalHeaderBytes ≤ min size journal.file.length := by
    rw [boundary] at length
    omega
  obtain ⟨kept, rest, cut, split, size_eq, last, file⟩ := holds.take least within
  have fits : (journal.file.take size).length ≤ journal.config.maxFileBytes.toNat := by
    rw [settings, List.length_take]
    rcases small with empty | small
    · have bare : journal.file.length = journalHeaderBytes := by
        rw [length, empty]
        rfl
      omega
    · omega
  have opened : Opens { journal with file := journal.file.take size } boot epoch kept
      (if cut = 0 then 0 else 1) :=
    opens_cut (by rw [same, file]) (settings ▸ bounded) (by rw [← split]; exact settings ▸ allowed)
      last fits
  have success : (openFile { journal with file := journal.file.take size }).1.isOk = true := by
    rw [opened.status]
    rfl
  refine ⟨success, whole.recover header success, ?_⟩
  rw [records_truncate, opened.records, split]
  have survives := @survives_cut kept rest cut last
  refine ⟨survives.listed, ?_, fun other listed inside => survives.longest other listed ?_⟩
  · have inside := survives.inside
    omega
  · -- a boundary inside the file and inside the cut is inside both
    have short : boundary other ≤ journal.file.length := by
      obtain ⟨more, whole_eq⟩ := listed
      rw [length, split, ← whole_eq, boundary_append]
      exact Nat.le_add_right _ _
    omega

/-- The records that survive a crash are the synced ones and the first of the others. -/
theorem Mirrors.survivors {file : DurableFile} {store : StableStore}
    (mirrors : Mirrors config file store) {size : Nat} {kept : List JournalRecord}
    (survives : Survives file.journal.records (max file.floor size) kept) :
    ∃ survivors, kept = store.synced ++ store.pending.take survivors := by
  have listed := survives.listed
  rw [mirrors.records, StableStore.contents] at listed
  have least : store.synced <+: kept := by
    refine survives.longest store.synced ?_ ?_
    · rw [mirrors.records]
      exact List.prefix_append _ _
    · rw [mirrors.floor]
      exact Nat.le_max_left _ _
  obtain ⟨extra, rfl⟩ := least
  rw [List.prefix_append_right_inj] at listed
  exact ⟨extra.length, congrArg _ (List.prefix_iff_eq_take.mp listed)⟩

/-- A call that left the journal as it was is one the store failed. -/
theorem Mirrors.kept {file : DurableFile} {store next : StableStore} {call : StoreCall}
    {journal : FileJournal} (mirrors : Mirrors config file store)
    (moved : StableStore.Moves store call ⟨false, store.contents⟩ next)
    (contents : next.contents = store.contents) (synced : next.synced = store.synced)
    (opened : next.opened = true) (whole : journal.Whole config)
    (same : journal.records = file.journal.records) :
    ∃ next, StableStore.Moves store call ⟨false, journal.records⟩ next ∧
      Mirrors config ⟨journal, file.floor⟩ next := by
  refine ⟨next, ?_, whole, ?_, ?_, opened⟩
  · rw [same, mirrors.records]
    exact moved
  · rw [contents, ← mirrors.records]
    exact same
  · rw [synced]
    exact mirrors.floor

theorem mirrors_append {file : DurableFile} {store : StableStore}
    (mirrors : Mirrors config file store) (type : JournalRecordType) (payload : Bytes) :
    ∃ next, StableStore.Moves store (.append type payload)
        (file.step (.append type payload)).1 next ∧
      Mirrors config (file.step (.append type payload)).2 next := by
  have whole := mirrors.whole.append type payload
  rcases mirrors.whole.append_cases type payload with ⟨ok, grown⟩ | ⟨failed, same⟩
  · have appended : StableStore.append { store with script := [] } type payload =
        (.success, { store with pending := store.pending ++ [⟨type, payload⟩], script := [] }) := by
      simp [StableStore.append, mirrors.opened, StableStore.outcome, StableStore.advance]
    have moved := @StableStore.Moves.append store type payload []
    rw [appended] at moved
    have contents : store.contents ++ [⟨type, payload⟩] =
        store.synced ++ (store.pending ++ [⟨type, payload⟩]) := List.append_assoc _ _ _
    refine ⟨{ store with pending := store.pending ++ [⟨type, payload⟩], script := [] }, ?_,
      whole, ?_, mirrors.floor, mirrors.opened⟩
    · simp only [DurableFile.step, DurableFile.answered, ok, grown, mirrors.records, contents]
      exact moved
    · simp only [DurableFile.step, DurableFile.answered, grown, mirrors.records]
      exact contents
  · have failing : StableStore.append { store with script := [false] } type payload =
        (⟨.internal, "cannot append journal record payload"⟩, { store with script := [] }) := by
      simp [StableStore.append, mirrors.opened, StableStore.outcome, StableStore.advance]
    have moved := @StableStore.Moves.append store type payload [false]
    rw [failing] at moved
    have kept := mirrors.kept moved rfl rfl mirrors.opened whole same
    simpa only [DurableFile.step, DurableFile.answered, failed] using kept

theorem mirrors_sync {file : DurableFile} {store : StableStore}
    (mirrors : Mirrors config file store) (flushes : Bool) :
    ∃ next, StableStore.Moves store (.sync flushes) (file.step (.sync flushes)).1 next ∧
      Mirrors config (file.step (.sync flushes)).2 next := by
  cases flushes with
  | false =>
      have failing : StableStore.sync { store with script := [false] } =
          (⟨.notDurable, "fsync failed"⟩, { store with script := [] }) := by
        simp [StableStore.sync, mirrors.opened, StableStore.outcome, StableStore.advance]
      have moved := @StableStore.Moves.sync store false
      rw [failing] at moved
      exact mirrors.kept moved rfl rfl mirrors.opened mirrors.whole rfl
  | true =>
      have flushed : file.journal.sync = (.success, file.journal) := by
        rw [FileJournal.sync, if_neg (by simp [mirrors.whole.isOpen])]
      have synced : StableStore.sync { store with script := [true] } =
          (.success, { store with synced := store.contents, pending := [], script := [] }) := by
        simp [StableStore.sync, mirrors.opened, StableStore.outcome, StableStore.advance,
          StableStore.contents]
      have moved := @StableStore.Moves.sync store true
      rw [synced] at moved
      have length := mirrors.whole.length
      rw [mirrors.records] at length
      have contents : store.contents ++ [] = store.contents := List.append_nil _
      have ok : Status.success.isOk = true := rfl
      refine ⟨{ store with synced := store.contents, pending := [], script := [] }, ?_, ?_⟩
      · simp only [DurableFile.step, flushed, DurableFile.answered, mirrors.records]
        rw [StableStore.answer_settled rfl] at moved
        exact moved
      · simp only [DurableFile.step, flushed, DurableFile.answered, ok, ↓reduceIte, length]
        exact ⟨mirrors.whole, mirrors.records.trans contents.symm, rfl, mirrors.opened⟩

theorem mirrors_rewrite {file : DurableFile} {store : StableStore}
    (mirrors : Mirrors config file store) (records : List JournalRecord) :
    ∃ next, StableStore.Moves store (.rewrite records) (file.step (.rewrite records)).1 next ∧
      Mirrors config (file.step (.rewrite records)).2 next := by
  have whole := mirrors.whole.rewrite records
  rcases mirrors.whole.rewrite_cases records with ⟨ok, replaced⟩ | ⟨failed, same⟩
  · have rewritten : StableStore.rewrite { store with script := [] } records =
        (.success, { store with synced := records, pending := [], script := [] }) := by
      simp [StableStore.rewrite, mirrors.opened, StableStore.outcome, StableStore.advance]
    have moved := @StableStore.Moves.rewrite store records []
    have contents : records ++ [] = records := List.append_nil _
    rw [rewritten, StableStore.answer_settled rfl] at moved
    have length := whole.length
    rw [replaced] at length
    refine ⟨{ store with synced := records, pending := [], script := [] }, ?_, whole, ?_, ?_,
      mirrors.opened⟩
    · simp only [DurableFile.step, DurableFile.answered, ok, replaced]
      exact moved
    · simp only [DurableFile.step, DurableFile.answered, replaced]
      exact contents.symm
    · simp only [DurableFile.step, DurableFile.answered, ok, ↓reduceIte, length]
  · have failing : StableStore.rewrite { store with script := [false] } records =
        (⟨.notDurable, "compaction failed; original journal retained"⟩,
          { store with script := [] }) := by
      simp [StableStore.rewrite, mirrors.opened, StableStore.outcome, StableStore.advance]
    have moved := @StableStore.Moves.rewrite store records [false]
    rw [failing] at moved
    have kept := mirrors.kept moved rfl rfl mirrors.opened whole same
    simpa only [DurableFile.step, DurableFile.answered, failed, Bool.false_eq_true, ↓reduceIte]
      using kept

theorem mirrors_writeHeader {file : DurableFile} {store : StableStore}
    (mirrors : Mirrors config file store) (boot : BootId) (epoch : Epoch) :
    ∃ next, StableStore.Moves store (.writeHeader boot epoch)
        (file.step (.writeHeader boot epoch)).1 next ∧
      Mirrors config (file.step (.writeHeader boot epoch)).2 next := by
  have written : file.journal.writeHeader boot epoch =
      (.success, { file.journal with
        file := writeAt file.journal.file 0 (encodeHeader boot epoch)
        headerBoot := boot
        headerEpoch := epoch }) := by
    rw [FileJournal.writeHeader, if_neg (by simp [mirrors.whole.isOpen])]
  have whole := mirrors.whole.writeHeader boot epoch
  rw [written] at whole
  refine ⟨store, ?_, ?_⟩
  · simp only [DurableFile.step, written, DurableFile.answered, mirrors.records]
    exact .writeHeader boot epoch
  · simp only [DurableFile.step, written, DurableFile.answered]
    exact ⟨whole, mirrors.records, mirrors.floor, mirrors.opened⟩

theorem mirrors_crash {file : DurableFile} {store : StableStore}
    (room : journalHeaderBytes ≤ config.maxFileBytes.toNat)
    (mirrors : Mirrors config file store) (size : Nat) :
    ∃ next, StableStore.Moves store (.crash size) (file.step (.crash size)).1 next ∧
      Mirrors config (file.step (.crash size)).2 next := by
  have header : journalHeaderBytes ≤ max file.floor size := by
    have floor := mirrors.floor
    rw [boundary] at floor
    omega
  obtain ⟨ok, whole, survives⟩ := mirrors.whole.crash room header
  obtain ⟨survivors, kept⟩ := mirrors.survivors survives
  have length := whole.length
  have reopened : StableStore.openStore { store.crash survivors with script := [] } =
      (.success, { synced := store.synced ++ store.pending.take survivors, opened := true }) := by
    simp [StableStore.openStore, StableStore.crash, StableStore.outcome, StableStore.advance]
  have moved := @StableStore.Moves.crash store size survivors
  rw [reopened, StableStore.answer_settled rfl] at moved
  refine ⟨{ synced := store.synced ++ store.pending.take survivors, opened := true }, ?_, whole,
    kept.trans (List.append_nil _).symm, length.trans (congrArg boundary kept), rfl⟩
  simp only [DurableFile.step, ok, kept]
  exact moved

theorem mirrors_step {file : DurableFile} {store : StableStore}
    (room : journalHeaderBytes ≤ config.maxFileBytes.toNat)
    (mirrors : Mirrors config file store) (call : StoreCall) :
    ∃ next, StableStore.Moves store call (file.step call).1 next ∧
      Mirrors config (file.step call).2 next := by
  cases call with
  | append type payload => exact mirrors_append mirrors type payload
  | sync flushes => exact mirrors_sync mirrors flushes
  | rewrite records => exact mirrors_rewrite mirrors records
  | writeHeader boot epoch => exact mirrors_writeHeader mirrors boot epoch
  | crash size => exact mirrors_crash room mirrors size

theorem mirrors_simulates (room : journalHeaderBytes ≤ config.maxFileBytes.toNat) :
    Simulates DurableFile.step StableStore.Moves (Mirrors config) :=
  fun _ _ call mirrors => mirrors_step room mirrors call

/-- The file `open` creates; its header is synced. -/
def created (config : JournalConfig) : DurableFile :=
  ⟨(openFile { config }).2, journalHeaderBytes⟩

theorem mirrors_created (opens : (openFile { config }).1.isOk = true) :
    Mirrors config (created config) { opened := true } := by
  have whole := whole_of_produced (.created opens)
  have holds := holds_create opens
  exact ⟨whole, holds.records, rfl, rfl⟩

def tornCalls : List StoreCall :=
  [.append .noop [7], .sync true, .append .epochState [1, 2], .crash 58]

end FileJournal

end QueueFabric
