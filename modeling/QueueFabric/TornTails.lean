import QueueFabric.Corruption
import QueueFabric.FailedRecovery
import QueueFabric.Idempotence

/-!
A journal file whose tail a crash tore. Recovery replays at the end of the bytes it
read and only then drops the tail: what a life appends is read back by the next one
if there was no tail, or if the replay wrote nothing before the tail was dropped.
-/

namespace QueueFabric

/-- A relation between journals that appending and syncing keep. -/
structure Tends {J : Type} [IJournal J] (keeps : J → J → Prop) : Prop where
  refl : ∀ journal, keeps journal journal
  trans : ∀ first second third, keeps first second → keeps second third → keeps first third
  append : ∀ journal type payload, keeps journal (IJournal.append journal type payload).2
  sync : ∀ journal, keeps journal (IJournal.sync journal).2

namespace Fabric

section Tends

variable {J : Type} [IJournal J] {keeps : J → J → Prop}

/-- The journals of two fabrics are related, if they have any. -/
def Tended (keeps : J → J → Prop) (before after : Option J) : Prop := Option.Rel keeps before after

omit [IJournal J] in
theorem Tended.present {before after : Option J} (tended : Tended keeps before after) {journal : J}
    (present : before = some journal) : ∃ last, after = some last ∧ keeps journal last := by
  subst present
  cases tended with
  | some kept => exact ⟨_, rfl, kept⟩

theorem tended_refl (tends : Tends keeps) (journal : Option J) : Tended keeps journal journal := by
  cases journal with
  | none => exact .none
  | some journal => exact .some (tends.refl journal)

theorem Tended.trans (tends : Tends keeps) {first second third : Option J}
    (one : Tended keeps first second) (two : Tended keeps second third) :
    Tended keeps first third := by
  cases one with
  | none => exact two
  | some kept =>
      cases two with
      | some more => exact .some (tends.trans _ _ _ kept more)

theorem Written.tended (tends : Tends keeps) {type : JournalRecordType} {payload : Bytes}
    {before after : Option J} {ok : Bool} (written : Written type payload before ok after) :
    Tended keeps before after := by
  cases written with
  | unjournaled => exact .none
  | required => exact .none
  | appendFailed journal failed => exact .some (tends.append journal type payload)
  | syncFailed journal appended failed =>
      exact .some (tends.trans _ _ _ (tends.append journal type payload) (tends.sync _))
  | synced journal appended flushed =>
      exact .some (tends.trans _ _ _ (tends.append journal type payload) (tends.sync _))

theorem tended_commitRecords (tends : Tends keeps) (journal : J) (encoded : Bytes) :
    keeps journal (commitRecords journal encoded).2 := by
  have begun := tends.append journal .beginAttempt encoded
  have committed := tends.trans _ _ _ begun (tends.append _ .commitMutation encoded)
  simp only [commitRecords]
  split
  · exact begun
  split
  · exact committed
  split
  · exact tends.trans _ _ _ committed (tends.sync _)
  · exact tends.trans _ _ _ committed (tends.sync _)

theorem Committed.tended (tends : Tends keeps) {encoded : Bytes} {before after : Option J}
    {ok : Bool} (committed : Committed encoded before ok after) : Tended keeps before after := by
  cases committed with
  | unjournaled => exact .none
  | required => exact .none
  | unencoded journal empty => exact .some (tends.refl journal)
  | offered journal ok nonempty status => exact .some (tended_commitRecords tends journal encoded)

theorem commitDurably_tended (tends : Tends keeps) {fabric after : Fabric J}
    {request : MutationRequest} {refusal : Option Refusal}
    (committed : fabric.commitDurably request = (refusal, after)) :
    Tended keeps fabric.journal after.journal :=
  (commitDurably_committed committed).tended tends

theorem ExistingCase.tended (tends : Tends keeps) {fabric : Fabric J} {key : QueueId}
    {queue : QueueRecord} {request : MutationRequest} {now : Nanos}
    {reply : Reply J MutationOutcome} (ended : ExistingCase fabric key queue request now reply) :
    Tended keeps fabric.journal reply.fabric.journal := by
  cases ended with
  | answered memo recorded =>
      rw [answerFromMemo]
      split
      · exact tended_refl tends _
      split <;> exact tended_refl tends _
  | refused tracker refusal unseen gate real => exact tended_refl tends _
  | undurable tracker applied refusal after admitted durable failed real =>
      have kept := commitDurably_tended tends failed
      exact kept
  | published tracker applied after admitted committed =>
      split at committed
      · have kept := commitDurably_tended tends committed
        exact kept
      · subst committed
        exact tended_refl tends _

theorem DeclareCase.tended (tends : Tends keeps) {fabric : Fabric J} {request : MutationRequest}
    {payload : DeclareQueuePayload} {now : Nanos} {reply : Reply J MutationOutcome}
    (ended : DeclareCase fabric request payload now reply) :
    Tended keeps fabric.journal reply.fabric.journal := by
  cases ended with
  | refused refusal => exact tended_refl tends _
  | answered taker taken =>
      rw [answerDeclared]
      split
      · exact tended_refl tends _
      split <;> exact tended_refl tends _
  | undurable resource refusal after declarable failed =>
      have kept := commitDurably_tended tends failed
      exact kept
  | committed resource after declarable written =>
      have kept := commitDurably_tended tends written
      rw [admitDeclared]
      split
      · exact kept
      simp only []
      split <;> exact kept

theorem ApplyCase.tended (tends : Tends keeps) {fabric : Fabric J} {request : MutationRequest}
    {now : Nanos} {reply : Reply J MutationOutcome} (ended : ApplyCase fabric request now reply) :
    Tended keeps fabric.journal reply.fabric.journal := by
  cases ended with
  | stopped stopping => exact tended_refl tends _
  | unbound refusal => exact tended_refl tends _
  | declare payload _ valid kind carried ended => exact ended.tended tends
  | existing queue _ valid kind found ended => exact ended.tended tends

theorem Recorded.tended (tends : Tends keeps) {α : Type} {before lost kept : Fabric J}
    {type : JournalRecordType} {payload : Bytes} {value : α} {reply : Reply J α}
    (recorded : Recorded before type payload lost kept value reply) :
    Tended keeps before.journal reply.fabric.journal := by
  cases recorded with
  | lost status events after touch written => exact written.tended tends
  | kept events after touch written => exact written.tended tends

theorem CommitCase.tended (tends : Tends keeps) {fabric : Fabric J} {plan : BackendPlan}
    {queue : QueueRecord} {request : MutationRequest} {reply : Reply J MutationOutcome}
    (ended : CommitCase fabric plan queue request reply) :
    Tended keeps fabric.journal reply.fabric.journal := by
  cases ended with
  | refused refused =>
      rw [refused.journal]
      exact tended_refl tends _
  | lost status events after touch written => exact written.tended tends
  | served middle now inner events after touch written ended final journal =>
      rw [journal]
      exact (written.tended tends).trans tends (ended.tended tends)

/-- Only a recovery and a compaction do more to the journal than append and sync. -/
theorem serve_tended (tends : Tends keeps) (fabric : Fabric J) {call : Call}
    (living : call ≠ .recover) (growing : call ≠ .compact) :
    Tended keeps fabric.journal (fabric.serve call).fabric.journal := by
  have ended := serve_cases fabric call
  generalize fabric.serve call = reply at ended
  cases ended with
  | refused refused =>
      rw [refused.journal]
      exact tended_refl tends _
  | recovered => exact absurd rfl living
  | stopped touch journal =>
      rcases journal with same | synced
      · rw [same]
        exact tended_refl tends _
      · rw [synced]
        cases fabric.journal with
        | none => exact .none
        | some journal => exact .some (tends.sync journal)
  | edited lost kept updated value spent issued edit recorded => exact recorded.tended tends
  | classed resource name priority qos principal epoch provenance record cls classes nextClassId
      generation found declared recorded => exact recorded.tended tends
  | advanced principal provenance epoch payload minted recorded healthy named =>
      exact recorded.tended tends
  | invalidated queue principal epoch reason record events after found touch journal =>
      rw [journal]
      exact tended_refl tends _
  | applied request now inner events after ended touch journal =>
      rw [journal]
      exact ended.tended tends
  | gated queue expected principal provenance accepted refused =>
      rw [refused.journal]
      exact tended_refl tends _
  | planned queue expected principal provenance plan accepted recorded =>
      exact recorded.tended tends
  | committed plan applied provenance queue inner found ended => exact ended.tended tends
  | aborted plan reason recorded => exact recorded.tended tends
  | explained queue principal touch journal =>
      rw [journal]
      exact tended_refl tends _
  | refreshed now touch journal =>
      rw [journal]
      exact tended_refl tends _
  | compacted journal present touch rewritten => exact absurd rfl growing

theorem replayAll_tended (tends : Tends keeps) (fabric : Fabric J)
    (requests : List MutationRequest) :
    Tended keeps fabric.journal (fabric.replayAll requests).journal := by
  induction requests generalizing fabric with
  | nil => exact tended_refl tends _
  | cons request rest ih =>
      obtain ⟨now, reply, ended, touch, journal⟩ := replayOne_cases fabric request
      have kept := ended.tended tends
      rw [← journal] at kept
      exact kept.trans tends (ih (fabric.replayOne request))

end Tends

end Fabric

namespace FileJournal

/-- Whole records stay whole, and the records known before come first. -/
def Extends (config : JournalConfig) (before after : FileJournal) : Prop :=
  before.Whole config → after.Whole config ∧ before.records <+: after.records

theorem records_append (journal : FileJournal) (type : JournalRecordType) (payload : Bytes) :
    journal.records <+: (journal.append type payload).2.records := by
  rw [append]
  split
  · exact List.prefix_refl _
  split
  · exact List.prefix_refl _
  split
  · exact List.prefix_refl _
  · exact List.prefix_append _ _

theorem sync_journal (journal : FileJournal) : journal.sync.2 = journal := by
  rw [sync]
  split <;> rfl

theorem tends_extends (config : JournalConfig) : Tends (Extends config) where
  refl journal whole := ⟨whole, List.prefix_refl _⟩
  trans first second third one two whole := by
    obtain ⟨middle, early⟩ := one whole
    obtain ⟨last, late⟩ := two middle
    exact ⟨last, early.trans late⟩
  append journal type payload whole := ⟨whole.append type payload, records_append journal type payload⟩
  sync journal whole := by
    have same : (IJournal.sync journal).2 = journal := sync_journal journal
    rw [same]
    exact ⟨whole, List.prefix_refl _⟩

/-- A journal that refuses a begin record has not changed. -/
theorem append_refused {journal : FileJournal} {type : JournalRecordType} {payload : Bytes}
    (failed : (journal.append type payload).1.isOk = false) :
    (journal.append type payload).2 = journal := by
  rw [append] at failed ⊢
  split
  · rfl
  rename_i opened
  rw [if_neg opened] at failed
  split
  · rfl
  rename_i short
  rw [if_neg short] at failed
  split
  · rfl
  rename_i room
  rw [if_neg room] at failed
  cases failed

theorem eq_of_balks {before after : FileJournal}
    (balks : Relation.ReflTransGen Fabric.Balks before after) : after = before := by
  induction balks with
  | refl => rfl
  | tail early last same =>
      cases last with
      | same => exact same
      | refused payload failed => exact (append_refused failed).trans same

/-! A file with a torn tail. -/

/-- The file is a header, whole records and a tail that none of them owns. -/
structure Trails (journal : FileJournal) (config : JournalConfig) (boot : BootId) (epoch : Epoch)
    (kept : List JournalRecord) (tail : Bytes) : Prop where
  config : journal.config = config
  file : journal.file = encodeHeader boot epoch ++ (kept.flatMap encodeRecord ++ tail)
  atEnd : journal.bytesWritten = journal.file.length
  valid : journal.validPrefixBytes = boundary kept
  records : journal.records = kept
  isOpen : journal.isOpen = true

theorem Trails.length {journal : FileJournal} {config : JournalConfig} {boot : BootId}
    {epoch : Epoch} {kept : List JournalRecord} {tail : Bytes}
    (trails : journal.Trails config boot epoch kept tail) :
    journal.file.length = boundary kept + tail.length := by
  rw [trails.file, List.length_append, List.length_append, length_encodeHeader, boundary]
  omega

theorem Trails.holds {journal : FileJournal} {config : JournalConfig} {boot : BootId}
    {epoch : Epoch} {kept : List JournalRecord}
    (trails : journal.Trails config boot epoch kept []) : journal.Holds config boot epoch kept := by
  have length := trails.length
  obtain ⟨settings, file, last, valid, records, isOpen⟩ := trails
  rw [List.append_nil] at file
  exact ⟨settings, file, last, by rw [valid, last, length]; rfl, records, isOpen⟩

theorem Trails.writeHeader {journal : FileJournal} {config : JournalConfig} {oldBoot : BootId}
    {oldEpoch : Epoch} {kept : List JournalRecord} {tail : Bytes}
    (trails : journal.Trails config oldBoot oldEpoch kept tail) (boot : BootId) (epoch : Epoch) :
    Trails (journal.writeHeader boot epoch).2 config boot epoch kept tail := by
  have length := trails.length
  obtain ⟨settings, file, last, valid, records, isOpen⟩ := trails
  have replaced : writeAt journal.file 0 (encodeHeader boot epoch) =
      encodeHeader boot epoch ++ (kept.flatMap encodeRecord ++ tail) := by
    rw [writeAt, file]
    simp only [List.take_zero, Nat.zero_sub, List.replicate_zero, List.nil_append, Nat.zero_add,
      length_encodeHeader]
    rw [← length_encodeHeader oldBoot oldEpoch, List.drop_left]
  rw [FileJournal.writeHeader, if_neg (by simp [isOpen])]
  refine ⟨settings, replaced, ?_, valid, records, isOpen⟩
  simp only [replaced, List.length_append, length_encodeHeader]
  rw [last, length, boundary, Nat.add_assoc]

/-- Truncation drops exactly the tail. -/
theorem Trails.truncate {journal : FileJournal} {config : JournalConfig} {boot : BootId}
    {epoch : Epoch} {kept : List JournalRecord} {tail : Bytes}
    (trails : journal.Trails config boot epoch kept tail) :
    journal.truncateToValidPrefix.2.Holds config boot epoch kept := by
  have length := trails.length
  by_cases clean : journal.validPrefixBytes = journal.bytesWritten
  · have empty : tail = [] := by
      have same := clean
      rw [trails.valid, trails.atEnd, length] at same
      exact List.eq_nil_of_length_eq_zero (by omega)
    subst empty
    rw [truncateToValidPrefix, if_neg (by simp [trails.isOpen]), if_pos clean]
    exact trails.holds
  · obtain ⟨settings, file, last, valid, records, isOpen⟩ := trails
    have size : boundary kept = (encodeHeader boot epoch ++ kept.flatMap encodeRecord).length := by
      rw [List.length_append, length_encodeHeader, boundary]
    have cut : journal.file.take (boundary kept) =
        encodeHeader boot epoch ++ kept.flatMap encodeRecord := by
      rw [file, ← List.append_assoc, size, List.take_left]
    rw [truncateToValidPrefix, if_neg (by simp [isOpen]), if_neg clean]
    refine ⟨settings, ?_, ?_, rfl, records, isOpen⟩
    · simp only [valid, cut]
    · simp only [valid, cut]
      exact size

theorem Holds.trails {journal : FileJournal} {config : JournalConfig} {boot : BootId}
    {epoch : Epoch} {kept : List JournalRecord} (holds : journal.Holds config boot epoch kept) :
    journal.Trails config boot epoch kept [] := by
  have length := holds.length
  obtain ⟨settings, file, last, valid, records, isOpen⟩ := holds
  refine ⟨settings, ?_, last, by rw [valid, last, length], records, isOpen⟩
  rw [List.append_nil]
  exact file

/-- What a crash can leave of a file: a header, whole records and a strict prefix of one more. -/
def tornFile (boot : BootId) (epoch : Epoch) (kept : List JournalRecord) (next : JournalRecord)
    (cut : Nat) : Bytes :=
  encodeHeader boot epoch ++ (kept.flatMap encodeRecord ++ (encodeRecord next).take cut)

theorem trails_openFile {journal : FileJournal} {boot : BootId} {epoch : Epoch}
    {kept : List JournalRecord} {next : JournalRecord} {cut : Nat}
    (content : journal.file = tornFile boot epoch kept next cut)
    (allowed : ∀ record ∈ kept ++ [next],
      record.payload.length ≤ journal.config.maxRecordBytes.toNat)
    (short : cut < (encodeRecord next).length) (opens : journal.openFile.1.isOk = true) :
    journal.openFile.2.Trails journal.config boot epoch kept ((encodeRecord next).take cut) ∧
      journal.openFile.2.report.recordsTruncated = if cut = 0 then 0 else 1 := by
  have bounded := bounded_of_openFile opens
  have small := small_of_openFile opens
  have torn : journal.file = encodeHeader boot epoch ++
      (kept.flatMap encodeRecord ++ ([next].flatMap encodeRecord).take cut) := by
    rw [content, tornFile, List.flatMap_cons, List.flatMap_nil, List.append_nil]
  have opened : journal.Opens boot epoch kept (if cut = 0 then 0 else 1) :=
    opens_cut torn bounded allowed (.partway short) small
  have loaded := openFile_eq_load torn bounded small
  refine ⟨⟨?_, ?_, ?_, opened.valid, opened.records, ?_⟩, opened.truncated⟩
  · rw [loaded]
    rfl
  · rw [loaded]
    exact content
  · rw [loaded]
    rfl
  · rw [loaded]
    rfl

/-- Whole records are all read back. -/
theorem Whole.reopens {journal : FileJournal} {config : JournalConfig}
    (whole : journal.Whole config) (room : journalHeaderBytes ≤ config.maxFileBytes.toNat) :
    (openFile { config, file := journal.file }).1 = .success ∧
      (openFile { config, file := journal.file }).2.records = journal.records := by
  obtain ⟨bounded, ⟨boot, epoch, holds⟩, allowed, small⟩ := whole
  have length := holds.length
  have fits : journal.file.length ≤ config.maxFileBytes.toNat := by
    rcases small with empty | small
    · rw [length, empty]
      exact room
    · exact small
  have content : journal.file = encodeHeader boot epoch ++
      (journal.records.flatMap encodeRecord ++ (([] : List JournalRecord).flatMap
        encodeRecord).take 0) := by
    rw [List.take_zero, List.append_nil]
    exact holds.file
  have opened : Opens { config, file := journal.file } boot epoch journal.records
      (if 0 = 0 then 0 else 1) :=
    opens_cut content bounded (by simpa using allowed) .clean fits
  exact ⟨opened.status, opened.records⟩

end FileJournal

/-! How many torn records a recovery still knows of when it closes. -/

namespace Scan

theorem truncated_addRecord (scan : Scan) (record : JournalRecord) :
    (scan.addRecord record).recovery.recordsTruncated = scan.recovery.recordsTruncated := by
  have added := addRecord_cases scan record
  generalize scan.addRecord record = next at added
  cases added with
  | corrupted line => exact Fabric.note_truncated _ line
  | _ => rfl

theorem truncated_addRecords (scan : Scan) (records : List JournalRecord) :
    (scan.addRecords records).recovery.recordsTruncated = scan.recovery.recordsTruncated := by
  induction records generalizing scan with
  | nil => rfl
  | cons record rest ih => exact (ih (scan.addRecord record)).trans (truncated_addRecord scan record)

end Scan

namespace Fabric

theorem truncated_noteDeadBackends (recovery : RecoveryReport) (resources : List ResourceRecord) :
    (noteDeadBackends recovery resources).recordsTruncated = recovery.recordsTruncated := by
  rw [noteDeadBackends]
  generalize resources.flatMap (·.backends) = backends
  induction backends generalizing recovery with
  | nil => rfl
  | cons backend rest ih =>
      rw [List.foldl_cons, ih]
      split
      · exact note_truncated _ _
      · rfl

section Truncated

variable {J : Type} [IJournal J]

theorem truncated_scanJournal (fabric : Fabric J) (journal : J) :
    (fabric.scanJournal journal).recovery.recordsTruncated =
      (IJournal.recovery journal).recordsTruncated :=
  Scan.truncated_addRecords _ _

omit [IJournal J] in
theorem truncated_installScan (fabric : Fabric J) (scan : Scan) (epoch : Epoch) :
    (fabric.installScan scan epoch).recovery.recordsTruncated = scan.recovery.recordsTruncated :=
  truncated_noteDeadBackends scan.recovery scan.resources.values

omit [IJournal J] in
theorem truncated_revalidateAll (fabric : Fabric J) (outstanding : List MutationRequest) :
    (fabric.revalidateAll outstanding).recovery.recordsTruncated =
      fabric.recovery.recordsTruncated := by
  have noted : ∀ start : Fabric J, (outstanding.foldl noteUnfinished start).recovery.recordsTruncated =
      start.recovery.recordsTruncated := by
    induction outstanding with
    | nil => exact fun _ => rfl
    | cons request rest ih =>
        exact fun start => (ih (start.noteUnfinished request)).trans (note_truncated _ _)
  exact noted _

end Truncated

/-! The recovery of a torn file. -/

open FileJournal

section Torn

variable {config : JournalConfig}

/-- Closing a recovery leaves whole records, once the tail is gone or is to be truncated. -/
theorem finishRecovery_whole {fabric : Fabric FileJournal} {journal : FileJournal} {boot : BootId}
    {epoch : Epoch} {kept : List JournalRecord} {tail : Bytes}
    (trails : journal.Trails config boot epoch kept tail)
    (noted : tail = [] ∨ fabric.recovery.recordsTruncated > 0)
    (bounded : config.maxRecordBytes.toNat ≤ Limits.maxJournalRecordBytes)
    (allowed : ∀ record ∈ kept, record.payload.length ≤ config.maxRecordBytes.toNat)
    (small : kept = [] ∨ boundary kept ≤ config.maxFileBytes.toNat) :
    ∃ last, (fabric.finishRecovery journal).fabric.journal = some last ∧ last.Whole config ∧
      kept <+: last.records := by
  have headed := trails.writeHeader fabric.boot fabric.epoch
  have opened : (IJournal.writeHeader journal fabric.boot fabric.epoch).1.isOk = true := by
    have plain : IJournal.writeHeader journal fabric.boot fabric.epoch =
      journal.writeHeader fabric.boot fabric.epoch := rfl
    rw [plain, FileJournal.writeHeader, if_neg (by simp [trails.isOpen])]
    rfl
  have dropped : ({ fabric with journal := some (journal.writeHeader fabric.boot fabric.epoch).2
      }.dropTornTail (journal.writeHeader fabric.boot fabric.epoch).2).2.Holds config fabric.boot
        fabric.epoch kept := by
    rw [dropTornTail]
    split
    · exact headed.truncate
    · rename_i clean
      rcases noted with rfl | noted
      · exact headed.holds
      · exact absurd noted clean
  have written := sealRecovery_written
    ({ fabric with journal := some (journal.writeHeader fabric.boot fabric.epoch).2 }.dropTornTail
      (journal.writeHeader fabric.boot fabric.epoch).2).1
    ({ fabric with journal := some (journal.writeHeader fabric.boot fabric.epoch).2 }.dropTornTail
      (journal.writeHeader fabric.boot fabric.epoch).2).2
  have sealing : fabric.finishRecovery journal =
      ({ fabric with journal := some (journal.writeHeader fabric.boot fabric.epoch).2
        }.dropTornTail (journal.writeHeader fabric.boot fabric.epoch).2).1.sealRecovery
      ({ fabric with journal := some (journal.writeHeader fabric.boot fabric.epoch).2
        }.dropTornTail (journal.writeHeader fabric.boot fabric.epoch).2).2 := by
    simp only [finishRecovery, opened, Bool.not_true, Bool.false_eq_true, ↓reduceIte]
    rfl
  rw [← sealing] at written
  obtain ⟨last, final, extended⟩ := (written.tended (tends_extends config)).present rfl
  have whole : FileJournal.Whole config ({ fabric with
      journal := some (journal.writeHeader fabric.boot fabric.epoch).2
      }.dropTornTail (journal.writeHeader fabric.boot fabric.epoch).2).2 := by
    have records := dropped.records
    refine ⟨bounded, ⟨fabric.boot, fabric.epoch, records.symm ▸ dropped⟩, records.symm ▸ allowed, ?_⟩
    rw [records, dropped.length]
    exact small
  obtain ⟨sound, listed⟩ := extended whole
  exact ⟨last, final, sound, dropped.records ▸ listed⟩

/-- A journal file a crash tore, its tail empty when `cut` is. -/
structure Torn (journal : FileJournal) (config : JournalConfig) (boot : BootId) (epoch : Epoch)
    (kept : List JournalRecord) (next : JournalRecord) (cut : Nat) : Prop where
  settings : journal.config = config
  content : journal.file = tornFile boot epoch kept next cut
  allowed : ∀ record ∈ kept ++ [next], record.payload.length ≤ config.maxRecordBytes.toNat
  short : cut < (encodeRecord next).length

/-- The journal once the replay is over: its tail is gone, or will be truncated. -/
structure Replayed (config : JournalConfig) (kept : List JournalRecord)
    (replayed : Fabric FileJournal) (journal : FileJournal) (boot : BootId) (epoch : Epoch)
    (known : List JournalRecord) (tail : Bytes) : Prop where
  present : replayed.journal = some journal
  trails : journal.Trails config boot epoch known tail
  noted : tail = [] ∨ replayed.recovery.recordsTruncated > 0
  allowed : ∀ record ∈ known, record.payload.length ≤ config.maxRecordBytes.toNat
  small : known = [] ∨ boundary known ≤ config.maxFileBytes.toNat
  listed : kept <+: known

/-- A replay onto whole records. -/
theorem replayed_whole {base : Fabric FileJournal} {journal : FileJournal}
    (present : base.journal = some journal) (whole : journal.Whole config)
    (requests : List MutationRequest) :
    ∃ last boot epoch known tail, Replayed config journal.records (base.replayAll requests) last
      boot epoch known tail := by
  obtain ⟨last, kept, extends'⟩ :=
    (replayAll_tended (tends_extends config) base requests).present present
  obtain ⟨⟨_, ⟨boot, epoch, holds⟩, allowed, small⟩, listed⟩ := extends' whole
  exact ⟨last, boot, epoch, last.records, [], kept, holds.trails, .inl rfl, allowed,
    holds.length ▸ small, listed⟩

/-- A replay that writes nothing. -/
theorem replayed_quiet {base : Fabric FileJournal} {journal : FileJournal} {boot : BootId}
    {epoch : Epoch} {kept : List JournalRecord} {tail : Bytes}
    (present : base.journal = some journal) (trails : journal.Trails config boot epoch kept tail)
    (noted : base.recovery.recordsTruncated > 0)
    (allowed : ∀ record ∈ kept, record.payload.length ≤ config.maxRecordBytes.toNat)
    (small : kept = [] ∨ boundary kept ≤ config.maxFileBytes.toNat)
    {requests : List MutationRequest} (quiet : QuietReplay base requests) :
    Replayed config kept (base.replayAll requests) journal boot epoch kept tail := by
  obtain ⟨⟨last, same, balks⟩, _, _, truncated⟩ := replayAll_quieted present quiet
  cases eq_of_balks balks
  exact ⟨same, trails, .inr (truncated ▸ noted), allowed, small, List.prefix_refl _⟩

/-- A successful recovery of a torn file leaves whole records, if its replay does not write on
top of a tail. -/
theorem recovered_whole {fabric : Fabric FileJournal} {journal : FileJournal} {boot : BootId}
    {epoch : Epoch} {kept : List JournalRecord} {next : JournalRecord} {cut : Nat}
    (present : fabric.journal = some journal) (torn : Torn journal config boot epoch kept next cut)
    (recovered : fabric.recover.result.isOk = true) (spared : cut = 0 ∨ fabric.Settles) :
    ∃ last, fabric.recover.fabric.journal = some last ∧ last.Whole config ∧
      kept <+: last.records ∧ journalHeaderBytes ≤ config.maxFileBytes.toNat := by
  obtain ⟨rfl, content, allowed, short⟩ := torn
  obtain ⟨opens, stamp, minted, closed⟩ := recover_closed present recovered
  have opened : journal.openFile.1.isOk = true := opens
  obtain ⟨trails, truncated⟩ := trails_openFile content allowed short opened
  have bounded := bounded_of_openFile opened
  have fits : boundary kept ≤ journal.config.maxFileBytes.toNat := by
    have small := small_of_openFile opened
    have size := congrArg List.length content
    have whole := trails.length
    rw [trails.file] at whole
    rw [tornFile] at size
    omega
  have few : ∀ record ∈ kept, record.payload.length ≤ journal.config.maxRecordBytes.toNat :=
    fun record listed => allowed record (List.mem_append_left _ listed)
  have counted : (((fabric.beginRecovery.adoptScan journal.openFile.2
      (fabric.beginRecovery.scanJournal journal.openFile.2)).installScan
        (fabric.beginRecovery.scanJournal journal.openFile.2) stamp)).recovery.recordsTruncated =
      if cut = 0 then 0 else 1 :=
    ((truncated_installScan _ _ _).trans (truncated_scanJournal _ _)).trans truncated
  have settled := fun settles : fabric.Settles => settles journal stamp present opens minted
  have opening : (IJournal.openJournal journal).2 = journal.openFile.2 := rfl
  rw [opening] at closed settled
  generalize fabric.beginRecovery.scanJournal journal.openFile.2 = scan at closed settled counted
  have based : ((fabric.beginRecovery.adoptScan journal.openFile.2 scan).installScan scan
    stamp).journal = some journal.openFile.2 := rfl
  have start : ∃ last boot' epoch' known tail, Replayed journal.config kept
      (((fabric.beginRecovery.adoptScan journal.openFile.2 scan).installScan scan stamp).replayAll
        scan.replayOrder) last boot' epoch' known tail := by
    by_cases clean : cut = 0
    · subst clean
      rw [List.take_zero] at trails
      have holds := trails.holds
      have records := holds.records
      have whole : journal.openFile.2.Whole journal.config :=
        ⟨bounded, ⟨boot, epoch, records.symm ▸ holds⟩, records.symm ▸ few,
          .inr (holds.length ▸ fits)⟩
      exact records ▸ replayed_whole based whole scan.replayOrder
    · refine ⟨_, _, _, _, _, replayed_quiet based trails ?_ few (.inr fits)
        (settled (spared.resolve_left clean))⟩
      rw [counted, if_neg clean]
      exact Nat.one_pos
  obtain ⟨last, boot', epoch', known, tail, ended, trailing, noted, modest, small, listed⟩ := start
  rw [closed, replayScan]
  generalize ((fabric.beginRecovery.adoptScan journal.openFile.2 scan).installScan scan
    stamp).replayAll scan.replayOrder = replayed at ended noted
  have final := (revalidateAll_journal replayed scan.outstanding.values).trans ended
  rw [← truncated_revalidateAll replayed scan.outstanding.values] at noted
  generalize replayed.revalidateAll scan.outstanding.values = marked at final noted
  obtain ⟨store, written, whole, more⟩ :=
    finishRecovery_whole trailing noted bounded modest small
  refine ⟨store, ?_, whole, listed.trans more, ?_⟩
  · rw [closeRecovery, final]
    exact written
  · rw [boundary] at fits
    omega

/-- The records of the journal a fabric writes: those it read and those it appended, in order. -/
def journaled (fabric : Fabric FileJournal) : List JournalRecord :=
  (fabric.journal.getD {}).records

/-- The next open of the file a fabric has written. -/
def reopened (config : JournalConfig) (fabric : Fabric FileJournal) : Status × FileJournal :=
  openFile { config, file := (fabric.journal.getD {}).file }

/-- Whatever the journal had taken after any of the calls is read back by the next open. -/
structure ReadBack (config : JournalConfig) (life : Fabric FileJournal) (calls : List Call) :
    Prop where
  status : (reopened config (life.serveAll calls)).1 = .success
  records : (reopened config (life.serveAll calls)).2.records = (life.serveAll calls).journaled
  kept : ∀ early later, calls = early ++ later →
    (life.serveAll early).journaled <+: (reopened config (life.serveAll calls)).2.records

theorem serveAll_whole {fabric : Fabric FileJournal} {journal : FileJournal}
    (present : fabric.journal = some journal) (whole : journal.Whole config) {calls : List Call}
    (growing : ∀ call ∈ calls, call ≠ .recover ∧ call ≠ .compact) :
    ∃ last, (fabric.serveAll calls).journal = some last ∧ last.Whole config ∧
      journal.records <+: last.records := by
  induction calls generalizing fabric journal with
  | nil => exact ⟨journal, present, whole, List.prefix_refl _⟩
  | cons call rest ih =>
      obtain ⟨living, appending⟩ := growing call List.mem_cons_self
      obtain ⟨middle, served, extended⟩ :=
        (serve_tended (tends_extends config) fabric living appending).present present
      obtain ⟨sound, early⟩ := extended whole
      obtain ⟨last, final, whole', late⟩ :=
        ih served sound fun other listed => growing other (List.mem_cons_of_mem call listed)
      exact ⟨last, final, whole', early.trans late⟩

/-- After a recovery from a torn file that does not write on top of the tail, everything the life
appends is read back. -/
theorem torn_recovery_read_back {fabric : Fabric FileJournal} {journal : FileJournal}
    {boot : BootId} {epoch : Epoch} {kept : List JournalRecord} {next : JournalRecord} {cut : Nat}
    (present : fabric.journal = some journal) (torn : Torn journal config boot epoch kept next cut)
    (recovered : fabric.recover.result.isOk = true) (spared : cut = 0 ∨ fabric.Settles)
    {calls : List Call} (growing : ∀ call ∈ calls, call ≠ .recover ∧ call ≠ .compact) :
    ReadBack config fabric.recover.fabric calls ∧ kept <+: fabric.recover.fabric.journaled := by
  obtain ⟨journal, started, whole, listed, room⟩ := recovered_whole present torn recovered spared
  obtain ⟨last, ended, sound, _⟩ := serveAll_whole started whole growing
  obtain ⟨opens, reads⟩ := sound.reopens room
  have final : (fabric.recover.fabric.serveAll calls).journaled = last.records := by
    rw [journaled, ended, Option.getD_some]
  have again : reopened config (fabric.recover.fabric.serveAll calls) =
      openFile { config, file := last.file } := by
    rw [reopened, ended, Option.getD_some]
  refine ⟨⟨again ▸ opens, ?_, ?_⟩, ?_⟩
  · rw [again, reads, final]
  · rintro early later rfl
    obtain ⟨middle, reached, soundThen, _⟩ := serveAll_whole started whole fun call member =>
      growing call (List.mem_append_left later member)
    obtain ⟨final', ended', _, more⟩ := serveAll_whole reached soundThen fun call member =>
      growing call (List.mem_append_right early member)
    have split : fabric.recover.fabric.serveAll (early ++ later) =
        (fabric.recover.fabric.serveAll early).serveAll later := List.foldl_append
    cases (split ▸ ended).symm.trans ended'
    rw [again, reads, journaled, reached, Option.getD_some]
    exact more
  · rw [journaled, started, Option.getD_some]
    exact listed

end Torn

end Fabric

/-- The caller was told that the mutation is durable. -/
def Fabric.Served.durable (served : Served) : Bool :=
  match served.result with
  | .ok (.outcome outcome) => outcome.durable
  | _ => false

namespace System

/-- The last records of the sample system: its resource and its declaration, begun and committed. -/
def sampleRecords : List JournalRecord := sampleSystem.store.contents.drop 3

/-- Their journal file with one byte of a further record. -/
def tornJournal : FileJournal where
  file := FileJournal.tornFile ⟨1, 1⟩ ⟨1⟩ sampleRecords ⟨.noop, [7]⟩ 1

def tornStart : Fabric FileJournal := Fabric.create {} ⟨fun _ => 1000, 0⟩ (some tornJournal) 7

theorem torn_tornJournal :
    Fabric.Torn tornJournal {} ⟨1, 1⟩ ⟨1⟩ sampleRecords ⟨.noop, [7]⟩ 1 :=
  ⟨rfl, rfl, by decide +kernel, by decide⟩

/-- A file with one whole record that nothing replays and one byte of the next. -/
def idleJournal : FileJournal where
  file := FileJournal.tornFile ⟨1, 1⟩ ⟨1⟩ [⟨.noop, [7]⟩] ⟨.noop, [7]⟩ 1

def idleStart : Fabric FileJournal := Fabric.create {} ⟨fun _ => 1000, 0⟩ (some idleJournal) 7

theorem settles_idleStart : idleStart.Settles := by
  intro journal epoch present opens minted
  cases present
  have nothing : (idleStart.beginRecovery.scanJournal
      (IJournal.openJournal idleJournal).2).replayOrder = [] := by decide +kernel
  rw [nothing]
  trivial

theorem torn_recovery_read_back_idle :
    idleStart.recover.result.isOk = true ∧
      Fabric.ReadBack {} idleStart.recover.fabric
        [.declareResource (text "r") ⟨5⟩ (sampleProvenance 1)] ∧
      [⟨.noop, [7]⟩] <+: idleStart.recover.fabric.journaled := by
  have recovered : idleStart.recover.result.isOk = true := by decide +kernel
  refine ⟨recovered, ?_⟩
  exact @Fabric.torn_recovery_read_back {} idleStart idleJournal ⟨1, 1⟩ ⟨1⟩ [⟨.noop, [7]⟩]
    ⟨.noop, [7]⟩ 1 rfl ⟨rfl, rfl, by decide +kernel, by decide⟩ recovered
    (.inr settles_idleStart) [.declareResource (text "r") ⟨5⟩ (sampleProvenance 1)] (by simp)

/-- The replay of one declaration goes behind the torn byte, and the validation acknowledged
after it is gone when the file is opened again. -/
theorem torn_recovery_lost :
    ¬ ∀ (fabric : Fabric FileJournal) (journal : FileJournal) (config : JournalConfig)
      (boot : BootId) (epoch : Epoch) (kept : List JournalRecord) (next : JournalRecord) (cut : Nat)
      (requests : List MutationRequest), fabric.journal = some journal →
        Fabric.Torn journal config boot epoch kept next cut →
        fabric.recover.result.isOk = true →
        (∀ served ∈ fabric.recover.fabric.history (requests.map .apply), served.durable = true) →
        Fabric.ReadBack config fabric.recover.fabric (requests.map .apply) := by
  intro claim
  have read := claim tornStart tornJournal {} ⟨1, 1⟩ ⟨1⟩ sampleRecords ⟨.noop, [7]⟩ 1
    [lateValidation] rfl torn_tornJournal (by decide +kernel) (by decide +kernel)
  have fewer := congrArg List.length read.records
  revert fewer
  decide +kernel

end System

end QueueFabric
