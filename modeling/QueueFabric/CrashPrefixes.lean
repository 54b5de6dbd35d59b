import QueueFabric.FileScan

/-!
Opening what a crash left of a journal file. However many bytes survived, the
scan returns the records that survived whole.
-/

namespace QueueFabric

namespace FileJournal

/-- Where the last of the records ends. -/
def boundary (records : List JournalRecord) : Nat :=
  journalHeaderBytes + (records.flatMap encodeRecord).length

/-- A new file, its header, and the records appended one by one. -/
def written (config : JournalConfig) (boot : BootId) (epoch : Epoch)
    (records : List JournalRecord) : FileJournal :=
  records.foldl (fun journal record => (journal.append record.type record.payload).2)
    ((openFile { config }).2.writeHeader boot epoch).2

/-! The writer. -/

/-- The file is a header and whole records, and the next append goes to its end. -/
structure Holds (journal : FileJournal) (config : JournalConfig) (boot : BootId) (epoch : Epoch)
    (records : List JournalRecord) : Prop where
  config : journal.config = config
  file : journal.file = encodeHeader boot epoch ++ records.flatMap encodeRecord
  atEnd : journal.bytesWritten = journal.file.length
  valid : journal.validPrefixBytes = journal.bytesWritten
  records : journal.records = records
  isOpen : journal.isOpen = true

theorem writeAt_end (file data : Bytes) : writeAt file file.length data = file ++ data := by
  simp [writeAt]

theorem bounded_of_openFile {journal : FileJournal} (opens : journal.openFile.1.isOk = true) :
    journal.config.maxRecordBytes.toNat ≤ Limits.maxJournalRecordBytes := by
  by_contra large
  rw [openFile, if_pos (by omega)] at opens
  cases opens

theorem holds_create {config : JournalConfig} (opens : (openFile { config }).1.isOk = true) :
    Holds (openFile { config }).2 config default default [] := by
  have bounded := bounded_of_openFile opens
  have created : (openFile { config }).2 =
      (create { config, isOpen := true, report := { journalPresent := true } }).2 := by
    rw [openFile, if_neg (by simpa using bounded)]
    simp
  rw [created]
  refine ⟨rfl, ?_, (length_encodeHeader default default).symm, rfl, rfl, rfl⟩
  rw [List.flatMap_nil, List.append_nil]
  rfl

theorem Holds.length {journal : FileJournal} {config : JournalConfig} {boot : BootId}
    {epoch : Epoch} {records : List JournalRecord}
    (holds : journal.Holds config boot epoch records) : journal.file.length = boundary records := by
  rw [holds.file, List.length_append, length_encodeHeader, boundary]

theorem Holds.writeHeader {journal : FileJournal} {config : JournalConfig} {oldBoot : BootId}
    {oldEpoch : Epoch} {records : List JournalRecord}
    (holds : journal.Holds config oldBoot oldEpoch records) (boot : BootId) (epoch : Epoch) :
    Holds (journal.writeHeader boot epoch).2 config boot epoch records := by
  have length := holds.length
  obtain ⟨rfl, file, last, valid, kept, isOpen⟩ := holds
  have replaced : writeAt journal.file 0 (encodeHeader boot epoch) =
      encodeHeader boot epoch ++ records.flatMap encodeRecord := by
    rw [writeAt, file]
    simp only [List.take_zero, Nat.zero_sub, List.replicate_zero, List.nil_append, Nat.zero_add,
      length_encodeHeader]
    rw [← length_encodeHeader oldBoot oldEpoch, List.drop_left]
  rw [FileJournal.writeHeader, if_neg (by simp [isOpen])]
  refine ⟨rfl, replaced, ?_, valid, kept, isOpen⟩
  simp only [replaced, List.length_append, length_encodeHeader]
  rw [last, length, boundary]

theorem holds_start {config : JournalConfig} (opens : (openFile { config }).1.isOk = true)
    (boot : BootId) (epoch : Epoch) :
    Holds ((openFile { config }).2.writeHeader boot epoch).2 config boot epoch [] :=
  (holds_create opens).writeHeader boot epoch

theorem Holds.append {journal : FileJournal} {config : JournalConfig} {boot : BootId}
    {epoch : Epoch} {records : List JournalRecord} (holds : journal.Holds config boot epoch records)
    {record : JournalRecord} (allowed : record.payload.length ≤ config.maxRecordBytes.toNat)
    (room : boundary (records ++ [record]) ≤ config.maxFileBytes.toNat) :
    (journal.append record.type record.payload).1 = .success ∧
      Holds (journal.append record.type record.payload).2 config boot epoch
        (records ++ [record]) := by
  have size := holds.length
  obtain ⟨rfl, file, last, valid, kept, isOpen⟩ := holds
  have length : journal.bytesWritten = boundary records := by omega
  have grown : boundary (records ++ [record]) =
      journal.bytesWritten + recordPrefixBytes + record.payload.length := by
    rw [length]
    simp [boundary, length_encodeRecord]
    omega
  have appended : journal.append record.type record.payload = (.success, { journal with
      file := journal.file ++ encodeRecord record
      bytesWritten := journal.bytesWritten + recordPrefixBytes + record.payload.length
      validPrefixBytes := journal.bytesWritten + recordPrefixBytes + record.payload.length
      records := journal.records ++ [record] }) := by
    rw [FileJournal.append, if_neg (by simp [isOpen]), if_neg (by omega), if_neg (by omega), last,
      writeAt_end]
  rw [appended]
  refine ⟨rfl, rfl, ?_, ?_, rfl, ?_, isOpen⟩
  · simp [file]
  · simp only [List.length_append, length_encodeRecord, last]
    omega
  · rw [kept]

theorem holds_written {config : JournalConfig} (opens : (openFile { config }).1.isOk = true)
    (boot : BootId) (epoch : Epoch) {records : List JournalRecord}
    (allowed : ∀ record ∈ records, record.payload.length ≤ config.maxRecordBytes.toNat)
    (room : boundary records ≤ config.maxFileBytes.toNat) :
    Holds (written config boot epoch records) config boot epoch records := by
  induction records using List.reverseRecOn with
  | nil => exact holds_start opens boot epoch
  | append_singleton early record ih =>
      have shorter : boundary early ≤ boundary (early ++ [record]) := by simp [boundary]
      have before := ih (fun other listed => allowed other (List.mem_append_left _ listed))
        (by omega)
      rw [written, List.foldl_append]
      exact (before.append (allowed record (by simp)) room).2

/-! The cut. -/

/-- The cut leaves less than the first of the records. -/
inductive Tears : List JournalRecord → Nat → Prop
  | clean {rest : List JournalRecord} : Tears rest 0
  | partway {record : JournalRecord} {later : List JournalRecord} {cut : Nat} :
      cut < (encodeRecord record).length → Tears (record :: later) cut

theorem cut_cases (records : List JournalRecord) (room : Nat)
    (within : room ≤ (records.flatMap encodeRecord).length) :
    ∃ kept rest cut, records = kept ++ rest ∧ room = (kept.flatMap encodeRecord).length + cut ∧
      (records.flatMap encodeRecord).take room =
        kept.flatMap encodeRecord ++ (rest.flatMap encodeRecord).take cut ∧
      Tears rest cut := by
  induction records generalizing room with
  | nil =>
      have none : room = 0 := by simpa using within
      exact ⟨[], [], 0, rfl, by simp [none], by simp [none], .clean⟩
  | cons record more ih =>
      by_cases short : room < (encodeRecord record).length
      · exact ⟨[], record :: more, room, rfl, by simp, by simp, .partway short⟩
      · rw [List.flatMap_cons, List.length_append] at within
        obtain ⟨kept, rest, cut, rfl, size, taken, last⟩ :=
          ih (room - (encodeRecord record).length) (by omega)
        refine ⟨record :: kept, rest, cut, rfl, ?_, ?_, last⟩
        · rw [List.flatMap_cons, List.length_append]
          omega
        · rw [List.flatMap_cons, List.flatMap_cons, List.take_append,
            List.take_of_length_le (by omega), taken, List.append_assoc]

theorem Holds.take {journal : FileJournal} {config : JournalConfig} {boot : BootId}
    {epoch : Epoch} {records : List JournalRecord}
    (holds : journal.Holds config boot epoch records) {size : Nat}
    (header : journalHeaderBytes ≤ size) (within : size ≤ journal.file.length) :
    ∃ kept rest cut, records = kept ++ rest ∧ size = boundary kept + cut ∧ Tears rest cut ∧
      journal.file.take size = encodeHeader boot epoch ++
        (kept.flatMap encodeRecord ++ (rest.flatMap encodeRecord).take cut) := by
  have length := holds.length
  rw [boundary] at length
  obtain ⟨kept, rest, cut, split, room, taken, last⟩ :=
    cut_cases records (size - journalHeaderBytes) (by omega)
  refine ⟨kept, rest, cut, split, ?_, last, ?_⟩
  · rw [boundary]
    omega
  · rw [holds.file, List.take_append, length_encodeHeader, taken,
      List.take_of_length_le (by rw [length_encodeHeader]; exact header)]

/-- `open` succeeds with the given records and header. -/
structure Opens (journal : FileJournal) (boot : BootId) (epoch : Epoch)
    (kept : List JournalRecord) (truncated : Nat) : Prop where
  status : journal.openFile.1 = .success
  records : journal.openFile.2.records = kept
  headerBoot : journal.openFile.2.headerBoot = boot
  headerEpoch : journal.openFile.2.headerEpoch = epoch
  previousBoot : journal.openFile.2.report.previousBoot = boot
  previousEpoch : journal.openFile.2.report.previousEpoch = epoch
  truncated : journal.openFile.2.report.recordsTruncated = truncated
  valid : journal.openFile.2.validPrefixBytes = boundary kept

theorem opens_cut {journal : FileJournal} {boot : BootId} {epoch : Epoch}
    {kept rest : List JournalRecord} {cut : Nat}
    (content : journal.file = encodeHeader boot epoch ++
      (kept.flatMap encodeRecord ++ (rest.flatMap encodeRecord).take cut))
    (bounded : journal.config.maxRecordBytes.toNat ≤ Limits.maxJournalRecordBytes)
    (allowed : ∀ record ∈ kept ++ rest,
      record.payload.length ≤ journal.config.maxRecordBytes.toNat)
    (last : Tears rest cut) (small : journal.file.length ≤ journal.config.maxFileBytes.toNat) :
    journal.Opens boot epoch kept (if cut = 0 then 0 else 1) := by
  have admissible : ∀ record ∈ kept ++ rest, Admissible journal.config record :=
    fun record listed => ⟨allowed record listed, bounded⟩
  have opened := openFile_eq_load content bounded small
  have stands : JournalScan.Stands _ journal.file (kept.flatMap encodeRecord ++
      (rest.flatMap encodeRecord).take cut) :=
    content ▸ stands_start (freshReport boot epoch)
  have count := length_le_flatMap kept
  have enough : kept.length < journal.file.length := by
    rw [content]
    simp only [List.length_append, length_encodeHeader, journalHeaderBytes]
    omega
  obtain ⟨scanned, after⟩ := @scanRecords_records journal.config journal.file _ _ kept
    journal.file.length (fun record listed => admissible record (List.mem_append_left _ listed))
    stands (Nat.le_of_lt enough)
  rw [load] at opened
  simp only [scanned] at opened
  by_cases onBoundary : cut = 0
  · subst onBoundary
    rw [List.take_zero] at after
    rw [scanRecords_done after] at opened
    constructor <;> rw [opened] <;> simp [JournalScan.past, freshReport, boundary]
  · cases last with
    | clean => exact absurd rfl onBoundary
    | @partway record later _ short =>
        have first : ((record :: later).flatMap encodeRecord).take cut =
            (encodeRecord record).take cut := by
          rw [List.flatMap_cons, List.take_append_of_le_length (Nat.le_of_lt short)]
        rw [first] at after
        obtain ⟨fuel, left⟩ : ∃ fuel, journal.file.length - kept.length = fuel + 1 :=
          ⟨journal.file.length - kept.length - 1, by omega⟩
        have fine : Status.success.isOk = true := rfl
        rw [left, scanRecords_torn (admissible record (by simp)) after (by omega) short] at opened
        constructor <;> rw [opened] <;>
          simp [JournalScan.past, JournalScan.count, JournalScan.tear, freshReport, boundary,
            onBoundary, fine, RecoveryReport.note]

/-- The records wholly inside the first `size` bytes. -/
structure Survives (records : List JournalRecord) (size : Nat) (kept : List JournalRecord) :
    Prop where
  listed : kept <+: records
  inside : boundary kept ≤ size
  longest : ∀ other, other <+: records → boundary other ≤ size → other <+: kept

theorem boundary_append (first second : List JournalRecord) :
    boundary (first ++ second) = boundary first + (second.flatMap encodeRecord).length := by
  simp [boundary, Nat.add_assoc]

theorem survives_cut {kept rest : List JournalRecord} {cut : Nat}
    (last : Tears rest cut) :
    Survives (kept ++ rest) (boundary kept + cut) kept := by
  refine ⟨List.prefix_append _ _, Nat.le_add_right _ _, ?_⟩
  intro other listed fits
  rcases List.prefix_or_prefix_of_prefix listed (List.prefix_append kept rest) with early | later
  · exact early
  obtain ⟨more, rfl⟩ := later
  rw [boundary_append] at fits
  cases more with
  | nil => simp
  | cons next further =>
      -- One more record would not have fitted.
      have size := length_encodeRecord next
      have listed : next :: further <+: rest := by simpa using listed
      rw [List.flatMap_cons, List.length_append] at fits
      cases last with
      | clean =>
          rw [recordPrefixBytes] at size
          omega
      | partway short =>
          obtain ⟨rfl, _⟩ := List.cons_prefix_cons.mp listed
          omega

theorem openFile_crashPrefix {config : JournalConfig} (opens : (openFile { config }).1.isOk = true)
    (boot : BootId) (epoch : Epoch) {records : List JournalRecord}
    (allowed : ∀ record ∈ records, record.payload.length ≤ config.maxRecordBytes.toNat)
    (room : boundary records ≤ config.maxFileBytes.toNat) {size : Nat}
    (header : journalHeaderBytes ≤ size)
    (within : size ≤ (written config boot epoch records).file.length) :
    let opened := openFile { config, file := (written config boot epoch records).file.take size }
    opened.1 = .success ∧ Survives records size opened.2.records ∧
      opened.2.headerBoot = boot ∧ opened.2.headerEpoch = epoch ∧
      opened.2.report.previousBoot = boot ∧ opened.2.report.previousEpoch = epoch ∧
      opened.2.report.recordsTruncated =
        (if boundary opened.2.records = size then 0 else 1) ∧
      opened.2.validPrefixBytes = boundary opened.2.records := by
  have holds := holds_written opens boot epoch allowed room
  have length := holds.length
  obtain ⟨kept, rest, cut, rfl, split, last, file⟩ := holds.take header within
  have cutLength : ((written config boot epoch (kept ++ rest)).file.take size).length = size := by
    rw [List.length_take]
    omega
  have bounded := bounded_of_openFile opens
  have small : ((written config boot epoch (kept ++ rest)).file.take size).length ≤
      config.maxFileBytes.toNat := by omega
  have opened : Opens { config, file := (written config boot epoch (kept ++ rest)).file.take size }
      boot epoch kept (if cut = 0 then 0 else 1) :=
    opens_cut file bounded allowed last small
  dsimp only
  rw [opened.records, opened.truncated, opened.valid]
  refine ⟨opened.status, ?_, opened.headerBoot, opened.headerEpoch, opened.previousBoot,
    opened.previousEpoch, ?_, rfl⟩
  · rw [split]
    exact survives_cut last
  · by_cases onBoundary : cut = 0
    · rw [if_pos onBoundary, if_pos (by omega)]
    · rw [if_neg onBoundary, if_neg (by omega)]

theorem openFile_crashPrefix_partway :
    let records : List JournalRecord := [⟨.noop, [7]⟩, ⟨.epochState, [1, 2]⟩]
    let opened := openFile { file := (written {} ⟨1, 2⟩ ⟨3⟩ records).file.take 56 }
    opened.1 = .success ∧ opened.2.records = [⟨.noop, [7]⟩] ∧
      opened.2.report.recordsTruncated = 1 ∧ opened.2.validPrefixBytes = 51 := by
  obtain ⟨status, -, -, -, -, -, truncated, valid⟩ :=
    @openFile_crashPrefix {} (by decide) ⟨1, 2⟩ ⟨3⟩ [⟨.noop, [7]⟩, ⟨.epochState, [1, 2]⟩]
      (by decide) (by decide) 56 (by decide) (by decide +kernel)
  have kept : (openFile { file := (written {} ⟨1, 2⟩ ⟨3⟩
      [⟨.noop, [7]⟩, ⟨.epochState, [1, 2]⟩]).file.take 56 }).2.records = [⟨.noop, [7]⟩] := by
    decide +kernel
  rw [kept] at truncated valid
  exact ⟨status, kept, truncated, valid⟩

end FileJournal

end QueueFabric
