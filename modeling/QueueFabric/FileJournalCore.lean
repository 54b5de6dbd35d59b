import QueueFabric.HashCore
import QueueFabric.JournalCore

/-!
`FileJournal`: the file layout, the scan that `open` runs over it, and the writes
that keep `bytes_written` and `valid_prefix_bytes`. The file is its bytes; stdio
calls succeed.
-/

namespace QueueFabric

namespace JournalRecordType

/-- The value of the enumeration that a record prefix stores. -/
def toRaw : JournalRecordType → UInt16
  | resourceState => 1
  | queueState => 2
  | beginAttempt => 3
  | commitMutation => 4
  | epochState => 5
  | noop => 6
  | unlisted offset => UInt16.ofNat (if offset.val = 0 then 0 else offset.val + 6)

def ofRaw (raw : UInt16) : JournalRecordType :=
  if raw = 1 then resourceState
  else if raw = 2 then queueState
  else if raw = 3 then beginAttempt
  else if raw = 4 then commitMutation
  else if raw = 5 then epochState
  else if raw = 6 then noop
  else unlisted ⟨raw.toNat - 6, by have := raw.toNat_lt; omega⟩

end JournalRecordType

def durableFormatVersion : UInt16 := 1

/-- "QFJ1". -/
def journalMagic : UInt32 := 0x314A4651

def journalHeaderBytes : Nat := 40

def recordPrefixBytes : Nat := 10

/-- `JournalConfig` without the path, which is not empty. -/
structure JournalConfig where
  maxFileBytes : UInt64 := UInt64.ofNat Limits.maxJournalFileBytes
  maxRecordBytes : UInt64 := UInt64.ofNat Limits.maxJournalRecordBytes

/-! Layout. -/

/-- The checksummed part of the header. -/
def encodeHeaderHead (boot : BootId) (epoch : Epoch) : Bytes :=
  putU32At journalMagic ++ (putU16At durableFormatVersion ++ (putU16At 0 ++
    (putU64At boot.hi ++ (putU64At boot.lo ++ putU64At epoch.value))))

def encodeHeader (boot : BootId) (epoch : Epoch) : Bytes :=
  encodeHeaderHead boot epoch ++ (putU32At (crc32c (encodeHeaderHead boot epoch)) ++ putU32At 0)

/-- Type and length, the checksummed part of a record prefix. -/
def encodeRecordHead (type : JournalRecordType) (payload : Bytes) : Bytes :=
  putU16At type.toRaw ++ putU32At (UInt32.ofNat payload.length)

/-- `encode_record` followed by the payload, as `append` and `rewrite` write it. -/
def encodeRecord (record : JournalRecord) : Bytes :=
  let head := encodeRecordHead record.type record.payload
  head ++ (putU32At (crc32cExtend (crc32c head) record.payload) ++ record.payload)

/-! Scan. `rest` is the file from the cursor on. -/

def recordLength (rest : Bytes) : Nat := (getU32At rest 2).toNat

def recordPayload (rest : Bytes) : Bytes := (rest.drop recordPrefixBytes).take (recordLength rest)

def computedSum (rest : Bytes) : UInt32 :=
  crc32cExtend (crc32c (rest.take 6)) (recordPayload rest)

def storedSum (rest : Bytes) : UInt32 := getU32At rest 6

/-- The declared payload is too long or not all there. -/
def overrunsFile (config : JournalConfig) (rest : Bytes) : Bool :=
  recordLength rest > config.maxRecordBytes.toNat ||
    rest.length < recordPrefixBytes + recordLength rest

/-- `looks_like_more_data`. -/
def looksLikeMoreData (config : JournalConfig) (rest : Bytes) : Bool :=
  rest.length ≥ recordPrefixBytes && !overrunsFile config rest &&
    computedSum rest = storedSum rest

structure JournalScan where
  cursor : Nat
  lastGood : Nat
  records : List JournalRecord := []
  report : RecoveryReport

namespace JournalScan

/-- The scan stops at a torn tail of `left` bytes. -/
def tear (scan : JournalScan) (left : Nat) : JournalScan :=
  { scan with
    report := { scan.report with
      recordsTruncated := scan.report.recordsTruncated + 1
      bytesTruncated := scan.report.bytesTruncated + left } }

def corruptRecord : Status :=
  ⟨.integrityFailure, "corrupt record followed by further valid records"⟩

def corrupt (scan : JournalScan) : JournalScan :=
  { scan with
    report := { scan.report with
      recordsCorrupt := scan.report.recordsCorrupt + 1
      status := corruptRecord }.note
        "mid-file corruption detected; recovery refuses to skip records" }

def accept (scan : JournalScan) (rest : Bytes) : JournalScan :=
  let cursor := scan.cursor + (recordPrefixBytes + recordLength rest)
  { scan with
    cursor
    lastGood := cursor
    records := scan.records ++ [⟨.ofRaw (getU16At rest 0), recordPayload rest⟩] }

def count (scan : JournalScan) : JournalScan :=
  { scan with report := { scan.report with recordsTotal := scan.report.recordsTotal + 1 } }

end JournalScan

/-- The loop of `open`; every record takes at least its prefix, so `fuel` is the file's length. -/
def scanRecords (config : JournalConfig) (raw : Bytes) : Nat → JournalScan → JournalScan
  | 0, scan => scan
  | fuel + 1, scan =>
      if scan.cursor < raw.length then
        let rest := raw.drop scan.cursor
        let scan := scan.count
        if rest.length < recordPrefixBytes then scan.tear rest.length
        else if overrunsFile config rest then scan.tear rest.length
        else if computedSum rest ≠ storedSum rest then
          if looksLikeMoreData config (rest.drop (recordPrefixBytes + recordLength rest)) then
            scan.corrupt
          else scan.tear rest.length
        else scanRecords config raw fuel (scan.accept rest)
      else scan

structure FileJournal where
  config : JournalConfig := {}
  file : Bytes := []
  records : List JournalRecord := []
  report : RecoveryReport := {}
  headerBoot : BootId := default
  headerEpoch : Epoch := default
  bytesWritten : Nat := 0
  validPrefixBytes : Nat := 0
  isOpen : Bool := false

namespace FileJournal

/-- A refusal of `open` recorded in the report. -/
def refuse (journal : FileJournal) (status : Status) (line : String) : Status × FileJournal :=
  (status, { journal with report := { journal.report with status }.note line })

/-- `open` on a new file writes an empty header. -/
def create (journal : FileJournal) : Status × FileJournal :=
  (.success, { journal with
    file := encodeHeader default default
    bytesWritten := journalHeaderBytes
    validPrefixBytes := journalHeaderBytes
    report := { journal.report with headerValid := true, formatVersion := durableFormatVersion } })

/-- The journal once its header is accepted. -/
def readHeader (journal : FileJournal) : FileJournal :=
  let boot : BootId := ⟨getU64At journal.file 8, getU64At journal.file 16⟩
  let epoch : Epoch := ⟨getU64At journal.file 24⟩
  { journal with
    headerBoot := boot
    headerEpoch := epoch
    report := { journal.report with
      formatVersion := getU16At journal.file 4
      headerValid := true
      previousBootKnown := boot.valid
      previousBoot := boot
      previousEpoch := epoch } }

/-- The scan and what `open` keeps of it. -/
def load (journal : FileJournal) : Status × FileJournal :=
  let scan := scanRecords journal.config journal.file journal.file.length
    { cursor := journalHeaderBytes, lastGood := journalHeaderBytes, report := journal.report }
  let report := { scan.report with recordsUsable := scan.records.length }
  let report := if report.recordsTruncated > 0 && report.status.isOk then
    report.note "torn write detected at journal tail; valid prefix retained" else report
  (report.status, { journal with
    records := scan.records
    report
    validPrefixBytes := scan.lastGood
    bytesWritten := journal.file.length })

def openFile (journal : FileJournal) : Status × FileJournal :=
  let closed := { journal with
    records := []
    report := {}
    bytesWritten := 0
    validPrefixBytes := 0
    isOpen := false }
  if journal.config.maxRecordBytes.toNat > Limits.maxJournalRecordBytes then
    (⟨.outOfRange, "journal record bound exceeds the runtime maximum"⟩, closed)
  else
    let opened := { closed with isOpen := true, report := { closed.report with
      journalPresent := true } }
    let versioned := { opened with report := { opened.report with
      formatVersion := getU16At journal.file 4 } }
    if journal.file.length > journal.config.maxFileBytes.toNat then
      opened.refuse ⟨.integrityFailure, "journal exceeds the configured maximum size"⟩
        "journal file exceeds configured maximum; refusing to load"
    else if journal.file.length = 0 then opened.create
    else if journal.file.length < journalHeaderBytes then
      opened.refuse ⟨.integrityFailure, "journal header is truncated"⟩
        "journal shorter than a header; refusing to load"
    else if getU32At journal.file 0 ≠ journalMagic then
      opened.refuse ⟨.integrityFailure, "journal magic mismatch"⟩
        "journal magic mismatch; refusing to load"
    else if getU16At journal.file 4 ≠ durableFormatVersion then
      versioned.refuse ⟨.unsupported, "unsupported durable format version"⟩
        "durable format version is not supported by this build"
    else if getU32At journal.file 32 ≠ crc32c (journal.file.take 32) then
      versioned.refuse ⟨.integrityFailure, "journal header checksum mismatch"⟩
        "journal header checksum mismatch; refusing to load"
    else opened.readHeader.load

/-! Writes. -/

def notOpen : Status := ⟨.internal, "journal is not open"⟩

/-- `fseek` and `fwrite`: a gap before the offset is filled with zeros. -/
def writeAt (file : Bytes) (offset : Nat) (data : Bytes) : Bytes :=
  file.take offset ++ (List.replicate (offset - file.length) 0 ++
    (data ++ file.drop (offset + data.length)))

def append (journal : FileJournal) (type : JournalRecordType) (payload : Bytes) :
    Status × FileJournal :=
  let projected := journal.bytesWritten + recordPrefixBytes + payload.length
  if !journal.isOpen then (notOpen, journal)
  else if payload.length > journal.config.maxRecordBytes.toNat then
    (⟨.capacityExceeded, "record exceeds configured maximum size"⟩, journal)
  else if projected > journal.config.maxFileBytes.toNat then
    (⟨.capacityExceeded, "journal file would exceed configured maximum size"⟩, journal)
  else
    (.success, { journal with
      file := writeAt journal.file journal.bytesWritten (encodeRecord ⟨type, payload⟩)
      bytesWritten := projected
      validPrefixBytes := projected
      records := journal.records ++ [⟨type, payload⟩] })

def sync (journal : FileJournal) : Status × FileJournal :=
  if !journal.isOpen then (notOpen, journal) else (.success, journal)

def writeHeader (journal : FileJournal) (boot : BootId) (epoch : Epoch) : Status × FileJournal :=
  if !journal.isOpen then (notOpen, journal)
  else
    (.success, { journal with
      file := writeAt journal.file 0 (encodeHeader boot epoch)
      headerBoot := boot
      headerEpoch := epoch })

def truncateToValidPrefix (journal : FileJournal) : Status × FileJournal :=
  if !journal.isOpen then (notOpen, journal)
  else if journal.validPrefixBytes = journal.bytesWritten then (.success, journal)
  else
    (.success, { journal with
      file := journal.file.take journal.validPrefixBytes
      bytesWritten := journal.validPrefixBytes })

def rewrite (journal : FileJournal) (records : List JournalRecord) : Status × FileJournal :=
  let file := encodeHeader journal.headerBoot journal.headerEpoch ++ records.flatMap encodeRecord
  if !journal.isOpen then (notOpen, journal)
  else if (records.any fun record =>
      record.payload.length > journal.config.maxRecordBytes.toNat) ||
      file.length > journal.config.maxFileBytes.toNat then
    (⟨.notDurable, "compaction failed; original journal retained"⟩, journal)
  else
    (.success, { journal with
      file
      records
      bytesWritten := file.length
      validPrefixBytes := file.length
      report := { journal.report with
        recordsUsable := records.length
        recordsTruncated := 0
        recordsCorrupt := 0
        bytesTruncated := 0 } })

end FileJournal

instance : IJournal FileJournal where
  openJournal := FileJournal.openFile
  records := FileJournal.records
  recovery := FileJournal.report
  append := FileJournal.append
  sync := FileJournal.sync
  rewrite := FileJournal.rewrite
  writeHeader := FileJournal.writeHeader
  truncateToValidPrefix := FileJournal.truncateToValidPrefix

end QueueFabric
