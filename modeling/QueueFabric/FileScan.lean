import QueueFabric.FileJournalCore

/-!
The scan of a journal file. Whole records are read back one after the other; what
a crash left of the next one is a torn tail; the header gives back its boot and
epoch.
-/

namespace QueueFabric

theorem JournalRecordType.ofRaw_toRaw (type : JournalRecordType) : ofRaw type.toRaw = type := by
  cases type with
  | unlisted offset =>
      have bound := offset.isLt
      by_cases zero : offset.val = 0
      · have raw : (unlisted offset).toRaw = 0 := by simp [toRaw, zero]
        rw [raw]
        exact congrArg unlisted (Fin.ext zero.symm)
      · have raw : (unlisted offset).toRaw.toNat = offset.val + 6 := by
          simp only [toRaw, if_neg zero]
          exact UInt16.toNat_ofNat_of_lt' (by simp only [UInt16.size]; omega)
        have other : ∀ value : UInt16, value.toNat ≤ 6 → (unlisted offset).toRaw ≠ value := by
          rintro value small rfl
          omega
        rw [ofRaw, if_neg (other 1 (by decide)), if_neg (other 2 (by decide)),
          if_neg (other 3 (by decide)), if_neg (other 4 (by decide)),
          if_neg (other 5 (by decide)), if_neg (other 6 (by decide))]
        exact congrArg unlisted (Fin.ext (by simp only [raw]; omega))
  | _ => rfl

/-! One record. -/

theorem length_encodeRecordHead (type : JournalRecordType) (payload : Bytes) :
    (encodeRecordHead type payload).length = 6 := by
  simp [encodeRecordHead]

theorem length_encodeRecord (record : JournalRecord) :
    (encodeRecord record).length = recordPrefixBytes + record.payload.length := by
  simp [encodeRecord, length_encodeRecordHead, recordPrefixBytes]
  omega

/-- A payload the configuration admits, under the runtime maximum. -/
structure Admissible (config : JournalConfig) (record : JournalRecord) : Prop where
  allowed : record.payload.length ≤ config.maxRecordBytes.toNat
  bounded : config.maxRecordBytes.toNat ≤ Limits.maxJournalRecordBytes

section Record

variable {config : JournalConfig} {record : JournalRecord}

theorem Admissible.length (admissible : Admissible config record) :
    (UInt32.ofNat record.payload.length).toNat = record.payload.length := by
  have small := Nat.le_trans admissible.allowed admissible.bounded
  simp only [Limits.maxJournalRecordBytes] at small
  rw [UInt32.toNat_ofNat']
  omega

theorem recordLength_head (admissible : Admissible config record) (rest : Bytes) :
    recordLength (encodeRecordHead record.type record.payload ++ rest) =
      record.payload.length := by
  rw [recordLength, encodeRecordHead, List.append_assoc, getU32At_field (length_putU16At _)]
  exact admissible.length

theorem encodeRecord_split (record : JournalRecord) (rest : Bytes) :
    encodeRecord record ++ rest = encodeRecordHead record.type record.payload ++
      (putU32At (crc32cExtend (crc32c (encodeRecordHead record.type record.payload))
        record.payload) ++ (record.payload ++ rest)) := by
  simp [encodeRecord]

theorem recordLength_encodeRecord (admissible : Admissible config record) (rest : Bytes) :
    recordLength (encodeRecord record ++ rest) = record.payload.length := by
  rw [encodeRecord_split]
  exact recordLength_head admissible _

theorem drop_prefix_encodeRecord (record : JournalRecord) (rest : Bytes) :
    (encodeRecord record ++ rest).drop recordPrefixBytes = record.payload ++ rest := by
  rw [encodeRecord_split, ← List.append_assoc]
  refine List.drop_left' ?_
  simp [length_encodeRecordHead, recordPrefixBytes]

theorem recordPayload_encodeRecord (admissible : Admissible config record) (rest : Bytes) :
    recordPayload (encodeRecord record ++ rest) = record.payload := by
  rw [recordPayload, recordLength_encodeRecord admissible, drop_prefix_encodeRecord,
    List.take_left]

theorem sums_encodeRecord (admissible : Admissible config record) (rest : Bytes) :
    computedSum (encodeRecord record ++ rest) = storedSum (encodeRecord record ++ rest) := by
  rw [computedSum, recordPayload_encodeRecord admissible, storedSum, encodeRecord_split,
    getU32At_field (length_encodeRecordHead _ _),
    List.take_left' (length_encodeRecordHead _ _)]

theorem type_encodeRecord (record : JournalRecord) (rest : Bytes) :
    getU16At (encodeRecord record ++ rest) 0 = record.type.toRaw := by
  rw [encodeRecord_split, encodeRecordHead, List.append_assoc]
  exact @getU16At_field [] _ 0 rfl _

theorem overrunsFile_encodeRecord (admissible : Admissible config record) (rest : Bytes) :
    overrunsFile config (encodeRecord record ++ rest) = false := by
  have allowed := admissible.allowed
  simp only [overrunsFile, recordLength_encodeRecord admissible, List.length_append,
    length_encodeRecord, Bool.or_eq_false_iff, decide_eq_false_iff_not]
  omega

theorem looksLikeMoreData_encodeRecord (admissible : Admissible config record) (rest : Bytes) :
    looksLikeMoreData config (encodeRecord record ++ rest) = true := by
  simp only [looksLikeMoreData, overrunsFile_encodeRecord admissible,
    sums_encodeRecord admissible, Bool.not_false, decide_true, Bool.and_true, decide_eq_true_eq,
    List.length_append, length_encodeRecord]
  omega

theorem drop_encodeRecord (admissible : Admissible config record) (rest : Bytes) :
    (encodeRecord record ++ rest).drop
      (recordPrefixBytes + recordLength (encodeRecord record ++ rest)) = rest := by
  rw [recordLength_encodeRecord admissible, ← length_encodeRecord]
  exact List.drop_left

end Record

/-! The loop. -/

/-- The scan stands at `rest`. -/
structure JournalScan.Stands (scan : JournalScan) (raw rest : Bytes) : Prop where
  drop : raw.drop scan.cursor = rest
  inside : scan.cursor ≤ raw.length
  good : scan.lastGood = scan.cursor

theorem JournalScan.Stands.length {scan : JournalScan} {raw rest : Bytes}
    (stands : scan.Stands raw rest) : scan.cursor + rest.length = raw.length := by
  have inside := stands.inside
  rw [← stands.drop, List.length_drop]
  omega

/-- The scan after a list of whole records. -/
def JournalScan.past (scan : JournalScan) (records : List JournalRecord) : JournalScan :=
  { scan with
    cursor := scan.cursor + (records.flatMap encodeRecord).length
    lastGood := scan.cursor + (records.flatMap encodeRecord).length
    records := scan.records ++ records
    report := { scan.report with
      recordsTotal := scan.report.recordsTotal + records.length } }

theorem length_le_flatMap (records : List JournalRecord) :
    records.length ≤ (records.flatMap encodeRecord).length := by
  induction records with
  | nil => simp
  | cons record more ih =>
      simp only [List.flatMap_cons, List.length_append, length_encodeRecord, recordPrefixBytes,
        List.length_cons]
      omega

section Loop

variable {config : JournalConfig} {raw rest : Bytes} {scan : JournalScan}

theorem scanRecords_record {record : JournalRecord} {fuel : Nat}
    (admissible : Admissible config record) (stands : scan.Stands raw (encodeRecord record ++ rest)) :
    scanRecords config raw (fuel + 1) scan = scanRecords config raw fuel (scan.past [record]) ∧
      (scan.past [record]).Stands raw rest := by
  have length := stands.length
  have long := length_encodeRecord record
  simp only [List.length_append] at length
  have before : scan.cursor < raw.length := by
    simp only [recordPrefixBytes] at long
    omega
  constructor
  · rw [scanRecords, if_pos before]
    simp only [stands.drop]
    have enough : ¬ (encodeRecord record ++ rest).length < recordPrefixBytes := by
      simp only [List.length_append, long]
      omega
    rw [if_neg enough, overrunsFile_encodeRecord admissible, sums_encodeRecord admissible]
    simp only [Bool.false_eq_true, ne_eq, not_true_eq_false, ↓reduceIte]
    simp only [JournalScan.accept, JournalScan.count, JournalScan.past,
      recordLength_encodeRecord admissible, recordPayload_encodeRecord admissible,
      type_encodeRecord, JournalRecordType.ofRaw_toRaw, List.flatMap_cons, List.flatMap_nil,
      List.append_nil, long, List.length_cons, List.length_nil]
  · refine ⟨?_, ?_, rfl⟩
    · simp only [JournalScan.past, List.flatMap_cons, List.flatMap_nil, List.append_nil]
      rw [← List.drop_drop, stands.drop, List.drop_left]
    · simp only [JournalScan.past, List.flatMap_cons, List.flatMap_nil, List.append_nil]
      omega

theorem JournalScan.past_past (scan : JournalScan) (first second : List JournalRecord) :
    (scan.past first).past second = scan.past (first ++ second) := by
  simp [past, Nat.add_assoc]

theorem scanRecords_records {records : List JournalRecord} {fuel : Nat}
    (admissible : ∀ record ∈ records, Admissible config record)
    (stands : scan.Stands raw (records.flatMap encodeRecord ++ rest))
    (enough : records.length ≤ fuel) :
    scanRecords config raw fuel scan =
        scanRecords config raw (fuel - records.length) (scan.past records) ∧
      (scan.past records).Stands raw rest := by
  induction records generalizing scan fuel with
  | nil =>
      have same : scan.past [] = scan := by
        have good := stands.good
        cases scan
        simp only [JournalScan.past, List.flatMap_nil, List.length_nil, Nat.add_zero,
          List.append_nil] at good ⊢
        rw [good]
      rw [same]
      exact ⟨rfl, stands⟩
  | cons record more ih =>
      cases fuel with
      | zero => simp at enough
      | succ fuel =>
          rw [List.flatMap_cons, List.append_assoc] at stands
          obtain ⟨step, next⟩ := @scanRecords_record config raw _ scan record fuel
            (admissible record List.mem_cons_self) stands
          obtain ⟨later, last⟩ := ih (fun other listed =>
            admissible other (List.mem_cons_of_mem record listed)) next
            (by simpa using enough)
          rw [JournalScan.past_past] at later last
          rw [step, later, List.length_cons, Nat.add_sub_add_right]
          exact ⟨rfl, last⟩

theorem scanRecords_done {fuel : Nat} (stands : scan.Stands raw []) :
    scanRecords config raw fuel scan = scan := by
  have length := stands.length
  cases fuel with
  | zero => rfl
  | succ fuel => rw [scanRecords, if_neg (by simp at length; omega)]

theorem scanRecords_torn {record : JournalRecord} {fuel cut : Nat}
    (admissible : Admissible config record)
    (stands : scan.Stands raw ((encodeRecord record).take cut)) (some : 0 < cut)
    (short : cut < (encodeRecord record).length) :
    scanRecords config raw (fuel + 1) scan = scan.count.tear cut := by
  have length := stands.length
  have size : ((encodeRecord record).take cut).length = cut := by simp; omega
  rw [size] at length
  rw [scanRecords, if_pos (by omega)]
  simp only [stands.drop, size]
  by_cases early : cut < recordPrefixBytes
  · rw [if_pos early]
  rw [if_neg early, if_pos]
  rw [overrunsFile, Bool.or_eq_true]
  right
  have declared : recordLength ((encodeRecord record).take cut) = record.payload.length := by
    have split := encodeRecord_split record []
    rw [List.append_nil] at split
    have head : (encodeRecordHead record.type record.payload).length ≤ cut := by
      simp only [length_encodeRecordHead, recordPrefixBytes] at early ⊢
      omega
    rw [split, List.take_append, List.take_of_length_le head]
    exact recordLength_head admissible _
  rw [declared, size, decide_eq_true_eq, ← length_encodeRecord]
  exact short

end Loop

/-! Headers. -/

theorem length_encodeHeaderHead (boot : BootId) (epoch : Epoch) :
    (encodeHeaderHead boot epoch).length = 32 := by
  simp [encodeHeaderHead]

theorem length_encodeHeader (boot : BootId) (epoch : Epoch) :
    (encodeHeader boot epoch).length = journalHeaderBytes := by
  simp [encodeHeader, length_encodeHeaderHead, journalHeaderBytes]

/-- The fields of a header read back. -/
structure HeaderReads (boot : BootId) (epoch : Epoch) (raw : Bytes) : Prop where
  magic : getU32At raw 0 = journalMagic
  version : getU16At raw 4 = durableFormatVersion
  hi : getU64At raw 8 = boot.hi
  lo : getU64At raw 16 = boot.lo
  epoch : getU64At raw 24 = epoch.value
  sum : getU32At raw 32 = crc32c (raw.take 32)

theorem headerReads (boot : BootId) (epoch : Epoch) (rest : Bytes) :
    HeaderReads boot epoch (encodeHeader boot epoch ++ rest) := by
  have head := length_encodeHeaderHead boot epoch
  have split : encodeHeader boot epoch ++ rest = encodeHeaderHead boot epoch ++
      (putU32At (crc32c (encodeHeaderHead boot epoch)) ++ (putU32At 0 ++ rest)) := by
    simp [encodeHeader]
  have flat : encodeHeader boot epoch ++ rest = putU32At journalMagic ++
      (putU16At durableFormatVersion ++ (putU16At 0 ++ (putU64At boot.hi ++ (putU64At boot.lo ++
        (putU64At epoch.value ++ (putU32At (crc32c (encodeHeaderHead boot epoch)) ++
          (putU32At 0 ++ rest))))))) := by
    rw [split, encodeHeaderHead]
    simp only [List.append_assoc]
  refine ⟨?_, ?_, ?_, ?_, ?_, ?_⟩
  · rw [flat]
    exact @getU32At_field [] _ 0 rfl _
  · rw [flat]
    exact getU16At_field rfl _
  · rw [flat, ← List.append_assoc, ← List.append_assoc]
    exact getU64At_field rfl _
  · rw [flat, ← List.append_assoc, ← List.append_assoc, ← List.append_assoc]
    exact getU64At_field rfl _
  · rw [flat, ← List.append_assoc, ← List.append_assoc, ← List.append_assoc, ← List.append_assoc]
    exact getU64At_field rfl _
  · rw [split, getU32At_field head, List.take_left' head]

namespace FileJournal

/-- The report once the header is read. -/
def freshReport (boot : BootId) (epoch : Epoch) : RecoveryReport :=
  { journalPresent := true, headerValid := true, formatVersion := durableFormatVersion,
    previousBootKnown := boot.valid, previousBoot := boot, previousEpoch := epoch }

theorem openFile_eq_load {journal : FileJournal} {boot : BootId} {epoch : Epoch} {rest : Bytes}
    (content : journal.file = encodeHeader boot epoch ++ rest)
    (bounded : journal.config.maxRecordBytes.toNat ≤ Limits.maxJournalRecordBytes)
    (small : journal.file.length ≤ journal.config.maxFileBytes.toNat) :
    journal.openFile = load { journal with
      records := []
      report := freshReport boot epoch
      headerBoot := boot
      headerEpoch := epoch
      bytesWritten := 0
      validPrefixBytes := 0
      isOpen := true } := by
  have header := length_encodeHeader boot epoch
  have length : journal.file.length = journalHeaderBytes + rest.length := by
    rw [content, List.length_append, header]
  obtain ⟨magic, version, hi, lo, stamp, sum⟩ := content ▸ headerReads boot epoch rest
  have nonempty : ¬ journal.file.length = 0 := by
    simp only [journalHeaderBytes] at length
    omega
  rw [openFile, if_neg (by omega)]
  simp only []
  rw [if_neg (by omega), if_neg nonempty, if_neg (by omega), if_neg (by rw [magic]; simp),
    if_neg (by rw [version]; simp), if_neg (by rw [sum]; simp)]
  simp only [readHeader, version, hi, lo, stamp, freshReport]

theorem stands_start {boot : BootId} {epoch : Epoch} {rest : Bytes} (report : RecoveryReport) :
    JournalScan.Stands ⟨journalHeaderBytes, journalHeaderBytes, [], report⟩
      (encodeHeader boot epoch ++ rest) rest := by
  have header := length_encodeHeader boot epoch
  refine ⟨?_, ?_, rfl⟩
  · rw [← header, List.drop_left]
  · simp only [List.length_append, header]
    omega

end FileJournal

end QueueFabric
