import QueueFabric.CrashPrefixes

/-!
A byte of a journal record changed in place. The checksum sees every such change;
what the scan makes of the mismatch depends on the length it still reads.
-/

namespace QueueFabric

/-! The checksum tells two byte strings apart that differ in one byte. -/

/-- `crc32cBit` undone. -/
def crc32cUnbit (crc : UInt32) : UInt32 :=
  if crc >>> 31 ≠ 0 then ((crc ^^^ 0x82F63B78) <<< 1) ||| 1 else crc <<< 1

/-- Eight bits undone from the top byte alone. -/
def tableIndex (top : UInt32) : Nat := (Nat.repeat crc32cUnbit 8 (top <<< 24) &&& 0xFF).toNat

theorem getD_crc32cTable {index : Nat} (bound : index < 256) :
    crc32cTable.getD index 0 = Nat.repeat crc32cBit 8 (UInt32.ofNat index) := by
  simp [crc32cTable, List.getD, bound]

theorem tableIndex_entry : ∀ index < 256,
    tableIndex (Nat.repeat crc32cBit 8 (UInt32.ofNat index) >>> 24) = index := by
  decide +kernel

theorem crc32cTable_injective {first second : Nat} (firstBound : first < 256)
    (secondBound : second < 256)
    (same : crc32cTable.getD first 0 >>> 24 = crc32cTable.getD second 0 >>> 24) :
    first = second := by
  rw [getD_crc32cTable firstBound, getD_crc32cTable secondBound] at same
  rw [← tableIndex_entry first firstBound, same, tableIndex_entry second secondBound]

theorem lowByte_toNat (value : UInt32) : (value &&& 0xFF).toNat = value.toNat % 256 := by
  rw [UInt32.toNat_and]
  exact Nat.and_two_pow_sub_one_eq_mod value.toNat 8

theorem lowByte_xor {first second : UInt32} (value : UInt32)
    (same : ((first ^^^ value) &&& 0xFF).toNat = ((second ^^^ value) &&& 0xFF).toNat) :
    first.toNat % 256 = second.toNat % 256 := by
  rw [lowByte_toNat, lowByte_toNat, UInt32.toNat_xor, UInt32.toNat_xor] at same
  rw [show 256 = 2 ^ 8 by rfl, Nat.xor_mod_two_pow, Nat.xor_mod_two_pow] at same
  exact Nat.xor_left_inj.mp same

/-- Equal sums after one byte come from one table entry and one shifted sum. -/
theorem crc32cStep_parts {first second : UInt32} {firstByte secondByte : UInt8}
    (same : crc32cStep first firstByte = crc32cStep second secondByte) :
    ((first ^^^ firstByte.toUInt32) &&& 0xFF).toNat =
        ((second ^^^ secondByte.toUInt32) &&& 0xFF).toNat ∧ first >>> 8 = second >>> 8 := by
  have clear (value : UInt32) : value >>> 8 >>> 24 = 0 := by
    have bound := value.toNat_lt
    apply UInt32.toNat_inj.mp
    simp [Nat.shiftRight_eq_div_pow]
    omega
  have top := congrArg (· >>> (24 : UInt32)) same
  simp only [crc32cStep, UInt32.shiftRight_xor, clear, UInt32.xor_zero] at top
  have index := crc32cTable_injective (by rw [lowByte_toNat]; omega)
    (by rw [lowByte_toNat]; omega) top
  refine ⟨index, ?_⟩
  rw [crc32cStep, crc32cStep, index] at same
  exact (UInt32.xor_right_inj _).mp same

theorem crc32cStep_injective {first second : UInt32} {byte : UInt8}
    (same : crc32cStep first byte = crc32cStep second byte) : first = second := by
  obtain ⟨index, shifted⟩ := crc32cStep_parts same
  have low := lowByte_xor byte.toUInt32 index
  have high := congrArg UInt32.toNat shifted
  simp [Nat.shiftRight_eq_div_pow] at high
  apply UInt32.toNat_inj.mp
  omega

theorem crc32cStep_byte {crc : UInt32} {first second : UInt8}
    (same : crc32cStep crc first = crc32cStep crc second) : first = second := by
  have index := (crc32cStep_parts same).1
  rw [UInt32.xor_comm crc, UInt32.xor_comm crc] at index
  have low := lowByte_xor crc index
  have firstBound := first.toNat_lt
  have secondBound := second.toNat_lt
  apply UInt8.toNat_inj.mp
  simp at low
  omega

theorem foldl_crc32cStep_injective {first second : UInt32} (data : Bytes)
    (same : data.foldl crc32cStep first = data.foldl crc32cStep second) : first = second := by
  induction data generalizing first second with
  | nil => exact same
  | cons byte more ih => exact crc32cStep_injective (ih same)

theorem crc32cExtend_set {data : Bytes} {position : Nat} {old byte : UInt8} (seed : UInt32)
    (there : data[position]? = some old) (changed : byte ≠ old) :
    crc32cExtend seed (data.set position byte) ≠ crc32cExtend seed data := by
  intro same
  rw [crc32cExtend, crc32cExtend, UInt32.not_inj] at same
  generalize ~~~seed = crc at same
  induction data generalizing crc position with
  | nil => cases there
  | cons head more ih =>
      cases position with
      | zero =>
          have first : head = old := by simpa using there
          rw [List.set_cons_zero] at same
          exact changed (first ▸ crc32cStep_byte (foldl_crc32cStep_injective more same))
      | succ position =>
          rw [List.set_cons_succ] at same
          exact ih (by simpa using there) _ same

/-! A damaged record. -/

/-- Bytes laid out as a record, whatever their type and checksum. -/
def layOut (type sum payload rest : Bytes) : Bytes :=
  type ++ (putU32At (UInt32.ofNat payload.length) ++ (sum ++ (payload ++ rest)))

section LayOut

variable {type sum payload : Bytes} (rest : Bytes)

theorem encodeRecord_layOut (record : JournalRecord) :
    encodeRecord record ++ rest = layOut (putU16At record.type.toRaw)
      (putU32At (crc32cExtend (crc32c (encodeRecordHead record.type record.payload))
        record.payload)) record.payload rest := by
  rw [encodeRecord_split, encodeRecordHead, layOut, List.append_assoc]

theorem recordLength_layOut (typeSize : type.length = 2) (small : payload.length < 2 ^ 32) :
    recordLength (layOut type sum payload rest) = payload.length := by
  rw [recordLength, layOut, getU32At_field typeSize, UInt32.toNat_ofNat']
  omega

theorem drop_prefix_layOut (typeSize : type.length = 2) (sumSize : sum.length = 4) :
    (layOut type sum payload rest).drop recordPrefixBytes = payload ++ rest := by
  rw [layOut, ← List.append_assoc, ← List.append_assoc]
  refine List.drop_left' ?_
  simp [typeSize, sumSize, recordPrefixBytes]

theorem recordPayload_layOut (typeSize : type.length = 2) (sumSize : sum.length = 4)
    (small : payload.length < 2 ^ 32) :
    recordPayload (layOut type sum payload rest) = payload := by
  rw [recordPayload, recordLength_layOut rest typeSize small,
    drop_prefix_layOut rest typeSize sumSize, List.take_left]

theorem drop_layOut (typeSize : type.length = 2) (sumSize : sum.length = 4)
    (small : payload.length < 2 ^ 32) :
    (layOut type sum payload rest).drop
      (recordPrefixBytes + recordLength (layOut type sum payload rest)) = rest := by
  rw [recordLength_layOut rest typeSize small, ← List.drop_drop,
    drop_prefix_layOut rest typeSize sumSize, List.drop_left]

theorem computedSum_layOut (typeSize : type.length = 2) (sumSize : sum.length = 4)
    (small : payload.length < 2 ^ 32) :
    computedSum (layOut type sum payload rest) =
      crc32c (type ++ (putU32At (UInt32.ofNat payload.length) ++ payload)) := by
  have head : (layOut type sum payload rest).take 6 =
      type ++ putU32At (UInt32.ofNat payload.length) := by
    rw [layOut, ← List.append_assoc]
    exact List.take_left' (by simp [typeSize])
  rw [computedSum, head, recordPayload_layOut rest typeSize sumSize small, crc32c, crc32c,
    ← crc32cExtend_append, List.append_assoc]

theorem leValue_putU32At (value : UInt32) :
    UInt32.ofNat (Wire.leValue (putU32At value)) = value := by
  have small : value.toNat % 256 ^ 4 = value.toNat := Nat.mod_eq_of_lt value.toNat_lt
  rw [putU32At, Wire.leValue_leBytes, small, UInt32.ofNat_toNat]

theorem putU32At_leValue {data : Bytes} (size : data.length = 4) :
    putU32At (UInt32.ofNat (Wire.leValue data)) = data := by
  have small := Wire.leValue_lt data
  rw [size] at small
  rw [putU32At, UInt32.toNat_ofNat_of_lt' small, ← size, Wire.leBytes_leValue]

theorem storedSum_layOut (typeSize : type.length = 2) (sumSize : sum.length = 4) :
    storedSum (layOut type sum payload rest) = UInt32.ofNat (Wire.leValue sum) := by
  rw [storedSum, getU32At, layOut, ← List.append_assoc]
  rw [take_drop_field (by simp [typeSize]) sumSize]

end LayOut

/-- Bytes over which `open` reports damage: a record that fits and has a wrong checksum
with a sound record right behind it, perhaps after some sound ones. -/
inductive Refuses (config : JournalConfig) : Bytes → Prop
  | here {rest : Bytes} : recordPrefixBytes ≤ rest.length → overrunsFile config rest = false →
      computedSum rest ≠ storedSum rest →
      looksLikeMoreData config (rest.drop (recordPrefixBytes + recordLength rest)) = true →
      Refuses config rest
  | later {rest : Bytes} : looksLikeMoreData config rest = true →
      Refuses config (rest.drop (recordPrefixBytes + recordLength rest)) → Refuses config rest

section Damage

variable {config : JournalConfig} {record : JournalRecord} {rest : Bytes}

theorem refuses_layOut {type sum payload : Bytes} (typeSize : type.length = 2)
    (sumSize : sum.length = 4) (allowed : payload.length ≤ config.maxRecordBytes.toNat)
    (bounded : config.maxRecordBytes.toNat ≤ Limits.maxJournalRecordBytes)
    (differ : crc32c (type ++ (putU32At (UInt32.ofNat payload.length) ++ payload)) ≠
      UInt32.ofNat (Wire.leValue sum))
    (more : looksLikeMoreData config rest = true) :
    Refuses config (layOut type sum payload rest) := by
  have small : payload.length < 2 ^ 32 := by
    simp only [Limits.maxJournalRecordBytes] at bounded
    omega
  have length : (layOut type sum payload rest).length =
      recordPrefixBytes + payload.length + rest.length := by
    simp [layOut, typeSize, sumSize, recordPrefixBytes]
    omega
  refine .here (by omega) ?_ ?_ ?_
  · simp only [overrunsFile, recordLength_layOut rest typeSize small, length,
      Bool.or_eq_false_iff, decide_eq_false_iff_not]
    omega
  · rwa [computedSum_layOut rest typeSize sumSize small, storedSum_layOut rest typeSize sumSize]
  · rwa [drop_layOut rest typeSize sumSize small]

/-- A changed byte outside the length leaves the length readable and the sums apart. -/
theorem refuses_set (admissible : Admissible config record)
    (more : looksLikeMoreData config rest = true) {position : Nat} {old byte : UInt8}
    (there : (encodeRecord record)[position]? = some old) (changed : byte ≠ old)
    (elsewhere : ¬ (2 ≤ position ∧ position < 6)) :
    Refuses config ((encodeRecord record).set position byte ++ rest) := by
  obtain ⟨allowed, bounded⟩ := admissible
  have split := encodeRecord_layOut [] record
  rw [List.append_nil, layOut, List.append_nil] at split
  have summed : crc32cExtend (crc32c (encodeRecordHead record.type record.payload))
      record.payload = crc32c (putU16At record.type.toRaw ++
        (putU32At (UInt32.ofNat record.payload.length) ++ record.payload)) := by
    rw [crc32c, crc32c, ← crc32cExtend_append, encodeRecordHead, List.append_assoc]
  rw [summed] at split
  have typeSize := length_putU16At record.type.toRaw
  have lengthSize := length_putU32At (UInt32.ofNat record.payload.length)
  generalize putU16At record.type.toRaw = type at split typeSize
  have sumSize := length_putU32At (crc32c (type ++
    (putU32At (UInt32.ofNat record.payload.length) ++ record.payload)))
  rw [split] at there ⊢
  by_cases early : position < 2
  · -- The type: the sum is taken over another prefix.
    rw [List.getElem?_append_left (by omega)] at there
    rw [List.set_append_left _ _ (by omega), List.append_assoc, List.append_assoc,
      List.append_assoc]
    refine refuses_layOut (by simpa using typeSize) sumSize allowed bounded ?_ more
    rw [leValue_putU32At, ← List.set_append_left _ _ (by omega)]
    refine crc32cExtend_set 0 ?_ changed
    rwa [List.getElem?_append_left (by omega)]
  rw [List.getElem?_append_right (by omega), List.getElem?_append_right (by omega),
    lengthSize, typeSize] at there
  rw [List.set_append_right _ _ (by omega), List.set_append_right _ _ (by omega), lengthSize,
    typeSize]
  by_cases middle : position < 10
  · -- The stored sum: no other four bytes spell it.
    rw [List.getElem?_append_left (by omega)] at there
    rw [List.set_append_left _ _ (by omega), List.append_assoc, List.append_assoc,
      List.append_assoc]
    refine refuses_layOut typeSize (by simp [sumSize]) allowed bounded ?_ more
    intro same
    have spelled := congrArg putU32At same
    rw [putU32At_leValue (by simp [sumSize])] at spelled
    rw [spelled, List.getElem?_set_self (by simp; omega)] at there
    exact changed (Option.some.inj there)
  · -- The payload.
    rw [List.getElem?_append_right (by omega), sumSize] at there
    rw [List.set_append_right _ _ (by omega), sumSize, List.append_assoc, List.append_assoc,
      List.append_assoc]
    have size : (record.payload.set (position - 2 - 4 - 4) byte).length =
        record.payload.length := List.length_set
    have refused := @refuses_layOut config rest type _
      (record.payload.set (position - 2 - 4 - 4) byte) typeSize sumSize (by omega) bounded
    rw [layOut, size] at refused
    refine refused ?_ more
    simp only [leValue_putU32At, crc32c, crc32cExtend_append]
    exact crc32cExtend_set _ there changed

end Damage

/-! The scan of damaged bytes. -/

theorem looksLikeMoreData_iff {config : JournalConfig} {rest : Bytes} :
    looksLikeMoreData config rest = true ↔ recordPrefixBytes ≤ rest.length ∧
      overrunsFile config rest = false ∧ computedSum rest = storedSum rest := by
  simp [looksLikeMoreData, and_assoc]

theorem refuses_iff {config : JournalConfig} {rest : Bytes} :
    Refuses config rest ↔ recordPrefixBytes ≤ rest.length ∧ overrunsFile config rest = false ∧
      if computedSum rest = storedSum rest then
        Refuses config (rest.drop (recordPrefixBytes + recordLength rest))
      else looksLikeMoreData config (rest.drop (recordPrefixBytes + recordLength rest)) = true := by
  constructor
  · intro refuses
    cases refuses with
    | here long fits differ more => exact ⟨long, fits, by rwa [if_neg differ]⟩
    | later sound refuses =>
        obtain ⟨long, fits, same⟩ := looksLikeMoreData_iff.mp sound
        exact ⟨long, fits, by rwa [if_pos same]⟩
  · rintro ⟨long, fits, next⟩
    by_cases same : computedSum rest = storedSum rest
    · rw [if_pos same] at next
      exact .later (looksLikeMoreData_iff.mpr ⟨long, fits, same⟩) next
    · rw [if_neg same] at next
      exact .here long fits same next

theorem JournalScan.Stands.accept {scan : JournalScan} {raw rest : Bytes} {config : JournalConfig}
    (stands : scan.Stands raw rest) (_ : recordPrefixBytes ≤ rest.length)
    (fits : overrunsFile config rest = false) :
    (scan.count.accept rest).Stands raw
      (rest.drop (recordPrefixBytes + recordLength rest)) := by
  have length := stands.length
  simp only [overrunsFile, Bool.or_eq_false_iff, decide_eq_false_iff_not] at fits
  refine ⟨?_, ?_, rfl⟩
  · change raw.drop (scan.cursor + (recordPrefixBytes + recordLength rest)) = _
    rw [← List.drop_drop, stands.drop]
  · change scan.cursor + (recordPrefixBytes + recordLength rest) ≤ raw.length
    omega

theorem status_corrupt (scan : JournalScan) :
    scan.corrupt.report.status = JournalScan.corruptRecord := by
  simp only [JournalScan.corrupt, RecoveryReport.note]
  split <;> rfl

theorem status_scanRecords {config : JournalConfig} {raw rest : Bytes} {fuel : Nat}
    {scan : JournalScan} (stands : scan.Stands raw rest) (enough : rest.length ≤ fuel)
    (fine : scan.report.status = .success) :
    (Refuses config rest →
        (scanRecords config raw fuel scan).report.status = JournalScan.corruptRecord) ∧
      (¬ Refuses config rest → (scanRecords config raw fuel scan).report.status = .success) := by
  induction fuel generalizing scan rest with
  | zero =>
      refine ⟨fun refuses => ?_, fun _ => fine⟩
      have long := (refuses_iff.mp refuses).1
      rw [recordPrefixBytes] at long
      omega
  | succ fuel ih =>
      have length := stands.length
      rw [scanRecords]
      by_cases before : scan.cursor < raw.length
      · rw [if_pos before]
        simp only [stands.drop]
        by_cases long : recordPrefixBytes ≤ rest.length
        · rw [if_neg (by omega)]
          cases fits : overrunsFile config rest with
          | true =>
              refine ⟨fun refuses => ?_, fun _ => fine⟩
              rw [(refuses_iff.mp refuses).2.1] at fits
              cases fits
          | false =>
              rw [if_neg Bool.false_ne_true, refuses_iff]
              by_cases same : computedSum rest = storedSum rest
              · have shorter : (rest.drop (recordPrefixBytes + recordLength rest)).length ≤
                    fuel := by
                  rw [List.length_drop, recordPrefixBytes]
                  omega
                simpa only [same, long, fits, ne_eq, not_true_eq_false, ↓reduceIte, true_and]
                  using ih (stands.accept long fits) shorter fine
              · simp only [same, long, fits, ne_eq, not_false_eq_true, ↓reduceIte, true_and]
                cases looksLikeMoreData config
                    (rest.drop (recordPrefixBytes + recordLength rest)) with
                | true => exact ⟨fun _ => status_corrupt _, fun sound => absurd rfl sound⟩
                | false => exact ⟨fun more => absurd more Bool.false_ne_true, fun _ => fine⟩
        · rw [if_pos (by omega)]
          exact ⟨fun refuses => absurd (refuses_iff.mp refuses).1 long, fun _ => fine⟩
      · rw [if_neg before]
        refine ⟨fun refuses => ?_, fun _ => fine⟩
        have long := (refuses_iff.mp refuses).1
        rw [recordPrefixBytes] at long
        omega

namespace FileJournal

/-! The files a journal writes. -/

/-- A journal as its operations leave it, also across crashes that cut the file. -/
inductive Produced (config : JournalConfig) : FileJournal → Prop
  | created : (openFile { config }).1.isOk = true → Produced config (openFile { config }).2
  | headed {journal : FileJournal} (boot : BootId) (epoch : Epoch) : Produced config journal →
      Produced config (journal.writeHeader boot epoch).2
  | appended {journal : FileJournal} (type : JournalRecordType) (payload : Bytes) :
      Produced config journal → Produced config (journal.append type payload).2
  | rewritten {journal : FileJournal} (records : List JournalRecord) :
      Produced config journal → Produced config (journal.rewrite records).2
  | recovered {journal : FileJournal} {size : Nat} : Produced config journal →
      journalHeaderBytes ≤ size →
      (openFile { journal with file := journal.file.take size }).1.isOk = true →
      Produced config
        (openFile { journal with file := journal.file.take size }).2.truncateToValidPrefix.2

/-- Whole records within the configured bounds. -/
structure Whole (config : JournalConfig) (journal : FileJournal) : Prop where
  bounded : config.maxRecordBytes.toNat ≤ Limits.maxJournalRecordBytes
  holds : ∃ boot epoch, journal.Holds config boot epoch journal.records
  allowed : ∀ record ∈ journal.records, record.payload.length ≤ config.maxRecordBytes.toNat
  small : journal.records = [] ∨ journal.file.length ≤ config.maxFileBytes.toNat

section Whole

variable {config : JournalConfig} {journal : FileJournal}

theorem Whole.writeHeader (whole : journal.Whole config) (boot : BootId) (epoch : Epoch) :
    (journal.writeHeader boot epoch).2.Whole config := by
  obtain ⟨bounded, ⟨oldBoot, oldEpoch, holds⟩, allowed, small⟩ := whole
  have headed := holds.writeHeader boot epoch
  have kept := headed.records
  have length : (journal.writeHeader boot epoch).2.file.length = journal.file.length := by
    rw [headed.length, holds.length]
  refine ⟨bounded, ⟨boot, epoch, ?_⟩, ?_, ?_⟩
  · rwa [kept]
  · rwa [kept]
  · rwa [kept, length]

theorem Whole.append (whole : journal.Whole config) (type : JournalRecordType)
    (payload : Bytes) : (journal.append type payload).2.Whole config := by
  have ⟨bounded, ⟨boot, epoch, holds⟩, allowed, small⟩ := whole
  have length := holds.length
  have last := holds.atEnd
  have settings := holds.config
  have grown : boundary (journal.records ++ [⟨type, payload⟩]) =
      journal.bytesWritten + recordPrefixBytes + payload.length := by
    rw [last, length]
    simp [boundary, length_encodeRecord]
    omega
  by_cases long : payload.length > config.maxRecordBytes.toNat
  · rw [FileJournal.append, if_neg (by simp [holds.isOpen]), settings, if_pos long]
    exact whole
  by_cases full : boundary (journal.records ++ [⟨type, payload⟩]) > config.maxFileBytes.toNat
  · rw [FileJournal.append, if_neg (by simp [holds.isOpen]), settings, if_neg long,
      if_pos (by omega)]
    exact whole
  · obtain ⟨-, appended⟩ := @Holds.append _ _ _ _ _ holds ⟨type, payload⟩ (by simpa using long)
      (by omega)
    have kept := appended.records
    refine ⟨bounded, ⟨boot, epoch, ?_⟩, ?_, .inr ?_⟩
    · rwa [kept]
    · rw [kept]
      intro record listed
      rcases List.mem_append.mp listed with old | new
      · exact allowed record old
      · rw [List.mem_singleton.mp new]
        simpa using long
    · rw [appended.length]
      omega

theorem Whole.rewrite (whole : journal.Whole config) (records : List JournalRecord) :
    (journal.rewrite records).2.Whole config := by
  have ⟨bounded, ⟨boot, epoch, holds⟩, allowed, small⟩ := whole
  have settings := holds.config
  rw [FileJournal.rewrite, if_neg (by simp [holds.isOpen])]
  split
  · exact whole
  · rename_i fits
    rw [settings, Bool.or_eq_true, not_or, List.any_eq_true] at fits
    simp only [decide_eq_true_eq] at fits
    refine ⟨bounded, ⟨journal.headerBoot, journal.headerEpoch, settings, rfl, rfl, rfl, rfl,
      holds.isOpen⟩, ?_, .inr (by simpa using fits.2)⟩
    intro record listed
    by_contra long
    exact fits.1 ⟨record, listed, by omega⟩

theorem small_of_openFile (opens : journal.openFile.1.isOk = true) :
    journal.file.length ≤ journal.config.maxFileBytes.toNat := by
  have bounded := bounded_of_openFile opens
  by_contra large
  rw [openFile, if_neg (by omega)] at opens
  simp only [] at opens
  rw [if_pos (by omega)] at opens
  cases opens

/-- Opening what a crash left and dropping the torn tail gives whole records again. -/
theorem Whole.recover {size : Nat} (whole : journal.Whole config)
    (header : journalHeaderBytes ≤ size)
    (opens : (openFile { journal with file := journal.file.take size }).1.isOk = true) :
    (openFile { journal with
      file := journal.file.take size }).2.truncateToValidPrefix.2.Whole config := by
  obtain ⟨bounded, ⟨boot, epoch, holds⟩, allowed, -⟩ := whole
  obtain ⟨within, same⟩ : min size journal.file.length ≤ journal.file.length ∧
      journal.file.take size = journal.file.take (min size journal.file.length) :=
    ⟨Nat.min_le_right _ _, by rw [List.take_eq_take_iff]; simp⟩
  have least : journalHeaderBytes ≤ min size journal.file.length := by
    have length := holds.length
    rw [boundary] at length
    omega
  obtain ⟨kept, rest, cut, split, length, last, file⟩ := holds.take least within
  have settings := holds.config
  rw [same] at opens ⊢
  generalize min size journal.file.length = size at *
  have small := small_of_openFile opens
  have loaded := @openFile_eq_load { journal with file := journal.file.take size } boot epoch _
    file (settings ▸ bounded) small
  have opened : Opens { journal with file := journal.file.take size } boot epoch kept
      (if cut = 0 then 0 else 1) :=
    opens_cut file (settings ▸ bounded) (by rw [← split]; exact settings ▸ allowed) last small
  generalize openedIs : openFile { journal with file := journal.file.take size } = result
  have configRead : result.2.config = config := by rw [← openedIs, loaded]; exact settings
  have fileRead : result.2.file = journal.file.take size := by rw [← openedIs, loaded]; rfl
  have writtenRead : result.2.bytesWritten = size := by
    rw [← openedIs, loaded]
    change (journal.file.take size).length = size
    rw [List.length_take]
    omega
  have isOpen : result.2.isOpen = true := by rw [← openedIs, loaded]; rfl
  have kept' := openedIs ▸ opened.records
  have valid := openedIs ▸ opened.valid
  have wholeSize : boundary kept = (encodeHeader boot epoch ++ kept.flatMap encodeRecord).length :=
    by rw [List.length_append, length_encodeHeader, boundary]
  have wholeFile : result.2.file.take (boundary kept) =
      encodeHeader boot epoch ++ kept.flatMap encodeRecord := by
    rw [fileRead, file, ← List.append_assoc, wholeSize, List.take_left]
  have fewer : ∀ record ∈ kept, record.payload.length ≤ config.maxRecordBytes.toNat := by
    intro record listed
    exact allowed record (split ▸ List.mem_append_left rest listed)
  have cutLength : (journal.file.take size).length = size := by
    rw [List.length_take]
    omega
  simp only [cutLength, settings] at small
  rw [truncateToValidPrefix, if_neg (by simp [isOpen])]
  by_cases clean : result.2.validPrefixBytes = result.2.bytesWritten
  · rw [if_pos clean]
    have all : result.2.file.take (boundary kept) = result.2.file := by
      apply List.take_of_length_le
      rw [fileRead]
      omega
    refine ⟨bounded, ⟨boot, epoch, configRead, ?_, ?_, clean, rfl, isOpen⟩, ?_, .inr ?_⟩
    · rw [kept', ← wholeFile, all]
    · rw [writtenRead, fileRead, cutLength]
    · rwa [kept']
    · rwa [fileRead, cutLength]
  · rw [if_neg clean]
    refine ⟨bounded, ⟨boot, epoch, configRead, ?_, ?_, rfl, rfl, isOpen⟩, ?_, .inr ?_⟩
    · simp only [valid, kept', wholeFile]
    · simp only [valid, wholeFile]
      exact wholeSize
    · simpa only [kept'] using fewer
    · simp only [valid, wholeFile, ← wholeSize]
      omega

end Whole

theorem whole_of_produced {config : JournalConfig} {journal : FileJournal}
    (produced : Produced config journal) : journal.Whole config := by
  induction produced with
  | created opens =>
      have holds := holds_create opens
      have kept := holds.records
      refine ⟨bounded_of_openFile opens, ⟨default, default, ?_⟩, ?_, .inl kept⟩
      · rwa [kept]
      · simp [kept]
  | headed boot epoch _ whole => exact whole.writeHeader boot epoch
  | appended type payload _ whole => exact whole.append type payload
  | rewritten records _ whole => exact whole.rewrite records
  | recovered _ header opens whole => exact whole.recover header opens

/-! One byte of a file changed. -/

theorem status_load (journal : FileJournal) :
    journal.load.1 = (scanRecords journal.config journal.file journal.file.length
      ⟨journalHeaderBytes, journalHeaderBytes, [], journal.report⟩).report.status := by
  rw [load]
  simp only []
  split
  · rw [RecoveryReport.note]
    split <;> rfl
  · rfl

/-- What `open` answers when sound records precede the bytes in question. -/
theorem status_openFile {journal : FileJournal} {boot : BootId} {epoch : Epoch}
    {early : List JournalRecord} {rest : Bytes}
    (content : journal.file = encodeHeader boot epoch ++ (early.flatMap encodeRecord ++ rest))
    (admissible : ∀ record ∈ early, Admissible journal.config record)
    (bounded : journal.config.maxRecordBytes.toNat ≤ Limits.maxJournalRecordBytes)
    (small : journal.file.length ≤ journal.config.maxFileBytes.toNat) :
    journal.openFile.1.code = .integrityFailure ↔ Refuses journal.config rest := by
  rw [openFile_eq_load content bounded small, status_load]
  have stands : JournalScan.Stands _ journal.file (early.flatMap encodeRecord ++ rest) :=
    content ▸ stands_start (freshReport boot epoch)
  have length : journal.file.length =
      journalHeaderBytes + (early.flatMap encodeRecord).length + rest.length := by
    rw [content]
    simp only [List.length_append, length_encodeHeader]
    omega
  have count := length_le_flatMap early
  obtain ⟨scanned, after⟩ := @scanRecords_records journal.config journal.file rest _ early
    journal.file.length admissible stands (by omega)
  dsimp only
  rw [scanned]
  obtain ⟨refused, sound⟩ := @status_scanRecords journal.config journal.file rest
    (journal.file.length - early.length) _ after (by omega) rfl
  constructor
  · intro failed
    by_contra fine
    rw [sound fine] at failed
    cases failed
  · intro refuses
    rw [refused refuses]
    rfl

theorem damaged_refused_iff {config : JournalConfig} {journal : FileJournal}
    (produced : Produced config journal) {early late : List JournalRecord}
    {record next : JournalRecord} (listed : journal.records = early ++ record :: next :: late)
    {position : Nat} (inside : position < (encodeRecord record).length) {byte : UInt8}
    (changed : journal.file[boundary early + position]? ≠ some byte) :
    let damaged := journal.file.set (boundary early + position) byte
    (openFile { config, file := damaged }).1.code = .integrityFailure ↔
      ¬ (2 ≤ position ∧ position < 6) ∨ Refuses config (damaged.drop (boundary early)) := by
  obtain ⟨bounded, ⟨boot, epoch, holds⟩, allowed, small⟩ := whole_of_produced produced
  have admissible : ∀ other ∈ early ++ record :: next :: late, Admissible config other :=
    fun other among => ⟨allowed other (listed ▸ among), bounded⟩
  have file : journal.file = (encodeHeader boot epoch ++ early.flatMap encodeRecord) ++
      (encodeRecord record ++ (next :: late).flatMap encodeRecord) := by
    rw [holds.file, listed]
    simp
  have start : (encodeHeader boot epoch ++ early.flatMap encodeRecord).length =
      boundary early := by
    rw [List.length_append, length_encodeHeader, boundary]
  have replaced : journal.file.set (boundary early + position) byte =
      (encodeHeader boot epoch ++ early.flatMap encodeRecord) ++
        ((encodeRecord record).set position byte ++ (next :: late).flatMap encodeRecord) := by
    rw [file, List.set_append_right _ _ (by omega), start, Nat.add_sub_cancel_left,
      List.set_append_left _ _ inside]
  have rest : (journal.file.set (boundary early + position) byte).drop (boundary early) =
      (encodeRecord record).set position byte ++ (next :: late).flatMap encodeRecord := by
    rw [replaced, ← start, List.drop_left]
  have there : (encodeRecord record)[position]? ≠ some byte := by
    rwa [file, List.getElem?_append_right (by omega), start, Nat.add_sub_cancel_left,
      List.getElem?_append_left inside] at changed
  have fits : (journal.file.set (boundary early + position) byte).length ≤
      config.maxFileBytes.toNat := by
    rw [List.length_set]
    rcases small with none | small
    · simp [none] at listed
    · exact small
  intro damaged
  have answered : (openFile { config, file := damaged }).1.code = .integrityFailure ↔
      Refuses config (damaged.drop (boundary early)) := by
    rw [show damaged.drop (boundary early) = _ from rest]
    refine @status_openFile { config, file := damaged } boot epoch early _ ?_ ?_ bounded fits
    · rw [← List.append_assoc]
      exact replaced
    · exact fun other among => admissible other (List.mem_append_left _ among)
  rw [answered]
  refine ⟨.inr, ?_⟩
  rintro (elsewhere | refuses)
  · obtain ⟨old, stored⟩ : ∃ old, (encodeRecord record)[position]? = some old :=
      ⟨_, List.getElem?_eq_getElem inside⟩
    have more : looksLikeMoreData config ((next :: late).flatMap encodeRecord) = true := by
      rw [List.flatMap_cons]
      exact looksLikeMoreData_encodeRecord (admissible next (by simp)) _
    rw [show damaged.drop (boundary early) = _ from rest]
    exact refuses_set (admissible record (by simp)) more stored
      (fun same => there (same ▸ stored)) elsewhere
  · exact refuses

/-- Two records. -/
def twoRecords : FileJournal := written {} ⟨1, 2⟩ ⟨3⟩ [⟨.noop, [7]⟩, ⟨.epochState, [1, 2]⟩]

theorem produced_twoRecords : Produced {} twoRecords :=
  .appended .epochState [1, 2] (.appended .noop [7] (.headed ⟨1, 2⟩ ⟨3⟩ (.created (by decide))))

/-- A payload byte of the first is changed. -/
theorem damaged_refused_payload :
    (openFile { file := twoRecords.file.set (boundary [] + 10) 8 }).1.code = .integrityFailure :=
  (@damaged_refused_iff {} twoRecords produced_twoRecords [] [] ⟨.noop, [7]⟩ ⟨.epochState, [1, 2]⟩
    (by decide +kernel) 10 (by decide +kernel) 8 (by decide +kernel)).mpr (.inl (by decide))

/-- Its length is changed to 257: the rest of the file reads as a torn tail. -/
theorem damaged_length_accepted :
    Produced {} twoRecords ∧ twoRecords.records = [⟨.noop, [7]⟩, ⟨.epochState, [1, 2]⟩] ∧
      twoRecords.file[boundary [] + 3]? = some 0 ∧
      (openFile { file := twoRecords.file.set (boundary [] + 3) 1 }).1 = .success ∧
      (openFile { file := twoRecords.file.set (boundary [] + 3) 1 }).2.records = [] := by
  refine ⟨produced_twoRecords, ?_, ?_, ?_, ?_⟩ <;> decide +kernel

end FileJournal

end QueueFabric
