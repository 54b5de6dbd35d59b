import QueueFabric.FileRefinement
import QueueFabric.TornTails
import QueueFabric.Usage

/-!
Acknowledged mutations and the journal file. A mutation that was answered ok had
its commit record on the disk before the answer was made; peers only add to the
file, so the record is read back whatever a crash takes of the rest.
-/

namespace QueueFabric

open Relation

/-! The disk. -/

/-- A journal file under `sync_on_commit`. Its first `floor` bytes are on the disk; `script`
decides which of its flushes succeed. -/
structure DiskJournal extends DurableFile where
  script : List Bool := []

namespace DiskJournal

open FileJournal

/-- The outcome of the next flush; a finished script reports success. -/
def flushes (disk : DiskJournal) : Bool := disk.script.headD true

def append (disk : DiskJournal) (type : JournalRecordType) (payload : Bytes) :
    Status × DiskJournal :=
  let appended := disk.journal.append type payload
  (appended.1, { disk with journal := appended.2 })

def sync (disk : DiskJournal) : Status × DiskJournal :=
  if !disk.journal.isOpen then (notOpen, disk)
  else if disk.flushes then
    (.success, { disk with floor := disk.journal.file.length, script := disk.script.tail })
  else (⟨.notDurable, "fsync failed"⟩, { disk with script := disk.script.tail })

/-- The new file is flushed before it takes the place of the old one. -/
def rewrite (disk : DiskJournal) (records : List JournalRecord) : Status × DiskJournal :=
  let rewritten := disk.journal.rewrite records
  let script := disk.script.tail
  if !rewritten.1.isOk then (rewritten.1, { disk with journal := rewritten.2 })
  else if disk.flushes then
    (rewritten.1, { journal := rewritten.2, floor := rewritten.2.file.length, script })
  else (⟨.notDurable, "compaction failed; original journal retained"⟩, { disk with script })

def truncateToValidPrefix (disk : DiskJournal) : Status × DiskJournal :=
  let truncated := disk.journal.truncateToValidPrefix
  (truncated.1, { disk with
    journal := truncated.2
    floor := min disk.floor truncated.2.file.length })

end DiskJournal

instance : IJournal DiskJournal where
  openJournal disk := (disk.journal.openFile.1, { disk with journal := disk.journal.openFile.2 })
  records disk := disk.journal.records
  recovery disk := disk.journal.report
  append := DiskJournal.append
  sync := DiskJournal.sync
  rewrite := DiskJournal.rewrite
  writeHeader disk boot epoch :=
    ((disk.journal.writeHeader boot epoch).1,
      { disk with journal := (disk.journal.writeHeader boot epoch).2 })
  truncateToValidPrefix := DiskJournal.truncateToValidPrefix

namespace DiskJournal

open FileJournal

variable {config : JournalConfig} {disk : DiskJournal}

/-- Whole records, none of them beyond the end of the file. -/
structure Settled (config : JournalConfig) (disk : DiskJournal) : Prop where
  whole : disk.journal.Whole config
  within : disk.floor ≤ disk.journal.file.length

/-- The records stay and what is on the disk stays there. -/
def Outlasts (config : JournalConfig) (before after : DiskJournal) : Prop :=
  before.Settled config → after.Settled config ∧
    before.journal.records <+: after.journal.records ∧ before.floor ≤ after.floor

theorem boundary_le {first second : List JournalRecord} (part : first <+: second) :
    boundary first ≤ boundary second := by
  obtain ⟨rest, rfl⟩ := part
  rw [boundary_append]
  exact Nat.le_add_right _ _

theorem Settled.append (settled : disk.Settled config) (type : JournalRecordType)
    (payload : Bytes) : (disk.append type payload).2.Settled config := by
  have whole := settled.whole.append type payload
  refine ⟨whole, settled.within.trans ?_⟩
  rw [settled.whole.length]
  exact (boundary_le (records_append disk.journal type payload)).trans_eq whole.length.symm

theorem sync_cases (disk : DiskJournal) (opened : disk.journal.isOpen = true) :
    disk.sync.1.isOk = true ∧ disk.sync.2.journal = disk.journal ∧
        disk.sync.2.floor = disk.journal.file.length ∨
      disk.sync.1.isOk = false ∧ disk.sync.2.journal = disk.journal ∧
        disk.sync.2.floor = disk.floor := by
  simp only [sync, opened, Bool.not_true, Bool.false_eq_true, ↓reduceIte]
  split
  · exact .inl ⟨rfl, rfl, rfl⟩
  · exact .inr ⟨rfl, rfl, rfl⟩

theorem Settled.sync (settled : disk.Settled config) : disk.sync.2.Settled config ∧
    disk.sync.2.journal = disk.journal ∧ disk.floor ≤ disk.sync.2.floor := by
  obtain ⟨whole, within⟩ := settled
  rcases disk.sync_cases whole.isOpen with ⟨_, journal, floor⟩ | ⟨_, journal, floor⟩
  · refine ⟨⟨journal ▸ whole, ?_⟩, journal, floor ▸ within⟩
    rw [floor, journal]
  · refine ⟨⟨journal ▸ whole, ?_⟩, journal, floor.ge⟩
    rw [floor, journal]
    exact within

theorem tends_outlasts (config : JournalConfig) : Tends (Outlasts config) where
  refl disk settled := ⟨settled, List.prefix_rfl, Nat.le_refl _⟩
  trans first second third one two settled := by
    obtain ⟨middle, listed, floor⟩ := one settled
    obtain ⟨last, more, higher⟩ := two middle
    exact ⟨last, listed.trans more, floor.trans higher⟩
  append disk type payload settled :=
    ⟨settled.append type payload, records_append disk.journal type payload, Nat.le_refl _⟩
  sync disk settled := by
    obtain ⟨last, journal, floor⟩ := settled.sync
    refine ⟨last, ?_, floor⟩
    change _ <+: disk.sync.2.journal.records
    rw [journal]

/-- A commit that reports ok left both records on the disk. -/
theorem Settled.committed (settled : disk.Settled config) {encoded : Bytes}
    (ok : (Fabric.commitRecords disk encoded).1.isOk = true) :
    (Fabric.commitRecords disk encoded).2.journal.records =
        disk.journal.records ++ [⟨.beginAttempt, encoded⟩, ⟨.commitMutation, encoded⟩] ∧
      (Fabric.commitRecords disk encoded).2.floor =
        (Fabric.commitRecords disk encoded).2.journal.file.length := by
  have begun := settled.append .beginAttempt encoded
  have ended := begun.append .commitMutation encoded
  have both : Fabric.commitRecords disk encoded =
      if !(disk.append .beginAttempt encoded).1.isOk then disk.append .beginAttempt encoded
      else if !((disk.append .beginAttempt encoded).2.append .commitMutation encoded).1.isOk then
        (disk.append .beginAttempt encoded).2.append .commitMutation encoded
      else if !((disk.append .beginAttempt encoded).2.append .commitMutation
          encoded).2.sync.1.isOk then
        (⟨.notDurable, "durable commit did not reach stable storage"⟩,
          ((disk.append .beginAttempt encoded).2.append .commitMutation encoded).2.sync.2)
      else (.success,
        ((disk.append .beginAttempt encoded).2.append .commitMutation encoded).2.sync.2) := rfl
  rw [both] at ok ⊢
  rcases settled.whole.append_cases .beginAttempt encoded with ⟨began, grown⟩ | ⟨failed, _⟩
  · have began : (disk.append .beginAttempt encoded).1.isOk = true := began
    rcases begun.whole.append_cases .commitMutation encoded with ⟨wrote, grew⟩ | ⟨failed, _⟩
    · have wrote : ((disk.append .beginAttempt encoded).2.append .commitMutation
        encoded).1.isOk = true := wrote
      rcases sync_cases _ ended.whole.isOpen with ⟨flushed, journal, floor⟩ | ⟨failed, _⟩
      · simp only [began, wrote, flushed, Bool.not_true, Bool.false_eq_true, ↓reduceIte]
        refine ⟨?_, by rw [floor, journal]⟩
        rw [journal]
        refine grew.trans ?_
        have first : (disk.append .beginAttempt encoded).2.journal.records =
          disk.journal.records ++ [⟨.beginAttempt, encoded⟩] := grown
        rw [first, List.append_assoc]
        rfl
      · simp only [began, wrote, failed, Bool.not_true, Bool.not_false, Bool.false_eq_true,
          ↓reduceIte] at ok
        cases ok
    · have failed : ((disk.append .beginAttempt encoded).2.append .commitMutation
        encoded).1.isOk = false := failed
      simp [began, failed] at ok
  · have failed : (disk.append .beginAttempt encoded).1.isOk = false := failed
    simp [failed] at ok

/-! The answers. -/

/-- The records are in the journal, and what lists them is on the disk. -/
structure Keeps (records : List JournalRecord) (disk : DiskJournal) : Prop where
  listed : ∃ kept, records.Sublist kept ∧ kept <+: disk.journal.records ∧
    boundary kept ≤ disk.floor

theorem Keeps.outlasts {records : List JournalRecord} {after : DiskJournal}
    (keeps : Keeps records disk) (listed : disk.journal.records <+: after.journal.records)
    (floor : disk.floor ≤ after.floor) : Keeps records after := by
  obtain ⟨kept, sub, part, below⟩ := keeps.listed
  exact ⟨kept, sub, part.trans listed, below.trans floor⟩

theorem Keeps.committed {records : List JournalRecord} (keeps : Keeps records disk)
    (settled : disk.Settled config) {encoded : Bytes}
    (ok : (Fabric.commitRecords disk encoded).1.isOk = true) :
    Keeps (records ++ [⟨.commitMutation, encoded⟩]) (Fabric.commitRecords disk encoded).2 := by
  obtain ⟨grown, floor⟩ := settled.committed ok
  obtain ⟨last, _⟩ := Fabric.tended_commitRecords (tends_outlasts config) disk encoded settled
  obtain ⟨kept, sub, part, _⟩ := keeps.listed
  refine ⟨(Fabric.commitRecords disk encoded).2.journal.records, ?_, List.prefix_rfl, ?_⟩
  · rw [grown]
    exact (sub.trans part.sublist).append ((List.Sublist.refl _).cons _)
  · rw [floor, last.whole.length]

/-- What a crash that cuts the file at `size`, or at the floor, leaves to the next open. -/
def afterCrash (disk : DiskJournal) (size : Nat) : Status × FileJournal :=
  openFile { disk.journal with file := disk.journal.file.take (max disk.floor size) }

/-- What the disk keeps is read back. -/
theorem Keeps.read {records : List JournalRecord} (keeps : Keeps records disk)
    (settled : disk.Settled config) (room : journalHeaderBytes ≤ config.maxFileBytes.toNat)
    (size : Nat) : (disk.afterCrash size).1.isOk = true ∧
      records.Sublist (disk.afterCrash size).2.records := by
  obtain ⟨kept, sub, part, below⟩ := keeps.listed
  have header : journalHeaderBytes ≤ max disk.floor size :=
    ((Nat.le_add_right _ _).trans below).trans (Nat.le_max_left _ _)
  obtain ⟨ok, _, survives⟩ := settled.whole.crash room header
  rw [records_truncate] at survives
  exact ⟨ok, sub.trans
    (survives.longest kept part (below.trans (Nat.le_max_left _ _))).sublist⟩

end DiskJournal

namespace Fabric

section Answers

variable {J : Type} [IJournal J]

/-! A status that is not ok. -/

omit [IJournal J] in
theorem checkDeclaration_honest {fabric : Fabric J} {payload : DeclareQueuePayload}
    {resource : ResourceRecord} {refusal : Refusal}
    (refused : fabric.checkDeclaration payload resource = some refusal) :
    refusal.status.isOk = false := by
  rw [checkDeclaration] at refused
  repeat' split at refused
  all_goals
    cases refused
    try rfl

omit [IJournal J] in
theorem checkDeclareProvenance_honest {fabric : Fabric J} {request : MutationRequest}
    {refusal : Refusal} (refused : fabric.checkDeclareProvenance request = some refusal) :
    refusal.status.isOk = false := by
  rw [checkDeclareProvenance] at refused
  repeat' split at refused
  all_goals
    cases refused
    try rfl

omit [IJournal J] in
theorem answerDeclared_error {fabric : Fabric J} {request : MutationRequest}
    {payload : DeclareQueuePayload} {now : Nanos} {id : QueueId} {status : Status}
    (failed : (fabric.answerDeclared request payload now id).result = .error status) :
    status.isOk = false := by
  rw [answerDeclared] at failed
  split at failed
  · cases failed
    rfl
  · split at failed
    · cases failed
    · cases failed
      rfl

omit [IJournal J] in
theorem admitDeclared_error {fabric : Fabric J} {request : MutationRequest}
    {payload : DeclareQueuePayload} {now : Nanos} {resource : ResourceRecord} {status : Status}
    (failed : (fabric.admitDeclared request payload now resource).result = .error status) :
    status.isOk = false := by
  rw [admitDeclared] at failed
  split at failed
  · cases failed
  · simp only [] at failed
    split at failed
    · rename_i refused
      cases failed
      simpa using refused
    · cases failed

theorem applyDeclareLocked_error {fabric : Fabric J} {request : MutationRequest}
    {payload : DeclareQueuePayload} {now : Nanos} {status : Status}
    (failed : (fabric.applyDeclareLocked request payload now).result = .error status) :
    status.isOk = false := by
  rw [applyDeclareLocked] at failed
  split at failed
  · cases failed
    rfl
  simp only [] at failed
  split at failed
  · rename_i refused
    cases failed
    exact authorize_honest refused
  split at failed
  · exact answerDeclared_error failed
  rw [declareFresh] at failed
  split at failed
  · rename_i refused
    cases failed
    exact checkDeclaration_honest refused
  split at failed
  · rename_i refused
    cases failed
    exact checkDeclareProvenance_honest refused
  split at failed
  · rename_i refused
    cases failed
    exact commitDurably_honest refused
  · exact admitDeclared_error failed

theorem ExistingCase.error {fabric : Fabric J} {key : QueueId} {queue : QueueRecord}
    {request : MutationRequest} {now : Nanos} {reply : Reply J MutationOutcome}
    (ended : ExistingCase fabric key queue request now reply) {status : Status}
    (failed : reply.result = .error status) : status.isOk = false := by
  cases ended with
  | answered memo recorded =>
      rw [answerFromMemo] at failed
      split at failed
      · cases failed
        rfl
      · simp only [] at failed
        split at failed
        · rename_i refused
          cases failed
          exact decide_eq_false refused
        · cases failed
  | refused tracker refusal unseen gate real =>
      cases failed
      exact real
  | undurable tracker applied refusal after admitted durable refused real =>
      cases failed
      exact real
  | published tracker applied after admitted committed => cases failed

/-- A refused request is never answered with the code ok. -/
theorem applyAt_error {fabric : Fabric J} {request : MutationRequest} {now : Nanos}
    {status : Status} (failed : (fabric.applyAt request now).result = .error status) :
    status.isOk = false := by
  rw [applyAt] at failed
  split at failed
  · cases failed
    rfl
  simp only [] at failed
  split at failed
  · rename_i refused
    cases failed
    simpa using refused
  split at failed
  · exact applyDeclareLocked_error failed
  split at failed
  · cases failed
    rfl
  · exact (applyExistingLocked_cases _ _ _ _ _).error failed

/-! A request that was carried out. -/

theorem ExistingCase.offered {fabric : Fabric J} {key : QueueId} {queue : QueueRecord}
    {request : MutationRequest} {now : Nanos} {reply : Reply J MutationOutcome}
    (ended : ExistingCase fabric key queue request now reply) (executed : Executed reply.result)
    (durable : isDurable request.kind = true) :
    Committed (encodeMutation request) fabric.journal true reply.fabric.journal := by
  obtain ⟨outcome, result, fresh⟩ := executed
  cases ended with
  | answered memo recorded =>
      rw [answerFromMemo] at result
      split at result
      · cases result
      · simp only [] at result
        split at result
        · cases result
        · cases result
          cases fresh
  | refused => cases result
  | undurable => cases result
  | published tracker applied after admitted committed =>
      rw [if_pos durable] at committed
      exact commitDurably_committed committed

theorem DeclareCase.offered {fabric : Fabric J} {request : MutationRequest}
    {payload : DeclareQueuePayload} {now : Nanos} {reply : Reply J MutationOutcome}
    (ended : DeclareCase fabric request payload now reply) (executed : Executed reply.result) :
    Committed (encodeMutation request) fabric.journal true reply.fabric.journal := by
  obtain ⟨outcome, result, fresh⟩ := executed
  cases ended with
  | refused => cases result
  | answered id taken =>
      rw [answerDeclared] at result
      split at result
      · cases result
      · split at result
        · cases result
          cases fresh
        · cases result
  | undurable => cases result
  | committed resource after declarable written =>
      have committed := commitDurably_committed written
      rw [admitDeclared]
      split
      · exact committed
      simp only []
      split <;> exact committed

theorem ApplyCase.offered {fabric : Fabric J} {request : MutationRequest} {now : Nanos}
    {reply : Reply J MutationOutcome} (ended : ApplyCase fabric request now reply)
    (executed : Executed reply.result) (durable : isDurable request.kind = true) :
    Committed (encodeMutation request) fabric.journal true reply.fabric.journal := by
  cases ended with
  | stopped =>
      obtain ⟨outcome, result, _⟩ := executed
      cases result
  | unbound =>
      obtain ⟨outcome, result, _⟩ := executed
      cases result
  | declare payload _ valid kind carried ended => exact ended.offered executed
  | existing queue _ valid kind found ended => exact ended.offered executed durable

/-- A durable request that was carried out reached the journal, and its records were synced. -/
theorem apply_committed {fabric : Fabric J} {journal : J} (present : fabric.journal = some journal)
    {request : MutationRequest} (executed : Executed (fabric.apply request).result)
    (durable : isDurable request.kind = true) :
    (commitRecords journal (encodeMutation request)).1.isOk = true ∧
      (fabric.apply request).fabric.journal =
        some (commitRecords journal (encodeMutation request)).2 := by
  have committed : Committed (encodeMutation request) fabric.journal true
      (fabric.apply request).fabric.journal :=
    (applyAt_cases fabric.monotonicNow.2 request fabric.monotonicNow.1).offered executed durable
  rw [present] at committed
  generalize (fabric.apply request).fabric.journal = after at committed
  cases committed with
  | offered _ _ nonempty status => exact ⟨status, rfl⟩

end Answers

/-! Runs. -/

/-- The commit record of a durable request that was carried out. -/
def Served.commit (served : Served) : Option JournalRecord :=
  match served.call, served.result with
  | .apply request, .ok (.outcome outcome) =>
      if isDurable request.kind ∧ outcome.replayed = false then
        some ⟨.commitMutation, encodeMutation request⟩
      else none
  | _, _ => none

/-- The journal of the fabric is whole and keeps the records. -/
def OnDisk (config : JournalConfig) (records : List JournalRecord) (fabric : Fabric DiskJournal) :
    Prop :=
  ∃ disk, fabric.journal = some disk ∧ disk.Settled config ∧ disk.Keeps records

/-- Nothing is owed yet where a fabric has a journal file with its header on the disk. -/
theorem onDisk_produced {config : JournalConfig} {fabric : Fabric DiskJournal} {disk : DiskJournal}
    (present : fabric.journal = some disk) (produced : FileJournal.Produced config disk.journal)
    (header : journalHeaderBytes ≤ disk.floor)
    (within : disk.floor ≤ disk.journal.file.length) : OnDisk config [] fabric :=
  ⟨disk, present, ⟨FileJournal.whole_of_produced produced, within⟩,
    ⟨[], List.Sublist.refl _, List.nil_prefix, header⟩⟩

/-- Only a durable request that was carried out has a commit record. -/
theorem commit_eq_some {J : Type} [IJournal J] {fabric : Fabric J} {call : Call}
    {record : JournalRecord}
    (committed : Served.commit ⟨call, (fabric.serve call).result⟩ = some record) :
    ∃ request, call = .apply request ∧ isDurable request.kind = true ∧
      Executed (fabric.apply request).result ∧
      record = ⟨.commitMutation, encodeMutation request⟩ := by
  rw [Served.commit] at committed
  split at committed
  · rename_i request outcome called answered
    split at committed
    · rename_i durable
      cases committed
      cases called
      have result : (fabric.apply request).result.map Answer.outcome = .ok (.outcome outcome) :=
        answered
      refine ⟨request, rfl, durable.1, ?_, rfl⟩
      cases given : (fabric.apply request).result with
      | error status =>
          rw [given] at result
          cases result
      | ok other =>
          rw [given] at result
          cases result
          exact ⟨outcome, rfl, durable.2⟩
    · cases committed
  · cases committed

theorem OnDisk.serve {config : JournalConfig} {records : List JournalRecord}
    {fabric : Fabric DiskJournal} (held : OnDisk config records fabric) {call : Call}
    (living : call ≠ .recover) (growing : call ≠ .compact) :
    OnDisk config (records ++ (Served.commit ⟨call, (fabric.serve call).result⟩).toList)
      (fabric.serve call).fabric := by
  obtain ⟨disk, present, settled, keeps⟩ := held
  have tended := serve_tended (DiskJournal.tends_outlasts config) fabric living growing
  obtain ⟨last, after, outlasts⟩ := tended.present present
  obtain ⟨whole, listed, floor⟩ := outlasts settled
  cases committed : Served.commit ⟨call, (fabric.serve call).result⟩ with
  | none =>
      rw [Option.toList_none, List.append_nil]
      exact ⟨last, after, whole, keeps.outlasts listed floor⟩
  | some record =>
      obtain ⟨request, rfl, durable, executed, rfl⟩ := commit_eq_some committed
      obtain ⟨ok, journal⟩ := apply_committed present executed durable
      have same : some last = some (commitRecords disk (encodeMutation request)).2 :=
        after.symm.trans journal
      cases same
      exact ⟨_, after, whole, keeps.committed settled ok⟩

/-- Every durable request carried out in a run that neither recovers nor compacts is on the disk,
in order. -/
theorem OnDisk.traced {config : JournalConfig} {fabric after : Fabric DiskJournal}
    {log : List Served} (held : OnDisk config [] fabric)
    (traced : Traced (fun call => call ≠ .recover ∧ call ≠ .compact) fabric log after) :
    OnDisk config (log.filterMap Served.commit) after := by
  induction traced with
  | start => exact held
  | read _ clock ih => exact ih
  | served _ call permitted ih =>
      have next := ih.serve permitted.1 permitted.2
      rwa [List.filterMap_append, List.filterMap_cons, List.filterMap_nil]

/-! What the answers say. -/

/-- The commit record that a response promises. -/
def promised (exchange : MutationRequest × MutationResponse) : Option JournalRecord :=
  if isDurable exchange.1.kind ∧ exchange.2.code = .ok ∧ exchange.2.replayed = false then
    some ⟨.commitMutation, encodeMutation exchange.1⟩
  else none

section Promises

variable {J : Type} [IJournal J]

theorem promised_serve (fabric : Fabric J) (call : Call) :
    (Served.exchange ⟨call, (fabric.serve call).result⟩).bind promised =
      Served.commit ⟨call, (fabric.serve call).result⟩ := by
  cases call with
  | apply request =>
      have result : (fabric.serve (.apply request)).result =
        (fabric.apply request).result.map .outcome := rfl
      rw [exchange_apply, result, Option.bind_some]
      cases given : (fabric.apply request).result with
      | error status =>
          have real : status.code ≠ .ok := of_decide_eq_false (applyAt_error given)
          exact if_neg fun held => real held.2.1
      | ok outcome =>
          rw [promised]
          simp only [Served.commit, Service.mutationResponse, Except.map]
          by_cases fresh : isDurable request.kind = true ∧ outcome.replayed = false
          · rw [if_pos fresh, if_pos ⟨fresh.1, trivial, fresh.2⟩]
          · rw [if_neg fresh, if_neg fun held => fresh ⟨held.1, held.2.2⟩]
  | _ => rfl

/-- What the answers of a run promise is what it committed. -/
theorem Traced.promised {allowed : Call → Prop} {fabric after : Fabric J} {log : List Served}
    (traced : Traced allowed fabric log after) :
    (log.filterMap Served.exchange).filterMap promised = log.filterMap Served.commit := by
  induction traced with
  | start => rfl
  | read _ clock ih => exact ih
  | @served log middle _ call permitted ih =>
      have last := promised_serve middle call
      rw [List.filterMap_append, List.filterMap_append, ih, List.filterMap_append,
        List.filterMap_filterMap]
      simp only [List.filterMap_cons, List.filterMap_nil, last]

end Promises

end Fabric

namespace Coordinator

variable {J : Type} [IJournal J]

/-- The cycles of a coordinator are a run of its fabric in which every delivery is answered. -/
theorem cycles_answered (coordinator : Coordinator J) (cycles : List (Option TcpTransport)) :
    Fabric.Answered coordinator.fabric (coordinator.run cycles).fabric
      (coordinator.deliveries cycles) := by
  induction cycles generalizing coordinator with
  | nil => exact Fabric.answered_quietly .refl
  | cons incoming later ih =>
      exact (coordinator.cycle_walks incoming).answered.trans (ih (coordinator.runOnce incoming).2)

/-- Whatever a worker was told is done and lasting is read back from the journal file, in order,
wherever a crash cuts the file behind what had been synced. -/
theorem durable_answers_read_back (config : CoordinatorConfig) {settings : JournalConfig}
    (room : journalHeaderBytes ≤ settings.maxFileBytes.toNat) {fabric : Fabric DiskJournal}
    {start : DiskJournal} (given : fabric.journal = some start)
    (produced : FileJournal.Produced settings start.journal)
    (header : journalHeaderBytes ≤ start.floor)
    (within : start.floor ≤ start.journal.file.length)
    (cycles : List (Option TcpTransport)) (id : Nat)
    {client : WorkerClient} (calls : List WorkerCall) (fresh : client.decoder = {})
    (downstream : client.transport.stream <+:
      (told id ((serving config fabric).deliveries cycles)).flatMap Message.wire) :
    ∃ (answered : List (MutationRequest × MutationResponse)) (disk : DiskJournal),
      ((client.session calls).1.filterMap fun turn => turn.2.response) =
        answered.map Prod.snd ∧
      answered.Sublist ((deliveriesOn id
        ((serving config fabric).deliveries cycles)).filterMap Delivery.exchange) ∧
      ((serving config fabric).run cycles).fabric.journal = some disk ∧
      ∀ size, (disk.afterCrash size).1.isOk = true ∧
        (answered.filterMap Fabric.promised).Sublist (disk.afterCrash size).2.records := by
  have responses := client.session_responses calls fresh downstream
  obtain ⟨answered, sub, same⟩ := List.sublist_map_iff.mp responses
  obtain ⟨log, traced, listed⟩ := (serving config fabric).cycles_answered cycles
  have permitted : fabric.Traced (fun call => call ≠ .recover ∧ call ≠ .compact) log
      ((serving config fabric).run cycles).fabric := by
    refine traced.mono fun call allowed => ⟨?_, ?_⟩
    · rintro rfl
      exact allowed
    · rintro rfl
      exact allowed
  obtain ⟨disk, present, settled, keeps⟩ :=
    (Fabric.onDisk_produced given produced header within).traced permitted
  refine ⟨answered, disk, same, sub, present, fun size => ?_⟩
  obtain ⟨ok, read⟩ := keeps.read settled room size
  refine ⟨ok, List.Sublist.trans ?_ read⟩
  rw [← traced.promised]
  refine ((sub.trans ?_).trans listed).filterMap _
  exact List.Sublist.filterMap _ List.filter_sublist

/-- A fabric on a new journal file that holds one queue. -/
def diskFabric : Fabric DiskJournal :=
  let created : DiskJournal := { toDurableFile := FileJournal.created {} }
  { (Fabric.create {} ⟨fun _ => 1000, 0⟩ (some created) 7).recover.fabric.serveAll
      [.declareResource (text "r") ⟨5⟩ (System.sampleProvenance 1),
        .declareClass ⟨1⟩ (text "c") 0 {} ⟨5⟩ ⟨1⟩ (System.sampleProvenance 1),
        .declarePool ⟨1⟩ (text "p") 0 ⟨5⟩ ⟨1⟩ (System.sampleProvenance 1),
        .apply System.sampleDeclaration] with journal := some created }

def diskAnswers : List Message :=
  told 1 ((serving {} diskFabric).deliveries [some validator, none])

def diskClient : WorkerClient :=
  validating (diskAnswers.map fun message => { bytes := message.wire })

theorem durable_answers_read_back_validated :
    isDurable validation.kind = true ∧
      (((diskClient.session [.handshake, .sendMutation validation]).1.filterMap fun turn =>
        turn.2.response).any fun response => response.code = .ok ∧ response.replayed = false) =
          true ∧
      ∃ (answered : List (MutationRequest × MutationResponse)) (disk : DiskJournal),
        ((diskClient.session [.handshake, .sendMutation validation]).1.filterMap
          fun turn => turn.2.response) = answered.map Prod.snd ∧
        ((serving {} diskFabric).run [some validator, none]).fabric.journal = some disk ∧
        ∀ size, (answered.filterMap Fabric.promised).Sublist (disk.afterCrash size).2.records := by
  have arrives : diskClient.transport.stream <+: diskAnswers.flatMap Message.wire := by
    simp only [diskClient, validating, TcpTransport.stream, List.nil_append, List.flatMap_map]
    exact List.prefix_rfl
  have opens : (FileJournal.openFile { config := {} }).1.isOk = true := by decide
  have length := (FileJournal.whole_of_produced (.created opens)).length
  obtain ⟨answered, disk, same, _, present, read⟩ := @durable_answers_read_back {} {} (by decide)
    diskFabric _ rfl (.created opens) (Nat.le_refl _) (length ▸ Nat.le_add_right _ _)
    [some validator, none] 1 diskClient [.handshake, .sendMutation validation] rfl arrives
  exact ⟨by decide, by decide +kernel, answered, disk, same, present, fun size => (read size).2⟩

end Coordinator

end QueueFabric
