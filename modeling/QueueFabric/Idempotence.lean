import QueueFabric.Compaction
import QueueFabric.Conflicts

/-!
What a recovery leaves of its own journal. A replayed commit runs through the
ordinary apply path, so one that passes its checks again is written again; a
recovery is idempotent exactly as long as none does.
-/

namespace QueueFabric

namespace Fabric

section Replayed

variable {J : Type} [IJournal J]

/-- The journal takes the begin record of the request. -/
def Begins (fabric : Fabric J) (request : MutationRequest) : Prop :=
  encodeMutation request ≠ [] ∧ ∃ journal, fabric.journal = some journal ∧
    (IJournal.append journal .beginAttempt (encodeMutation request)).1.isOk = true

/-- The request passes every check ahead of the journal, and the journal takes its begin. -/
inductive Rewrites (fabric : Fabric J) (request : MutationRequest) (now : Nanos) : Prop
  | mutation (queue : QueueRecord) (tracker : ProvenanceTracker) (applied : KindApplied)
      (running : fabric.shuttingDown = false) (valid : request.validate.isOk = true)
      (kind : request.kind ≠ .declareQueue) (found : fabric.findQueue request.queue = some queue)
      (admitted : Admitted fabric queue request now tracker applied)
      (durable : isDurable request.kind = true) (begins : Begins fabric request)
  | declaration (payload : DeclareQueuePayload) (resource : ResourceRecord)
      (running : fabric.shuttingDown = false) (valid : request.validate.isOk = true)
      (kind : request.kind = .declareQueue) (carried : request.payload = .declareQueue payload)
      (declarable : Declarable fabric request payload resource) (begins : Begins fabric request)

/-- The journal is the same, or has only refused a begin record. -/
inductive Balks (before : J) : J → Prop
  | same : Balks before before
  | refused (payload : Bytes)
      (failed : (IJournal.append before .beginAttempt payload).1.isOk = false) :
      Balks before (IJournal.append before .beginAttempt payload).2

/-- Without its begin record a mutation is not committed. -/
theorem commitDurably_balks {fabric : Fabric J} {journal : J} {request : MutationRequest}
    (present : fabric.journal = some journal) (balks : ¬ Begins fabric request) :
    (fabric.commitDurably request).1.isSome = true ∧
      ∃ last, (fabric.commitDurably request).2.journal = some last ∧ Balks journal last := by
  simp only [commitDurably, present, journalCommitLocked]
  by_cases empty : encodeMutation request = []
  · simp only [empty, List.isEmpty_nil, ↓reduceIte]
    exact ⟨rfl, journal, present, .same⟩
  · have failed : (IJournal.append journal .beginAttempt (encodeMutation request)).1.isOk =
        false := by
      rw [← Bool.not_eq_true]
      exact fun taken => balks ⟨empty, journal, present, taken⟩
    have written : commitRecords journal (encodeMutation request) =
        IJournal.append journal .beginAttempt (encodeMutation request) := by
      simp only [commitRecords, failed, Bool.not_false, ↓reduceIte]
    simp only [List.isEmpty_iff, empty, ↓reduceIte, written, failed, Bool.not_false]
    exact ⟨rfl, _, rfl, .refused _ failed⟩

/-- What identifies a queue across recoveries. -/
structure Face (before after : QueueRecord) : Prop where
  definition : after.definition = before.definition
  lifecycle : after.lifecycle = before.lifecycle
  fence : after.fence = before.fence

omit [IJournal J] in
theorem Face.refl (queue : QueueRecord) : Face queue queue := ⟨rfl, rfl, rfl⟩

omit [IJournal J] in
theorem Face.symm {before after : QueueRecord} (face : Face before after) : Face after before :=
  ⟨face.definition.symm, face.lifecycle.symm, face.fence.symm⟩

omit [IJournal J] in
theorem Face.trans {first second third : QueueRecord} (one : Face first second)
    (two : Face second third) : Face first third :=
  ⟨two.definition.trans one.definition, two.lifecycle.trans one.lifecycle,
    two.fence.trans one.fence⟩

omit [IJournal J] in
theorem face_of_unmoved {before after : QueueRecord} (unmoved : QueueRecord.Unmoved before after) :
    Face before after := ⟨unmoved.definition, unmoved.lifecycle, unmoved.fence⟩

omit [IJournal J] in
/-- A kind that is not journaled leaves the face of its target alone. -/
theorem KindCase.face {fabric : Fabric J} {target : QueueRecord} {request : MutationRequest}
    {now : Nanos} {applied : KindApplied} (ended : KindCase fabric target request now applied)
    (passing : isDurable request.kind = false) : Face target applied.target := by
  cases ended with
  | unchanged rule repeats => exact .refl target
  | ingested sample overflows rule events stats kind payload generation epoch =>
      exact ⟨rfl, rfl, rfl⟩
  | evidenceRecorded evidence rule events kind payload progress some few backed =>
      exact ⟨rfl, rfl, rfl⟩
  | acknowledged applied rule events kind generation => exact ⟨rfl, rfl, rfl⟩
  | moved goal rule events kind moves allowed =>
      rcases kind with ⟨kind, _⟩ | ⟨kind, _⟩ <;> simp [kind, isDurable, isDynamic] at passing
  | redefined cls thresholds owner generation rule events minted kind changed bound ladder =>
      rcases kind with kind | kind | kind <;> simp [kind, isDurable, isDynamic] at passing
  | drainRequested rule events kind moves allowed => simp [kind, isDurable, isDynamic] at passing
  | drainCancelled rule events kind draining => simp [kind, isDurable, isDynamic] at passing
  | quiesced rule events kind draining complete acknowledged =>
      simp [kind, isDurable, isDynamic] at passing
  | fenced fence rule events kind raised => simp [kind, isDurable, isDynamic] at passing
  | unfenced rule events kind => simp [kind, isDurable, isDynamic] at passing
  | failed reason rule events kind moves allowed => simp [kind, isDurable, isDynamic] at passing
  | retired rule events kind moves allowed => simp [kind, isDurable, isDynamic] at passing

/-- What an application that writes nothing leaves alone. -/
structure Rests (before : Fabric J) (journal : J) (after : Fabric J) : Prop where
  journal : ∃ last, after.journal = some last ∧ Balks journal last
  resources : after.resources = before.resources
  queues : Table.Related Face before.queues after.queues
  truncated : after.recovery.recordsTruncated = before.recovery.recordsTruncated

theorem rests_of_kept {before after : Fabric J} {journal : J}
    (present : before.journal = some journal) (same : after.journal = before.journal)
    (resources : after.resources = before.resources) (queues : after.queues = before.queues)
    (recovery : after.recovery = before.recovery) : Rests before journal after :=
  ⟨⟨journal, same.trans present, .same⟩, resources,
    queues ▸ Table.related_refl Face.refl before.queues,
    congrArg RecoveryReport.recordsTruncated recovery⟩

theorem commitDurably_recovery (fabric : Fabric J) (request : MutationRequest) :
    (fabric.commitDurably request).2.recovery = fabric.recovery := by
  rw [commitDurably]
  split
  · simp only [journalCommitLocked]
    split
    · rfl
    split <;> rfl
  · split <;> rfl

theorem ExistingCase.rests {fabric : Fabric J} {journal : J} {queue : QueueRecord}
    {request : MutationRequest} {now : Nanos} {reply : Reply J MutationOutcome}
    (ended : ExistingCase fabric request.queue queue request now reply)
    (present : fabric.journal = some journal)
    (running : fabric.shuttingDown = false) (valid : request.validate.isOk = true)
    (kind : request.kind ≠ .declareQueue) (found : fabric.findQueue request.queue = some queue)
    (quiet : ¬ Rewrites fabric request now) : Rests fabric journal reply.fabric := by
  have insert {updated : QueueRecord} (face : Face queue updated) :
      Table.Related Face fabric.queues (fabric.queues.insert request.queue updated) :=
    Table.related_insert Face.refl found face
  cases ended with
  | answered memo recorded =>
      rw [answerFromMemo]
      split
      · exact ⟨⟨journal, present, .same⟩, rfl, insert ⟨rfl, rfl, rfl⟩, rfl⟩
      split
      · exact ⟨⟨journal, present, .same⟩, rfl, insert ⟨rfl, rfl, rfl⟩, rfl⟩
      · exact ⟨⟨journal, present, .same⟩, rfl, insert ⟨rfl, rfl, rfl⟩, rfl⟩
  | refused tracker refusal unseen gate real =>
      exact ⟨⟨journal, present, .same⟩, rfl, insert ⟨rfl, rfl, rfl⟩, rfl⟩
  | undurable tracker applied refusal after admitted durable failed real =>
      have touch := commitDurably_touch failed
      obtain ⟨_, last, kept, balks⟩ := @commitDurably_balks J _ (fabric.accepted tracker applied)
        journal request present fun begins =>
          quiet (.mutation queue tracker applied running valid kind found admitted durable begins)
      rw [failed] at kept
      have same := commitDurably_recovery (fabric.accepted tracker applied) request
      rw [failed] at same
      refine ⟨⟨last, kept, balks⟩, touch.resources, ?_,
        congrArg RecoveryReport.recordsTruncated same⟩
      simp only [reject, touch.queues]
      exact insert ⟨rfl, rfl, rfl⟩
  | published tracker applied after admitted committed =>
      have face := face_of_unmoved (unmoved_publishQueue after queue request applied
        (isDurable request.kind && after.journal.isSome))
      split at committed
      · rename_i durable
        obtain ⟨refused, _⟩ := @commitDurably_balks J _ (fabric.accepted tracker applied)
          journal request present fun begins =>
            quiet (.mutation queue tracker applied running valid kind found admitted durable begins)
        rw [committed] at refused
        cases refused
      · rename_i passing
        subst committed
        have kept := (applyKindLocked_cases admitted.kind).face (by simpa using passing)
        exact ⟨⟨journal, present, .same⟩, rfl, insert (kept.trans face), rfl⟩

theorem DeclareCase.rests {fabric : Fabric J} {journal : J} {payload : DeclareQueuePayload}
    {request : MutationRequest} {now : Nanos} {reply : Reply J MutationOutcome}
    (ended : DeclareCase fabric request payload now reply)
    (present : fabric.journal = some journal)
    (running : fabric.shuttingDown = false) (valid : request.validate.isOk = true)
    (kind : request.kind = .declareQueue) (carried : request.payload = .declareQueue payload)
    (quiet : ¬ Rewrites fabric request now) : Rests fabric journal reply.fabric := by
  have balks (resource : ResourceRecord) (declarable : Declarable fabric request payload resource) :=
    commitDurably_balks present fun begins =>
      quiet (.declaration payload resource running valid kind carried declarable begins)
  cases ended with
  | refused refusal => exact rests_of_kept present rfl rfl rfl rfl
  | answered id taken =>
      rw [answerDeclared]
      split
      · exact rests_of_kept present rfl rfl rfl rfl
      split <;> exact rests_of_kept present rfl rfl rfl rfl
  | undurable resource refusal after declarable failed =>
      have touch := commitDurably_touch failed
      obtain ⟨_, last, kept, balked⟩ := balks resource declarable
      rw [failed] at kept
      have same := commitDurably_recovery fabric request
      rw [failed] at same
      refine ⟨⟨last, kept, balked⟩, touch.resources, ?_,
        congrArg RecoveryReport.recordsTruncated same⟩
      rw [show (after.rejectUnbound refusal).fabric.queues = fabric.queues from touch.queues]
      exact Table.related_refl Face.refl _
  | committed resource after declarable written =>
      obtain ⟨refused, _⟩ := balks resource declarable
      rw [written] at refused
      cases refused

theorem applyAt_rests {fabric : Fabric J} {journal : J} {request : MutationRequest} {now : Nanos}
    (present : fabric.journal = some journal) (quiet : ¬ Rewrites fabric request now) :
    Rests fabric journal (fabric.applyAt request now).fabric := by
  by_cases stopping : fabric.shuttingDown = true
  · rw [applyAt, if_pos stopping]
    exact rests_of_kept present rfl rfl rfl rfl
  rw [Bool.not_eq_true] at stopping
  have ended := applyAt_cases fabric request now
  generalize fabric.applyAt request now = reply at ended
  cases ended with
  | stopped stopped => exact rests_of_kept present rfl rfl rfl rfl
  | unbound refusal => exact rests_of_kept present rfl rfl rfl rfl
  | declare payload _ valid kind carried ended =>
      exact ended.rests present stopping valid kind carried quiet
  | existing queue _ valid kind found ended =>
      exact ended.rests present stopping valid kind found quiet

/-- The fabric a commit is replayed on. -/
def replayed (fabric : Fabric J) : Fabric J := { fabric.monotonicNow.2 with replaying := true }

omit [IJournal J] in
theorem note_truncated (report : RecoveryReport) (line : String) :
    (report.note line).recordsTruncated = report.recordsTruncated := by
  rw [RecoveryReport.note]
  split <;> rfl

theorem replayOne_rests {fabric : Fabric J} {journal : J} {request : MutationRequest}
    (present : fabric.journal = some journal)
    (quiet : ¬ Rewrites fabric.replayed request fabric.monotonicNow.1) :
    Rests fabric journal (fabric.replayOne request) := by
  have rests := @applyAt_rests J _ fabric.replayed journal request fabric.monotonicNow.1 present
    quiet
  rw [replayOne]
  simp only []
  split
  · refine ⟨rests.journal, rests.resources, rests.queues, ?_⟩
    exact (note_truncated _ _).trans rests.truncated
  · exact ⟨rests.journal, rests.resources, rests.queues, rests.truncated⟩

/-- What a commit writes when it is written again. -/
theorem Rewrites.written {fabric : Fabric J} {journal : J} {request : MutationRequest} {now : Nanos}
    (rewrites : Rewrites fabric request now) (present : fabric.journal = some journal) :
    (fabric.applyAt request now).fabric.journal =
      some (commitRecords journal (encodeMutation request)).2 := by
  have offered (middle : Fabric J) (same : middle.journal = some journal)
      (begins : Begins fabric request) : (middle.commitDurably request).2.journal =
        some (commitRecords journal (encodeMutation request)).2 := by
    simp only [commitDurably, same, journalCommitLocked, List.isEmpty_iff, begins.1, ↓reduceIte]
  cases rewrites with
  | mutation queue tracker applied running valid kind found admitted durable begins =>
      have written := offered (fabric.accepted tracker applied) present begins
      obtain ⟨resource, home, allowed⟩ := admitted.authorized
      have expected : { fabric with provenance := tracker }.checkExpected queue request = none :=
        admitted.expected
      rw [applyAt_existing running valid kind found, applyExistingLocked, admitted.unseen]
      simp only [applyFresh, home, allowed, admitted.gate, expected, applyAdmitted,
        applyKindLocked_provenance, admitted.kind, durable, ↓reduceIte]
      simp only [accepted] at written
      split
      · rename_i refusal after commit
        rw [commit] at written
        exact written
      · rename_i after commit
        rw [commit] at written
        exact written
  | declaration payload resource running valid kind carried declarable begins =>
      have written := offered fabric present begins
      rw [applyAt_declare running valid kind carried]
      simp only [applyDeclareLocked, declarable.found, declarable.authorized, declarable.free,
        declareFresh, declarable.checked, declarable.gate]
      split
      · rename_i refusal after commit
        rw [commit] at written
        exact written
      · rename_i after commit
        rw [commit] at written
        rw [admitDeclared]
        split
        · exact written
        simp only []
        split <;> exact written

/-- No commit of the replay is written again. -/
def QuietReplay (fabric : Fabric J) (requests : List MutationRequest) : Prop :=
  Runs.Along replayOne
    (fun fabric request => ¬ Rewrites (replayed fabric) request (monotonicNow fabric).1)
    fabric requests

/-- What a replay that writes nothing leaves alone. -/
structure Quieted (before : Fabric J) (journal : J) (after : Fabric J) : Prop where
  journal : ∃ last, after.journal = some last ∧ Relation.ReflTransGen Balks journal last
  resources : after.resources = before.resources
  queues : Table.Related Face before.queues after.queues
  truncated : after.recovery.recordsTruncated = before.recovery.recordsTruncated

theorem replayAll_quieted {fabric : Fabric J} {journal : J}
    (present : fabric.journal = some journal) {requests : List MutationRequest}
    (quiet : QuietReplay fabric requests) : Quieted fabric journal (fabric.replayAll requests) := by
  induction requests generalizing fabric journal with
  | nil => exact ⟨⟨journal, present, .refl⟩, rfl, Table.related_refl Face.refl fabric.queues, rfl⟩
  | cons request rest ih =>
      obtain ⟨⟨middle, kept, balks⟩, resources, queues, truncated⟩ :=
        replayOne_rests present quiet.1
      obtain ⟨⟨last, final, more⟩, resources', queues', truncated'⟩ := ih kept quiet.2
      exact ⟨⟨last, final, .head balks more⟩, resources'.trans resources,
        queues.trans (fun _ _ _ one two => one.trans two) queues', truncated'.trans truncated⟩

end Replayed

end Fabric

/-- A record of a mutation, begun or committed. -/
def JournalRecord.isAttempt (record : JournalRecord) : Bool :=
  record.type = .beginAttempt || record.type = .commitMutation

namespace StableStore

theorem append_taken {store : StableStore} {type : JournalRecordType} {payload : Bytes}
    (taken : (store.append type payload).1.isOk = true) :
    (store.append type payload).2.contents = store.contents ++ [⟨type, payload⟩] := by
  rw [append] at taken ⊢
  split
  · rename_i closed
    rw [if_pos closed] at taken
    cases taken
  rename_i opened
  rw [if_neg opened] at taken
  split
  · simp [contents, advance]
  · rename_i failed
    rw [if_neg failed] at taken
    cases taken

theorem append_refused {store : StableStore} {type : JournalRecordType} {payload : Bytes}
    (refused : (store.append type payload).1.isOk = false) :
    (store.append type payload).2.contents = store.contents := by
  rw [append] at refused ⊢
  split
  · rfl
  rename_i opened
  rw [if_neg opened] at refused
  split
  · rename_i taken
    rw [if_pos taken] at refused
    cases refused
  · rfl

theorem contents_of_balks {before after : StableStore} (balks : Fabric.Balks before after) :
    after.contents = before.contents := by
  cases balks with
  | same => rfl
  | refused payload failed => exact append_refused failed

theorem commitRecords_begun {store : StableStore} {encoded : Bytes}
    (begun : (store.append .beginAttempt encoded).1.isOk = true) :
    ∃ more, (Fabric.commitRecords store encoded).2.contents =
        store.contents ++ (⟨.beginAttempt, encoded⟩ :: more) ∧
      ∀ record ∈ more, record = ⟨.commitMutation, encoded⟩ := by
  have first := append_taken begun
  have opening : IJournal.append store .beginAttempt encoded = store.append .beginAttempt encoded :=
    rfl
  simp only [Fabric.commitRecords, opening, begun, Bool.not_true, Bool.false_eq_true, ↓reduceIte]
  generalize (store.append .beginAttempt encoded).2 = middle at first
  have closing : IJournal.append middle .commitMutation encoded =
    middle.append .commitMutation encoded := rfl
  have flushing : IJournal.sync (middle.append .commitMutation encoded).2 =
    (middle.append .commitMutation encoded).2.sync := rfl
  rw [closing]
  cases ended : (middle.append .commitMutation encoded).1.isOk with
  | false =>
      simp only [Bool.not_false, ↓reduceIte]
      exact ⟨[], by rw [append_refused ended, first], by simp⟩
  | true =>
      simp only [Bool.not_true, Bool.false_eq_true, ↓reduceIte, flushing]
      refine ⟨[⟨.commitMutation, encoded⟩], ?_, by simp⟩
      split <;> rw [contents_sync, append_taken ended, first, List.append_assoc] <;> rfl

end StableStore

namespace Fabric

/-- One replayed commit adds to the journal exactly when it is written again. -/
theorem replayOne_extra {fabric : Fabric StableStore} {journal : StableStore}
    (present : fabric.journal = some journal) (request : MutationRequest) :
    ∃ extra last, (fabric.replayOne request).journal = some last ∧
      last.contents = journal.contents ++ extra ∧ (∀ record ∈ extra, record.isAttempt = true) ∧
      (extra = [] ↔ ¬ Rewrites fabric.replayed request fabric.monotonicNow.1) := by
  by_cases rewrites : Rewrites fabric.replayed request fabric.monotonicNow.1
  · have written := @Rewrites.written _ _ _ journal _ _ rewrites present
    have kept : (fabric.replayOne request).journal =
        (fabric.replayed.applyAt request fabric.monotonicNow.1).fabric.journal := by
      rw [replayOne]
      simp only []
      split <;> rfl
    have begins : Begins fabric.replayed request := by
      cases rewrites with
      | mutation _ _ _ _ _ _ _ _ _ begins => exact begins
      | declaration _ _ _ _ _ _ _ begins => exact begins
    obtain ⟨_, store, same, begun⟩ := begins
    have here : store = journal := Option.some.inj (same.symm.trans present)
    subst here
    obtain ⟨more, contents, ends⟩ := StableStore.commitRecords_begun begun
    refine ⟨_, _, kept.trans written, contents, ?_, by simp [rewrites]⟩
    intro record listed
    rcases List.mem_cons.mp listed with rfl | later
    · rfl
    · rw [ends record later]
      rfl
  · obtain ⟨last, kept, balks⟩ := (replayOne_rests present rewrites).journal
    exact ⟨[], last, kept, by rw [StableStore.contents_of_balks balks, List.append_nil], by simp,
      by simp [rewrites]⟩

theorem replayAll_extra {fabric : Fabric StableStore} {journal : StableStore}
    (present : fabric.journal = some journal) (requests : List MutationRequest) :
    ∃ extra last, (fabric.replayAll requests).journal = some last ∧
      last.contents = journal.contents ++ extra ∧ (∀ record ∈ extra, record.isAttempt = true) ∧
      (extra = [] ↔ QuietReplay fabric requests) := by
  induction requests generalizing fabric journal with
  | nil => exact ⟨[], journal, present, (List.append_nil _).symm, by simp, by simp [QuietReplay,
      Runs.Along]⟩
  | cons request rest ih =>
      obtain ⟨first, middle, kept, grown, attempts, one⟩ := replayOne_extra present request
      obtain ⟨later, last, kept', grown', attempts', all⟩ := ih kept
      refine ⟨first ++ later, last, kept', by rw [grown', grown, List.append_assoc], ?_, ?_⟩
      · intro record listed
        rcases List.mem_append.mp listed with early | late
        · exact attempts record early
        · exact attempts' record late
      · rw [List.append_eq_nil_iff, one, all]
        exact Iff.rfl

/-! What a second recovery scans. -/

/-- Two scans that replay the same commits over the same tables. -/
structure Akin (first second : Scan) : Prop where
  resources : second.resources = first.resources
  queues : second.queues = first.queues
  outstanding : second.outstanding = first.outstanding
  replayOrder : second.replayOrder = first.replayOrder

theorem Akin.addRecord {first second : Scan} (akin : Akin first second) (record : JournalRecord) :
    Akin (first.addRecord record) (second.addRecord record) := by
  obtain ⟨resources, queues, outstanding, replayOrder⟩ := akin
  simp only [Scan.addRecord]
  cases record.type with
  | epochState =>
      cases decodeEpochState record.payload with
      | error status => exact ⟨resources, queues, outstanding, replayOrder⟩
      | ok state => exact ⟨resources, queues, outstanding, replayOrder⟩
  | resourceState =>
      cases decodeResourceState record.payload with
      | error status => exact ⟨resources, queues, outstanding, replayOrder⟩
      | ok resource =>
          exact ⟨congrArg (·.insert resource.id resource) resources, queues, outstanding,
            replayOrder⟩
  | queueState =>
      cases decodeQueueState record.payload with
      | error status => exact ⟨resources, queues, outstanding, replayOrder⟩
      | ok queue =>
          exact ⟨resources, congrArg (·.insert queue.definition.id (Scan.restoreQueue queue)) queues,
            outstanding, replayOrder⟩
  | beginAttempt =>
      cases decodeMutation record.payload with
      | error status => exact ⟨resources, queues, outstanding, replayOrder⟩
      | ok request =>
          exact ⟨resources, queues, congrArg (·.insert request.attempt request) outstanding,
            replayOrder⟩
  | commitMutation =>
      cases decodeMutation record.payload with
      | error status => exact ⟨resources, queues, outstanding, replayOrder⟩
      | ok request =>
          exact ⟨resources, queues, congrArg (·.erase request.attempt) outstanding,
            congrArg (· ++ [request]) replayOrder⟩
  | noop => exact ⟨resources, queues, outstanding, replayOrder⟩
  | unlisted raw => exact ⟨resources, queues, outstanding, replayOrder⟩

theorem Akin.addRecords {first second : Scan} (akin : Akin first second)
    (records : List JournalRecord) : Akin (first.addRecords records) (second.addRecords records) := by
  induction records generalizing first second with
  | nil => exact akin
  | cons record rest ih => exact ih (akin.addRecord record)

/-- An epoch record adds nothing to replay. -/
theorem akin_epochState (scan : Scan) (payload : Bytes) :
    Akin scan (scan.addRecord ⟨.epochState, payload⟩) := by
  simp only [Scan.addRecord]
  split <;> exact ⟨rfl, rfl, rfl, rfl⟩

/-- New fabrics scan a journal and its continuation by one epoch record alike. -/
theorem akin_scanJournal {first second : Fabric StableStore}
    (resources : second.resources = first.resources) (queues : second.queues = first.queues)
    {before after : StableStore} {payload : Bytes}
    (appended : after.contents = before.contents ++ [⟨.epochState, payload⟩]) :
    Akin (first.scanJournal before) (second.scanJournal after) := by
  have start : Akin
      { recovery := { StableStore.report with currentBoot := first.boot }
        resources := first.resources
        queues := first.queues
        previousEpoch := default }
      { recovery := { StableStore.report with currentBoot := second.boot }
        resources := second.resources
        queues := second.queues
        previousEpoch := default } := ⟨resources, queues, rfl, rfl⟩
  have read := start.addRecords before.contents
  have last := akin_epochState (Scan.addRecords
      { recovery := { StableStore.report with currentBoot := second.boot }
        resources := second.resources
        queues := second.queues
        previousEpoch := default } before.contents) payload
  have scanned : second.scanJournal after = Scan.addRecord (Scan.addRecords
      { recovery := { StableStore.report with currentBoot := second.boot }
        resources := second.resources
        queues := second.queues
        previousEpoch := default } before.contents) ⟨.epochState, payload⟩ := by
    have records : IJournal.records after = after.contents := rfl
    rw [scanJournal, records, appended, Scan.addRecords, List.foldl_append]
    rfl
  rw [scanned]
  exact ⟨last.resources.trans read.resources, last.queues.trans read.queues,
    last.outstanding.trans read.outstanding, last.replayOrder.trans read.replayOrder⟩

/-! What a recovery without rewrites ends with. -/

theorem resourceQueues_face {before after : Table QueueId QueueRecord}
    (related : Table.Related Face before after) (id : ResourceId) :
    resourceQueues after id = resourceQueues before id :=
  related.countP_values fun first second face => by rw [face.definition]

theorem noteUnfinished_rests (fabric : Fabric StableStore) (outstanding : List MutationRequest) :
    (outstanding.foldl noteUnfinished fabric).resources = fabric.resources ∧
      Table.Related Face fabric.queues (outstanding.foldl noteUnfinished fabric).queues := by
  induction outstanding generalizing fabric with
  | nil => exact ⟨rfl, Table.related_refl Face.refl fabric.queues⟩
  | cons request rest ih =>
      obtain ⟨resources, queues⟩ := ih (fabric.noteUnfinished request)
      have marked : Table.Related Face fabric.queues (fabric.noteUnfinished request).queues := by
        simp only [noteUnfinished]
        cases found : fabric.findQueue request.queue with
        | none => exact Table.related_refl Face.refl fabric.queues
        | some queue => exact Table.related_insert Face.refl found ⟨rfl, rfl, rfl⟩
      exact ⟨resources, marked.trans (fun _ _ _ one two => one.trans two) queues⟩

theorem revalidateAll_rests (fabric : Fabric StableStore) (outstanding : List MutationRequest) :
    Table.Related Face fabric.queues (fabric.revalidateAll outstanding).queues ∧
      ∀ id, (fabric.revalidateAll outstanding).findResource id =
        (fabric.findResource id).map fun record =>
          { record with queueCount := UInt64.ofNat (resourceQueues fabric.queues record.id) } := by
  have marked : Table.Related Face fabric.queues
      (fabric.queues.mapValues fun _ queue => revalidateQueue queue) :=
    Table.related_mapValues _ fun _ queue => ⟨rfl, rfl, rfl⟩
  obtain ⟨resources, queues⟩ := noteUnfinished_rests { fabric with
    queues := fabric.queues.mapValues fun _ queue => revalidateQueue queue
    recovery := { fabric.recovery with
      queuesRevalidated := fabric.recovery.queuesRevalidated + fabric.queues.size } } outstanding
  have related := marked.trans (fun _ _ _ one two => one.trans two) queues
  refine ⟨related, fun id => ?_⟩
  have rebuilt := findResource_rebuildIndexesLocked (outstanding.foldl noteUnfinished { fabric with
    queues := fabric.queues.mapValues fun _ queue => revalidateQueue queue
    recovery := { fabric.recovery with
      queuesRevalidated := fabric.recovery.queuesRevalidated + fabric.queues.size } }) id
  simp only [resourceQueues_face related] at rebuilt
  refine rebuilt.trans ?_
  rw [findResource, resources]
  rfl

/-- The resource a recovery restores, its epoch apart. -/
def revived (queues : Table QueueId QueueRecord) (record : ResourceRecord) : ResourceRecord :=
  { withEpoch default (killBackends record) with
    queueCount := UInt64.ofNat (resourceQueues queues record.id) }

/-- Every queue with the same definition, lifecycle and fence; every resource the same up to its
epoch. -/
structure Alike (first second : Fabric StableStore) : Prop where
  queues : ∀ id, Option.Rel Face (first.findQueue id) (second.findQueue id)
  resources : ∀ id, (second.findResource id).map (withEpoch default) =
    (first.findResource id).map (withEpoch default)

/-- The fabric holds the tables of a scan. -/
structure Restores (scan : Scan) (fabric : Fabric StableStore) : Prop where
  queues : Table.Related Face scan.queues fabric.queues
  resources : ∀ id, (fabric.findResource id).map (withEpoch default) =
    (scan.resources.get? id).map (revived scan.queues)

theorem Restores.alike {one two : Scan} {first second : Fabric StableStore} (restores : Restores one first)
    (other : Restores two second) (akin : Akin one two) : Alike first second := by
  obtain ⟨resources, queues, _, _⟩ := akin
  have before : Table.Related Face first.queues one.queues :=
    restores.queues.symm.imp fun _ _ face => face.symm
  have after : Table.Related Face one.queues second.queues := queues ▸ other.queues
  refine ⟨fun id => ?_, fun id => ?_⟩
  · exact (before.trans (fun _ _ _ one two => one.trans two) after).find id
  · rw [other.resources, restores.resources, queues, resources]

/-- A replay that writes nothing again keeps the tables of the scan. -/
theorem restores_of_quiet {fabric : Fabric StableStore} {journal : StableStore} {scan : Scan}
    {epoch : Epoch}
    (quiet : QuietReplay ((fabric.adoptScan journal scan).installScan scan epoch) scan.replayOrder)
    {outstanding : List MutationRequest} {after : Fabric StableStore}
    (touch : Touch { (((fabric.adoptScan journal scan).installScan scan epoch).replayAll
      scan.replayOrder).revalidateAll outstanding with healthy := true } after) :
    Restores scan after := by
  obtain ⟨_, resources, queues, _⟩ := @replayAll_quieted StableStore _
    ((fabric.adoptScan journal scan).installScan scan epoch) journal rfl scan.replayOrder quiet
  obtain ⟨related, restored⟩ := revalidateAll_rests
    (((fabric.adoptScan journal scan).installScan scan epoch).replayAll scan.replayOrder)
    outstanding
  have installed := findResource_installScan (fabric.adoptScan journal scan) scan epoch
  generalize ((fabric.adoptScan journal scan).installScan scan epoch).replayAll
    scan.replayOrder = replayed at *
  have kept : Table.Related Face scan.queues replayed.queues := queues
  refine ⟨?_, fun id => ?_⟩
  · rw [touch.queues]
    exact kept.trans (fun _ _ _ one two => one.trans two) related
  · have found : after.findResource id = (replayed.revalidateAll outstanding).findResource id := by
      rw [findResource, touch.resources]
      rfl
    have here : replayed.findResource id =
        ((fabric.adoptScan journal scan).installScan scan epoch).findResource id := by
      rw [findResource, resources]
      rfl
    rw [found, restored, here, installed, Option.map_map, Option.map_map]
    congr 1
    funext record
    simp only [Function.comp, resourceQueues_face kept, revived]
    rfl

/-- A recovery that writes no commit again, if it gets as far as replaying. -/
def Settles {J : Type} [IJournal J] (fabric : Fabric J) : Prop :=
  ∀ journal epoch, fabric.journal = some journal →
    (IJournal.openJournal journal).1.isOk = true →
    (fabric.beginRecovery.scanJournal (IJournal.openJournal journal).2).mintEpoch = .ok epoch →
    QuietReplay ((fabric.beginRecovery.adoptScan (IJournal.openJournal journal).2
      (fabric.beginRecovery.scanJournal (IJournal.openJournal journal).2)).installScan
        (fabric.beginRecovery.scanJournal (IJournal.openJournal journal).2) epoch)
      (fabric.beginRecovery.scanJournal (IJournal.openJournal journal).2).replayOrder

end Fabric

namespace StableStore

def attempts (store : StableStore) : List JournalRecord := store.contents.filter (·.isAttempt)

/-- The attempt records are the same, and one epoch record was appended. -/
structure Idle (before after : StableStore) : Prop where
  attempts : after.attempts = before.attempts
  appended : ∃ payload, after.contents = before.contents ++ [⟨.epochState, payload⟩]

theorem idle_congr {before other after : StableStore} (same : before.contents = other.contents) :
    before.Idle after ↔ other.Idle after := by
  have attempts : before.attempts = other.attempts := congrArg (List.filter JournalRecord.isAttempt) same
  constructor
  · exact fun idle => ⟨idle.attempts.trans attempts, same ▸ idle.appended⟩
  · exact fun idle => ⟨idle.attempts.trans attempts.symm, same.symm ▸ idle.appended⟩

end StableStore

namespace Fabric

theorem settles_iff {fabric : Fabric StableStore} {store : StableStore} {epoch : Epoch}
    (present : fabric.journal = some store) (opened : store.openStore.1.isOk = true)
    (minted : (fabric.beginRecovery.scanJournal store.openStore.2).mintEpoch = .ok epoch) :
    fabric.Settles ↔
      QuietReplay ((fabric.beginRecovery.adoptScan store.openStore.2
        (fabric.beginRecovery.scanJournal store.openStore.2)).installScan
          (fabric.beginRecovery.scanJournal store.openStore.2) epoch)
        (fabric.beginRecovery.scanJournal store.openStore.2).replayOrder := by
  constructor
  · exact fun settles => settles store epoch present opened minted
  · intro quiet other stamp present' _ minted'
    cases present.symm.trans present'
    cases minted.symm.trans minted'
    exact quiet

/-- A record that is appended and synced ends the journal. -/
theorem Written.sealed {type : JournalRecordType} {payload : Bytes} {store : StableStore}
    {after : Option StableStore} (written : Written type payload (some store) true after) :
    ∃ last, after = some last ∧ last.pending = [] ∧
      last.contents = store.contents ++ [⟨type, payload⟩] := by
  cases written with
  | synced journal appended flushed =>
      have taken : (store.append type payload).1.isOk = true := appended
      have synced : (store.append type payload).2.sync.1.isOk = true := flushed
      refine ⟨(store.append type payload).2.sync.2, rfl, ?_, ?_⟩
      · rw [StableStore.sync] at synced ⊢
        split
        · rename_i closed
          rw [if_pos closed] at synced
          cases synced
        rename_i opened
        rw [if_neg opened] at synced
        split
        · rfl
        · rename_i failed
          rw [if_neg failed] at synced
          cases synced
      · rw [StableStore.contents_sync, StableStore.append_taken taken]

/-- What a successful recovery of a new fabric does to the journal and keeps of it. -/
theorem recover_idle {fabric : Fabric StableStore} {store : StableStore}
    (present : fabric.journal = some store) (recovered : fabric.recover.result.isOk = true) :
    ∃ last, fabric.recover.fabric.journal = some last ∧ last.pending = [] ∧
      (store.Idle last ↔ fabric.Settles) ∧
      (fabric.Settles →
        Restores (fabric.beginRecovery.scanJournal store.openStore.2) fabric.recover.fabric) := by
  have ended := recover_cases fabric
  generalize fabric.recover = reply at ended recovered ⊢
  cases ended with
  | unjournaled absent result touch journal =>
      rw [present] at absent
      cases absent
  | unopened other stored failed result touch journal failing =>
      rw [result] at recovered
      cases recovered
  | exhausted other scan status stored opened scanned minted result touch journal failing =>
      rw [result] at recovered
      cases recovered
  | replayed other last scan epoch replayed payload stored opened scanned minted installed kept
      touch written named =>
      cases stored.symm.trans present
      subst scanned installed
      rw [recovered] at written
      obtain ⟨extra, replayed, journaled, grown, attempts, silent⟩ := @replayAll_extra
        ((fabric.beginRecovery.adoptScan store.openStore.2
          (fabric.beginRecovery.scanJournal store.openStore.2)).installScan
            (fabric.beginRecovery.scanJournal store.openStore.2) epoch) store.openStore.2 rfl
        (fabric.beginRecovery.scanJournal store.openStore.2).replayOrder
      cases kept.symm.trans journaled
      obtain ⟨final, stored, flushed, contents⟩ := written.sealed
      rw [grown, StableStore.contents_openStore, List.append_assoc] at contents
      have settles := settles_iff present opened minted
      refine ⟨final, stored, flushed, ?_, fun settled => restores_of_quiet (settles.mp settled) touch⟩
      rw [settles, ← silent]
      constructor
      · rintro ⟨same, _⟩
        rw [StableStore.attempts, StableStore.attempts, contents, List.filter_append,
          List.append_right_eq_self, List.filter_append] at same
        have none := (List.append_eq_nil_iff.mp same).1
        rw [List.filter_eq_self.mpr attempts] at none
        exact none
      · rintro rfl
        rw [List.nil_append] at contents
        refine ⟨?_, payload, contents⟩
        rw [StableStore.attempts, StableStore.attempts, contents, List.filter_append]
        exact List.append_nil _

end Fabric

namespace System

/-- The fabric a boot recovers. -/
def booting (config : FabricConfig) (journal : Option StableStore) (clock : Clock) (seed : UInt64)
    (script : List Bool) : Fabric StableStore :=
  withScript (Fabric.create config clock journal seed) script

/-- The fabric a restart recovers. -/
def rebooting (system : System) (survivors : Nat) (clock : Clock) (seed : UInt64)
    (script : List Bool) : Fabric StableStore :=
  booting system.fabric.config (system.fabric.journal.map (·.crash survivors)) clock seed script

/-- The recovery left the attempt records of the journal alone, and so does every successful one
from the journal it left, with the same queues and resources. -/
def Idempotent (store : StableStore) (first : System) : Prop :=
  store.Idle first.store ∧ ∀ survivors clock seed script,
    (first.step (.restart survivors clock seed script)).result.isOk = true →
      first.store.Idle (first.step (.restart survivors clock seed script)).store ∧
        first.fabric.Alike (first.step (.restart survivors clock seed script)).fabric

theorem isOk_map {α β : Type} (f : α → β) (result : Except Status α) :
    (result.map f).isOk = result.isOk := by
  cases result <;> rfl

/-- What a successful boot does to the journal and keeps of it. -/
theorem boot_idle {config : FabricConfig} {before store : StableStore} {clock : Clock}
    {seed : UInt64} {script : List Bool} (same : store.contents = before.contents)
    (served : (boot config (some store) clock seed script).result.isOk = true) :
    ∃ opened last, opened.contents = before.contents ∧
      (boot config (some store) clock seed script).fabric.journal = some last ∧
      last.pending = [] ∧
      (before.Idle last ↔ (booting config (some store) clock seed script).Settles) ∧
      ((booting config (some store) clock seed script).Settles →
        Fabric.Restores ((booting config (some store) clock seed script).beginRecovery.scanJournal
          opened) (boot config (some store) clock seed script).fabric) := by
  have recovered : (booting config (some store) clock seed script).recover.result.isOk = true :=
    (isOk_map _ _).symm.trans served
  obtain ⟨last, journal, flushed, idle, holds⟩ := Fabric.recover_idle rfl recovered
  refine ⟨{ store with script }.openStore.2, last,
    (StableStore.contents_openStore { store with script }).trans same, journal, flushed, ?_, holds⟩
  rw [← idle]
  exact StableStore.idle_congr same.symm

end System

end QueueFabric
