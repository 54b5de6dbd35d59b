import QueueFabric.Quiescence

/-!
What a restart restores carries no authority. Whatever a journal holds, a new
fabric that recovers from it trusts no occupancy, no drain and no backend.
-/

namespace QueueFabric

open QueueRecord

theorem Applicability.stale_union_stale (value : Applicability) :
    (value.union .stale).hasFlag .stale = true := by
  have each : ∀ bits : Fin 256, (union ⟨.ofFin bits⟩ .stale).hasFlag .stale = true := by
    decide +kernel
  exact each value.bits.toFin

/-- Nothing a queue has stored can be acted on. -/
structure QueueRecord.Distrusted (queue : QueueRecord) : Prop where
  flagged : queue.applicability.hasFlag .stale = true
  unobserved : queue.occupancy.present = true → queue.occupancy.freshness = .staleRestart
  unproven : queue.drain.phase ≠ .completed

theorem QueueRecord.Distrusted.classified {queue : QueueRecord} (distrusted : queue.Distrusted)
    (now : Nanos) (policy : OccupancyPolicy) (generation : Generation) :
    classifyFreshness queue.occupancy now policy generation ≠ .fresh := by
  rw [classifyFreshness]
  cases present : queue.occupancy.present with
  | false => simp
  | true => simp [distrusted.unobserved present, isSticky]

namespace Fabric

variable {J : Type}

/-! The passes of a recovery, one queue at a time. -/

theorem unproven_restoreQueue (queue : QueueRecord) :
    (Scan.restoreQueue queue).drain.phase ≠ .completed := by
  rw [restoreQueue_drain]
  split
  · simp only [Scan.restoreDrain]
    split
    · simp
    · assumption
  · rename_i idle
    simp only [Bool.or_eq_true, decide_eq_true_eq, not_or] at idle
    exact idle.2

theorem invalidateOccupancy_staleRestart (occupancy : OccupancyState)
    (present : (invalidateOccupancy occupancy .staleRestart).present = true) :
    (invalidateOccupancy occupancy .staleRestart).freshness = .staleRestart := by
  cases seen : occupancy.present with
  | false => simp [invalidateOccupancy, seen] at present
  | true => simp [invalidateOccupancy, seen]

theorem distrusted_revalidateQueue {queue : QueueRecord}
    (unproven : queue.drain.phase ≠ .completed) : (revalidateQueue queue).Distrusted := by
  refine ⟨Applicability.stale_union_stale _, fun present => ?_, unproven⟩
  simp only [revalidateQueue] at present ⊢
  split at present
  · rename_i seen
    rw [if_pos seen]
    exact invalidateOccupancy_staleRestart _ present
  · contradiction

theorem distrusted_markUnfinished {queue : QueueRecord} (distrusted : queue.Distrusted) :
    (markUnfinished queue).Distrusted :=
  ⟨Applicability.stale_union_stale _, invalidateOccupancy_staleRestart _, distrusted.unproven⟩

theorem KindCase.unproven {fabric : Fabric J} {target : QueueRecord} {request : MutationRequest}
    {now : Nanos} {applied : KindApplied} (ended : KindCase fabric target request now applied)
    (lifeless : fabric.Lifeless) (unproven : target.drain.phase ≠ .completed) :
    applied.target.drain.phase ≠ .completed := by
  cases ended with
  | unchanged rule repeats => exact unproven
  | moved goal rule events kind moves allowed => exact unproven
  | redefined cls thresholds owner generation rule events minted kind changed bound ladder =>
      exact unproven
  | ingested sample overflows rule events stats kind payload generation epoch =>
      simp only [ingestTarget, noteZero_phase]
      exact unproven
  | drainRequested rule events kind moves allowed => simp
  | drainCancelled rule events kind draining => simp
  | evidenceRecorded evidence rule events kind payload progress some few backed =>
      simp [recordEvidence]
  | quiesced rule events kind draining complete acknowledged =>
      have proven := proven_of_completable complete unproven
      obtain ⟨live, found, _⟩ := proven.backend
      rw [lifeless.findLiveBackend] at found
      cases found
  | fenced fence rule events kind raised => exact unproven
  | unfenced rule events kind => exact unproven
  | failed reason rule events kind moves allowed => exact unproven
  | retired rule events kind moves allowed => simp
  | acknowledged acknowledged rule events kind generation => exact unproven

theorem Lifeless.of_resources {before after : Fabric J} (lifeless : before.Lifeless)
    (same : after.resources = before.resources) : after.Lifeless := by
  intro id record found
  rw [findResource, same] at found
  exact lifeless id record found

variable [IJournal J]

theorem unproven_replayAll {base : Fabric J} (lifeless : base.Lifeless)
    (unproven : ∀ id queue, base.findQueue id = some queue → queue.drain.phase ≠ .completed)
    (requests : List MutationRequest) (id : QueueId) (queue : QueueRecord)
    (found : (base.replayAll requests).findQueue id = some queue) :
    queue.drain.phase ≠ .completed := by
  refine @replayAll_carries J _ (fun _ _ queue => queue.drain.phase ≠ .completed) base requests
    unproven (fun early request late split now id after moves earlier => ?_) id queue found
  generalize (base.replayAll early).findQueue id = stored at moves earlier
  cases moves with
  | unmoved unmoved idle =>
      rw [unmoved.drain]
      exact earlier _ rfl
  | mutated named kind executed mutated =>
      obtain ⟨middle, applied, touch, ended, unmoved⟩ := mutated.kindCase
      rw [unmoved.drain]
      exact ended.unproven ((lifeless.replayAll early).of_resources touch.resources)
        (earlier _ rfl)
  | declared executed declared =>
      obtain ⟨_, _, _, _, drain, _⟩ := declared.blank
      simp [drain]

omit [IJournal J] in
theorem Lifeless.revalidateAll {fabric : Fabric J} (lifeless : fabric.Lifeless)
    (outstanding : List MutationRequest) : (fabric.revalidateAll outstanding).Lifeless := by
  have noted : ∀ start : Fabric J, start.Lifeless →
      (outstanding.foldl noteUnfinished start).Lifeless := by
    induction outstanding with
    | nil => exact fun _ lifeless => lifeless
    | cons request rest ih => exact fun start lifeless => ih _ (lifeless.of_resources rfl)
  have marked := noted { fabric with
    queues := fabric.queues.mapValues fun _ queue => revalidateQueue queue
    recovery := { fabric.recovery with
      queuesRevalidated := fabric.recovery.queuesRevalidated + fabric.queues.size } }
    (lifeless.of_resources rfl)
  intro id record found entry listed
  simp only [Fabric.revalidateAll, rebuildIndexesLocked, findResource, Table.get?_mapValues,
    Option.map_eq_some_iff] at found
  obtain ⟨stored, known, rfl⟩ := found
  exact marked id stored known entry listed

/-- A recovery that succeeds over a journal replays what it scanned and closes. -/
theorem recover_closed {fabric : Fabric J} {journal : J} (present : fabric.journal = some journal)
    (recovered : fabric.recover.result.isOk = true) :
    (IJournal.openJournal journal).1.isOk = true ∧ ∃ epoch,
      let opened := (IJournal.openJournal journal).2
      let scan := fabric.beginRecovery.scanJournal opened
      scan.mintEpoch = .ok epoch ∧ fabric.recover =
        ((fabric.beginRecovery.adoptScan opened scan).replayScan scan epoch).closeRecovery.emit := by
  have found : fabric.beginRecovery.journal = some journal := present
  revert recovered
  rw [recover, recoverLocked]
  simp only [found]
  cases opened : (IJournal.openJournal journal).1.isOk with
  | false =>
      intro recovered
      cases recovered
  | true =>
      simp only [Bool.not_true, Bool.false_eq_true, ↓reduceIte, recoverOpened]
      cases minted :
          (fabric.beginRecovery.scanJournal (IJournal.openJournal journal).2).mintEpoch with
      | error status =>
          intro recovered
          cases recovered
      | ok epoch => exact fun _ => ⟨trivial, epoch, rfl, rfl⟩

/-- A recovery that succeeds over a journal ends with the replayed scan, marked for
revalidation. -/
theorem recover_replayed {fabric : Fabric J} {journal : J} (present : fabric.journal = some journal)
    (recovered : fabric.recover.result = .ok ()) :
    ∃ opened epoch, let scan := fabric.beginRecovery.scanJournal opened
      Touch { (fabric.beginRecovery.adoptScan opened scan).replayScan scan epoch with
        healthy := true } fabric.recover.fabric := by
  obtain ⟨_, epoch, _, closed⟩ := recover_closed present (recovered ▸ rfl)
  refine ⟨(IJournal.openJournal journal).2, epoch, ?_⟩
  rw [closed]
  exact (closeRecovery_touch _).trans (emitted_touch _ _)

/-- No live authority: nothing observed, proven or acknowledged before is believed. -/
structure Inert (fabric : Fabric J) : Prop where
  flagged : ∀ id queue, fabric.findQueue id = some queue →
    queue.applicability.hasFlag .stale = true
  unfresh : ∀ id queue, fabric.findQueue id = some queue → ∀ now policy generation,
    classifyFreshness queue.occupancy now policy generation ≠ .fresh
  lifeless : ∀ id record, fabric.findResource id = some record → ∀ entry ∈ record.backends,
    entry.alive = false
  unadmitted : ∀ id principal explanation, (fabric.explain id principal).result = .ok explanation →
    explanation.thresholdEval.admissionAuthorized = false
  incomplete : ∀ id principal explanation, (fabric.explain id principal).result = .ok explanation →
    explanation.drainAssessment.completable = false
  unverified : ∀ id principal explanation, (fabric.explain id principal).result = .ok explanation →
    explanation.backendVerification ≠ none

omit [IJournal J] in
theorem explained_cases {fabric : Fabric J} {id : QueueId} {principal : OwnerId}
    {explanation : Explanation} (explained : (fabric.explain id principal).result = .ok explanation) :
    ∃ queue, fabric.findQueue id = some queue ∧
      explanation = fabric.monotonicNow.2.explainQueue queue principal fabric.monotonicNow.1 := by
  rw [explain] at explained
  split at explained
  · cases explained
  · rename_i queue found
    refine ⟨queue, found, ?_⟩
    rw [atNow, Except.ok.injEq] at explained
    exact explained.symm

omit [IJournal J] in
theorem inert_of_distrusted {fabric : Fabric J} (lifeless : fabric.Lifeless)
    (distrusted : ∀ id queue, fabric.findQueue id = some queue → queue.Distrusted) :
    fabric.Inert where
  flagged id queue found := (distrusted id queue found).flagged
  unfresh id queue found := (distrusted id queue found).classified
  lifeless := lifeless
  unadmitted id principal explanation explained := by
    obtain ⟨queue, found, rfl⟩ := explained_cases explained
    have stale := (distrusted id queue found).classified fabric.monotonicNow.1
      (occupancyPolicyFor fabric.monotonicNow.2.config queue) queue.definition.generation
    simp [explainQueue, evaluateThresholds, stale]
  incomplete id principal explanation explained := by
    obtain ⟨queue, found, rfl⟩ := explained_cases explained
    by_contra complete
    have proven := proven_of_completable (Bool.not_eq_false _ ▸ complete)
      (distrusted id queue found).unproven
    obtain ⟨live, alive, _⟩ := proven.backend
    have dead := (lifeless.of_resources (monotonicNow_touch fabric).resources).findLiveBackend
      queue.definition.resource queue.drain.evidence.backend.backend
    rw [dead] at alive
    cases alive
  unverified id principal explanation explained := by
    obtain ⟨queue, found, rfl⟩ := explained_cases explained
    have dead := (lifeless.of_resources (monotonicNow_touch fabric).resources).findLiveBackend
      queue.definition.resource
    simp [explainQueue, dead]

/-- No live authority survives a restart, whatever the journal holds. -/
theorem recovered_inert (config : FabricConfig) (clock : Clock) (journal : J) (seed : UInt64)
    (recovered : (create config clock (some journal) seed).recover.result = .ok ()) :
    (create config clock (some journal) seed).recover.fabric.Inert := by
  obtain ⟨opened, epoch, touch⟩ := recover_replayed rfl recovered
  generalize (create config clock (some journal) seed).recover.fabric = after at touch ⊢
  simp only [replayScan] at touch
  generalize scanned : (create config clock (some journal) seed).beginRecovery.scanJournal opened =
    scan at touch
  have installed := lifeless_installScan
    ((create config clock (some journal) seed).beginRecovery.adoptScan opened scan) scan epoch
  refine inert_of_distrusted ?_ fun id queue found => ?_
  · exact ((installed.replayAll scan.replayOrder).revalidateAll
      scan.outstanding.values).of_resources touch.resources
  · rw [findQueue, touch.queues] at found
    refine revalidateAll_holds (fun id queue found => distrusted_revalidateQueue ?_)
      (fun id queue => distrusted_markUnfinished) id queue found
    refine unproven_replayAll installed (fun id queue found => ?_) scan.replayOrder id queue found
    subst scanned
    rcases Scan.get?_queues_addRecords found with early | ⟨payload, saved, listed, decoded, rfl, _⟩
    · cases early
    · exact unproven_restoreQueue saved

end Fabric

namespace System

/-- A journal whose commits acknowledge a backend and prove a drain. -/
def provenStore : StableStore := (sampleStart.run provenSteps).store.crash 0

theorem recovered_inert_once :
    (Fabric.create {} ⟨fun _ => 1000, 0⟩ (some provenStore) 7).recover.fabric.Inert :=
  Fabric.recovered_inert {} ⟨fun _ => 1000, 0⟩ provenStore 7 (by decide +kernel)

end System

end QueueFabric
