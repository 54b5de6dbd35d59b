import QueueFabric.Epochs
import QueueFabric.RecordBounds
import QueueFabric.Restart

/-!
A compaction and the restart that follows it. The snapshot lists every record of
the fabric; read back under a new epoch it gives the same queues and resources,
with their evidence withdrawn and their backends dead.
-/

namespace QueueFabric

namespace Scan

theorem addRecords_append (scan : Scan) (first second : List JournalRecord) :
    scan.addRecords (first ++ second) = (scan.addRecords first).addRecords second :=
  List.foldl_append

theorem addRecords_resources {entries : List (ResourceId × ResourceRecord)} (scan : Scan)
    (readable : ∀ entry ∈ entries, entry.2.id = entry.1 ∧
      decodeResourceState (encodeResourceState entry.2) = .ok entry.2.stored) :
    scan.addRecords (entries.map fun entry => ⟨.resourceState, encodeResourceState entry.2⟩) =
      { scan with
        resources := scan.resources.insertAll
          (entries.map fun entry => (entry.1, entry.2.stored)) } := by
  induction entries generalizing scan with
  | nil => rfl
  | cons entry rest ih =>
      obtain ⟨keyed, decoded⟩ := readable entry List.mem_cons_self
      have one : scan.addRecord ⟨.resourceState, encodeResourceState entry.2⟩ =
          { scan with resources := scan.resources.insert entry.1 entry.2.stored } := by
        simp only [addRecord, decoded]
        rw [show entry.2.stored.id = entry.1 from keyed]
      have later := ih (scan.addRecord ⟨.resourceState, encodeResourceState entry.2⟩)
        fun other listed => readable other (List.mem_cons_of_mem entry listed)
      rw [one] at later
      rw [List.map_cons, addRecords, List.foldl_cons, one]
      exact later

theorem addRecords_queues {entries : List (QueueId × QueueRecord)} (scan : Scan)
    (readable : ∀ entry ∈ entries, entry.2.Limited entry.1) :
    ∃ recovery, scan.addRecords
      (entries.map fun entry => ⟨.queueState, encodeQueueState entry.2⟩) =
      { scan with
        recovery
        queues := scan.queues.insertAll
          (entries.map fun entry => (entry.1, restoreQueue entry.2.stored)) } := by
  induction entries generalizing scan with
  | nil => exact ⟨scan.recovery, rfl⟩
  | cons entry rest ih =>
      have bounded := readable entry List.mem_cons_self
      have one : scan.addRecord ⟨.queueState, encodeQueueState entry.2⟩ =
          scan.addQueue entry.2.stored := by
        simp only [addRecord, bounded.decodes]
      obtain ⟨recovery, later⟩ := ih (scan.addQueue entry.2.stored)
        fun other listed => readable other (List.mem_cons_of_mem entry listed)
      refine ⟨recovery, ?_⟩
      rw [List.map_cons, addRecords, List.foldl_cons, one]
      refine later.trans ?_
      rw [addQueue, show entry.2.stored.definition.id = entry.1 from bounded.keyed]
      rfl

end Scan

namespace Fabric

/-- What a compaction needs of the records it writes to have them read back. -/
structure Compactable (fabric : Fabric StableStore) : Prop where
  bounded : fabric.Limited
  groups : ∀ id resource, fabric.findResource id = some resource →
    ∀ entry ∈ resource.classes, entry.qos.group.length ≤ Limits.maxNameChars
  sizes : ∀ id resource, fabric.findResource id = some resource →
    resource.encodedSize ≤ Limits.maxJournalRecordBytes

/-- A scan that found exactly the records of a fabric. -/
structure Reread (fabric : Fabric StableStore) (scan : Scan) : Prop where
  resources : ∀ id, scan.resources.get? id =
    (fabric.findResource id).map ResourceRecord.stored
  queues : ∀ id, scan.queues.get? id =
    (fabric.findQueue id).map fun queue => Scan.restoreQueue queue.stored
  outstanding : scan.outstanding = .empty
  replayOrder : scan.replayOrder = []
  previousEpoch : scan.previousEpoch.value = fabric.epoch.value

theorem sorted_perm {tag : IdTag} {ν : Type} (table : Table (Ident tag) ν) :
    (table.entries.mergeSort fun left right => left.1.value ≤ right.1.value).Perm
      table.entries := List.mergeSort_perm _ _

theorem sortedValues_map {tag : IdTag} {ν β : Type} (table : Table (Ident tag) ν) (f : ν → β) :
    (sortedValues table).map f =
      (table.entries.mergeSort fun left right => left.1.value ≤ right.1.value).map
        fun entry => f entry.2 := by
  rw [sortedValues, List.map_map]
  rfl

/-- Scanned from nothing, a snapshot gives back the records it was built from. -/
theorem Compactable.reread {fabric : Fabric StableStore} (compactable : fabric.Compactable)
    (recovery : RecoveryReport) :
    fabric.Reread (Scan.addRecords
      { recovery, resources := .empty, queues := .empty, previousEpoch := default }
      fabric.buildSnapshotLocked) := by
  have resourceIn : ∀ entry ∈ fabric.resources.entries.mergeSort
      (fun left right => left.1.value ≤ right.1.value), entry.2.id = entry.1 ∧
        decodeResourceState (encodeResourceState entry.2) = .ok entry.2.stored := by
    intro entry listed
    have found := (Table.mem_entries_iff _ _ _).mp ((sorted_perm _).mem_iff.mp listed)
    have bounded := compactable.bounded.resources entry.1 entry.2 found
    exact ⟨bounded.keyed, bounded.decodes (compactable.groups entry.1 entry.2 found)
      (compactable.sizes entry.1 entry.2 found)⟩
  have queueIn : ∀ entry ∈ fabric.queues.entries.mergeSort
      (fun left right => left.1.value ≤ right.1.value), entry.2.Limited entry.1 := by
    intro entry listed
    exact compactable.bounded.queues.held entry.1 entry.2
      ((Table.mem_entries_iff _ _ _).mp ((sorted_perm _).mem_iff.mp listed))
  rw [buildSnapshotLocked, sortedValues_map, sortedValues_map, List.cons_append,
    ← List.singleton_append, Scan.addRecords_append, Scan.addRecords_append,
    Scan.addRecords_resources _ resourceIn]
  obtain ⟨report, scanned⟩ := Scan.addRecords_queues _ queueIn
  rw [scanned]
  have first : ∀ scan : Scan, scan.addRecords [⟨.epochState, encodeEpochState
      ⟨fabric.boot, fabric.epoch, fabric.coordinatorIncarnation⟩⟩] =
        scan.addEpoch ⟨fabric.boot, fabric.epoch, fabric.coordinatorIncarnation⟩ := by
    intro scan
    simp only [Scan.addRecords, List.foldl_cons, List.foldl_nil, Scan.addRecord,
      decodeEpochState_encodeEpochState]
  rw [first]
  refine ⟨fun id => ?_, fun id => ?_, rfl, rfl, ?_⟩
  · exact Table.get?_rebuilt fabric.resources (sorted_perm _) _ id
  · exact Table.get?_rebuilt fabric.queues (sorted_perm _)
      (fun queue => Scan.restoreQueue queue.stored) id
  · simp only [Scan.addEpoch]
    split
    · rfl
    · rename_i zero
      exact (UInt64.le_antisymm (UInt64.not_lt.mp zero) UInt64.zero_le).symm

/-- A new fabric over a store that holds the snapshot scans exactly its records. -/
theorem Compactable.scanned {fabric : Fabric StableStore} (compactable : fabric.Compactable)
    {fresh : Fabric StableStore} (resources : fresh.resources = .empty)
    (queues : fresh.queues = .empty) {store : StableStore}
    (listed : store.contents = fabric.buildSnapshotLocked) :
    fabric.Reread (fresh.beginRecovery.scanJournal store) := by
  have scanned : fresh.beginRecovery.scanJournal store = Scan.addRecords
      { recovery := { StableStore.report with currentBoot := fresh.beginRecovery.boot }
        resources := fresh.resources
        queues := fresh.queues
        previousEpoch := default } store.contents := rfl
  rw [scanned, resources, queues, listed]
  exact compactable.reread _

end Fabric

/-- What a restart makes of a queue it read from a snapshot. -/
structure QueueRecord.Restored (before after : QueueRecord) : Prop where
  carried : before.Carried after
  distrusted : after.Distrusted
  drain : after.drain =
    if before.drain.inProgress || before.drain.phase = .completed then
      Scan.restoreDrain before.drain else before.drain

/-- What it makes of a resource. -/
structure ResourceRecord.Restored (epoch : Epoch) (before after : ResourceRecord) : Prop where
  carried : before.Carried after
  lifeless : ∀ backend ∈ after.backends, backend.alive = false
  epoch : after.authority.epoch = epoch

namespace Fabric

/-- The authoritative state of a fabric under the next epoch. -/
structure Restored (before after : Fabric StableStore) : Prop where
  queues : ∀ id, Option.Rel QueueRecord.Restored (before.findQueue id) (after.findQueue id)
  resources : ∀ id, Option.Rel (ResourceRecord.Restored after.epoch) (before.findResource id)
    (after.findResource id)
  epoch : after.epoch.value.toNat = before.epoch.value.toNat + 1

theorem restored_queue (queue : QueueRecord) :
    queue.Restored (revalidateQueue (Scan.restoreQueue queue.stored)) where
  carried := ((QueueRecord.carried_stored queue).trans
    (QueueRecord.carried_restoreQueue queue.stored)).trans (QueueRecord.carried_revalidateQueue _)
  distrusted := distrusted_revalidateQueue (unproven_restoreQueue queue.stored)
  drain := restoreQueue_drain queue.stored

theorem restored_resource (epoch : Epoch) (count : UInt64) (resource : ResourceRecord) :
    resource.Restored epoch
      { withEpoch epoch (killBackends resource.stored) with queueCount := count } := by
  refine ⟨?_, fun backend listed => ?_, rfl⟩
  · have killed := (ResourceRecord.carried_stored resource).trans _ _ _
      (ResourceRecord.carried_killBackends resource.stored)
    exact ⟨killed.id, killed.name, killed.owner, killed.generation, killed.grants, killed.classes,
      killed.pools, killed.backends⟩
  · obtain ⟨old, _, rfl⟩ := List.mem_map.mp listed
    rfl

theorem findResource_rebuildIndexesLocked (fabric : Fabric StableStore) (id : ResourceId) :
    fabric.rebuildIndexesLocked.findResource id = (fabric.findResource id).map fun record =>
      { record with queueCount := UInt64.ofNat (resourceQueues fabric.queues record.id) } :=
  Table.get?_mapValues _ _ id

theorem findResource_installScan (fabric : Fabric StableStore) (scan : Scan) (epoch : Epoch)
    (id : ResourceId) :
    (fabric.installScan scan epoch).findResource id = (scan.resources.get? id).map fun record =>
      { withEpoch epoch (killBackends record) with
        queueCount := UInt64.ofNat (resourceQueues scan.queues record.id) } := by
  rw [installScan, findResource_rebuildIndexesLocked, findResource, Table.get?_mapValues,
    Option.map_map]
  rfl

theorem findResource_revalidateAll (fabric : Fabric StableStore) (id : ResourceId) :
    (fabric.revalidateAll []).findResource id = (fabric.findResource id).map fun record =>
      { record with queueCount := UInt64.ofNat (resourceQueues
          (fabric.queues.mapValues fun _ queue => revalidateQueue queue) record.id) } :=
  Table.get?_mapValues _ _ id

/-- A recovery that finds the records of a fabric and nothing else restores it. -/
theorem Reread.restored {before fabric : Fabric StableStore} {scan : Scan} {epoch : Epoch}
    (reread : before.Reread scan) (minted : scan.mintEpoch = .ok epoch)
    {after : Fabric StableStore}
    (touch : Touch { (fabric.replayScan scan epoch) with healthy := true } after) :
    before.Restored after := by
  have plain : fabric.replayScan scan epoch = (fabric.installScan scan epoch).revalidateAll [] := by
    rw [replayScan, reread.replayOrder, reread.outstanding]
    rfl
  have entered : after.epoch = epoch := by
    rw [touch.epoch, plain]
    rfl
  refine ⟨fun id => ?_, fun id => ?_, ?_⟩
  · have found : after.findQueue id = (scan.queues.get? id).map revalidateQueue := by
      rw [findQueue, touch.queues, plain]
      exact Table.get?_mapValues _ _ id
    rw [found, reread.queues]
    cases before.findQueue id with
    | none => exact .none
    | some queue => exact .some (restored_queue queue)
  · have found : after.findResource id =
        ((fabric.installScan scan epoch).revalidateAll []).findResource id := by
      rw [findResource, touch.resources, plain]
      rfl
    rw [found, findResource_revalidateAll, findResource_installScan, reread.resources, entered,
      Option.map_map]
    cases before.findResource id with
    | none => exact .none
    | some resource => exact .some (restored_resource epoch _ resource)
  · rw [entered, ← reread.previousEpoch]
    rw [Scan.mintEpoch] at minted
    split at minted
    · exact Counter.next_cases minted
    · rename_i invalid
      cases minted
      simp only [Counter.valid, bne_iff_ne, ne_eq, not_not] at invalid
      rw [invalid]
      rfl

/-- A compaction that answers ok found no reserved plan and leaves the store with its snapshot. -/
theorem compact_ok {fabric : Fabric StableStore} (ok : fabric.compact.result.isOk = true) :
    fabric.plans.size = 0 ∧ ∃ store, fabric.compact.fabric.journal = some store ∧
      store.synced = fabric.buildSnapshotLocked ∧ store.pending = [] := by
  revert ok
  rw [compact]
  split
  · intro impossible
    cases impossible
  rename_i journal present
  split
  · intro impossible
    cases impossible
  split
  · intro impossible
    cases impossible
  rename_i unreserved
  simp only [orRefuse]
  split
  · intro impossible
    cases impossible
  rename_i rewritten
  intro _
  change ¬ (!(journal.rewrite fabric.buildSnapshotLocked).1.isOk) = true at rewritten
  refine ⟨not_not.mp unreserved, (journal.rewrite fabric.buildSnapshotLocked).2, rfl, ?_⟩
  rw [StableStore.rewrite] at rewritten ⊢
  split
  · rename_i closed
    rw [if_pos closed] at rewritten
    exact absurd rfl rewritten
  rename_i opened
  rw [if_neg opened] at rewritten
  split
  · exact ⟨rfl, rfl⟩
  · rename_i failing
    rw [if_neg failing] at rewritten
    exact absurd rfl rewritten

/-- A recovery that succeeds over a store holding the snapshot restores the fabric. -/
theorem Compactable.restored {before fabric : Fabric StableStore}
    (compactable : before.Compactable) (resources : fabric.resources = .empty)
    (queues : fabric.queues = .empty) {store : StableStore}
    (present : fabric.journal = some store) (listed : store.contents = before.buildSnapshotLocked)
    (recovered : fabric.recover.result.isOk = true) : before.Restored fabric.recover.fabric := by
  have ended := recover_cases fabric
  generalize fabric.recover = reply at ended recovered ⊢
  cases ended with
  | unjournaled absent result touch journal =>
      rw [present] at absent
      cases absent
  | unopened other stored failed result touch journal failing =>
      rw [result] at recovered
      cases recovered
  | exhausted other scan status stored opened scanned minted result touch journal failing =>
      rw [result] at recovered
      cases recovered
  | replayed other last scan epoch replayed payload stored opened scanned minted installed kept
      touch written named =>
      cases stored.symm.trans present
      have same : store.openStore.2.contents = before.buildSnapshotLocked :=
        (StableStore.contents_openStore store).trans listed
      have reread : before.Reread scan := scanned ▸ compactable.scanned resources queues same
      subst installed
      exact reread.restored minted touch

/-- Over a store that holds the snapshot and does not fail, a recovery succeeds unless the epochs
are used up. -/
theorem Compactable.recovers {before fabric : Fabric StableStore}
    (compactable : before.Compactable) (resources : fabric.resources = .empty)
    (queues : fabric.queues = .empty) {store : StableStore}
    (present : fabric.journal = some store) (listed : store.contents = before.buildSnapshotLocked)
    (faultless : store.script = []) (room : before.epoch.value ≠ 0xFFFFFFFFFFFFFFFF) :
    fabric.recover.result.isOk = true := by
  have opens : store.openStore = (.success, { store.advance with
      synced := store.synced ++ store.pending
      pending := []
      opened := true }) := by
    rw [StableStore.openStore, if_pos (by simp [StableStore.outcome, faultless])]
  have ended := recover_cases fabric
  generalize fabric.recover = reply at ended ⊢
  cases ended with
  | unjournaled absent result touch journal =>
      rw [present] at absent
      cases absent
  | unopened other stored failed result touch journal failing =>
      cases stored.symm.trans present
      rw [opens] at failed
      cases failed
  | exhausted other scan status stored opened scanned minted result touch journal failing =>
      cases stored.symm.trans present
      have same : store.openStore.2.contents = before.buildSnapshotLocked :=
        (StableStore.contents_openStore store).trans listed
      have reread : before.Reread scan := scanned ▸ compactable.scanned resources queues same
      exact absurd (reread.previousEpoch.symm.trans (Scan.ceiling_of_mintEpoch minted)) room
  | replayed other last scan epoch replayed payload stored opened scanned minted installed kept
      touch written named =>
      cases stored.symm.trans present
      have same : store.openStore.2.contents = before.buildSnapshotLocked :=
        (StableStore.contents_openStore store).trans listed
      have reread : before.Reread scan := scanned ▸ compactable.scanned resources queues same
      have reached : last = store.openStore.2 := by
        rw [installed, reread.replayOrder] at kept
        exact (Option.some.inj kept).symm
      have ready : last.opened = true ∧ last.script = [] := by
        rw [reached, opens]
        exact ⟨rfl, by simp [StableStore.advance, faultless]⟩
      by_contra failed
      rw [Bool.not_eq_true] at failed
      rw [failed] at written
      generalize reply.fabric.journal = journal at written
      cases written with
      | appendFailed _ failed =>
          change (last.append .epochState payload).1.isOk = false at failed
          simp [StableStore.append, ready.1, StableStore.outcome, ready.2, Status.isOk,
            Status.success] at failed
      | syncFailed _ appended failed =>
          change (last.append .epochState payload).2.sync.1.isOk = false at failed
          simp [StableStore.append, StableStore.sync, ready.1, StableStore.outcome,
            StableStore.advance, ready.2, Status.isOk, Status.success] at failed

end Fabric

namespace System

/-- The authoritative state survives a compaction and the crash after it: whatever the crash keeps
of unsynced records, a recovery that succeeds restores every queue and every resource under the next
epoch, and over a store that does not fail it succeeds while there is a next epoch. -/
theorem compaction_preserves_state {config : FabricConfig} (within : config.WithinLimits)
    (journaled : Bool) (clock : Clock) (seed : UInt64) (script : List Bool) (steps : List Step)
    {system : System} (reached : system =
      (boot config (if journaled then some {} else none) clock seed script).run steps)
    (groups : ∀ id resource, system.fabric.findResource id = some resource →
      ∀ entry ∈ resource.classes, entry.qos.group.length ≤ Limits.maxNameChars)
    (sizes : ∀ id resource, system.fabric.findResource id = some resource →
      resource.encodedSize ≤ Limits.maxJournalRecordBytes)
    (outcomes : List Bool)
    (compacted : (system.step (.call .compact outcomes)).result.isOk = true)
    (survivors : Nat) (restarted : Clock) (reseed : UInt64) :
    (∀ outcomes', ((system.step (.call .compact outcomes)).step
        (.restart survivors restarted reseed outcomes')).result.isOk = true →
      system.fabric.Restored ((system.step (.call .compact outcomes)).step
        (.restart survivors restarted reseed outcomes')).fabric) ∧
    (system.fabric.epoch.value ≠ 0xFFFFFFFFFFFFFFFF →
      ((system.step (.call .compact outcomes)).step
        (.restart survivors restarted reseed [])).result.isOk = true) := by
  have bounded : system.fabric.Limited := reached ▸ bounded_run within journaled clock seed script
    steps
  have compactable : system.fabric.Compactable := ⟨bounded, groups, sizes⟩
  have ok : (withScript system.fabric outcomes).compact.result.isOk = true :=
    (answered_isOk _ _).symm.trans compacted
  obtain ⟨_, store, kept, synced, pending⟩ := Fabric.compact_ok ok
  have journal : (system.step (.call .compact outcomes)).fabric.journal = some store := kept
  generalize system.step (.call .compact outcomes) = middle at journal
  -- what the crash leaves is the snapshot, whatever survives of nothing unsynced
  have fresh : ∀ outcomes', ∃ left : StableStore,
      (withScript (Fabric.create middle.fabric.config restarted
        (middle.fabric.journal.map (·.crash survivors)) reseed) outcomes').journal = some left ∧
      left.contents = system.fabric.buildSnapshotLocked ∧ left.script = outcomes' := by
    intro outcomes'
    refine ⟨{ store.crash survivors with script := outcomes' }, ?_, ?_, rfl⟩
    · simp only [withScript, Fabric.create, journal, Option.map_some]
    · simp only [StableStore.contents, StableStore.crash, pending, List.take_nil, List.append_nil]
      exact synced
  refine ⟨fun outcomes' recovered => ?_, fun room => ?_⟩
  · obtain ⟨left, present, listed, _⟩ := fresh outcomes'
    refine compactable.restored rfl rfl present listed ?_
    exact (answered_isOk _ _).symm.trans recovered
  · obtain ⟨left, present, listed, faultless⟩ := fresh []
    refine (answered_isOk _ _).trans ?_
    exact compactable.recovers rfl rfl present listed faultless room

theorem compaction_preserves_sample :
    (sampleSystem.step (.call .compact [])).result.isOk = true ∧
    sampleSystem.fabric.Restored ((sampleSystem.step (.call .compact [])).step
      (.restart 0 ⟨fun _ => 2000, 0⟩ 8 [])).fabric := by
  have limits : FabricConfig.WithinLimits {} := by constructor <;> decide
  have listed : sampleSystem.fabric.resources.entries.all (fun entry =>
      entry.2.classes.all (fun cls => cls.qos.group.length ≤ Limits.maxNameChars) &&
        decide (entry.2.encodedSize ≤ Limits.maxJournalRecordBytes)) = true := by
    decide +kernel
  have each : ∀ id resource, sampleSystem.fabric.findResource id = some resource →
      (∀ cls ∈ resource.classes, cls.qos.group.length ≤ Limits.maxNameChars) ∧
        resource.encodedSize ≤ Limits.maxJournalRecordBytes := by
    intro id resource found
    have small := List.all_eq_true.mp listed (id, resource)
      ((Table.mem_entries_iff _ id resource).mpr found)
    simpa using small
  have compacted : (sampleSystem.step (.call .compact [])).result.isOk = true := by
    decide +kernel
  obtain ⟨restores, restarts⟩ := compaction_preserves_state limits true ⟨fun _ => 1000, 0⟩ 7 []
    sampleSteps rfl (fun id resource found => (each id resource found).1)
    (fun id resource found => (each id resource found).2) [] compacted 0 ⟨fun _ => 2000, 0⟩ 8
  exact ⟨compacted, restores [] (restarts (by decide +kernel))⟩

end System

end QueueFabric
