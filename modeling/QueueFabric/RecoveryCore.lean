import QueueFabric.TopologyCore

/-!
`recover_locked` and its helpers, phase by phase: scan the records, mint the
epoch, replay the commits, mark the evidence, write the epoch record.
-/

namespace QueueFabric

/-- What one pass over the journal records collects. -/
structure Scan where
  recovery : RecoveryReport
  resources : Table ResourceId ResourceRecord
  queues : Table QueueId QueueRecord
  outstanding : Table AttemptId MutationRequest := .empty
  replayOrder : List MutationRequest := []
  epochState : Option EpochState := none
  previousEpoch : Epoch

namespace Scan

def corrupt (scan : Scan) (line : String) : Scan :=
  { scan with
    recovery :=
      { scan.recovery with recordsCorrupt := scan.recovery.recordsCorrupt + 1 }.note line }

/-- Drain evidence of an earlier life loses its revalidation and its completion. -/
def restoreDrain (drain : DrainState) : DrainState :=
  let evidence := { drain.evidence with revalidated := false }
  { drain with
    evidence
    phase := if drain.phase = .completed then .evidencePending else drain.phase }

/-- A queue as a snapshot record restores it. -/
def restoreQueue (queue : QueueRecord) : QueueRecord :=
  let queue := if queue.occupancy.present then
    { queue with
      occupancy := invalidateOccupancy queue.occupancy .staleRestart
      applicability := queue.applicability.union .stale
      stalenessEvents := queue.stalenessEvents + 1 }
    else queue
  let queue := if queue.drain.inProgress || queue.drain.phase = .completed then
    { queue with
      drain := restoreDrain queue.drain
      applicability := queue.applicability.union .stale }
    else queue
  if queue.applied.known then
    { queue with applicability := queue.applicability.union .stale } else queue

def addEpoch (scan : Scan) (state : EpochState) : Scan :=
  { scan with
    epochState := some state
    previousEpoch := if state.epoch.value > scan.previousEpoch.value then state.epoch
      else scan.previousEpoch }

def addQueue (scan : Scan) (queue : QueueRecord) : Scan :=
  let revalidated := scan.recovery.queuesRevalidated + if queue.occupancy.present then 1 else 0
  let restored := scan.recovery.queuesRestored + 1
  { scan with
    recovery := { scan.recovery with queuesRestored := restored, queuesRevalidated := revalidated }
    queues := scan.queues.insert queue.definition.id (restoreQueue queue) }

def addRecord (scan : Scan) (record : JournalRecord) : Scan :=
  match record.type with
  | .epochState =>
      match decodeEpochState record.payload with
      | .error _ => scan.corrupt "epoch state record could not be decoded"
      | .ok state => scan.addEpoch state
  | .resourceState =>
      match decodeResourceState record.payload with
      | .error _ => scan.corrupt "resource state record could not be decoded"
      | .ok resource => { scan with resources := scan.resources.insert resource.id resource }
  | .queueState =>
      match decodeQueueState record.payload with
      | .error _ => scan.corrupt "queue state record could not be decoded"
      | .ok queue => scan.addQueue queue
  | .beginAttempt =>
      match decodeMutation record.payload with
      | .error _ => scan.corrupt "begin attempt record could not be decoded"
      | .ok request =>
          { scan with outstanding := scan.outstanding.insert request.attempt request }
  | .commitMutation =>
      match decodeMutation record.payload with
      | .error _ => scan.corrupt "commit record could not be decoded"
      | .ok request =>
          { scan with
            outstanding := scan.outstanding.erase request.attempt
            replayOrder := scan.replayOrder ++ [request] }
  | .noop => scan
  | .unlisted _ => scan

def addRecords (scan : Scan) (records : List JournalRecord) : Scan := records.foldl addRecord scan

/-- The epoch of the new process life: the successor of the last one known. -/
def mintEpoch (scan : Scan) : Except Status Epoch :=
  if scan.previousEpoch.valid then scan.previousEpoch.next else .ok ⟨1⟩

end Scan

namespace Fabric

variable {J : Type}

def maxBy {α : Type} (items : List α) (value : α → UInt64) : UInt64 :=
  items.foldl (fun best item => if value item > best then value item else best) 0

/-- `rebuild_indexes_locked`: counters and name index from the authoritative records. -/
def rebuildIndexesLocked (fabric : Fabric J) : Fabric J :=
  let resources := fabric.resources.values
  let queues := fabric.queues.values
  { fabric with
    resources := fabric.resources.mapValues fun _ resource =>
      { resource with queueCount := UInt64.ofNat (resourceQueues fabric.queues resource.id) }
    queueNames := queues.foldl (fun names queue =>
      names.insert (nameKey queue.definition.resource queue.definition.name) queue.definition.id)
      .empty
    nextResourceId := maxBy resources (·.id.value) + 1
    nextQueueId := maxBy queues (·.definition.id.value) + 1
    nextClassId := maxBy (resources.flatMap (·.classes)) (·.id.value) + 1
    nextPoolId := maxBy (resources.flatMap (·.pools)) (·.id.value) + 1
    nextBackendId := maxBy (resources.flatMap (·.backends)) (·.backend.value) + 1
    fenceTokens := maxBy queues (·.fence.token) }

/-- Backend liveness is never restored. -/
def killBackends (record : ResourceRecord) : ResourceRecord :=
  { record with backends := record.backends.map fun backend => { backend with alive := false } }

def noteDeadBackends (recovery : RecoveryReport) (resources : List ResourceRecord) :
    RecoveryReport :=
  (resources.flatMap (·.backends)).foldl (fun recovery backend =>
    if backend.alive then
      recovery.note "backend incarnation not restored; re-registration required"
    else recovery) recovery

/-- Every restored queue requires revalidation of its evidence. -/
def revalidateQueue (queue : QueueRecord) : QueueRecord :=
  { queue with
    occupancy := if queue.occupancy.present then
      invalidateOccupancy queue.occupancy .staleRestart else queue.occupancy
    applicability := queue.applicability.union .stale
    stalenessEvents := queue.stalenessEvents + 1 }

/-- An unfinished attempt marks the queue it names. -/
def markUnfinished (queue : QueueRecord) : QueueRecord :=
  { queue with
    applicability := queue.applicability.union .stale
    occupancy := invalidateOccupancy queue.occupancy .staleRestart
    stalenessEvents := queue.stalenessEvents + 1 }

def noteUnfinished (fabric : Fabric J) (request : MutationRequest) : Fabric J :=
  let orphaned := { fabric.recovery with orphanedBegins := fabric.recovery.orphanedBegins + 1 }
  let queues := match fabric.findQueue request.queue with
    | some queue => fabric.queues.insert request.queue (markUnfinished queue)
    | none => fabric.queues
  { fabric with
    queues
    recovery := orphaned.note "unfinished attempt requires revalidation" }

variable [IJournal J]

def applyReplayLocked (fabric : Fabric J) (request : MutationRequest) : Reply J MutationOutcome :=
  let reply := { fabric with replaying := true }.applyLocked request
  { reply with fabric := { reply.fabric with replaying := false } }

/-- One commit of the replay loop. -/
def replayOne (fabric : Fabric J) (request : MutationRequest) : Fabric J :=
  let reply := fabric.applyReplayLocked request
  let recovery := reply.fabric.recovery
  match reply.result with
  | .error status =>
      { reply.fabric with
        recovery :=
          { recovery with mutationsRejected := recovery.mutationsRejected + 1 }.note
            ("replayed mutation rejected: " ++ status.message) }
  | .ok _ =>
      { reply.fabric with
        recovery := { recovery with mutationsReplayed := recovery.mutationsReplayed + 1 } }

def replayAll (fabric : Fabric J) (requests : List MutationRequest) : Fabric J :=
  requests.foldl replayOne fabric

def appendEpochStateLocked (fabric : Fabric J) (journal : J) : Status × Fabric J :=
  let encoded := encodeEpochState ⟨fabric.boot, fabric.epoch, fabric.coordinatorIncarnation⟩
  if encoded.isEmpty then (⟨.internal, "epoch state could not be encoded"⟩, fabric)
  else
    let appended := IJournal.append journal .epochState encoded
    if !appended.1.isOk then (appended.1, { fabric with journal := some appended.2 })
    else
      let synced := IJournal.sync appended.2
      let fabric := { fabric with journal := some synced.2 }
      if !synced.1.isOk then
        (⟨.notDurable, "epoch state did not reach stable storage"⟩, fabric)
      else (.success, { fabric with stats := countJournal fabric.stats 1 })

/-- The fabric before the journal is opened. -/
def beginRecovery (fabric : Fabric J) : Fabric J :=
  let minted := BootId.generate fabric.rng
  { fabric with
    boot := minted.1
    rng := minted.2
    recovery := { currentBoot := minted.1 }
    epoch := ⟨1⟩
    coordinatorIncarnation := ⟨1⟩ }

/-- The records an opened journal returns, scanned over the fabric's own tables. -/
def scanJournal (fabric : Fabric J) (journal : J) : Scan :=
  let recovery := { IJournal.recovery journal with currentBoot := fabric.boot }
  Scan.addRecords { recovery
                    resources := fabric.resources
                    queues := fabric.queues
                    previousEpoch := recovery.previousEpoch } (IJournal.records journal)

/-- The fabric with the scanned state installed under the new epoch. -/
def installScan (fabric : Fabric J) (scan : Scan) (epoch : Epoch) : Fabric J :=
  let recovery := noteDeadBackends scan.recovery scan.resources.values
  let incarnation := match scan.epochState with
    | some state => state.coordinatorIncarnation.value + 1
    | none => 1
  { fabric with
    resources := scan.resources.mapValues fun _ record => withEpoch epoch (killBackends record)
    queues := scan.queues
    epoch
    coordinatorIncarnation := ⟨incarnation⟩
    recovery := { recovery with
      previousEpoch := scan.previousEpoch
      currentEpoch := epoch } }.rebuildIndexesLocked

/-- Marks every restored queue and every unfinished attempt, then rebuilds the indexes. -/
def revalidateAll (fabric : Fabric J) (outstanding : List MutationRequest) : Fabric J :=
  let recovery := { fabric.recovery with
    queuesRevalidated := fabric.recovery.queuesRevalidated + fabric.queues.size }
  let marked := { fabric with
    queues := fabric.queues.mapValues fun _ queue => revalidateQueue queue
    recovery }
  let rebuilt := (outstanding.foldl noteUnfinished marked).rebuildIndexesLocked
  { rebuilt with recovery := { rebuilt.recovery with queuesRestored := rebuilt.queues.size } }

/-- A recovery that fails once the journal is open leaves the fabric unhealthy. -/
def failRecovery (fabric : Fabric J) (status : Status) : Reply J Unit :=
  ⟨.error status, [], { fabric with
    healthy := false
    recovery := { fabric.recovery with status } }⟩

/-- A torn tail is dropped; a failure to drop it is only noted. -/
def dropTornTail (fabric : Fabric J) (journal : J) : Fabric J × J :=
  if fabric.recovery.recordsTruncated > 0 then
    let truncated := IJournal.truncateToValidPrefix journal
    let recovery := if !truncated.1.isOk then
      fabric.recovery.note
        "torn tail could not be truncated; appends continue after the valid prefix"
      else fabric.recovery
    ({ fabric with journal := some truncated.2, recovery }, truncated.2)
  else (fabric, journal)

/-- The fabric is healthy and announces its recovery. -/
def concludeRecovery (fabric : Fabric J) : Reply J Unit :=
  { fabric with
    healthy := true
    recovery := { fabric.recovery with status := .success } }.atNow fun now fabric =>
      ⟨.ok (), [{ kind := .recovery, time := now, epoch := fabric.epoch,
                  detail := text "durable state restored and epoch advanced" }], fabric⟩

/-- The epoch record is the last write of a recovery. -/
def sealRecovery (fabric : Fabric J) (journal : J) : Reply J Unit :=
  let recorded := fabric.appendEpochStateLocked journal
  if !recorded.1.isOk then recorded.2.failRecovery recorded.1 else recorded.2.concludeRecovery

/-- Header, torn tail and epoch record: the writes that end a recovery. -/
def finishRecovery (fabric : Fabric J) (journal : J) : Reply J Unit :=
  let header := IJournal.writeHeader journal fabric.boot fabric.epoch
  let fabric := { fabric with journal := some header.2 }
  if !header.1.isOk then fabric.failRecovery header.1
  else
    let dropped := fabric.dropTornTail header.2
    dropped.1.sealRecovery dropped.2

/-- The fabric holding what the journal was scanned to. -/
def adoptScan (fabric : Fabric J) (journal : J) (scan : Scan) : Fabric J :=
  { fabric with
    journal := some journal
    resources := scan.resources
    queues := scan.queues
    recovery := scan.recovery }

/-- Epoch exhaustion stops the recovery with the backends already dead. -/
def exhaustEpoch (fabric : Fabric J) (status : Status) : Reply J Unit :=
  { fabric with
    resources := fabric.resources.mapValues fun _ record => killBackends record
    recovery := noteDeadBackends fabric.recovery fabric.resources.values }.failRecovery status

/-- Install, replay and mark: everything between the scan and the final writes. -/
def replayScan (fabric : Fabric J) (scan : Scan) (epoch : Epoch) : Fabric J :=
  ((fabric.installScan scan epoch).replayAll scan.replayOrder).revalidateAll
    scan.outstanding.values

def closeRecovery (fabric : Fabric J) : Reply J Unit :=
  match fabric.journal with
  | some journal => fabric.finishRecovery journal
  | none => ⟨.ok (), [], fabric⟩

/-- Recovery over an opened journal. -/
def recoverOpened (fabric : Fabric J) (journal : J) : Reply J Unit :=
  let scan := fabric.scanJournal journal
  let adopted := fabric.adoptScan journal scan
  match scan.mintEpoch with
  | .error status => adopted.exhaustEpoch status
  | .ok epoch => (adopted.replayScan scan epoch).closeRecovery

def recoverLocked (fabric : Fabric J) : Reply J Unit :=
  let fabric := fabric.beginRecovery
  match fabric.journal with
  | none =>
      ⟨.ok (), [], { fabric with
        healthy := true
        recovery := fabric.recovery.note
          "no journal configured: fabric starts empty and is not durable" }⟩
  | some journal =>
      let opened := IJournal.openJournal journal
      if !opened.1.isOk then
        let report := IJournal.recovery opened.2
        let recovery := { report with currentBoot := fabric.boot, status := opened.1 }
        ⟨.error opened.1, [], { fabric with
          journal := some opened.2
          healthy := false
          recovery := recovery.note
            "durable state could not be loaded; fabric refuses to serve" }⟩
      else fabric.recoverOpened opened.2

def recover (fabric : Fabric J) : Reply J Unit := fabric.recoverLocked.emit

end Fabric

end QueueFabric
