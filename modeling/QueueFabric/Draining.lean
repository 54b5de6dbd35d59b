import QueueFabric.Lifecycles
import QueueFabric.QueueRuns

/-!
Drain phases and lifecycles. A drain is in progress exactly while its queue is
draining and complete exactly while it is quiesced, in every run that does not
activate or fail a queue over its drain, observe traffic on a quiesced queue, or
restore a quiesced queue from a snapshot.
-/

namespace QueueFabric

open QueueRecord

/-- What a drain must show before its queue is quiesced. -/
structure Proven (drain : DrainState) (occupancy : OccupancyState)
    (live : Option BackendIncarnation) (epoch : Epoch) : Prop where
  revalidated : drain.evidence.revalidated = true
  recorded : drain.evidence.records ≠ 0
  accepted : drain.evidence.backend.requestAccepted = true
  drained : drain.evidence.backend.reportedDrained = true
  epoch : drain.evidence.backend.epoch = epoch
  backend : ∃ backend, live = some backend ∧ backend.alive = true ∧
    drain.evidence.backend.backend = backend.backend ∧
    drain.evidence.backend.backendIncarnation = backend.incarnation
  present : occupancy.present = true
  fresh : occupancy.freshness = .fresh
  bytes : occupancy.bytes = 0
  packets : occupancy.packets = 0
  after : ¬ occupancy.observedAt < drain.requestedAt

/-- The one shortcut of the assessment is a phase that is already complete. -/
theorem proven_of_completable {drain : DrainState} {occupancy : OccupancyState}
    {live : Option BackendIncarnation} {epoch : Epoch} {policy : OccupancyPolicy} {now : Nanos}
    (complete : (assessDrain drain occupancy live epoch policy now).completable = true)
    (unproven : drain.phase ≠ .completed) : Proven drain occupancy live epoch := by
  revert complete
  fun_cases assessDrain drain occupancy live epoch policy now
  all_goals intro complete
  all_goals cases complete
  · exact absurd ‹drain.phase = .completed› unproven
  · rename_i backend _ _ revalidated recorded accepted drained current entry alive same zero present
      fresh empty early stale
    simp only [Bool.not_eq_true', Bool.not_eq_false] at revalidated accepted drained alive present
    rw [not_or, not_not, not_not] at same empty
    rw [not_not] at fresh current
    exact ⟨revalidated, recorded, accepted, drained, current, ⟨entry, rfl, alive, same.1, same.2⟩,
      present, fresh, empty.1, empty.2, early⟩

/-- The drain of a queue and its lifecycle tell the same story. -/
structure QueueRecord.DrainAgrees (queue : QueueRecord) : Prop where
  progress : queue.drain.inProgress = true ↔ queue.lifecycle = .draining
  completed : queue.drain.phase = .completed ↔ queue.lifecycle = .quiesced
  empty : queue.lifecycle = .quiesced → queue.occupancy.bytes = 0 ∧ queue.occupancy.packets = 0

namespace QueueRecord

/-- The request does not leave a drain behind: it activates or fails no draining or quiesced queue,
and reports no traffic on a quiesced one. -/
structure LeavesDrain (queue : QueueRecord) (request : MutationRequest) : Prop where
  activates : request.kind = .activateQueue ∨ request.kind = .failQueue →
    queue.lifecycle ≠ .draining ∧ queue.lifecycle ≠ .quiesced
  observes : request.kind = .ingestOccupancy → queue.lifecycle = .quiesced → ∀ sample,
    request.payload = .occupancy sample → sample.bytes = 0 ∧ sample.packets = 0

/-- Phase, lifecycle and observed values are all the agreement is about. -/
theorem DrainAgrees.of_eq {before after : QueueRecord} (agrees : before.DrainAgrees)
    (phase : after.drain.phase = before.drain.phase)
    (lifecycle : after.lifecycle = before.lifecycle)
    (bytes : after.occupancy.bytes = before.occupancy.bytes)
    (packets : after.occupancy.packets = before.occupancy.packets) : after.DrainAgrees where
  progress := by
    rw [DrainState.inProgress, phase, lifecycle]
    exact agrees.progress
  completed := by
    rw [phase, lifecycle]
    exact agrees.completed
  empty := by
    rw [lifecycle, bytes, packets]
    exact agrees.empty

theorem drainAgrees_of_idle {queue : QueueRecord} (progress : queue.drain.inProgress = false)
    (phase : queue.drain.phase ≠ .completed) (draining : queue.lifecycle ≠ .draining)
    (quiesced : queue.lifecycle ≠ .quiesced) : queue.DrainAgrees where
  progress := iff_of_false (by simp [progress]) draining
  completed := iff_of_false phase quiesced
  empty rests := absurd rests quiesced

/-- Away from draining and quiescence no drain is in progress or complete. -/
theorem DrainAgrees.idle {queue : QueueRecord} (agrees : queue.DrainAgrees)
    (draining : queue.lifecycle ≠ .draining) (quiesced : queue.lifecycle ≠ .quiesced) :
    queue.drain.inProgress = false ∧ queue.drain.phase ≠ .completed := by
  refine ⟨?_, fun phase => quiesced (agrees.completed.mp phase)⟩
  by_contra progress
  exact draining (agrees.progress.mp (by simpa using progress))

theorem not_completed_of_inProgress {drain : DrainState} (progress : drain.inProgress = true) :
    drain.phase ≠ .completed := by
  intro phase
  simp [DrainState.inProgress, phase] at progress

end QueueRecord

namespace Fabric

variable {J : Type}

theorem noteZero_phase (drain : DrainState) (sample : OccupancySample) :
    (noteZero drain sample).phase = drain.phase := by
  rw [noteZero]
  split
  · rfl
  split
  · rfl
  split <;> rfl

theorem KindCase.drainAgrees {fabric : Fabric J} {target : QueueRecord}
    {request : MutationRequest} {now : Nanos} {applied : KindApplied}
    (ended : KindCase fabric target request now applied) (agrees : target.DrainAgrees)
    (leaves : target.LeavesDrain request) : applied.target.DrainAgrees := by
  cases ended with
  | unchanged rule repeats => exact agrees
  | moved goal rule events kind moves allowed =>
      have away : target.lifecycle ≠ .draining ∧ target.lifecycle ≠ .quiesced := by
        rcases kind with ⟨_, rfl⟩ | ⟨kind, _⟩
        · obtain ⟨_, listed⟩ := edge_of_allowed moves allowed
          constructor <;> intro here <;> simp [here, transitionRules] at listed
        · exact leaves.activates (.inl kind)
      obtain ⟨progress, phase⟩ := agrees.idle away.1 away.2
      refine drainAgrees_of_idle progress phase ?_ ?_
      all_goals rcases kind with ⟨_, rfl⟩ | ⟨_, rfl⟩ <;> simp
  | redefined cls thresholds owner generation rule events minted kind changed bound ladder =>
      obtain ⟨_, bytes, packets, _⟩ := OccupancyState.values_of_reading
        (OccupancyState.reading_invalidate target.occupancy .staleGeneration)
      exact agrees.of_eq rfl rfl bytes packets
  | ingested sample overflows rule events stats kind payload generation epoch =>
      refine ⟨?_, ?_, fun rests => leaves.observes kind rests sample payload⟩
      · simp only [ingestTarget, DrainState.inProgress, noteZero_phase]
        exact agrees.progress
      · simp only [ingestTarget, noteZero_phase]
        exact agrees.completed
  | drainRequested rule events kind moves allowed =>
      exact ⟨by simp [DrainState.inProgress], by simp, fun rests => by cases rests⟩
  | drainCancelled rule events kind draining =>
      exact drainAgrees_of_idle rfl (by simp) (by simp) (by simp)
  | evidenceRecorded evidence rule events kind payload progress some few backed =>
      have draining := agrees.progress.mp progress
      refine ⟨iff_of_true rfl draining, iff_of_false ?_ ?_, fun rests => ?_⟩
      · simp [recordEvidence]
      · simp [recordEvidence, draining]
      · simp [recordEvidence, draining] at rests
  | quiesced rule events kind draining complete acknowledged =>
      have unproven := not_completed_of_inProgress (agrees.progress.mpr draining)
      have proven := proven_of_completable complete unproven
      exact ⟨by simp [DrainState.inProgress], by simp, fun _ => ⟨proven.bytes, proven.packets⟩⟩
  | fenced fence rule events kind raised => exact agrees.of_eq rfl rfl rfl rfl
  | unfenced rule events kind => exact agrees.of_eq rfl rfl rfl rfl
  | failed reason rule events kind moves allowed =>
      obtain ⟨draining, quiesced⟩ := leaves.activates (.inr kind)
      obtain ⟨progress, phase⟩ := agrees.idle draining quiesced
      exact drainAgrees_of_idle progress phase (by simp) (by simp)
  | retired rule events kind moves allowed =>
      exact drainAgrees_of_idle rfl (by simp) (by simp) (by simp)
  | acknowledged acknowledged rule events kind generation => exact agrees.of_eq rfl rfl rfl rfl

theorem restoreQueue_drain (queue : QueueRecord) :
    (Scan.restoreQueue queue).drain =
      if queue.drain.inProgress || queue.drain.phase = .completed then
        Scan.restoreDrain queue.drain else queue.drain := by
  rw [Scan.restoreQueue]
  split <;> split <;> split <;> simp_all

theorem restoreQueue_reading (queue : QueueRecord) :
    (Scan.restoreQueue queue).occupancy.reading = queue.occupancy.reading := by
  rw [Scan.restoreQueue]
  split <;> split <;> split <;> simp [OccupancyState.reading_invalidate]

end Fabric

namespace System

theorem drainAgrees_invariant :
    Invariant QueueRecord.LeavesDrain (fun queue => queue.lifecycle ≠ .quiesced)
      QueueRecord.DrainAgrees where
  still still agrees := by
    obtain ⟨_, bytes, packets, _⟩ := OccupancyState.values_of_reading still.reading
    exact agrees.of_eq (by rw [still.drain]) still.lifecycle bytes packets
  mutated mutated leaves agrees := by
    obtain ⟨middle, applied, _, ended, unmoved⟩ := mutated.kindCase
    exact (ended.drainAgrees agrees leaves).of_eq (by rw [unmoved.drain]) unmoved.lifecycle
      (by rw [unmoved.occupancy]) (by rw [unmoved.occupancy])
  declared declared := by
    obtain ⟨lifecycle, _, _, _, drain, _⟩ := declared.blank
    refine drainAgrees_of_idle ?_ ?_ ?_ ?_
    · rw [drain]
      rfl
    · simp [drain]
    · simp [lifecycle]
    · simp [lifecycle]
  restored {queue result} read active agrees := by
    have same := Fabric.same_restoreQueue result
    obtain ⟨_, bytes, packets, _⟩ := OccupancyState.values_of_reading
      (Fabric.restoreQueue_reading result)
    have unproven : result.drain.phase ≠ .completed := by
      intro phase
      rw [read.phase] at phase
      exact active (read.lifecycle.trans (agrees.completed.mp phase))
    have phase : (Scan.restoreQueue result).drain.phase = result.drain.phase := by
      rw [Fabric.restoreQueue_drain]
      split
      · simp [Scan.restoreDrain, unproven]
      · rfl
    refine agrees.of_eq (phase.trans read.phase) (same.lifecycle.trans read.lifecycle) ?_ ?_
    · rw [bytes, read.occupancy]
    · rw [packets, read.occupancy]

/-- Drain and lifecycle agree in every state of every run that leaves no drain behind and restores
no quiesced queue. -/
theorem drain_agrees_with_lifecycle (config : FabricConfig) (journaled : Bool) (clock : Clock)
    (seed : UInt64) (script : List Bool) (steps : List Step)
    (respects : Runs.Along step
      (Respects QueueRecord.LeavesDrain fun queue => queue.lifecycle ≠ .quiesced)
      (boot config (if journaled then some {} else none) clock seed script) steps)
    (id : QueueId) (queue : QueueRecord)
    (found : ((boot config (if journaled then some {} else none) clock seed script).run
      steps).fabric.findQueue id = some queue) :
    (queue.drain.inProgress = true ↔ queue.lifecycle = .draining) ∧
      (queue.drain.phase = .completed ↔ queue.lifecycle = .quiesced) ∧
      (queue.lifecycle = .quiesced →
        queue.occupancy.bytes = 0 ∧ queue.occupancy.packets = 0) := by
  have agrees := (drainAgrees_invariant.run config journaled clock seed script respects).queues id
    queue found
  exact ⟨agrees.progress, agrees.completed, agrees.empty⟩

def drainingSteps : List Step := [
  .call (.apply (sampleRequest 2 .validateQueue .monostate)) [],
  .call (.apply (sampleRequest 3 .activateQueue .monostate)) [],
  .call (.apply (sampleRequest 4 .requestDrain .monostate)) []]

theorem leavesDrain_of_kind {queue : QueueRecord} {request : MutationRequest}
    (activate : request.kind ≠ .activateQueue) (fail : request.kind ≠ .failQueue)
    (ingest : request.kind ≠ .ingestOccupancy) : queue.LeavesDrain request :=
  ⟨fun kind => (kind.elim activate fail).elim, fun kind => absurd kind ingest⟩

theorem respects_apply {system : System} {request : MutationRequest} {script : List Bool}
    (leaves : ∀ queue, system.fabric.findQueue request.queue = some queue →
      queue.LeavesDrain request) :
    Respects QueueRecord.LeavesDrain (fun queue => queue.lifecycle ≠ .quiesced) system
      (.call (.apply request) script) := by
  refine respects_call (by simp) fun presented queue shown found => ?_
  cases shown with
  | applied => exact leaves queue found

theorem drainingSteps_respect : Runs.Along step
    (Respects QueueRecord.LeavesDrain fun queue => queue.lifecycle ≠ .quiesced) sampleStart
    (sampleSteps ++ drainingSteps) := by
  have idle : ∀ system call script, call ≠ .recover →
      (∀ fabric request, ¬ Fabric.Presenting (J := StableStore) fabric request call) →
      Respects QueueRecord.LeavesDrain (fun queue => queue.lifecycle ≠ .quiesced) system
        (.call call script) := fun system call script living silent =>
    respects_call living fun request queue shown _ => absurd shown (silent _ request)
  refine (Runs.along_append _ _ _).mpr ⟨⟨?_, ?_, ?_, ?_, trivial⟩, ?_, ?_, ?_, trivial⟩
  · exact idle _ _ _ (by simp) fun _ _ shown => by cases shown
  · exact idle _ _ _ (by simp) fun _ _ shown => by cases shown
  · exact idle _ _ _ (by simp) fun _ _ shown => by cases shown
  · exact respects_apply fun queue _ => leavesDrain_of_kind (by simp [sampleDeclaration, sampleRequest])
      (by simp [sampleDeclaration, sampleRequest]) (by simp [sampleDeclaration, sampleRequest])
  · exact respects_apply fun queue _ => leavesDrain_of_kind (by simp [sampleRequest])
      (by simp [sampleRequest]) (by simp [sampleRequest])
  · refine respects_apply fun queue found => ⟨fun _ => ?_, fun kind => by cases kind⟩
    have validated : (sampleStart.run (sampleSteps ++ drainingSteps.take 1)).fabric.lifecycleOf ⟨1⟩ =
        some .validated := by decide +kernel
    have here : queue.lifecycle = .validated := by
      have stored : (sampleStart.run (sampleSteps ++ drainingSteps.take 1)).fabric.findQueue ⟨1⟩ =
        some queue := found
      rw [Fabric.lifecycleOf, stored] at validated
      exact Option.some.inj validated
    simp [here]
  · exact respects_apply fun queue _ => leavesDrain_of_kind (by simp [sampleRequest])
      (by simp [sampleRequest]) (by simp [sampleRequest])

/-- The sample queue is activated and asked to drain. -/
theorem drain_agrees_with_lifecycle_once :
    ∃ queue, (sampleStart.run (sampleSteps ++ drainingSteps)).fabric.findQueue ⟨1⟩ = some queue ∧
      queue.lifecycle = .draining ∧ queue.drain.inProgress = true := by
  have draining : (sampleStart.run (sampleSteps ++ drainingSteps)).fabric.lifecycleOf ⟨1⟩ =
      some .draining := by decide +kernel
  obtain ⟨queue, found, lifecycle⟩ := Option.map_eq_some_iff.mp draining
  exact ⟨queue, found, lifecycle, (drain_agrees_with_lifecycle {} true ⟨fun _ => 1000, 0⟩ 7 []
    (sampleSteps ++ drainingSteps) drainingSteps_respect ⟨1⟩ queue found).1.mpr lifecycle⟩

def abandonedSteps : List Step :=
  sampleSteps ++ drainingSteps ++ [.call (.apply (sampleRequest 5 .activateQueue .monostate)) []]

/-- Activating a draining queue leaves its drain in progress. -/
theorem activation_abandons_drain :
    ∃ queue, (sampleStart.run abandonedSteps).fabric.findQueue ⟨1⟩ = some queue ∧
      ¬ (queue.drain.inProgress = true ↔ queue.lifecycle = .draining) := by
  have left : ((sampleStart.run abandonedSteps).fabric.findQueue ⟨1⟩).map
      (fun queue => (queue.drain.inProgress, queue.lifecycle)) = some (true, .active) := by
    decide +kernel
  obtain ⟨queue, found, state⟩ := Option.map_eq_some_iff.mp left
  rw [Prod.mk.injEq] at state
  refine ⟨queue, found, fun agrees => ?_⟩
  have draining := agrees.mp state.1
  rw [state.2] at draining
  cases draining

end System

end QueueFabric
