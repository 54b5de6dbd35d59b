import QueueFabric.Fencing
import QueueFabric.Lifecycles
import QueueFabric.Observations

/-!
The order of the samples one publisher life has accepted. The handler compares a
sample with the observation the queue holds, whoever published that; samples of
one life follow each other in order as long as nothing came between them.
-/

namespace QueueFabric

open Fabric

/-- The samples are of one publisher, incarnation and boot. -/
def OccupancySample.SameLife (old new : OccupancySample) : Prop :=
  old.provenance.publisher = new.provenance.publisher ∧
    old.provenance.incarnation = new.provenance.incarnation ∧
    old.provenance.boot = new.provenance.boot

instance (old new : OccupancySample) : Decidable (old.SameLife new) :=
  inferInstanceAs (Decidable (_ ∧ _ ∧ _))

/-- The queue takes no more samples, or it holds one of the life of `old` that is not behind it. -/
def QueueRecord.HeldSince (old : OccupancySample) (queue : QueueRecord) : Prop :=
  queue.lifecycle = .retired ∨
    queue.occupancy.present = true ∧
      queue.occupancy.provenance.publisher = old.provenance.publisher ∧
      queue.occupancy.provenance.incarnation = old.provenance.incarnation ∧
      queue.occupancy.provenance.boot = old.provenance.boot ∧
      old.sequence.value ≤ queue.occupancy.sequence.value

namespace QueueRecord

theorem HeldSince.of_reading {old : OccupancySample} {before after : QueueRecord}
    (held : before.HeldSince old) (lifecycle : after.lifecycle = before.lifecycle)
    (same : after.occupancy.reading = before.occupancy.reading) : after.HeldSince old := by
  simp only [OccupancyState.reading, OccupancyState.mk.injEq] at same
  obtain ⟨present, _, _, _, sequence, _, provenance, _⟩ := same
  simpa only [HeldSince, lifecycle, present, sequence, provenance] using held

theorem HeldSince.same_life {old new : OccupancySample} {queue : QueueRecord}
    (held : queue.HeldSince old) (unretired : queue.lifecycle ≠ .retired) (life : old.SameLife new) :
    samePublisherLife queue.occupancy new = true ∧
      old.sequence.value ≤ queue.occupancy.sequence.value := by
  rcases held with retired | ⟨present, publisher, incarnation, boot, behind⟩
  · exact absurd retired unretired
  · refine ⟨?_, behind⟩
    simp [samePublisherLife, present, publisher, incarnation, boot, life.1, life.2.1, life.2.2]

theorem heldSince_observed {old new : OccupancySample} {queue : QueueRecord} {now : Nanos}
    (stored : queue.occupancy = observed now new) (life : old.SameLife new)
    (behind : old.sequence.value ≤ new.sequence.value) : queue.HeldSince old := by
  right
  rw [stored]
  exact ⟨rfl, life.1.symm, life.2.1.symm, life.2.2.symm, behind⟩

end QueueRecord

open QueueRecord

namespace Fabric

variable {J : Type}

/-- A kind that is no observation leaves the last one in place, or ends the queue. -/
theorem KindCase.heldSince {fabric : Fabric J} {target : QueueRecord} {request : MutationRequest}
    {now : Nanos} {applied : KindApplied} (ended : KindCase fabric target request now applied)
    (silent : request.kind ≠ .ingestOccupancy) {old : OccupancySample}
    (held : target.HeldSince old) : applied.target.HeldSince old := by
  by_cases closed : target.lifecycle = .retired
  · left
    have move := ended.lifecycleMove
    rw [closed] at move
    cases move with
    | kept same => exact same
    | moved edge kind quiesces => exact absurd edge (not_edge_retired _)
  · have kept := held.resolve_left closed
    cases ended with
    | redefined cls thresholds owner generation rule events minted kind changed bound ladder =>
        exact held.of_reading rfl (OccupancyState.reading_invalidate _ _)
    | ingested sample overflows rule events stats kind payload generation epoch =>
        exact absurd kind silent
    | retired rule events kind moves allowed => exact .inl rfl
    -- the other kinds do not touch the occupancy
    | _ => exact .inr kept

variable [IJournal J]

/-- The call has no sample accepted for the queue stored under `id`. -/
def Unsampled (call : Call) (result : Except Status Answer) (id : QueueId) : Prop :=
  ∀ request sample, call = .apply request → request.queue = id → Executes result →
    request.kind = .ingestOccupancy → request.payload ≠ .occupancy sample

omit [IJournal J] in
theorem Unsampled.kind {fabric middle : Fabric J} {call : Call} {result : Except Status Answer}
    {id : QueueId} {request : MutationRequest} {target : QueueRecord} {now : Nanos}
    {applied : KindApplied} (unsampled : Unsampled call result id)
    (presented : Presenting fabric request call) (named : request.queue = id)
    (executed : Executes result) (ended : KindCase middle target request now applied) :
    request.kind ≠ .ingestOccupancy := by
  intro kind
  cases presented with
  | applied =>
      cases ended with
      | ingested sample overflows rule events stats ingests payload generation epoch =>
          exact unsampled request sample rfl named executed kind payload
      | _ => simp_all [Repeats]
  | committed plan applied provenance same =>
      rw [same] at kind
      cases kind

omit [IJournal J] in
theorem QueueStep.heldSince {fabric : Fabric J} {call : Call} {result : Except Status Answer}
    {id : QueueId} {before after : QueueRecord}
    (moved : QueueStep fabric call result id (some before) (some after))
    (unsampled : Unsampled call result id) {old : OccupancySample}
    (held : before.HeldSince old) : after.HeldSince old := by
  cases moved with
  | tended still tended quiet => exact held.of_reading still.lifecycle still.reading
  | unbound unbinds => exact held.of_reading rfl (still_supersedeBinding before).reading
  | mutated start request now presented named executed touch mutated =>
      obtain ⟨middle, applied, _, ended, unmoved⟩ := mutated.kindCase
      have silent := unsampled.kind presented named executed ended
      exact (ended.heldSince silent held).of_reading unmoved.lifecycle
        (congrArg _ unmoved.occupancy)

end Fabric

namespace System

/-- The step has a sample accepted for the queue stored under `id`. -/
inductive Accepts (id : QueueId) (sample : OccupancySample) (system : System) : Step → Prop
  | intro (request : MutationRequest) (script : List Bool) (named : request.queue = id)
      (kind : request.kind = .ingestOccupancy) (carried : request.payload = .occupancy sample)
      (executes : Fabric.Executes (system.step (.call (.apply request) script)).result) :
      Accepts id sample system (.call (.apply request) script)

theorem unsampled_of_unaccepted {id : QueueId} {system : System} {call : Call}
    {script : List Bool} (none : ∀ sample, ¬ Accepts id sample system (.call call script)) :
    Unsampled call (system.step (.call call script)).result id := by
  rintro request sample rfl named executes kind carried
  exact none sample (.intro request script named kind carried executes)

/-- No recovery, and no sample accepted from another publisher life than that of `old`. -/
structure Uninterrupted (id : QueueId) (old : OccupancySample) (system : System) (input : Step) :
    Prop where
  living : system.recovering input = none
  alone : ∀ sample, Accepts id sample system input → old.SameLife sample

/-- What acceptance says of the queue before the sample and after it. -/
structure Replaces (id : QueueId) (sample : OccupancySample) (before after : QueueRecord) :
    Prop where
  unretired : before.lifecycle ≠ .retired
  ascends : samePublisherLife before.occupancy sample = true →
    before.occupancy.sequence.value < sample.sequence.value
  stored : ∃ now, after.occupancy = observed now sample

theorem executed_of_executes {fabric : Fabric StableStore} {request : MutationRequest}
    (executes : Executes (fabric.serve (.apply request)).result) :
    Executed (fabric.apply request).result := by
  obtain ⟨outcome, answered, first⟩ := executes
  simp only [Fabric.serve, Reply.answered] at answered
  cases replied : (fabric.apply request).result with
  | error status =>
      rw [replied] at answered
      cases answered
  | ok value =>
      rw [replied] at answered
      cases answered
      exact ⟨outcome, rfl, first⟩

theorem Accepts.replaces {id : QueueId} {sample : OccupancySample} {system : System} {input : Step}
    (accepts : Accepts id sample system input) :
    ∃ before after, system.fabric.findQueue id = some before ∧
      (system.step input).fabric.findQueue id = some after ∧ Replaces id sample before after := by
  cases accepts with
  | intro request script named kind carried executes =>
      obtain ⟨outcome, ok, first⟩ := executed_of_executes executes
      obtain ⟨before, after, takes⟩ := apply_takes kind carried ok first
      subst named
      refine ⟨before, after, takes.found, takes.stored, ?_, takes.ingests.ascends, _,
        takes.ingests.occupancy⟩
      intro closed
      have moves := apply_moves (withScript system.fabric script) request request.queue
      rw [takes.found, takes.stored] at moves
      cases moves with
      | unmoved unmoved idle remembers =>
          have declares := idle ⟨outcome, ok, first⟩ rfl
          rw [kind] at declares
          cases declares
      | mutated named other executed mutated =>
          have retires := mutated.retires (.inl closed)
          rw [kind] at retires
          cases retires

theorem Uninterrupted.heldSince {id : QueueId} {old : OccupancySample} {system : System}
    {input : Step} (uninterrupted : Uninterrupted id old system input) {queue : QueueRecord}
    (found : system.fabric.findQueue id = some queue) (held : queue.HeldSince old) :
    ∃ next, (system.step input).fabric.findQueue id = some next ∧ next.HeldSince old := by
  by_cases accepted : ∃ sample, Accepts id sample system input
  · obtain ⟨sample, accepts⟩ := accepted
    obtain ⟨before, after, here, stored, replaces⟩ := accepts.replaces
    rw [found, Option.some.injEq] at here
    subst here
    have life := uninterrupted.alone sample accepts
    obtain ⟨same, behind⟩ := held.same_life replaces.unretired life
    obtain ⟨now, occupancy⟩ := replaces.stored
    exact ⟨after, stored, heldSince_observed occupancy life
      (UInt64.le_trans behind (UInt64.le_of_lt (replaces.ascends same)))⟩
  · cases input with
    | restart survivors clock seed script => cases uninterrupted.living
    | call call script =>
        have living : call ≠ .recover := by
          rintro rfl
          cases uninterrupted.living
        obtain ⟨next, kept, moved⟩ := serve_keeps (withScript system.fabric script) living found
        refine ⟨next, kept, moved.heldSince (unsampled_of_unaccepted fun sample accepts => ?_) held⟩
        exact accepted ⟨sample, accepts⟩

/-- While nothing comes in between, a sample is followed by no earlier one of its life. -/
theorem heldSince_of_since {id : QueueId} {old : OccupancySample} {start : System}
    {done : List Step}
    (since : Runs.Since step (Accepts id old) (Uninterrupted id old) start done) :
    ∃ queue, (start.run done).fabric.findQueue id = some queue ∧ queue.HeldSince old := by
  obtain ⟨before, input, after, rfl, accepts, quiet⟩ := since
  obtain ⟨_, queue, _, stored, replaces⟩ := accepts.replaces
  obtain ⟨now, occupancy⟩ := replaces.stored
  have held : queue.HeldSince old :=
    heldSince_observed occupancy ⟨rfl, rfl, rfl⟩ UInt64.le_rfl
  have kept := @Runs.invariant _ _ _ _
    (fun system : System => ∃ queue, system.fabric.findQueue id = some queue ∧ queue.HeldSince old)
    ?_ _ ⟨queue, stored, held⟩ _ quiet
  · rw [run, List.foldl_append, List.foldl_cons]
    exact kept
  · rintro system input ⟨queue, found, held⟩ uninterrupted
    exact uninterrupted.heldSince found held

/-- The samples accepted from each publisher life are in order: each is ahead of every earlier
one. -/
def Ascending (id : QueueId) (start : System) : List Step → Prop :=
  Runs.Throughout fun done input => ∀ old new, Runs.Happened step (Accepts id old) start done →
    Accepts id new (start.run done) input → old.SameLife new →
    old.sequence.value < new.sequence.value

/-- As `Ascending`, for samples with a recovery or a sample of another life between them. -/
def AscendingAcross (id : QueueId) (start : System) : List Step → Prop :=
  Runs.Throughout fun done input => ∀ old new, Runs.Happened step (Accepts id old) start done →
    ¬ Runs.Since step (Accepts id old) (Uninterrupted id old) start done →
    Accepts id new (start.run done) input → old.SameLife new →
    old.sequence.value < new.sequence.value

def publishedSample (publisher attempt sequence : UInt64) : OccupancySample :=
  { sampleReading 5 1000 with
    sequence := ⟨sequence⟩
    provenance := { sampleProvenance attempt with publisher := ⟨publisher⟩ } }

def publishing (publisher attempt sequence : UInt64) : MutationRequest :=
  { sampleRequest attempt .ingestOccupancy
      (.occupancy (publishedSample publisher attempt sequence)) with
    attempt := ⟨⟨publisher⟩, attempt⟩
    provenance := { sampleProvenance attempt with publisher := ⟨publisher⟩ } }

def interleaving : List Step := [
  .call (.apply (publishing 9 2 5)) [],
  .call (.apply (publishing 8 1 1)) [],
  .call (.apply (publishing 9 3 3)) []]

end System

end QueueFabric
