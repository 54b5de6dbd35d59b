import QueueFabric.QueueRuns

/-!
Fence isolation. The fence of a queue and its fenced flag agree in every state of
every run, and a fenced queue stands still until it is unfenced.
-/

namespace QueueFabric

open QueueRecord

namespace Applicability

theorem fenced_clearFlag_stale (value : Applicability) :
    (value.clearFlag .stale).hasFlag .fenced = value.hasFlag .fenced := by
  have each : ∀ bits : Fin 256, (clearFlag ⟨.ofFin bits⟩ .stale).hasFlag .fenced =
      hasFlag ⟨.ofFin bits⟩ .fenced := by decide +kernel
  exact each value.bits.toFin

theorem fenced_union_fenced (value : Applicability) :
    (value.union .fenced).hasFlag .fenced = true := by
  have each : ∀ bits : Fin 256, (union ⟨.ofFin bits⟩ .fenced).hasFlag .fenced = true := by
    decide +kernel
  exact each value.bits.toFin

theorem fenced_clearFlag_fenced (value : Applicability) :
    (value.clearFlag .fenced).hasFlag .fenced = false := by
  have each : ∀ bits : Fin 256, (clearFlag ⟨.ofFin bits⟩ .fenced).hasFlag .fenced = false := by
    decide +kernel
  exact each value.bits.toFin

end Applicability

namespace Fabric

variable {J : Type}

/-! What the authority stage lets through. -/

theorem authorize_fenced {authority : AuthorityVector} {principal : OwnerId}
    {required : Capability} {presented : Epoch} {applicability : Applicability}
    {lifecycle : Lifecycle}
    (allowed : authorize authority principal required presented applicability lifecycle = none)
    (fenced : applicability.hasFlag .fenced = true) :
    required = .unfenceQueue ∨ required = .admin := by
  rw [authorize] at allowed
  split at allowed
  · cases allowed
  split at allowed
  · cases allowed
  split at allowed
  · cases allowed
  · rename_i free
    simp only [fenced, Bool.true_and, Bool.and_eq_true, decide_eq_true_eq, ne_eq, not_and,
      not_not] at free
    exact or_iff_not_imp_left.mpr free

theorem authorize_ended {authority : AuthorityVector} {principal : OwnerId}
    {required : Capability} {presented : Epoch} {applicability : Applicability}
    {lifecycle : Lifecycle}
    (allowed : authorize authority principal required presented applicability lifecycle = none)
    (ended : lifecycle = .retired ∨ lifecycle = .failed) :
    required = .retireQueue ∨ required = .admin := by
  rw [authorize] at allowed
  split at allowed
  · cases allowed
  split at allowed
  · cases allowed
  split at allowed
  · cases allowed
  split at allowed
  · cases allowed
  · rename_i passed
    have closed : (lifecycle = .retired || lifecycle = .failed : Bool) = true := by
      simpa using ended
    simp only [closed, Bool.true_and, Bool.and_eq_true, decide_eq_true_eq, ne_eq, not_and,
      not_not] at passed
    exact or_iff_not_imp_left.mpr passed

theorem requiredCapability_unfence {kind : MutationKind}
    (required : requiredCapability kind = .unfenceQueue ∨ requiredCapability kind = .admin) :
    kind = .unfenceQueue := by
  cases kind <;> simp [requiredCapability] at required ⊢

theorem requiredCapability_retire {kind : MutationKind}
    (required : requiredCapability kind = .retireQueue ∨ requiredCapability kind = .admin) :
    kind = .retireQueue := by
  cases kind <;> simp [requiredCapability] at required ⊢

theorem Mutated.unfences {fabric : Fabric J} {request : MutationRequest} {now : Nanos}
    {before after : QueueRecord} (mutated : Mutated fabric request now before after)
    (fenced : before.applicability.hasFlag .fenced = true) : request.kind = .unfenceQueue := by
  cases mutated with
  | intro middle after tracker applied durable touch config admitted =>
      obtain ⟨resource, _, allowed⟩ := admitted.authorized
      exact requiredCapability_unfence (authorize_fenced allowed fenced)

theorem Mutated.retires {fabric : Fabric J} {request : MutationRequest} {now : Nanos}
    {before after : QueueRecord} (mutated : Mutated fabric request now before after)
    (ended : before.lifecycle = .retired ∨ before.lifecycle = .failed) :
    request.kind = .retireQueue := by
  cases mutated with
  | intro middle after tracker applied durable touch config admitted =>
      obtain ⟨resource, _, allowed⟩ := admitted.authorized
      exact requiredCapability_retire (authorize_ended allowed ended)

end Fabric

/-- The fence and the fenced flag agree, and a fenced queue is neither failed nor retired. -/
structure QueueRecord.FenceAgrees (queue : QueueRecord) : Prop where
  flag : queue.fence.fenced = queue.applicability.hasFlag .fenced
  live : queue.fence.fenced = true → queue.lifecycle ≠ .failed ∧ queue.lifecycle ≠ .retired

namespace Fabric

variable {J : Type}

/-- A fence is raised on a live queue and lowered in both places; ends are reached unfenced. -/
theorem KindCase.fenceAgrees {fabric : Fabric J} {target : QueueRecord}
    {request : MutationRequest} {now : Nanos} {applied : KindApplied}
    (ended : KindCase fabric target request now applied) (agrees : target.FenceAgrees)
    (unfences : target.fence.fenced = true → request.kind = .unfenceQueue)
    (retires : target.lifecycle = .retired ∨ target.lifecycle = .failed →
      request.kind = .retireQueue) : applied.target.FenceAgrees := by
  -- a kind other than the release finds the queue unfenced
  have free : request.kind ≠ .unfenceQueue → target.fence.fenced ≠ true := fun other fenced =>
    other (unfences fenced)
  cases ended with
  | unchanged rule repeats => exact agrees
  | moved goal rule events kind moves allowed =>
      have unfenced := free (by rcases kind with ⟨kind, _⟩ | ⟨kind, _⟩ <;> simp [kind])
      exact ⟨agrees.flag, fun fenced => absurd fenced unfenced⟩
  | redefined cls thresholds owner generation rule events minted kind changed bound ladder =>
      refine ⟨?_, agrees.live⟩
      exact agrees.flag.trans (Applicability.fenced_union_stale _).symm
  | ingested sample overflows rule events stats kind payload generation epoch =>
      refine ⟨?_, agrees.live⟩
      exact agrees.flag.trans (Applicability.fenced_clearFlag_stale _).symm
  | drainRequested rule events kind moves allowed =>
      exact ⟨agrees.flag, fun fenced => absurd fenced (free (by simp [kind]))⟩
  | drainCancelled rule events kind draining =>
      exact ⟨agrees.flag, fun fenced => absurd fenced (free (by simp [kind]))⟩
  | evidenceRecorded evidence rule events kind payload progress some few backed =>
      exact ⟨agrees.flag, agrees.live⟩
  | quiesced rule events kind draining complete acknowledged =>
      exact ⟨agrees.flag, fun fenced => absurd fenced (free (by simp [kind]))⟩
  | fenced fence rule events kind raised =>
      refine ⟨raised.trans (Applicability.fenced_union_fenced _).symm, fun _ => ?_⟩
      have running : ¬ (target.lifecycle = .retired ∨ target.lifecycle = .failed) := by
        intro closed
        have retiring := retires closed
        rw [kind] at retiring
        cases retiring
      rw [not_or] at running
      exact ⟨running.2, running.1⟩
  | unfenced rule events kind =>
      refine ⟨(Applicability.fenced_clearFlag_fenced _).symm, fun fenced => ?_⟩
      cases fenced
  | failed reason rule events kind moves allowed =>
      exact ⟨agrees.flag, fun fenced => absurd fenced (free (by simp [kind]))⟩
  | retired rule events kind moves allowed =>
      have unfenced : target.fence.fenced = false := by
        simpa using free (by simp [kind])
      have blank : Applicability.none.hasFlag .fenced = false := by decide
      exact ⟨unfenced.trans blank.symm, fun fenced => by simp [unfenced] at fenced⟩
  | acknowledged acknowledged rule events kind generation =>
      refine ⟨?_, agrees.live⟩
      exact agrees.flag.trans (Applicability.fenced_clearFlag_stale _).symm

end Fabric

namespace System

theorem fenceAgrees_invariant :
    Invariant (fun _ _ => True) (fun _ => True) QueueRecord.FenceAgrees where
  still still agrees := ⟨by rw [still.fence, still.fenced, agrees.flag],
    by rw [still.fence, still.lifecycle]; exact agrees.live⟩
  mutated mutated _ agrees := by
    obtain ⟨middle, applied, _, ended, unmoved⟩ := mutated.kindCase
    have kept := ended.fenceAgrees agrees
      (fun fenced => mutated.unfences (agrees.flag.symm.trans fenced)) mutated.retires
    exact ⟨by rw [unmoved.fence, unmoved.applicability, kept.flag],
      by rw [unmoved.fence, unmoved.lifecycle]; exact kept.live⟩
  declared declared := by
    obtain ⟨_, applicability, _, fence, _⟩ := declared.blank
    refine ⟨?_, fun fenced => ?_⟩
    · rw [fence, applicability]
      decide
    · rw [fence] at fenced
      cases fenced
  restored {queue result} read _ agrees := by
    have same := Fabric.same_restoreQueue result
    refine ⟨?_, ?_⟩
    · rw [same.fence, same.fenced, read.fence, read.applicability, agrees.flag]
    · rw [same.fence, same.lifecycle, read.fence, read.lifecycle]
      exact agrees.live

/-- A call of the running life that does not lower the fence of the queue. -/
def KeepsFence (id : QueueId) (system : System) : Step → Prop
  | .call call script => call ≠ .recover ∧ ∀ request, call = .apply request →
      request.queue = id → request.kind = .unfenceQueue →
      ¬ Fabric.Executes (system.step (.call call script)).result
  | .restart .. => False

theorem still_of_fenced {id : QueueId} {system : System} {queue : QueueRecord} {input : Step}
    (found : system.fabric.findQueue id = some queue)
    (fenced : queue.applicability.hasFlag .fenced = true) (keeps : KeepsFence id system input) :
    ∃ next, (system.step input).fabric.findQueue id = some next ∧ Still queue next := by
  cases input with
  | restart survivors clock seed script => cases keeps
  | call call script =>
      obtain ⟨living, shut⟩ := keeps
      have here : (withScript system.fabric script).findQueue id = some queue := found
      obtain ⟨next, kept, moved⟩ := Fabric.serve_keeps _ living here
      refine ⟨next, kept, ?_⟩
      cases moved with
      | tended still tended quiet => exact still
      | unbound unbinds => exact Fabric.still_supersedeBinding queue
      | mutated start request now presented named executed touch mutated =>
          have kind := mutated.unfences fenced
          cases presented with
          | applied => exact absurd executed (shut request rfl named kind)
          | committed plan applied provenance same =>
              rw [same] at kind
              cases kind

theorem run_still_of_fenced {id : QueueId} {system : System} {queue : QueueRecord}
    {later : List Step} (found : system.fabric.findQueue id = some queue)
    (fenced : queue.applicability.hasFlag .fenced = true)
    (keeps : Runs.Along step (KeepsFence id) system later) :
    ∃ next, (system.run later).fabric.findQueue id = some next ∧ Still queue next := by
  induction later generalizing system queue with
  | nil => exact ⟨queue, found, (Unmoved.refl queue).still⟩
  | cons input rest ih =>
      obtain ⟨middle, kept, still⟩ := still_of_fenced found fenced keeps.1
      obtain ⟨next, final, later⟩ := ih kept (still.fenced.trans fenced) keeps.2
      exact ⟨next, final, still.trans later⟩

/-- In every state of every run the fence and the flag agree, a fenced queue is neither failed nor
retired, and from there it stands still until a call lowers its fence. -/
theorem fence_isolates (config : FabricConfig) (journaled : Bool) (clock : Clock) (seed : UInt64)
    (script : List Bool) (steps : List Step) (id : QueueId) (queue : QueueRecord)
    (found : ((boot config (if journaled then some {} else none) clock seed script).run
      steps).fabric.findQueue id = some queue) :
    queue.fence.fenced = queue.applicability.hasFlag .fenced ∧
    (queue.fence.fenced = true → queue.lifecycle ≠ .failed ∧ queue.lifecycle ≠ .retired) ∧
    (queue.fence.fenced = true → ∀ later, Runs.Along step (KeepsFence id)
        ((boot config (if journaled then some {} else none) clock seed script).run steps) later →
      ∃ next, (((boot config (if journaled then some {} else none) clock seed script).run
          steps).run later).fabric.findQueue id = some next ∧
        next.definition = queue.definition ∧ next.lifecycle = queue.lifecycle ∧
        next.fence = queue.fence ∧ next.drain = queue.drain ∧ next.applied = queue.applied ∧
        next.occupancy.bytes = queue.occupancy.bytes ∧
        next.occupancy.packets = queue.occupancy.packets ∧
        next.occupancy.sequence = queue.occupancy.sequence ∧
        next.occupancy.observedAt = queue.occupancy.observedAt) := by
  have agrees := (fenceAgrees_invariant.run config journaled clock seed script
    (Runs.along_of_all respects_all _ steps)).queues id queue found
  refine ⟨agrees.flag, agrees.live, fun fenced later keeps => ?_⟩
  obtain ⟨next, final, still⟩ :=
    run_still_of_fenced found (agrees.flag.symm.trans fenced) keeps
  obtain ⟨_, bytes, packets, observedAt, sequence, _⟩ :=
    OccupancyState.values_of_reading still.reading
  exact ⟨next, final, still.definition, still.lifecycle, still.fence, still.drain, still.applied,
    bytes, packets, sequence, observedAt⟩

def fencedSteps : List Step :=
  sampleSteps ++ [.call (.apply (sampleRequest 2 .fenceQueue (.fence ⟨true, text "held"⟩))) []]

/-- A fenced queue that refuses its validation. -/
theorem fence_isolates_once :
    ∃ queue next, (sampleStart.run fencedSteps).fabric.findQueue ⟨1⟩ = some queue ∧
      queue.fence.fenced = true ∧
      ((sampleStart.run fencedSteps).run
        [.call (.apply (sampleRequest 3 .validateQueue .monostate)) []]).fabric.findQueue ⟨1⟩ =
          some next ∧ next.lifecycle = queue.lifecycle := by
  have raised : ((sampleStart.run fencedSteps).fabric.findQueue ⟨1⟩).map (·.fence.fenced) =
      some true := by decide +kernel
  obtain ⟨queue, found, fenced⟩ := Option.map_eq_some_iff.mp raised
  have keeps : Runs.Along step (KeepsFence ⟨1⟩) (sampleStart.run fencedSteps)
      [.call (.apply (sampleRequest 3 .validateQueue .monostate)) []] := by
    refine ⟨⟨by simp, fun request same _ kind => ?_⟩, trivial⟩
    rw [← Call.apply.inj same] at kind
    cases kind
  obtain ⟨next, kept, _, lifecycle, _⟩ := (fence_isolates {} true ⟨fun _ => 1000, 0⟩ 7 []
    fencedSteps ⟨1⟩ queue found).2.2 fenced _ keeps
  exact ⟨queue, next, found, fenced, kept, lifecycle⟩

end System

end QueueFabric
