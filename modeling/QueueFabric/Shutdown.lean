import QueueFabric.Lib.Runs
import QueueFabric.Reservations

/-!
After a shutdown. Every call but two asks for the flag before it does anything;
evidence can still be invalidated and a reservation can still be aborted.
-/

namespace QueueFabric

namespace Fabric

variable {J : Type}

/-- What a shutdown is to preserve. -/
structure Frozen (before after : Fabric J) : Prop where
  queues : after.queues = before.queues
  resources : after.resources = before.resources
  epoch : after.epoch = before.epoch
  plans : after.plans = before.plans
  journal : after.journal = before.journal

theorem Frozen.refl (fabric : Fabric J) : Frozen fabric fabric := ⟨rfl, rfl, rfl, rfl, rfl⟩

theorem Frozen.trans {first second third : Fabric J} (one : Frozen first second)
    (two : Frozen second third) : Frozen first third :=
  ⟨two.queues.trans one.queues, two.resources.trans one.resources, two.epoch.trans one.epoch,
    two.plans.trans one.plans, two.journal.trans one.journal⟩

/-- A call that is carried out after a shutdown: an authorized invalidation of evidence, or the
abort of an attempt that is reserved. -/
inductive Slips (fabric : Fabric J) : Call → Prop
  | invalidates (id : QueueId) (principal : OwnerId) (epoch : Epoch) (reason : Text)
      (queue : QueueRecord) (resource : ResourceRecord) (found : fabric.findQueue id = some queue)
      (home : fabric.findResource queue.definition.resource = some resource)
      (allowed : authorize resource.authority principal .admin epoch queue.applicability
        queue.lifecycle = none) :
      Slips fabric (.invalidateEvidence id principal epoch reason)
  | aborts (plan : BackendPlan) (reason : Text)
      (held : fabric.plans.contains plan.attempt = true) :
      Slips fabric (.abortBackendApply plan reason)

theorem invalidateEvidence_refused {fabric : Fabric J} {id : QueueId} {principal : OwnerId}
    {epoch : Epoch} {reason : Text}
    (held : ¬ Slips fabric (.invalidateEvidence id principal epoch reason)) :
    (fabric.invalidateEvidence id principal epoch reason).fabric = fabric := by
  rw [invalidateEvidence]
  split
  · rfl
  rename_i queue found
  split
  · rfl
  rename_i resource home
  split
  · rfl
  rename_i allowed
  exact absurd (.invalidates id principal epoch reason queue resource found home allowed) held

variable [IJournal J]

theorem abortBackendApply_refused {fabric : Fabric J} {plan : BackendPlan} {reason : Text}
    (held : ¬ Slips fabric (.abortBackendApply plan reason)) :
    (fabric.abortBackendApply plan reason).fabric = fabric := by
  have free : fabric.plans.contains plan.attempt = false := by
    by_contra taken
    rw [Bool.not_eq_false] at taken
    exact held (.aborts plan reason taken)
  rw [abortBackendApply, free]
  rfl

theorem apply_stopped {fabric : Fabric J} (stopping : fabric.shuttingDown = true)
    (request : MutationRequest) : Frozen fabric (fabric.apply request).fabric := by
  have stopped : fabric.monotonicNow.2.applyAt request fabric.monotonicNow.1 =
      ⟨.error ⟨.shuttingDown, "fabric is shutting down"⟩, [], fabric.monotonicNow.2⟩ :=
    if_pos stopping
  rw [apply, applyLocked, stopped]
  exact ⟨rfl, rfl, rfl, rfl, rfl⟩

theorem compact_stopped {fabric : Fabric J} (stopping : fabric.shuttingDown = true) :
    fabric.compact.fabric = fabric := by
  rw [compact]
  split
  · rfl
  · rw [if_pos stopping]
    rfl

theorem serve_stopped {fabric : Fabric J} (stopping : fabric.shuttingDown = true) {call : Call}
    (living : call ≠ .recover) (held : ¬ Slips fabric call) :
    Frozen fabric (fabric.serve call).fabric := by
  have still : ∀ {after : Fabric J}, after = fabric → Frozen fabric after :=
    fun same => same ▸ .refl fabric
  cases call with
  | recover => exact absurd rfl living
  | shutdown => exact still (by rw [serve, shutdown, if_pos stopping]; rfl)
  | declareResource name owner provenance =>
      exact still (by rw [serve, declareResource, if_pos stopping]; rfl)
  | grantCapabilities resource grantee capabilities principal epoch provenance =>
      exact still (by rw [serve, grantCapabilities, if_pos stopping]; rfl)
  | declareClass resource name priority qos principal epoch provenance =>
      exact still (by rw [serve, declareClass, if_pos stopping]; rfl)
  | declarePool resource name capacityBytes principal epoch provenance =>
      exact still (by rw [serve, declarePool, if_pos stopping]; rfl)
  | registerBackend resource incarnation principal epoch provenance =>
      exact still (by rw [serve, registerBackend, if_pos stopping]; rfl)
  | markBackendDead backend incarnation principal epoch =>
      exact still (by rw [serve, markBackendDead, if_pos stopping]; rfl)
  | advanceEpoch principal provenance =>
      exact still (by simp only [serve, advanceEpoch, if_pos stopping]; rfl)
  | invalidateEvidence queue principal epoch reason => exact still (invalidateEvidence_refused held)
  | apply request => exact apply_stopped stopping request
  | planBackendApply queue expected principal provenance =>
      exact still (by rw [serve, planBackendApply, if_pos stopping]; rfl)
  | commitBackendApply plan applied provenance =>
      exact still (by rw [serve, commitBackendApply, if_pos stopping]; rfl)
  | abortBackendApply plan reason => exact still (abortBackendApply_refused held)
  | explain queue principal =>
      have read : Frozen fabric (fabric.explain queue principal).fabric := by
        rw [explain]
        split
        · exact .refl fabric
        · exact ⟨rfl, rfl, rfl, rfl, rfl⟩
      exact read
  | refreshFreshness => exact still (by rw [serve, refreshFreshness, if_pos stopping]; rfl)
  | compact => exact still (compact_stopped stopping)

theorem shutdown_stops (fabric : Fabric J) : (fabric.serve .shutdown).fabric.shuttingDown = true := by
  rw [serve, shutdown]
  split
  · rename_i stopping
    exact stopping
  · rfl

theorem serve_stays_stopped {fabric : Fabric J} (stopping : fabric.shuttingDown = true)
    (call : Call) : (fabric.serve call).fabric.shuttingDown = true := by
  have change := serve_change fabric call
  have flag : (fabric.serve call).fabric.reservations.shuttingDown = true := by
    generalize (fabric.serve call).fabric.reservations = after at change
    generalize (fabric.serve call).result = result at change
    cases change with
    | left => exact stopping
    | stopped => rfl
    | reserved id expected principal provenance plan room free => exact stopping
    | released attempt answer releases => exact stopping
  exact flag

/-- Once a shutdown has returned, later calls other than a recovery leave the queues, the resources,
the epoch, the plans and the journal as they were, as long as none of them slips through. -/
theorem shutdown_final (fabric : Fabric J) {later : List Call}
    (held : Runs.Along (fun fabric call => (fabric.serve call).fabric)
      (fun fabric call => call ≠ .recover ∧ ¬ Slips fabric call) (fabric.serve .shutdown).fabric
      later) :
    Frozen (fabric.serve .shutdown).fabric ((fabric.serve .shutdown).fabric.serveAll later) := by
  have stopping := shutdown_stops fabric
  generalize (fabric.serve .shutdown).fabric = stopped at held stopping
  induction later generalizing stopped with
  | nil => exact .refl stopped
  | cons call rest ih =>
      obtain ⟨⟨living, quiet⟩, along⟩ := held
      exact (serve_stopped stopping living quiet).trans
        (ih _ along (serve_stays_stopped stopping call))

theorem shutdown_final_sample :
    Frozen (reservingFabric.serve .shutdown).fabric
      ((reservingFabric.serve .shutdown).fabric.serveAll
        [.compact, .refreshFreshness, .apply System.sampleDeclaration]) := by
  refine shutdown_final reservingFabric ⟨⟨by simp, ?_⟩, ⟨by simp, ?_⟩, ⟨by simp, ?_⟩, trivial⟩
  all_goals
    intro slips
    cases slips

/-- Evidence is invalidated and a reservation aborted after the shutdown returned. -/
theorem shutdown_not_final :
    ¬ Frozen (reservingFabric.serve .shutdown).fabric
        ((reservingFabric.serve .shutdown).fabric.serveAll
          [.invalidateEvidence ⟨1⟩ ⟨5⟩ ⟨1⟩ (text "late")]) ∧
      ¬ Frozen (reservingFabric.serve .shutdown).fabric
        ((reservingFabric.serve .shutdown).fabric.serveAll
          [.abortBackendApply samplePlan (text "late")]) := by
  constructor
  · intro frozen
    have moved : (reservingFabric.serve .shutdown).fabric.queues.get? ⟨1⟩ ≠
        ((reservingFabric.serve .shutdown).fabric.serveAll
          [.invalidateEvidence ⟨1⟩ ⟨5⟩ ⟨1⟩ (text "late")]).queues.get? ⟨1⟩ := by
      decide +kernel
    exact moved (by rw [frozen.queues])
  · intro frozen
    have dropped : (reservingFabric.serve .shutdown).fabric.plans.size ≠
        ((reservingFabric.serve .shutdown).fabric.serveAll
          [.abortBackendApply samplePlan (text "late")]).plans.size := by
      decide +kernel
    exact dropped (by rw [frozen.plans])

end Fabric

end QueueFabric
