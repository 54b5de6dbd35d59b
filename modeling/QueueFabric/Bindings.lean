import QueueFabric.QueueSteps
import QueueFabric.RecoveryCases

/-!
Class bindings of queues that enter service. Validation and activation check
that the binding names the current generation of its class; a cancelled drain
takes a queue back into service as it is.
-/

namespace QueueFabric

open QueueRecord

namespace Fabric

variable {J : Type}

/-- The queue is bound to the current generation of a class of its resource. -/
def ExactlyBound (fabric : Fabric J) (definition : QueueDefinition) : Prop :=
  ∃ resource cls, fabric.findResource definition.resource = some resource ∧
    resource.findClass definition.cls.id = some cls ∧
    cls.generation = definition.cls.generation

instance (fabric : Fabric J) (definition : QueueDefinition) :
    Decidable (fabric.ExactlyBound definition) :=
  decidable_of_iff ((fabric.findResource definition.resource).any (fun resource =>
      (resource.findClass definition.cls.id).any fun cls =>
        cls.generation = definition.cls.generation) = true) (by
    simp only [ExactlyBound, Option.any_eq_true, decide_eq_true_eq]
    constructor
    · rintro ⟨resource, found, cls, listed, current⟩
      exact ⟨resource, cls, found, listed, current⟩
    · rintro ⟨resource, cls, found, listed, current⟩
      exact ⟨resource, found, cls, listed, current⟩)

theorem ExactlyBound.iff_of_resources {before after : Fabric J} {definition : QueueDefinition}
    (same : after.resources = before.resources) :
    after.ExactlyBound definition ↔ before.ExactlyBound definition := by
  simp only [ExactlyBound, findResource, same]

theorem checkClassBinding_ok {fabric : Fabric J} {target : QueueRecord}
    (ok : checkClassBinding fabric target target.definition.cls = .ok ()) :
    fabric.ExactlyBound target.definition := by
  simp only [checkClassBinding] at ok
  split at ok
  · cases ok
  rename_i resource found
  split at ok
  · cases ok
  rename_i cls listed
  split at ok
  · cases ok
  rename_i current
  exact ⟨resource, cls, found, listed, not_not.mp current⟩

def InService (lifecycle : Lifecycle) : Prop := lifecycle = .validated ∨ lifecycle = .active

/-- An accepted kind takes a queue into service with its definition as it was: after a check of its
binding, or by cancelling a drain. -/
theorem applyKindLocked_entering {fabric : Fabric J} {target : QueueRecord}
    {request : MutationRequest} {now : Nanos} {applied : KindApplied}
    (ok : applyKindLocked fabric target request now = .ok applied)
    (changed : applied.target.lifecycle ≠ target.lifecycle)
    (enters : InService applied.target.lifecycle) :
    applied.target.definition = target.definition ∧
      (request.kind = .cancelDrain ∨
        request.kind ≠ .cancelDrain ∧ fabric.ExactlyBound target.definition) := by
  have ended := applyKindLocked_cases ok
  cases ended with
  | unchanged rule repeats => exact absurd rfl changed
  | moved goal rule events kind moves allowed =>
      refine ⟨rfl, .inr ?_⟩
      rcases kind with ⟨kind, rfl⟩ | ⟨kind, rfl⟩
      · refine ⟨by rw [kind]; decide, ?_⟩
        simp only [applyKindLocked, kind, applyValidate, if_neg moves] at ok
        obtain ⟨_, _, ok⟩ := bind_ok ok
        obtain ⟨_, bound, _⟩ := bind_ok ok
        exact checkClassBinding_ok bound
      · refine ⟨by rw [kind]; decide, ?_⟩
        simp only [applyKindLocked, kind, applyActivate, if_neg moves] at ok
        obtain ⟨_, _, ok⟩ := bind_ok ok
        obtain ⟨_, bound, _⟩ := bind_ok ok
        exact checkClassBinding_ok bound
  | drainCancelled rule events kind draining => exact ⟨rfl, .inl kind⟩
  | drainRequested rule events kind moves allowed => rcases enters with enters | enters <;> cases enters
  | quiesced rule events kind draining complete acknowledged =>
      rcases enters with enters | enters <;> cases enters
  | failed reason rule events kind moves allowed =>
      rcases enters with enters | enters <;> cases enters
  | retired rule events kind moves allowed => rcases enters with enters | enters <;> cases enters
  | _ => exact absurd rfl changed

variable [IJournal J]

/-- A queue that an application takes into service is exactly bound, unless a drain was cancelled
on a queue that was not. -/
theorem ApplyCase.entering {fabric : Fabric J} {request : MutationRequest} {now : Nanos}
    {reply : Reply J MutationOutcome} (ended : ApplyCase fabric request now reply) {id : QueueId}
    {before after : QueueRecord} (found : fabric.findQueue id = some before)
    (kept : reply.fabric.findQueue id = some after) (changed : after.lifecycle ≠ before.lifecycle)
    (enters : InService after.lifecycle) :
    reply.fabric.ExactlyBound after.definition ↔
      (request.kind = .cancelDrain → fabric.ExactlyBound before.definition) := by
  have moves := ended.moves id
  rw [found, kept] at moves
  cases moves with
  | unmoved unmoved idle remembers => exact absurd unmoved.lifecycle changed
  | mutated named kind executed mutated =>
      have resources : reply.fabric.resources = fabric.resources := by
        cases ended with
        | stopped stopping => rfl
        | unbound refusal => rfl
        | declare payload _ valid declares carried ended => exact absurd declares kind
        | existing queue _ valid _ found ended => exact ended.resources
      rw [ExactlyBound.iff_of_resources resources]
      cases mutated with
      | intro middle last tracker applied durable touch config admitted =>
          have same := unmoved_publishQueue last before request applied durable
          rw [same.lifecycle] at changed enters
          obtain ⟨definition, reason⟩ := applyKindLocked_entering admitted.kind changed enters
          rw [same.definition, definition]
          rcases reason with cancels | ⟨other, bound⟩
          · exact ⟨fun bound _ => bound, fun bound => bound cancels⟩
          · have here := (ExactlyBound.iff_of_resources touch.resources).mp bound
            exact ⟨fun bound _ => bound, fun _ => here⟩

theorem commitBackendApply_lifecycle {fabric : Fabric J} {plan : BackendPlan}
    {applied : BackendApplied} {provenance : Provenance} {id : QueueId}
    {before after : QueueRecord} (found : fabric.findQueue id = some before)
    (kept : (fabric.serve (.commitBackendApply plan applied provenance)).fabric.findQueue id =
      some after) : after.lifecycle = before.lifecycle := by
  have moved := @serve_queueStep _ _ fabric (.commitBackendApply plan applied provenance) (by simp)
    id
  rw [found, kept] at moved
  cases moved with
  | tended still tended quiet remembers => exact still.lifecycle
  | unbound unbinds => cases unbinds
  | mutated start request now presented named executed touch mutated read =>
      obtain ⟨middle, moved, _, ended, same⟩ := mutated.kindCase
      rw [same.lifecycle]
      cases presented with
      | committed _ _ _ made =>
          have kind : request.kind = .acknowledgeBackend := by rw [made]; rfl
          cases ended with
          | acknowledged applied rule events kind' generation => rfl
          | unchanged rule repeats => rfl
          | redefined cls thresholds owner generation rule events minted kind' => rfl
          | _ => simp_all

end Fabric

namespace System

/-- A step executes a request for the first time: in a call, or while a recovery replays it. The
fabrics are those right before and right after. -/
inductive Executing (system : System) (request : MutationRequest) :
    Step → Fabric StableStore → Fabric StableStore → Prop
  | served (script : List Bool) (outcome : MutationOutcome)
      (answered : (system.step (.call (.apply request) script)).result = .ok (.outcome outcome))
      (fresh : outcome.replayed = false) :
      Executing system request (.call (.apply request) script) system.fabric
        (system.step (.call (.apply request) script)).fabric
  | committed (plan : BackendPlan) (applied : BackendApplied) (provenance : Provenance)
      (script : List Bool) (outcome : MutationOutcome)
      (made : request = system.fabric.planRequest plan applied provenance)
      (answered : (system.step (.call (.commitBackendApply plan applied provenance)
        script)).result = .ok (.outcome outcome))
      (fresh : outcome.replayed = false) :
      Executing system request (.call (.commitBackendApply plan applied provenance) script)
        system.fabric
        (system.step (.call (.commitBackendApply plan applied provenance) script)).fabric
  | replayed (input : Step) (fabric base : Fabric StableStore) (early late : List MutationRequest)
      (outcome : MutationOutcome) (started : system.recovering input = some fabric)
      (order : fabric.replayStart = some (base, early ++ request :: late))
      (answered : ((base.replayAll early).applyReplayLocked request).result = .ok outcome)
      (fresh : outcome.replayed = false) :
      Executing system request input (base.replayAll early)
        ((base.replayAll early).applyReplayLocked request).fabric

/-- In every run, a queue that an executed request takes into service is exactly bound if and only
if the request is no cancelled drain or the queue was exactly bound before it. -/
theorem entering_service_bound_iff (config : FabricConfig) (journal : Option StableStore)
    (clock : Clock) (seed : UInt64) (script : List Bool) (steps : List Step) (input : Step)
    (request : MutationRequest) (first last : Fabric StableStore) (id : QueueId)
    (before after : QueueRecord)
    (executing : Executing ((boot config journal clock seed script).run steps) request input first
      last)
    (found : first.findQueue id = some before) (kept : last.findQueue id = some after)
    (changed : after.lifecycle ≠ before.lifecycle) (enters : Fabric.InService after.lifecycle) :
    last.ExactlyBound after.definition ↔
      (request.kind = .cancelDrain → first.ExactlyBound before.definition) := by
  generalize (boot config journal clock seed script).run steps = system at executing
  cases executing with
  | served script outcome answered fresh =>
      have ended := Fabric.applyAt_cases (withScript system.fabric script).monotonicNow.2 request
        (withScript system.fabric script).monotonicNow.1
      exact ended.entering found kept changed enters
  | committed plan applied provenance script outcome made answered fresh =>
      have same := @Fabric.commitBackendApply_lifecycle _ _ (withScript system.fabric script) plan
        applied provenance id before after found kept
      exact absurd same changed
  | replayed input fabric base early late outcome started order answered fresh =>
      have ended := Fabric.applyAt_cases
        { base.replayAll early with replaying := true }.monotonicNow.2 request
        { base.replayAll early with replaying := true }.monotonicNow.1
      exact ended.entering found kept changed enters

/-! The sample queue enters service, drains, and loses its class generation. -/

def validation : Step := .call (.apply (sampleRequest 2 .validateQueue .monostate)) []

theorem executing_of_executes {system : System} {request : MutationRequest} {script : List Bool}
    (executes : Fabric.Executes (system.step (.call (.apply request) script)).result) :
    Executing system request (.call (.apply request) script) system.fabric
      (system.step (.call (.apply request) script)).fabric := by
  obtain ⟨outcome, answered, fresh⟩ := executes
  exact .served script outcome answered fresh

theorem entering_service_bound_once :
    ∃ queue, (sampleSystem.step validation).fabric.findQueue ⟨1⟩ = some queue ∧
      queue.lifecycle = .validated ∧
      (sampleSystem.step validation).fabric.ExactlyBound queue.definition := by
  obtain ⟨before, found, declared⟩ := @first_queue sampleSystem.fabric
    (fun queue => queue.lifecycle = .declared) _ (by decide +kernel)
  obtain ⟨after, kept, validated⟩ := @first_queue (sampleSystem.step validation).fabric
    (fun queue => queue.lifecycle = .validated) _ (by decide +kernel)
  have executing : Executing sampleSystem (sampleRequest 2 .validateQueue .monostate) validation
      sampleSystem.fabric (sampleSystem.step validation).fabric :=
    executing_of_executes (by decide +kernel)
  have bound := entering_service_bound_iff {} (some {}) ⟨fun _ => 1000, 0⟩ 7 [] sampleSteps
    validation (sampleRequest 2 .validateQueue .monostate) sampleSystem.fabric
    (sampleSystem.step validation).fabric ⟨1⟩ before after executing found kept
    (by rw [validated, declared]; decide) (.inl validated)
  exact ⟨after, kept, validated, bound.mpr fun cancels => by cases cancels⟩

def supersededSteps : List Step := sampleSteps ++ [validation,
  .call (.apply (sampleRequest 3 .activateQueue .monostate)) [],
  .call (.apply (sampleRequest 4 .requestDrain .monostate)) [],
  .call (.declareClass ⟨1⟩ (text "c") 1 {} ⟨5⟩ ⟨1⟩ (sampleProvenance 1)) []]

def cancellation : Step := .call (.apply (sampleRequest 5 .cancelDrain .monostate)) []

/-- The cancelled drain makes a queue active whose class generation is superseded. -/
theorem cancelled_drain_unbound :
    Executing (sampleStart.run supersededSteps) (sampleRequest 5 .cancelDrain .monostate)
      cancellation (sampleStart.run supersededSteps).fabric
      ((sampleStart.run supersededSteps).step cancellation).fabric ∧
    ∃ before after, (sampleStart.run supersededSteps).fabric.findQueue ⟨1⟩ = some before ∧
      ((sampleStart.run supersededSteps).step cancellation).fabric.findQueue ⟨1⟩ = some after ∧
      before.lifecycle = .draining ∧ after.lifecycle = .active ∧
      ¬ ((sampleStart.run supersededSteps).step cancellation).fabric.ExactlyBound
        after.definition := by
  obtain ⟨before, found, draining⟩ := @first_queue (sampleStart.run supersededSteps).fabric
    (fun queue => queue.lifecycle = .draining) _ (by decide +kernel)
  obtain ⟨after, kept, active, unbound⟩ := @first_queue
    ((sampleStart.run supersededSteps).step cancellation).fabric
    (fun queue => queue.lifecycle = .active ∧
      ¬ ((sampleStart.run supersededSteps).step cancellation).fabric.ExactlyBound queue.definition)
    (fun _ => inferInstance) (by decide +kernel)
  exact ⟨executing_of_executes (by decide +kernel), before, after, found, kept, draining, active,
    unbound⟩

end System

end QueueFabric
